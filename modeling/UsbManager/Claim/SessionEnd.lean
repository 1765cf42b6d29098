import Mathlib.Data.List.Count
import UsbManager.Claim.Holding

/-!
# What a departed client leaves behind

`Close` and the death notifications drop the exclusive claims of a client. For the death
notifications this needs that every owned entry has its recipient installed with the IPC layer:
`Linked`. The normal flag is not dropped; it is kept until a release, and keeps later exclusive
claims out.
-/

namespace UsbManager.Claim

open Transition

namespace ClaimTable

/-- The installed recipient of the entry under `key`, as the entry remembers it. -/
def link (table : ClaimTable) (key : String) : Option DeathLink := (table.entry key).deathLink

/-- An owned entry has a recipient for its key and owner installed, any other has none. -/
def Linked (table : ClaimTable) : Prop :=
  ∀ key, (table.owner key = 0 ∧ table.link key = none) ∨
    ∃ cb r, table.link key = some (cb, r) ∧ r.key = key ∧ r.tokenId.1 = table.owner key ∧
      (cb, r) ∈ table.deathLinks

theorem link_eq (table : ClaimTable) (key : String) :
    table.link key = ((table.claimStateMap[key]?).getD {}).deathLink := by
  rw [link, entry_eq]

end ClaimTable

/-! ### The links after each critical section -/

section Links

open ClaimTable ClaimInterfaceState

variable {b d i : UInt8} {t : TokenId} {table : ClaimTable} {key : String}

theorem notifyExclusiveOwner_link : (notifyExclusiveOwner b d i t table).1.link key = table.link key := by
  rw [link_eq, notifyExclusiveOwner_getElem?]
  split
  · rfl
  · rw [link_eq]

theorem registerExclusiveCallback_link {cb : Callback} {isRepeat : Bool} :
    (registerExclusiveCallback b d i t (some cb) isRepeat true table).link key =
      if makeClaimKey b d i = key then some (cb, ⟨b, d, i, t⟩) else table.link key := by
  rw [link_eq, registerExclusiveCallback_getElem?]
  split
  · rfl
  · rw [link_eq]

theorem removeExclusiveClaimByDevice_link :
    (removeExclusiveClaimByDevice b d t table).link key =
      if comparePrefix key (claimPrefix b d) = true ∧ table.owner key = t then none else table.link key := by
  rw [link_eq, link_eq, owner_eq, removeExclusiveClaimByDevice_getElem?]
  cases table.claimStateMap[key]? with
  | none => simp [deathLink]
  | some state =>
    simp only [Option.bind_some, Option.getD_some, dropExclusive, clearExclusive]
    split_ifs <;> rfl

theorem removeAllClaimByDevice_link :
    (removeAllClaimByDevice b d table).link key =
      if comparePrefix key (claimPrefix b d) then none else table.link key := by
  rw [link_eq, link_eq, removeAllClaimByDevice_getElem?]
  split <;> rfl

theorem releaseClaimState_link :
    (releaseClaimState b d i t table).table.link key =
      if makeClaimKey b d i = key ∧ (table.owner key = t ∨ (table.owner key = 0 ∧ table.normal key = true)) then none
      else table.link key := by
  rw [link_eq, link_eq, owner_eq, normal_eq, releaseClaimState_getElem?]
  by_cases same : makeClaimKey b d i = key
  · cases table.claimStateMap[key]? with
    | none => simp [same, deathLink]
    | some state =>
      simp only [same, if_true, true_and, Option.bind_some, Option.getD_some, releasedEntry, dropExclusive,
        clearExclusive]
      split_ifs <;> simp_all [deathLink]
  · simp [same]

theorem onRemoteDied_link {r : ClaimDeathRecipient} {cb : Callback} :
    (r.onRemoteDied cb table).1.link key =
      if r.key = key ∧ table.owner key = r.tokenId then none else table.link key := by
  rw [link_eq, link_eq, owner_eq, onRemoteDied_getElem?]
  by_cases same : r.key = key
  · cases table.claimStateMap[key]? with
    | none => simp [same, deathLink]
    | some state =>
      simp only [same, if_true, true_and, Option.bind_some, Option.getD_some, dropExclusive, clearExclusive]
      split_ifs <;> rfl
  · simp [same]

theorem registerExclusiveCallback_deathLinks {cb : Callback} {isRepeat : Bool} :
    (registerExclusiveCallback b d i t (some cb) isRepeat true table).deathLinks =
      removeDeathRecipient ((cb, ⟨b, d, i, t⟩) :: table.deathLinks) (table.link (makeClaimKey b d i)) := rfl

theorem releaseClaimState_deathLinks :
    (releaseClaimState b d i t table).table.deathLinks =
      if table.owner (makeClaimKey b d i) = t then
        removeDeathRecipient table.deathLinks (table.link (makeClaimKey b d i))
      else table.deathLinks := by
  have nonzero := t.2
  rw [owner_eq, link_eq]
  cases found : table.claimStateMap[makeClaimKey b d i]? with
  | none => simp [releaseClaimState, found, nonzero.symm]
  | some state =>
    simp only [releaseClaimState, found, Option.getD_some]
    split_ifs <;> rfl

theorem onRemoteDied_deathLinks {r : ClaimDeathRecipient} {cb : Callback} :
    (r.onRemoteDied cb table).1.deathLinks = table.deathLinks.erase (cb, r) := by
  unfold ClaimDeathRecipient.onRemoteDied
  dsimp only
  split
  · rfl
  · split_ifs <;> rfl

/-- A sweep removes only links of entries it selects. -/
theorem sweep_deathLinks {selects : String → ClaimInterfaceState → Bool}
    {next : ClaimInterfaceState → Option ClaimInterfaceState} {link : DeathLink}
    (member : link ∈ table.deathLinks)
    (spared : ∀ key, table.link key = some link → selects key (table.entry key) = false) :
    link ∈ (sweep selects next table).deathLinks := by
  apply List.mem_diff_of_mem member
  intro removed
  obtain ⟨⟨key, state⟩, entry, removed⟩ := List.mem_filterMap.1 removed
  have found : table.claimStateMap[key]? = some state := Std.ExtTreeMap.mem_toList_iff_getElem?_eq_some.1 entry
  have current : table.entry key = state := by rw [entry_eq, found]; rfl
  split at removed
  · next selected =>
    have mine := spared key (by rw [ClaimTable.link, current, removed])
    rw [current, selected] at mine
    cases mine
  · cases removed

theorem mem_removeDeathRecipient {links : List DeathLink} {link : DeathLink} {old : Option DeathLink}
    (member : link ∈ links) (other : old ≠ some link) : link ∈ removeDeathRecipient links old := by
  cases old with
  | none => exact member
  | some old => exact (List.mem_erase_of_ne fun same => other (congrArg some same.symm)).2 member

end Links

/-! ### Every owned entry keeps its recipient installed -/

namespace ClaimTable.Linked

variable {b d i : UInt8} {t : TokenId} {table : ClaimTable}

theorem owned (linked : table.Linked) {key : String} (owner : table.owner key ≠ 0) :
    ∃ cb r, table.link key = some (cb, r) ∧ r.key = key ∧ r.tokenId.1 = table.owner key ∧
      (cb, r) ∈ table.deathLinks :=
  (linked key).resolve_left fun free => owner free.1

/-- A link names its key, so two entries never share one. -/
theorem key_eq (linked : table.Linked) {key : String} {link : DeathLink} (has : table.link key = some link) :
    link.2.key = key := by
  rcases linked key with ⟨-, none⟩ | ⟨cb, r, some, same, -⟩
  · rw [none] at has
    cases has
  · cases some.symm.trans has
    exact same

theorem notify (linked : table.Linked) : (notifyExclusiveOwner b d i t table).1.Linked := by
  intro key
  rw [notifyExclusiveOwner_owner, notifyExclusiveOwner_link]
  exact linked key

theorem register {cb : Callback} {isRepeat : Bool} (linked : table.Linked)
    (checked : checkExclusiveClaim b d i t table = .ok isRepeat) :
    (registerExclusiveCallback b d i t (some cb) isRepeat true table).Linked := by
  intro key
  rw [registerExclusiveCallback_owner, registerExclusiveCallback_link, registerExclusiveCallback_deathLinks]
  by_cases same : makeClaimKey b d i = key
  · refine .inr ⟨cb, ⟨b, d, i, t⟩, if_pos same, same, ?_, ?_⟩
    · cases isRepeat with
      | false => simp [same]
      | true => simpa [same] using (checkExclusiveClaim_repeat checked).symm
    · -- the old link goes; if it equals the new one, its other copy stays
      cases old : table.link (makeClaimKey b d i) with
      | none => exact List.mem_cons_self ..
      | some link =>
        by_cases again : link = (cb, ⟨b, d, i, t⟩)
        · rcases linked (makeClaimKey b d i) with ⟨-, none⟩ | ⟨cb', r, some, -, -, member⟩
          · rw [none] at old
            cases old
          · cases some.symm.trans old
            rw [again] at member ⊢
            simpa [removeDeathRecipient] using member
        · exact mem_removeDeathRecipient (List.mem_cons_self ..) fun e => again (Option.some.inj e)
  · rcases linked key with ⟨free, none⟩ | ⟨cb', r, some, mine, owner, member⟩
    · exact .inl ⟨by simpa [same] using free, by simpa [same] using none⟩
    · refine .inr ⟨cb', r, by simpa [same] using some, mine, by simpa [same] using owner, ?_⟩
      apply mem_removeDeathRecipient (List.mem_cons_of_mem _ member)
      intro shared
      exact same ((linked.key_eq shared).symm.trans mine)

theorem release (linked : table.Linked) : (releaseClaimState b d i t table).table.Linked := by
  intro key
  rw [releaseClaimState_owner, releaseClaimState_link, releaseClaimState_deathLinks]
  by_cases ends : makeClaimKey b d i = key ∧ table.owner key = t
  · rw [if_pos ends, if_pos ⟨ends.1, .inl ends.2⟩]
    exact .inl ⟨rfl, rfl⟩
  · rw [if_neg ends]
    rcases linked key with ⟨free, none⟩ | ⟨cb, r, some, mine, owner, member⟩
    · exact .inl ⟨free, by rw [none]; exact ite_self _⟩
    · have nonzero : table.owner key ≠ 0 := owner ▸ r.tokenId.2
      rw [if_neg fun dropped => dropped.2.elim (fun o => ends ⟨dropped.1, o⟩) (fun o => nonzero o.1)]
      refine .inr ⟨cb, r, some, mine, owner, ?_⟩
      split
      · next theirs =>
        apply mem_removeDeathRecipient member
        intro shared
        have same : makeClaimKey b d i = key := (linked.key_eq shared).symm.trans mine
        rw [same] at theirs
        exact ends ⟨same, theirs⟩
      · exact member

theorem died {cb : Callback} {r : ClaimDeathRecipient} (linked : table.Linked) :
    (r.onRemoteDied cb table).1.Linked := by
  intro key
  rw [onRemoteDied_link, onRemoteDied_owner, onRemoteDied_deathLinks]
  by_cases ends : r.key = key ∧ table.owner key = r.tokenId
  · rw [if_pos ends, if_pos ends]
    exact .inl ⟨rfl, rfl⟩
  · rw [if_neg ends, if_neg ends]
    refine (linked key).imp id ?_
    rintro ⟨cb', r', some, mine, owner, member⟩
    refine ⟨cb', r', some, mine, owner, (List.mem_erase_of_ne ?_).2 member⟩
    rintro ⟨rfl, rfl⟩
    exact ends ⟨mine, owner.symm⟩

/-- A sweep ends claims and spares the others. -/
theorem sweep {selects : String → ClaimInterfaceState → Bool} {next : ClaimInterfaceState → Option ClaimInterfaceState}
    {ends : String → Prop} [DecidablePred ends] (linked : table.Linked)
    (owner : ∀ key, (Claim.sweep selects next table).owner key = if ends key then 0 else table.owner key)
    (link : ∀ key, (Claim.sweep selects next table).link key = if ends key then none else table.link key)
    (spared : ∀ key, ¬ ends key → selects key (table.entry key) = false) :
    (Claim.sweep selects next table).Linked := by
  intro key
  rw [owner, link]
  by_cases ended : ends key
  · rw [if_pos ended, if_pos ended]
    exact .inl ⟨rfl, rfl⟩
  · rw [if_neg ended, if_neg ended]
    refine (linked key).imp id ?_
    rintro ⟨cb, r, some, mine, owner, member⟩
    refine ⟨cb, r, some, mine, owner, sweep_deathLinks member fun key' shared => ?_⟩
    cases (linked.key_eq shared).symm.trans mine
    exact spared _ ended

theorem removeExclusive (linked : table.Linked) : (removeExclusiveClaimByDevice b d t table).Linked := by
  refine linked.sweep (fun _ => removeExclusiveClaimByDevice_owner) (fun _ => removeExclusiveClaimByDevice_link) ?_
  intro key other
  exact Bool.eq_false_iff.2 fun selected => other (by simpa [ClaimTable.owner] using selected)

theorem removeAll (linked : table.Linked) : (removeAllClaimByDevice b d table).Linked := by
  refine linked.sweep (fun _ => removeAllClaimByDevice_owner) (fun _ => removeAllClaimByDevice_link) ?_
  intro key other
  exact Bool.eq_false_iff.2 other

theorem sections {op : Op} {after : ClaimTable} (linked : table.Linked) (sections : Sections table op after) :
    after.Linked := by
  cases sections with
  | skip => exact linked
  | notified => exact linked.notify
  | registered checked => exact linked.register checked
  | released => exact linked.release
  | closed => exact linked.removeExclusive
  | died => exact linked.died
  | removed => exact linked.removeAll
  | removedClosed => exact linked.removeAll.removeExclusive

end ClaimTable.Linked

theorem Holding.linked_of_reach {s : Holding} (reached : Reach Holding.step anyStep {} s) : s.table.Linked := by
  apply Reach.invariant (fun s => s.table.Linked) _ _ reached
  · intro key
    exact .inl (by simp [ClaimTable.owner_eq, ClaimTable.link_eq, ClaimInterfaceState.deathLink])
  · intro s event s' linked _ taken
    cases event with
    | clientDeath t => cases taken; exact linked
    | call op env => cases taken; exact linked.sections (op.exec_sections env s.table)

/-! ### Death notifications -/

/-- The notifications of a dead client's callbacks, in some order, as calls into the service. -/
def notifications (order : List (DeathLink × Env)) : List Event :=
  order.map fun n => .call (.onRemoteDied n.1.1 n.1.2) n.2

/-- The notifications take their links with them and touch no normal flag. -/
theorem runFrom_notifications {order : List (DeathLink × Env)} {s s' : Holding}
    (run : runFrom Holding.step s (notifications order) = some s') :
    s'.table.deathLinks = s.table.deathLinks.diff (order.map Prod.fst) ∧
      ∀ key, s'.table.normal key = s.table.normal key := by
  induction order generalizing s with
  | nil =>
    cases run
    exact ⟨rfl, fun _ => rfl⟩
  | cons n order ih =>
    obtain ⟨⟨cb, r⟩, env⟩ := n
    obtain ⟨mid, taken, rest⟩ := Option.bind_eq_some_iff.1 run
    obtain ⟨links, normal⟩ := ih rest
    cases taken
    simp only [Op.exec, onRemoteDied_table, onRemoteDied_deathLinks, onRemoteDied_normal] at links normal
    exact ⟨by rw [links, List.map_cons, List.diff_cons], normal⟩

theorem diff_filter_perm {α : Type} [BEq α] [LawfulBEq α] {p : α → Bool} {all some : List α}
    (perm : some.Perm (all.filter p))
    {a : α} (selected : p a = true) : a ∉ all.diff some := by
  rw [← List.count_eq_zero, List.count_diff, perm.count_eq, List.count_filter selected, Nat.sub_self]

/-- Which claims make an exclusive claim busy, if it is not the driver that says so. -/
theorem claimInterfaceExclusive_busy {t : TokenId} {b d i force : UInt8} {cb : Option Callback} {env : Env}
    {table : ClaimTable} (driver : (env.host.call (.claimInterface b d i force)).1 ≠ .uecInterfaceBusy)
    (busy : (claimInterfaceExclusive t b d i force cb env table).ret = .uecInterfaceBusy) :
    table.normal (makeClaimKey b d i) = true ∨
      (table.owner (makeClaimKey b d i) ≠ 0 ∧ table.owner (makeClaimKey b d i) ≠ t) := by
  rw [ClaimTable.normal_eq, ClaimTable.owner_eq]
  unfold claimInterfaceExclusive at busy
  split_ifs at busy
  split at busy
  · next refusal checked =>
    unfold checkExclusiveClaim at checked
    split at checked
    · cases checked
    · next state found =>
      rw [found]
      split_ifs at checked with mine owned normal
      · exact .inr ⟨owned, mine⟩
      · exact .inl normal
  · dsimp only at busy
    split_ifs at busy
    exact absurd busy driver

/-- Nothing of `t` but the normal flag is left on an interface: `t` does not own it, the flag is as
it was, and another client's exclusive claim is busy only for a third client's exclusive claim or
for a normal one. -/
structure Departed (t : TokenId) (before after : ClaimTable) (b d i : UInt8) : Prop where
  owner : after.owner (makeClaimKey b d i) ≠ t
  normal : after.normal (makeClaimKey b d i) = before.normal (makeClaimKey b d i)
  busy : ∀ (t' : TokenId) force cb env, (env.host.call (.claimInterface b d i force)).1 ≠ .uecInterfaceBusy →
    (claimInterfaceExclusive t' b d i force cb env after).ret = .uecInterfaceBusy →
    after.normal (makeClaimKey b d i) = true ∨
      ∃ third : TokenId, third ≠ t ∧ third ≠ t' ∧ after.owner (makeClaimKey b d i) = third

theorem Departed.of_owner {t : TokenId} {before after : ClaimTable} {b d i : UInt8}
    (owner : after.owner (makeClaimKey b d i) ≠ t)
    (normal : after.normal (makeClaimKey b d i) = before.normal (makeClaimKey b d i)) :
    Departed t before after b d i := by
  refine ⟨owner, normal, ?_⟩
  intro t' force cb env driver busy
  refine (claimInterfaceExclusive_busy driver busy).imp id ?_
  rintro ⟨owned, foreign⟩
  exact ⟨⟨_, owned⟩, fun same => owner (congrArg Subtype.val same), fun same => foreign (congrArg Subtype.val same),
    rfl⟩

theorem ClaimTable.Linked.owner_ne {table : ClaimTable} {t : TokenId} (linked : table.Linked)
    (gone : ∀ link ∈ table.deathLinks, link.2.tokenId ≠ t) (key : String) : table.owner key ≠ t := by
  intro owned
  obtain ⟨cb, r, -, -, owner, member⟩ := linked.owned (owned ▸ t.2)
  exact gone _ member (Subtype.ext (owner.trans owned))

theorem close_owner_ne {t : TokenId} {b d i : UInt8} {env : Env} {table : ClaimTable}
    (ok : (close t b d env table).ret = .uecOk) :
    (close t b d env table).table.owner (makeClaimKey b d i) ≠ t ∧
      (close t b d env table).table.normal (makeClaimKey b d i) = table.normal (makeClaimKey b d i) := by
  cases permitted : env.permitted with
  | false => simp [close, permitted] at ok
  | true =>
    rw [close_table, if_pos permitted, removeExclusiveClaimByDevice_owner, removeExclusiveClaimByDevice_normal]
    refine ⟨?_, rfl⟩
    split
    · exact t.2.symm
    · next kept => exact fun owned => kept ⟨comparePrefix_makeClaimKey.2 ⟨rfl, rfl⟩, owned⟩

/-- From every reachable state, a client has departed from a device once its close of it succeeded,
and from every device once the notifications of all its callbacks have run: in any order from the
state in which it died, or mixed with other calls until none of its recipients is left. -/
theorem departed_after_session {s : Holding} (reached : Reach Holding.step anyStep {} s) (t : TokenId) :
    (∀ b d env, (close t b d env s.table).ret = .uecOk → ∀ i,
      Departed t s.table (close t b d env s.table).table b d i) ∧
    (∀ order s', (order.map Prod.fst).Perm (s.table.deathLinks.filter fun link => link.2.tokenId = t) →
      runFrom Holding.step s (notifications order) = some s' → ∀ b d i, Departed t s.table s'.table b d i) ∧
    ((∀ link ∈ s.table.deathLinks, link.2.tokenId ≠ t) → ∀ b d i, Departed t s.table s.table b d i) := by
  refine ⟨?_, ?_, ?_⟩
  · intro b d env ok i
    exact .of_owner (close_owner_ne ok).1 (close_owner_ne ok).2
  · intro order s' all run b d i
    obtain ⟨links, normal⟩ := runFrom_notifications run
    have linked := Holding.linked_of_reach (reach_of_runFrom _ (fun _ _ _ => trivial) reached run)
    refine .of_owner (linked.owner_ne ?_ _) (normal _)
    intro link member mine
    rw [links] at member
    exact diff_filter_perm all (by simpa using mine) member
  · intro gone b d i
    exact .of_owner ((Holding.linked_of_reach reached).owner_ne gone _) rfl

/-- An exclusive owner dies and the one notification of its callback runs. -/
theorem departed_after_session_death :
    ∃ s s', Holding.step {} (.call (.claimInterfaceExclusive ⟨5, by decide⟩ 1 2 0 1 (some 7)) .allGranted) = some s ∧
      s.table.owner (makeClaimKey 1 2 0) = 5 ∧
      runFrom Holding.step s (notifications [((7, ⟨1, 2, 0, ⟨5, by decide⟩⟩), .allGranted)]) = some s' ∧
      Departed ⟨5, by decide⟩ s.table s'.table 1 2 0 := by
  let claim : Event := .call (.claimInterfaceExclusive ⟨5, by decide⟩ 1 2 0 1 (some 7)) .allGranted
  refine ⟨_, _, rfl, by decide +kernel, rfl, ?_⟩
  apply (departed_after_session (.step (a := claim) .init trivial rfl) ⟨5, by decide⟩).2.1
    [((7, ⟨1, 2, 0, ⟨5, by decide⟩⟩), .allGranted)] _ _ rfl
  exact List.Perm.of_eq (by decide +kernel)

/-- The flag a client set outlives its close: with no holder left, the next exclusive claim is busy. -/
theorem normalClaimed_outlives_close :
    ¬ ∀ (s s' : Holding) (t t' : TokenId) b d i force cb env, Reach Holding.step anyStep {} s →
      s.step (.call (.close t b d) env) = some s' → (close t b d env s.table).ret = .uecOk →
      (∀ c ∈ s'.claims, c.key ≠ makeClaimKey b d i) → t' ≠ t →
      (claimInterfaceExclusive t' b d i force cb .allGranted s'.table).ret ≠ .uecInterfaceBusy := by
  intro free
  let claim : Event := .call (.claimInterface ⟨5, by decide⟩ 1 2 0 1) .allGranted
  have claimed : Reach Holding.step anyStep {} _ := .step (a := claim) .init trivial rfl
  exact free _ _ ⟨5, by decide⟩ ⟨6, by decide⟩ 1 2 0 1 (some 7) .allGranted claimed rfl (by decide +kernel)
    (by decide +kernel) (by decide) (by decide +kernel)

end UsbManager.Claim
