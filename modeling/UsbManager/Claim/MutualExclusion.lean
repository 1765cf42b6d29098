import UsbManager.Claim.Interleaving
import UsbManager.Claim.Sections

/-!
# Mutual exclusion of exclusive claims

`ClaimInterfaceExclusive` checks the table in one critical section and registers in another, with
the driver call between them. Two clients can therefore both pass the check of a free interface
and both register it, and a repeat claim whose record is cleared meanwhile is answered `UEC_OK`
without an owner. In the runs where neither happens at most one client holds an interface.
-/

namespace UsbManager.Claim

open Transition

/-- An exclusive claim between its check and its registration. -/
structure Pending where
  key : String
  tokenId : TokenId
  isRepeat : Bool

def Call.pending : Call → Option Pending
  | .claimExclusive t b d i _ _ (.checked isRepeat) | .claimExclusive t b d i _ _ (.claimed isRepeat _) =>
    some ⟨makeClaimKey b d i, t, isRepeat⟩
  | _ => none

def World.pending (w : World) : List Pending := w.calls.filterMap Call.pending

/-- What relates the owners in the table to the holders and to the claims in flight. -/
structure Exclusion (owner : String → UInt32) (holders : List (String × TokenId)) (dead : List TokenId)
    (pending : List Pending) : Prop where
  held : ∀ h ∈ holders, owner h.1 = h.2
  alive : ∀ h ∈ holders, h.2 ∉ dead
  fresh : ∀ p ∈ pending, p.isRepeat = false → owner p.key = 0 ∨ owner p.key = p.tokenId
  again : ∀ p ∈ pending, p.isRepeat = true → p.tokenId ∉ dead → owner p.key = p.tokenId
  single : ∀ p ∈ pending, ∀ q ∈ pending, p.key = q.key → p.tokenId = q.tokenId

namespace Exclusion

variable {owner owner' : String → UInt32} {holders holders' : List (String × TokenId)}
  {dead dead' : List TokenId} {pending pending' : List Pending}

/-- Some owners are cleared, none of a remaining holder or of a live repeat claim in flight. -/
theorem clear (inv : Exclusion owner holders dead pending)
    (clears : ∀ key, owner' key = owner key ∨ owner' key = 0)
    (held : ∀ h ∈ holders', h ∈ holders ∧ owner' h.1 = owner h.1)
    (fewer : ∀ p ∈ pending', p ∈ pending)
    (again : ∀ p ∈ pending', p.isRepeat = true → p.tokenId ∉ dead → owner' p.key = owner p.key) :
    Exclusion owner' holders' dead pending' where
  held h member := by rw [(held h member).2]; exact inv.held h (held h member).1
  alive h member := inv.alive h (held h member).1
  fresh p member isFresh := by
    rcases clears p.key with same | cleared
    · rw [same]
      exact inv.fresh p (fewer p member) isFresh
    · exact .inl cleared
  again p member isRepeat live := by
    rw [again p member isRepeat live]
    exact inv.again p (fewer p member) isRepeat live
  single p hp q hq := inv.single p (fewer p hp) q (fewer q hq)

/-- Claims in flight end. -/
theorem fewer (inv : Exclusion owner holders dead pending) (fewer : ∀ p ∈ pending', p ∈ pending) :
    Exclusion owner holders dead pending' :=
  inv.clear (fun _ => .inl rfl) (fun _ member => ⟨member, rfl⟩) fewer (fun _ _ _ _ => rfl)

/-- A client dies. -/
theorem death (inv : Exclusion owner holders dead pending) (t : TokenId) :
    Exclusion owner (holders.filter fun h => !(h.2 == t)) (t :: dead) pending where
  held h member := inv.held h (List.mem_filter.1 member).1
  alive h member := by
    obtain ⟨held, other⟩ := List.mem_filter.1 member
    intro gone
    rcases List.mem_cons.1 gone with same | gone
    · simp [same] at other
    · exact inv.alive h held gone
  fresh := inv.fresh
  again p member isRepeat live := inv.again p member isRepeat fun gone => live (List.mem_cons_of_mem _ gone)
  single := inv.single

/-- A claim passes the check. -/
theorem check (inv : Exclusion owner holders dead pending) {p : Pending}
    (fresh : p.isRepeat = false → owner p.key = 0) (again : p.isRepeat = true → owner p.key = p.tokenId)
    (alone : ∀ q ∈ pending, q.key = p.key → q.tokenId = p.tokenId) :
    Exclusion owner holders dead (p :: pending) where
  held := inv.held
  alive := inv.alive
  fresh q member isFresh := by
    rcases List.mem_cons.1 member with rfl | member
    · exact .inl (fresh isFresh)
    · exact inv.fresh q member isFresh
  again q member isRepeat live := by
    rcases List.mem_cons.1 member with rfl | member
    · exact again isRepeat
    · exact inv.again q member isRepeat live
  single q hq r hr same := by
    rcases List.mem_cons.1 hq with isNew | old <;> rcases List.mem_cons.1 hr with isNew' | old'
    · rw [isNew, isNew']
    · subst isNew
      exact (alone r old' same.symm).symm
    · subst isNew'
      exact alone q old same
    · exact inv.single q old r old' same

/-- A claim in flight registers: an interface nobody else can own gets its owner. -/
theorem register (inv : Exclusion owner holders dead pending) {p : Pending} (flying : p ∈ pending)
    (fewer : ∀ q ∈ pending', q ∈ pending)
    (set : ∀ key, owner' key = if p.key = key ∧ p.isRepeat = false then p.tokenId.1 else owner key) :
    Exclusion owner' holders dead pending' := by
  have others : ∀ key, owner key ≠ 0 → owner' key = owner key := by
    intro key owned
    rw [set]
    split
    · next mine =>
      rcases inv.fresh p flying mine.2 with free | own
      · exact absurd (mine.1 ▸ free) owned
      · rw [← mine.1, own]
    · rfl
  refine ⟨?_, inv.alive, ?_, ?_, fun q hq r hr => inv.single q (fewer q hq) r (fewer r hr)⟩
  · intro h member
    have owned := inv.held h member
    rw [others h.1 (owned ▸ h.2.2), owned]
  · intro q member isFresh
    rw [set]
    split
    · next mine =>
      right
      rw [inv.single p flying q (fewer q member) mine.1]
    · exact inv.fresh q (fewer q member) isFresh
  · intro q member isRepeat live
    have owned := inv.again q (fewer q member) isRepeat live
    rw [others q.key (owned ▸ q.tokenId.2), owned]

/-- The client whose claim is registered gets its answer. -/
theorem grant (inv : Exclusion owner holders dead pending) {key : String} {t : TokenId}
    (owned : t ∉ dead → owner key = t) :
    Exclusion owner (if t ∈ dead then holders else (key, t) :: holders) dead pending := by
  split
  · exact inv
  · next live =>
    refine ⟨?_, ?_, inv.fresh, inv.again, inv.single⟩
    · intro h member
      rcases List.mem_cons.1 member with rfl | member
      · exact owned live
      · exact inv.held h member
    · intro h member
      rcases List.mem_cons.1 member with rfl | member
      · exact live
      · exact inv.alive h member

end Exclusion

/-! ### The condition on a step -/

/-- A repeat claim of a live client is in flight. -/
def World.RepeatInFlight (w : World) (key : String) : Prop :=
  ∃ p ∈ w.pending, p.key = key ∧ p.isRepeat = true ∧ p.tokenId ∉ w.dead

/-- An exclusive claim that registers brings a callback, and its recipient is installed. -/
def registers (_ : World) : Action → Prop
  | .advance (.claimExclusive _ _ _ _ _ cb (.claimed _ _)) env =>
    cb.isSome = true ∧ env.addDeathRecipient = true
  | _ => True

/-- No other client's exclusive claim on the interface is in flight when a check passes, and no
repeat claim on an interface is in flight when its owner is cleared by a release, a close or the
removal of the device. -/
def excludes (w : World) : Action → Prop
  | .advance (.claimExclusive t b d i _ _ .entered) _ =>
    (∃ isRepeat, checkExclusiveClaim b d i t w.table = .ok isRepeat) →
      ∀ p ∈ w.pending, p.key = makeClaimKey b d i → p.tokenId = t
  | .advance (.release t b d i false) _ =>
    w.table.owner (makeClaimKey b d i) = t → ¬ w.RepeatInFlight (makeClaimKey b d i)
  | .advance (.close t b d false) _ | .advance (.delDevice t b d .swept) _ =>
    ∀ key, comparePrefix key (claimPrefix b d) = true → w.table.owner key = t → ¬ w.RepeatInFlight key
  | .advance (.delDevice _ b d .entered) _ =>
    ∀ key, comparePrefix key (claimPrefix b d) = true → ¬ w.RepeatInFlight key
  | _ => True

/-! ### One step -/

def World.Excludes (w : World) : Prop := Exclusion w.table.owner w.holders w.dead w.pending

section Step

variable {w w' : World}

theorem World.pending_erase (call : Call) :
    ∀ p ∈ (w.calls.erase call).filterMap Call.pending, p ∈ w.pending := by
  intro p member
  obtain ⟨call', flying, isPending⟩ := List.mem_filterMap.1 member
  exact List.mem_filterMap.2 ⟨call', List.mem_of_mem_erase flying, isPending⟩

theorem World.pending_goto {call next : Call} (none : next.pending = none) :
    ∀ p ∈ (w.goto call next).pending, p ∈ w.pending := by
  intro p member
  rw [World.pending, World.goto, List.filterMap_cons, none] at member
  exact w.pending_erase call p member

/-- A section clears the owners of some keys and takes their holders away. -/
theorem World.Excludes.clear (inv : w.Excludes) (cleared : String → Prop)
    (fewer : ∀ p ∈ w'.pending, p ∈ w.pending) (dead : w'.dead = w.dead)
    (kept : ∀ key, ¬ cleared key → w'.table.owner key = w.table.owner key)
    (zero : ∀ key, cleared key → w'.table.owner key = 0)
    (holders : ∀ h ∈ w'.holders, h ∈ w.holders ∧ ¬ cleared h.1)
    (again : ∀ key, cleared key → ¬ w.RepeatInFlight key) : w'.Excludes := by
  have result : Exclusion w'.table.owner w'.holders w.dead w'.pending := by
    apply Exclusion.clear inv _ _ fewer
    · intro p member isRepeat live
      exact kept p.key fun c => again p.key c ⟨p, fewer p member, rfl, isRepeat, live⟩
    · intro key
      by_cases c : cleared key
      · exact .inr (zero key c)
      · exact .inl (kept key c)
    · intro h member
      exact ⟨(holders h member).1, kept h.1 (holders h member).2⟩
  rw [← dead] at result
  exact result

/-- Nothing happens to owners and holders. -/
theorem World.Excludes.keep (inv : w.Excludes) (fewer : ∀ p ∈ w'.pending, p ∈ w.pending)
    (dead : w'.dead = w.dead) (owner : ∀ key, w'.table.owner key = w.table.owner key)
    (holders : w'.holders = w.holders) : w'.Excludes :=
  inv.clear (fun _ => False) fewer dead (fun key _ => owner key) (fun _ => False.elim)
    (fun _ member => ⟨holders ▸ member, id⟩) (fun _ => False.elim)

theorem World.Excludes.release {t : TokenId} {b d i : UInt8} {env : Env} (inv : w.Excludes)
    (guard : w.table.owner (makeClaimKey b d i) = t → ¬ w.RepeatInFlight (makeClaimKey b d i))
    (taken : w.advance (.release t b d i false) env = some w') : w'.Excludes := by
  have owner := fun key => @releaseClaimState_owner b d i t w.table key
  simp only [World.advance] at taken
  split at taken
  · next refused =>
    cases taken
    rw [Ne, releaseClaimState_ret, not_or] at refused
    refine inv.keep (w.pending_erase _) rfl (fun key => (owner key).trans (if_neg ?_)) rfl
    rintro ⟨same, mine⟩
    rw [← same] at mine
    exact refused.1 mine
  · cases taken
    refine inv.clear (fun key => makeClaimKey b d i = key ∧ w.table.owner key = t) ?_ ?_
      (fun key kept => (owner key).trans (if_neg kept)) (fun key cleared => (owner key).trans (if_pos cleared)) ?_ ?_
    · split
      · exact w.pending_goto rfl
      · exact w.pending_erase _
    · split <;> rfl
    · rintro ⟨key, t'⟩ member
      obtain ⟨held, other⟩ := List.mem_filter.1 member
      have held : (key, t') ∈ w.holders := by split at held <;> exact held
      refine ⟨held, ?_⟩
      rintro ⟨same, mine⟩
      have token : t' = t := Subtype.ext ((inv.held _ held).symm.trans mine)
      simp [same, token] at other
    · rintro key ⟨rfl, mine⟩
      exact guard mine

/-- `RemoveExclusiveClaimByDevice`, from `Close` or from `DelDevice`. -/
theorem World.Excludes.sweepExclusive {t : TokenId} {b d : UInt8} {call next : Call} (inv : w.Excludes)
    (silent : next.pending = none)
    (guard : ∀ key, comparePrefix key (claimPrefix b d) = true → w.table.owner key = t → ¬ w.RepeatInFlight key) :
    (((w.goto call next).commit (removeExclusiveClaimByDevice b d t w.table) none).drop
      fun holder => comparePrefix holder.1 (claimPrefix b d) && holder.2 == t).Excludes := by
  have owner := fun key => @removeExclusiveClaimByDevice_owner b d t w.table key
  refine inv.clear (fun key => comparePrefix key (claimPrefix b d) = true ∧ w.table.owner key = t)
    (w.pending_goto silent) rfl (fun key kept => (owner key).trans (if_neg kept))
    (fun key cleared => (owner key).trans (if_pos cleared)) ?_ (fun key cleared => guard key cleared.1 cleared.2)
  rintro ⟨key, t'⟩ member
  obtain ⟨held, other⟩ := List.mem_filter.1 member
  refine ⟨held, ?_⟩
  rintro ⟨same, mine⟩
  have token : t' = t := Subtype.ext ((inv.held _ held).symm.trans mine)
  simp_all

theorem World.Excludes.sweepAll {b d : UInt8} {call next : Call} (inv : w.Excludes) (silent : next.pending = none)
    (guard : ∀ key, comparePrefix key (claimPrefix b d) = true → ¬ w.RepeatInFlight key) :
    (((w.goto call next).commit (removeAllClaimByDevice b d w.table) none).drop
      fun holder => comparePrefix holder.1 (claimPrefix b d)).Excludes := by
  have owner := fun key => @removeAllClaimByDevice_owner b d w.table key
  refine inv.clear (fun key => comparePrefix key (claimPrefix b d) = true)
    (w.pending_goto silent) rfl (fun key kept => (owner key).trans (if_neg kept))
    (fun key cleared => (owner key).trans (if_pos cleared)) ?_ guard
  intro h member
  obtain ⟨held, other⟩ := List.mem_filter.1 member
  exact ⟨held, by simpa using other⟩

/-- A notification clears owners that are dead, whom nobody counts as holders. -/
theorem World.Excludes.died {cb : Callback} {r : ClaimDeathRecipient} {env : Env} (inv : w.Excludes)
    (gone : r.tokenId ∈ w.dead) (taken : w.advance (.died cb r false) env = some w') : w'.Excludes := by
  have owner := fun key => @onRemoteDied_owner w.table key r cb
  simp only [World.advance] at taken
  cases taken
  refine inv.clear (fun key => r.key = key ∧ w.table.owner key = r.tokenId) ?_ ?_
    (fun key kept => (owner key).trans (if_neg kept)) (fun key cleared => (owner key).trans (if_pos cleared)) ?_ ?_
  · split
    · exact w.pending_goto rfl
    · exact w.pending_erase _
  · split <;> rfl
  · rintro ⟨key, t⟩ member
    have held : (key, t) ∈ w.holders := by split at member <;> exact member
    refine ⟨held, ?_⟩
    rintro ⟨-, mine⟩
    have token : t = r.tokenId := Subtype.ext ((inv.held _ held).symm.trans mine)
    exact inv.alive _ held (token ▸ gone)
  · rintro key ⟨-, mine⟩ ⟨p, flying, rfl, isRepeat, live⟩
    have token : p.tokenId = r.tokenId := Subtype.ext ((inv.again p flying isRepeat live).symm.trans mine)
    exact live (token ▸ gone)

theorem World.Excludes.check {t : TokenId} {b d i force : UInt8} {cb : Option Callback} {env : Env} (inv : w.Excludes)
    (guard : (∃ isRepeat, checkExclusiveClaim b d i t w.table = .ok isRepeat) →
      ∀ p ∈ w.pending, p.key = makeClaimKey b d i → p.tokenId = t)
    (taken : w.advance (.claimExclusive t b d i force cb .entered) env = some w') : w'.Excludes := by
  simp only [World.advance] at taken
  split at taken
  · cases taken
    exact inv.keep (w.pending_erase _) rfl (fun _ => rfl) rfl
  · next isRepeat checked =>
    cases taken
    have ended : Exclusion w.table.owner w.holders w.dead
        ((w.calls.erase (.claimExclusive t b d i force cb .entered)).filterMap Call.pending) :=
      Exclusion.fewer inv (w.pending_erase _)
    refine ended.check (p := ⟨makeClaimKey b d i, t, isRepeat⟩) ?_ ?_ ?_
    · rintro rfl
      exact (checkExclusiveClaim_fresh checked).1
    · rintro rfl
      exact checkExclusiveClaim_repeat checked
    · intro q member same
      exact guard ⟨isRepeat, checked⟩ q (w.pending_erase _ q member) same

theorem World.Excludes.accept {t : TokenId} {b d i force : UInt8} {cb : Option Callback} {isRepeat : Bool} {env : Env}
    (inv : w.Excludes) (flying : .claimExclusive t b d i force cb (.checked isRepeat) ∈ w.calls)
    (taken : w.advance (.claimExclusive t b d i force cb (.checked isRepeat)) env = some w') : w'.Excludes := by
  simp only [World.advance] at taken
  split at taken
  · obtain ⟨device, -, rfl⟩ := Option.map_eq_some_iff.1 taken
    refine inv.keep ?_ rfl (fun _ => rfl) rfl
    intro p member
    rcases List.mem_cons.1 member with rfl | member
    · exact List.mem_filterMap.2 ⟨_, flying, rfl⟩
    · exact w.pending_erase _ p member
  · cases taken
    exact inv.keep (w.pending_erase _) rfl (fun _ => rfl) rfl

theorem World.Excludes.register {t : TokenId} {b d i force : UInt8} {cb : Callback} {isRepeat : Bool} {device : Nat}
    {env : Env} (inv : w.Excludes) (added : env.addDeathRecipient = true)
    (flying : .claimExclusive t b d i force (some cb) (.claimed isRepeat device) ∈ w.calls)
    (taken : w.advance (.claimExclusive t b d i force (some cb) (.claimed isRepeat device)) env = some w') :
    w'.Excludes := by
  simp only [World.advance, added] at taken
  cases taken
  have pending : (⟨makeClaimKey b d i, t, isRepeat⟩ : Pending) ∈ w.pending :=
    List.mem_filterMap.2 ⟨_, flying, rfl⟩
  have owner := fun key => @registerExclusiveCallback_owner b d i t w.table key cb isRepeat
  have registered := Exclusion.register inv pending
    (w.pending_erase (.claimExclusive t b d i force (some cb) (.claimed isRepeat device))) owner
  refine registered.grant fun live => ?_
  cases isRepeat with
  | false => exact (owner _).trans (if_pos ⟨rfl, rfl⟩)
  | true => exact (owner _).trans ((if_neg (by simp)).trans (inv.again _ pending rfl live))

theorem World.Excludes.advance {call : Call} {env : Env} (inv : w.Excludes)
    (dies : ∀ cb r, call = .died cb r false → r.tokenId ∈ w.dead) (flying : call ∈ w.calls)
    (registering : registers w (.advance call env)) (guard : excludes w (.advance call env))
    (taken : w.advance call env = some w') : w'.Excludes := by
  cases call with
  | claim t b d i force device =>
    cases device with
    | none =>
      simp only [World.advance] at taken
      split at taken
      · obtain ⟨device, -, rfl⟩ := Option.map_eq_some_iff.1 taken
        exact inv.keep (w.pending_goto rfl) rfl (fun _ => rfl) rfl
      · cases taken
        exact inv.keep (w.pending_erase _) rfl (fun _ => rfl) rfl
    | some device =>
      cases taken
      exact inv.keep (w.pending_erase _) rfl (fun _ => notifyExclusiveOwner_owner (t := t)) rfl
  | claimExclusive t b d i force cb stage =>
    cases stage with
    | entered => exact inv.check guard taken
    | checked isRepeat => exact inv.accept flying taken
    | claimed isRepeat device =>
      obtain ⟨given, added⟩ := registering
      obtain ⟨cb, rfl⟩ := Option.isSome_iff_exists.1 given
      exact inv.register added flying taken
  | release t b d i done =>
    cases done with
    | false => exact inv.release guard taken
    | true => cases taken; exact inv.keep (w.pending_erase _) rfl (fun _ => rfl) rfl
  | close t b d done =>
    cases done with
    | false => cases taken; exact inv.sweepExclusive rfl guard
    | true => cases taken; exact inv.keep (w.pending_erase _) rfl (fun _ => rfl) rfl
  | died cb r done =>
    cases done with
    | false => exact inv.died (dies cb r rfl) taken
    | true => cases taken; exact inv.keep (w.pending_erase _) rfl (fun _ => rfl) rfl
  | delDevice t b d stage =>
    cases stage with
    | entered => cases taken; exact inv.sweepAll rfl guard
    | swept =>
      simp only [World.advance] at taken
      split at taken <;> cases taken
      · exact inv.sweepExclusive rfl guard
      · exact inv.keep (w.pending_goto rfl) rfl (fun _ => rfl) rfl
    | closed => cases taken; exact inv.keep (w.pending_erase _) rfl (fun _ => rfl) rfl
  | addDevice b d => cases taken; exact inv.keep (w.pending_erase _) rfl (fun _ => rfl) rfl

end Step

/-! ### Runs -/

/-- The exclusion relation, and a death notification in flight belongs to a dead client. -/
structure World.Inv (w : World) : Prop where
  excludes : w.Excludes
  notified : ∀ cb r done, .died cb r done ∈ w.calls → r.tokenId ∈ w.dead

theorem World.start_parts (w : World) (call : Call) :
    (w.start call).calls = call :: w.calls ∧ (w.start call).table = w.table ∧
      (w.start call).holders = w.holders ∧ (w.start call).dead = w.dead := by
  unfold World.start
  split <;> exact ⟨rfl, rfl, rfl, rfl⟩

theorem World.mayStart_pending {w : World} {call : Call} (may : w.mayStart call = true) : call.pending = none := by
  unfold World.mayStart at may
  split at may <;> first | rfl | cases may

theorem World.Inv.step {w w' : World} {action : Action} (inv : w.Inv)
    (met : registers w action ∧ Claim.excludes w action) (taken : w.step action = some w') : w'.Inv := by
  cases action with
  | start call =>
    simp only [World.step, Option.ite_none_right_eq_some, Option.some.injEq] at taken
    obtain ⟨may, rfl⟩ := taken
    obtain ⟨calls, table, holders, dead⟩ := w.start_parts call
    refine ⟨inv.excludes.keep ?_ dead (fun _ => by rw [table]) holders, ?_⟩
    · intro p member
      rw [World.pending, calls, List.filterMap_cons, World.mayStart_pending may] at member
      exact member
    · intro cb r done flying
      rw [calls] at flying
      rw [dead]
      rcases List.mem_cons.1 flying with rfl | flying
      · cases done with
        | false => simpa [World.mayStart] using may
        | true => cases may
      · exact inv.notified cb r done flying
  | advance call env =>
    simp only [World.step, Option.ite_none_right_eq_some] at taken
    obtain ⟨flying, taken⟩ := taken
    obtain ⟨calls, dead, -⟩ := World.advance_calls taken
    refine ⟨inv.excludes.advance ?_ flying met.1 met.2 taken, ?_⟩
    · rintro cb r rfl
      exact inv.notified cb r false flying
    · intro cb r done member
      rw [dead]
      rcases calls with calls | ⟨next, follows, calls⟩ <;> rw [calls] at member
      · exact inv.notified cb r done (List.mem_of_mem_erase member)
      · rcases List.mem_cons.1 member with rfl | old
        · cases follows
          exact inv.notified cb r false flying
        · exact inv.notified cb r done (List.mem_of_mem_erase old)
  | clientDeath t =>
    cases taken
    refine ⟨Exclusion.death inv.excludes t, ?_⟩
    intro cb r done flying
    exact List.mem_cons_of_mem _ (inv.notified cb r done flying)

/-- A section keeps an owner, clears it, or registers a claim that its check found free. -/
theorem Call.Section.owner {table after : ClaimTable} {call : Call} (through : call.Section table after)
    (key : String) :
    after.owner key = table.owner key ∨ after.owner key = 0 ∨
      ∃ p, call.pending = some p ∧ p.key = key ∧ p.isRepeat = false ∧ after.owner key = p.tokenId := by
  cases through with
  | skip => exact .inl rfl
  | notified => exact .inl notifyExclusiveOwner_owner
  | @registered t b d i force cb isRepeat device =>
    rw [registerExclusiveCallback_owner]
    split
    · next mine => exact .inr (.inr ⟨⟨makeClaimKey b d i, t, isRepeat⟩, rfl, mine.1, mine.2, rfl⟩)
    · exact .inl rfl
  | released =>
    rw [releaseClaimState_owner]
    split
    · exact .inr (.inl rfl)
    · exact .inl rfl
  | closed | closedDevice =>
    rw [removeExclusiveClaimByDevice_owner]
    split
    · exact .inr (.inl rfl)
    · exact .inl rfl
  | died =>
    rw [onRemoteDied_owner]
    split
    · exact .inr (.inl rfl)
    · exact .inl rfl
  | swept =>
    rw [removeAllClaimByDevice_owner]
    split
    · exact .inr (.inl rfl)
    · exact .inl rfl

/-- No step of a run under the condition gives an owned interface to another client. -/
theorem World.Inv.owner_kept {w w' : World} {action : Action} (inv : w.Inv) (taken : w.step action = some w')
    {key : String} (owned : w.table.owner key ≠ 0) :
    w'.table.owner key = w.table.owner key ∨ w'.table.owner key = 0 := by
  cases action with
  | start call =>
    simp only [World.step, Option.ite_none_right_eq_some, Option.some.injEq] at taken
    obtain ⟨-, rfl⟩ := taken
    rw [(w.start_parts call).2.1]
    exact .inl rfl
  | advance call env =>
    simp only [World.step, Option.ite_none_right_eq_some] at taken
    obtain ⟨flying, taken⟩ := taken
    rcases (World.advance_section taken).owner key with same | cleared | ⟨p, isPending, rfl, isFresh, mine⟩
    · exact .inl same
    · exact .inr cleared
    · rcases inv.excludes.fresh p (List.mem_filterMap.2 ⟨call, flying, isPending⟩) isFresh with free | own
      · exact absurd free owned
      · exact .inl (mine.trans own.symm)
  | clientDeath t =>
    cases taken
    exact .inl rfl

/-- In every run whose steps meet the condition, at most one client holds an interface exclusively,
and the owner of an interface never changes from one client to another. -/
theorem exclusive_claim_mutual_exclusion {w : World}
    (reached : Reach World.step (fun w action => registers w action ∧ excludes w action) {} w) :
    (∀ b d i t t', (makeClaimKey b d i, t) ∈ w.holders → (makeClaimKey b d i, t') ∈ w.holders → t = t') ∧
    (∀ action w' b d i (t t' : TokenId), w.step action = some w' →
      w.table.owner (makeClaimKey b d i) = t → w'.table.owner (makeClaimKey b d i) = t' → t = t') := by
  have start : World.Inv {} := ⟨⟨nofun, nofun, nofun, nofun, nofun⟩, nofun⟩
  have inv := Reach.invariant World.Inv start (fun _ _ _ inv met taken => inv.step met taken) reached
  refine ⟨?_, ?_⟩
  · intro b d i t t' first second
    exact Subtype.ext ((inv.excludes.held _ first).symm.trans (inv.excludes.held _ second))
  · intro action w' b d i t t' taken before after
    rcases inv.owner_kept taken (before ▸ t.2) with same | cleared
    · exact Subtype.ext (before.symm.trans (same.symm.trans after))
    · exact absurd (after.symm.trans cleared) t'.2

/-- An exclusive claim of a client on interface 0 of device 2 on bus 1. -/
def sampleClaim (t : TokenId) (stage : ExclusiveStage) : Call := .claimExclusive t 1 2 0 1 (some 7) stage

/-- A client claims the interface and releases it while another one waits, which then gets it. -/
theorem exclusive_claim_mutual_exclusion_single :
    ∃ w w' : World, (makeClaimKey 1 2 0, (⟨5, by decide⟩ : TokenId)) ∈ w.holders ∧
      (∀ t', (makeClaimKey 1 2 0, t') ∈ w.holders → ⟨5, by decide⟩ = t') ∧
      (makeClaimKey 1 2 0, (⟨6, by decide⟩ : TokenId)) ∈ w'.holders ∧
      ∀ t', (makeClaimKey 1 2 0, t') ∈ w'.holders → ⟨6, by decide⟩ = t' := by
  let first : TokenId := ⟨5, by decide⟩
  let second : TokenId := ⟨6, by decide⟩
  have attached : Reach World.step (fun w action => registers w action ∧ excludes w action) {} _ :=
    .step (a := .start (.addDevice 1 2)) .init ⟨trivial, trivial⟩ rfl
  have entered := attached.step (a := Action.start (sampleClaim first .entered)) ⟨trivial, trivial⟩ rfl
  have checked := entered.step (a := Action.advance (sampleClaim first .entered) .allGranted)
    ⟨trivial, fun _ => nofun⟩ rfl
  have accepted := checked.step (a := Action.advance (sampleClaim first (.checked false)) .allGranted)
    ⟨trivial, trivial⟩ rfl
  have registered := accepted.step (a := Action.advance (sampleClaim first (.claimed false 0)) .allGranted)
    ⟨⟨rfl, rfl⟩, trivial⟩ rfl
  have waits := registered.step (a := Action.start (sampleClaim second .entered)) ⟨trivial, trivial⟩ rfl
  have releases := waits.step (a := Action.start (.release first 1 2 0 false)) ⟨trivial, trivial⟩ rfl
  have released := releases.step (a := Action.advance (.release first 1 2 0 false) .allGranted)
    ⟨trivial, fun _ ⟨_, member, _⟩ => nomatch member⟩ rfl
  have checked' := released.step (a := Action.advance (sampleClaim second .entered) .allGranted)
    ⟨trivial, fun _ => nofun⟩ rfl
  have accepted' := checked'.step (a := Action.advance (sampleClaim second (.checked false)) .allGranted)
    ⟨trivial, trivial⟩ rfl
  have registered' := accepted'.step (a := Action.advance (sampleClaim second (.claimed false 0)) .allGranted)
    ⟨⟨rfl, rfl⟩, trivial⟩ rfl
  refine ⟨_, _, ?_, fun t' held => (exclusive_claim_mutual_exclusion registered).1 1 2 0 _ t' ?_ held, ?_,
    fun t' held => (exclusive_claim_mutual_exclusion registered').1 1 2 0 _ t' ?_ held⟩
  all_goals exact List.mem_cons_self ..

/-- Two clients pass the check of a free interface before either registers, and both hold it. -/
theorem exclusive_claim_held_twice :
    ¬ ∀ w, Reach World.step registers {} w →
      ∀ b d i t t', (makeClaimKey b d i, t) ∈ w.holders → (makeClaimKey b d i, t') ∈ w.holders → t = t' := by
  intro exclusive
  let first : TokenId := ⟨5, by decide⟩
  let second : TokenId := ⟨6, by decide⟩
  let run : List Action :=
    [.start (.addDevice 1 2), .start (sampleClaim first .entered), .start (sampleClaim second .entered),
      .advance (sampleClaim first .entered) .allGranted, .advance (sampleClaim second .entered) .allGranted,
      .advance (sampleClaim first (.checked false)) .allGranted,
      .advance (sampleClaim second (.checked false)) .allGranted,
      .advance (sampleClaim first (.claimed false 0)) .allGranted,
      .advance (sampleClaim second (.claimed false 0)) .allGranted]
  have allowed : ∀ a ∈ run, ∀ w, registers w a := by
    intro a member w
    simp only [run, List.mem_cons, List.not_mem_nil, or_false] at member
    rcases member with rfl | rfl | rfl | rfl | rfl | rfl | rfl | rfl | rfl <;> trivial
  have reached : Reach World.step registers {} _ := reach_of_runFrom run allowed .init rfl
  have same := exclusive _ reached 1 2 0 second first (List.mem_cons_self ..)
    (List.mem_cons_of_mem _ (List.mem_cons_self ..))
  exact absurd same (by decide)

end UsbManager.Claim
