import UsbManager.Claim.Sections
import UsbManager.Lib.Transition

/-!
# The representation invariant of the claim table

Every entry that operations run one at a time can leave behind records a claim, and its owner,
its callback and its death recipient are present together. The owner of an interface changes
only through the operations that end the owner's claim, and a normal claim by someone else
reaches the callback the owner registered last.
-/

namespace UsbManager.Claim

open Std (ExtTreeMap)
open Transition

/-- The entries `claimStateMap_` may hold. -/
structure ClaimInterfaceState.WellFormed (state : ClaimInterfaceState) : Prop where
  claimed : state.exclusiveOwner ≠ 0 ∨ state.normalClaimed = true
  callback : state.exclusiveOwner ≠ 0 ↔ state.notifyCallback.isSome = true
  recipient : state.notifyCallback.isSome = true ↔ state.claimRecipient.isSome = true

/-- Every entry of the table satisfies `p`. -/
def ClaimTable.Entries (p : String → ClaimInterfaceState → Prop) (table : ClaimTable) : Prop :=
  ∀ key state, table.claimStateMap[key]? = some state → p key state

theorem ClaimTable.entries_empty (p : String → ClaimInterfaceState → Prop) : ({} : ClaimTable).Entries p := by
  intro key state found
  simp at found

/-- The lookup of an absent or present entry before a section that creates one. -/
theorem ClaimTable.Entries.entry {p : String → ClaimInterfaceState → Prop} {table : ClaimTable}
    (entries : table.Entries p) (key : String) : table.entry key = {} ∨ p key (table.entry key) := by
  rw [ClaimTable.entry_eq]
  cases found : table.claimStateMap[key]? with
  | none => exact .inl rfl
  | some state => exact .inr (entries key state found)

/-! ### What one entry may become -/

section Entry

open ClaimInterfaceState

variable {state : ClaimInterfaceState}

theorem wellFormed_clearExclusive (normal : state.normalClaimed = true) :
    state.clearExclusive.WellFormed := by
  constructor <;> simp [clearExclusive, normal]

theorem wellFormed_normal (wf : state = {} ∨ state.WellFormed) :
    { state with normalClaimed := true }.WellFormed := by
  rcases wf with rfl | wf
  · constructor <;> simp
  · exact ⟨.inr rfl, wf.callback, wf.recipient⟩

theorem wellFormed_notNormal (wf : state.WellFormed) (owned : state.exclusiveOwner ≠ 0) :
    { state with normalClaimed := false }.WellFormed :=
  ⟨.inl owned, wf.callback, wf.recipient⟩

theorem wellFormed_registered {owner : UInt32} {cb : Callback} {r : ClaimDeathRecipient} (owned : owner ≠ 0) :
    { state with exclusiveOwner := owner, notifyCallback := some cb, claimRecipient := some r }.WellFormed := by
  constructor <;> simp [owned]

end Entry

/-! ### One operation -/

theorem EntryStep.wellFormed {op : Op} {table : ClaimTable} {key : String} {state : ClaimInterfaceState}
    (origin : EntryStep table key op state) (wf : table.Entries fun _ => ClaimInterfaceState.WellFormed) :
    state.WellFormed := by
  cases origin with
  | kept before => exact wf key _ before
  | cleared before normal => exact wellFormed_clearExclusive normal
  | denormalized before owned => exact wellFormed_notNormal (wf key _ before) owned
  | normalized => exact wellFormed_normal (wf.entry key)
  | @registered t => exact wellFormed_registered t.2

/-- The operations that end the exclusive claim of `t` on an interface: its own release of it or
close of the device, its death, and the removal of the device. -/
def Op.EndsClaim (b d i : UInt8) (t : TokenId) : Op → Prop
  | .releaseInterface t' b' d' i' => t' = t ∧ b' = b ∧ d' = d ∧ i' = i
  | .close t' b' d' => t' = t ∧ b' = b ∧ d' = d
  | .onRemoteDied _ r => r.tokenId = t
  | .delDevice _ b' d' => b' = b ∧ d' = d
  | _ => False

/-- An owner stays unless the operation ends its claim. -/
theorem Sections.owner_kept {op : Op} {table after : ClaimTable} {b d i : UInt8} {t : TokenId}
    (sections : Sections table op after) (owned : table.owner (makeClaimKey b d i) = t)
    (other : ¬ op.EndsClaim b d i t) : after.owner (makeClaimKey b d i) = t := by
  cases sections with
  | skip => exact owned
  | notified => rw [notifyExclusiveOwner_owner, owned]
  | @registered t' b' d' i' _ _ isRepeat checked =>
    rw [registerExclusiveCallback_owner]
    split
    · next fresh =>
      -- a claim that is not a repeat found the interface without an owner
      obtain ⟨same, rfl⟩ := fresh
      have free := (checkExclusiveClaim_fresh checked).1
      rw [same, owned] at free
      exact absurd free t.2
    · exact owned
  | @released t' b' d' i' =>
    rw [releaseClaimState_owner]
    split
    · next ended =>
      obtain ⟨same, mine⟩ := ended
      obtain ⟨rfl, rfl, rfl⟩ := makeClaimKey_inj.1 same
      exact absurd ⟨Subtype.ext (mine.symm.trans owned), rfl, rfl, rfl⟩ other
    · exact owned
  | @closed t' b' d' =>
    rw [removeExclusiveClaimByDevice_owner]
    split
    · next ended =>
      obtain ⟨same, mine⟩ := ended
      obtain ⟨rfl, rfl⟩ := comparePrefix_makeClaimKey.1 same
      exact absurd ⟨Subtype.ext (mine.symm.trans owned), rfl, rfl⟩ other
    · exact owned
  | died =>
    rw [onRemoteDied_owner]
    split
    · next ended => exact absurd (Subtype.ext (ended.2.symm.trans owned)) other
    · exact owned
  | @removed _ b' d' | @removedClosed _ b' d' =>
    have kept : ¬ comparePrefix (makeClaimKey b d i) (claimPrefix b' d') = true := by
      intro same
      exact other (comparePrefix_makeClaimKey.1 same)
    simp [kept, owned]

/-! ### Runs -/

/-- A callback recorded by `RegisterExclusiveCallback`. -/
structure Registration where
  key : String
  tokenId : TokenId
  cb : Callback

/-- A claim table with the registrations that led to it, newest first. -/
structure Session where
  table : ClaimTable := {}
  registrations : List Registration := []

/-- The registration a call makes: the caller got `UEC_OK` for a callback that was installed. -/
def Op.registration (op : Op) (env : Env) (ret : UsbErrCode) : Option Registration :=
  match op with
  | .claimInterfaceExclusive t b d i _ (some cb) =>
    if ret = .uecOk ∧ env.addDeathRecipient = true then some ⟨makeClaimKey b d i, t, cb⟩ else none
  | _ => none

def Session.step (s : Session) (call : Op × Env) : Option Session :=
  let outcome := call.1.exec call.2 s.table
  some ⟨outcome.table, (call.1.registration call.2 outcome.ret).toList ++ s.registrations⟩

/-- The callback that `owner` registered last for `key`. -/
def latestCallback (registrations : List Registration) (key : String) (owner : UInt32) : Option Callback :=
  (registrations.find? fun r => r.key == key && r.tokenId.1 == owner).map (·.cb)

/-- Entries are well formed, and an owned entry holds the owner's latest callback. -/
structure Session.Inv (s : Session) : Prop where
  wellFormed : s.table.Entries fun _ => ClaimInterfaceState.WellFormed
  latest : s.table.Entries fun key state =>
    state.exclusiveOwner ≠ 0 → latestCallback s.registrations key state.exclusiveOwner = state.notifyCallback

theorem latestCallback_cons {registration : Registration} {registrations : List Registration} {key : String}
    {owner : UInt32} :
    latestCallback (registration :: registrations) key owner =
      if registration.key = key ∧ registration.tokenId.1 = owner then some registration.cb
      else latestCallback registrations key owner := by
  unfold latestCallback
  rw [List.find?_cons]
  split <;> simp_all

/-- A call that registers leaves the registered entry, and changes no other. -/
theorem registration_entry {op : Op} {env : Env} {table : ClaimTable} {registration : Registration} {key : String}
    {state : ClaimInterfaceState}
    (made : op.registration env (op.exec env table).ret = some registration)
    (found : (op.exec env table).table.claimStateMap[key]? = some state) :
    (registration.key = key ∧ state.exclusiveOwner = registration.tokenId ∧
      state.notifyCallback = some registration.cb) ∨
    (registration.key ≠ key ∧ table.claimStateMap[key]? = some state) := by
  obtain ⟨t, b, d, i, force, cb, rfl⟩ : ∃ t b d i force cb, op = .claimInterfaceExclusive t b d i force (some cb) := by
    unfold Op.registration at made
    split at made
    · exact ⟨_, _, _, _, _, _, rfl⟩
    · cases made
  simp only [Op.registration, Option.ite_none_right_eq_some, Option.some.injEq] at made
  obtain ⟨⟨ok, added⟩, rfl⟩ := made
  rcases claimInterfaceExclusive_cases t b d i force (some cb) env table with ⟨isRepeat, checked, -, left⟩ | ⟨failed, -⟩
  · rw [Op.exec, left, added, registerExclusiveCallback_getElem?] at found
    by_cases same : makeClaimKey b d i = key
    · rw [if_pos same] at found
      cases found
      refine .inl ⟨same, ?_, rfl⟩
      cases isRepeat with
      | false => rfl
      | true => rw [← same]; exact checkExclusiveClaim_repeat checked
    · rw [if_neg same] at found
      exact .inr ⟨same, found⟩
  · exact absurd ok failed

/-- An exclusive claim that registers nothing leaves the table alone. -/
theorem exec_table_of_registration_none {t : TokenId} {b d i force : UInt8} {cb : Option Callback} {env : Env}
    {table : ClaimTable}
    (nothing : (Op.claimInterfaceExclusive t b d i force cb).registration env
      (claimInterfaceExclusive t b d i force cb env table).ret = none) :
    (claimInterfaceExclusive t b d i force cb env table).table = table := by
  rcases claimInterfaceExclusive_cases t b d i force cb env table with ⟨isRepeat, -, ok, left⟩ | ⟨-, left⟩
  · rw [left]
    cases cb with
    | none => rfl
    | some cb =>
      have notAdded : env.addDeathRecipient = false := by simpa [Op.registration, ok] using nothing
      simp [registerExclusiveCallback, notAdded]
  · exact left

theorem Session.Inv.step {s s' : Session} {call : Op × Env} (inv : s.Inv) (taken : s.step call = some s') :
    s'.Inv := by
  obtain ⟨op, env⟩ := call
  cases taken
  have sections := op.exec_sections env s.table
  refine ⟨fun key state found => (sections.entry found).wellFormed inv.wellFormed, ?_⟩
  intro key state found owned
  change latestCallback ((op.registration env (op.exec env s.table).ret).toList ++ s.registrations) key _ = _
  cases made : op.registration env (op.exec env s.table).ret with
  | some registration =>
    rw [Option.toList_some, List.singleton_append, latestCallback_cons]
    rcases registration_entry made found with ⟨same, owner, notify⟩ | ⟨other, before⟩
    · rw [if_pos ⟨same, owner.symm⟩, notify]
    · rw [if_neg (fun h => other h.1)]
      exact inv.latest key state before owned
  | none =>
    rw [Option.toList_none, List.nil_append]
    cases sections.entry found with
    | kept before => exact inv.latest key _ before owned
    | cleared => exact absurd rfl owned
    | @denormalized _ state before nonzero => exact inv.latest key state before nonzero
    | normalized same =>
      rcases inv.latest.entry key with absent | latest
      · rw [absent] at owned
        exact absurd rfl owned
      · exact latest owned
    | registered same checked =>
      rw [Op.exec, exec_table_of_registration_none made] at found
      exact inv.latest key _ found owned

theorem Session.inv_of_reach {s : Session} (reached : Reach Session.step anyStep {} s) : s.Inv :=
  Reach.invariant Session.Inv ⟨ClaimTable.entries_empty _, ClaimTable.entries_empty _⟩
    (fun _ _ _ inv _ taken => inv.step taken) reached

/-- A normal claim by another client reaches the callback of the owner's entry, once. -/
theorem claimInterface_notifies {s : Session} {t t' : TokenId} {b d i force : UInt8} {env : Env} (inv : s.Inv)
    (other : t' ≠ t) (owned : s.table.owner (makeClaimKey b d i) = t)
    (ok : (claimInterface t' b d i force env s.table).ret = .uecOk) :
    ∃ cb, latestCallback s.registrations (makeClaimKey b d i) t = some cb ∧
      (claimInterface t' b d i force env s.table).effects =
        [.hdi (.claimInterface b d i force), .onConflict cb b d i] := by
  rcases claimInterface_cases t' b d i force env s.table with ⟨-, -, effects⟩ | ⟨failed, -⟩
  · rcases inv.latest.entry (makeClaimKey b d i) with absent | latest
    · rw [ClaimTable.owner, absent] at owned
      exact absurd owned.symm t.2
    have nonzero : s.table.owner (makeClaimKey b d i) ≠ 0 := by rw [owned]; exact t.2
    have wf : (s.table.entry (makeClaimKey b d i)).WellFormed := by
      rcases inv.wellFormed.entry (makeClaimKey b d i) with absent | wf
      · rw [ClaimTable.owner, absent] at nonzero
        exact absurd rfl nonzero
      · exact wf
    obtain ⟨cb, notify⟩ := Option.isSome_iff_exists.1 (wf.callback.1 nonzero)
    refine ⟨cb, ?_, ?_⟩
    · rw [← owned, ← notify]
      exact latest nonzero
    · have foreign : s.table.owner (makeClaimKey b d i) ≠ t' := by
        rw [owned]
        exact fun same => other (Subtype.ext same.symm)
      rw [effects, notifyExclusiveOwner_callback, if_pos ⟨nonzero, foreign⟩, notify]
      rfl
  · exact absurd ok failed

/-- The claim table over every sequential history: its entries are well formed, an owner loses its
claim only by an operation that ends it, and a successful normal claim of another client notifies
the owner's latest callback exactly once and leaves the owner. -/
theorem claimState_representation {s : Session} (reached : Reach Session.step anyStep {} s) :
    (s.table.Entries fun _ state => state.WellFormed) ∧
    (∀ op env s' b d i (t : TokenId), s.step (op, env) = some s' →
      s.table.owner (makeClaimKey b d i) = t → s'.table.owner (makeClaimKey b d i) ≠ t →
      op.EndsClaim b d i t) ∧
    (∀ (t t' : TokenId) b d i force env, t' ≠ t → s.table.owner (makeClaimKey b d i) = t →
      (claimInterface t' b d i force env s.table).ret = .uecOk →
      (∃ cb, latestCallback s.registrations (makeClaimKey b d i) t = some cb ∧
        (claimInterface t' b d i force env s.table).effects =
          [.hdi (.claimInterface b d i force), .onConflict cb b d i]) ∧
      (claimInterface t' b d i force env s.table).table.owner (makeClaimKey b d i) = t) := by
  have inv := Session.inv_of_reach reached
  refine ⟨inv.wellFormed, ?_, ?_⟩
  · intro op env s' b d i t taken owned lost
    cases taken
    by_contra other
    exact lost ((op.exec_sections env s.table).owner_kept owned other)
  · intro t t' b d i force env other owned ok
    refine ⟨claimInterface_notifies inv other owned ok, ?_⟩
    exact ((Op.claimInterface t' b d i force).exec_sections env s.table).owner_kept owned id

theorem claimState_representation_two_clients :
    ∃ s, Session.step {} (.claimInterfaceExclusive ⟨5, by decide⟩ 1 2 0 1 (some 7), .allGranted) = some s ∧
      (claimInterface ⟨6, by decide⟩ 1 2 0 1 .allGranted s.table).effects =
        [.hdi (.claimInterface 1 2 0 1), .onConflict 7 1 2 0] := by
  let call : Op × Env := (.claimInterfaceExclusive ⟨5, by decide⟩ 1 2 0 1 (some 7), .allGranted)
  refine ⟨_, rfl, ?_⟩
  obtain ⟨⟨cb, latest, effects⟩, -⟩ :=
    (claimState_representation (.step (a := call) .init trivial rfl)).2.2 ⟨5, by decide⟩ ⟨6, by decide⟩ 1 2 0 1
      .allGranted (by decide) (by decide +kernel) (by decide +kernel)
  have newest : some cb = some 7 := latest.symm.trans (by decide +kernel)
  rw [effects, Option.some.inj newest]

end UsbManager.Claim
