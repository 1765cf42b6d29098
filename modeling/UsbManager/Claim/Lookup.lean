import UsbManager.Claim.State

/-!
# What each critical section does to each entry

One lemma for each section of `Claim/State.lean`: the entry found under an arbitrary key after
it, in terms of the entry found there before. A section for one interface changes that key
only, and a sweep for one device changes the keys of that device only. The owner and the
normal flag of a key, with an absent entry read as unclaimed, follow from these.
-/

namespace UsbManager.Claim

open Std (ExtTreeMap)

namespace ClaimTable

/-- The entry under `key`, with an absent one read as `ClaimInterfaceState{}`. -/
def entry (table : ClaimTable) (key : String) : ClaimInterfaceState := table.claimStateMap.getD key {}

/-- The token that holds the interface exclusively, or zero. -/
def owner (table : ClaimTable) (key : String) : UInt32 := (table.entry key).exclusiveOwner

/-- Some client has a normal claim on the interface. -/
def normal (table : ClaimTable) (key : String) : Bool := (table.entry key).normalClaimed

theorem entry_eq (table : ClaimTable) (key : String) :
    table.entry key = (table.claimStateMap[key]?).getD {} := by
  rw [entry, ExtTreeMap.getD_eq_getD_getElem?]

theorem owner_eq (table : ClaimTable) (key : String) :
    table.owner key = ((table.claimStateMap[key]?).getD {}).exclusiveOwner := by
  rw [owner, entry_eq]

theorem normal_eq (table : ClaimTable) (key : String) :
    table.normal key = ((table.claimStateMap[key]?).getD {}).normalClaimed := by
  rw [normal, entry_eq]

end ClaimTable

variable {b d i : UInt8} {t : TokenId} {table : ClaimTable}

/-- A normal claim sets the flag of its own entry, which it makes if it is not there. -/
theorem notifyExclusiveOwner_getElem? (key : String) :
    (notifyExclusiveOwner b d i t table).1.claimStateMap[key]? =
      if makeClaimKey b d i = key then some { table.entry key with normalClaimed := true }
      else table.claimStateMap[key]? := by
  simp only [notifyExclusiveOwner, ExtTreeMap.getElem?_insert, Std.LawfulEqCmp.compare_eq_iff_eq]
  split
  · next same => rw [← same]; rfl
  · rfl

/-- The owner is notified of the claim of another client. -/
theorem notifyExclusiveOwner_callback :
    (notifyExclusiveOwner b d i t table).2 =
      if table.owner (makeClaimKey b d i) ≠ 0 ∧ table.owner (makeClaimKey b d i) ≠ t then
        (table.entry (makeClaimKey b d i)).notifyCallback
      else none := rfl

/-- A registration sets the owner, unless it repeats one, and always the callback and the recipient. -/
theorem registerExclusiveCallback_getElem? {cb : Callback} {isRepeat : Bool} (key : String) :
    (registerExclusiveCallback b d i t (some cb) isRepeat true table).claimStateMap[key]? =
      if makeClaimKey b d i = key then
        some { table.entry key with
          exclusiveOwner := if isRepeat then table.owner key else t
          notifyCallback := some cb
          claimRecipient := some ⟨b, d, i, t⟩ }
      else table.claimStateMap[key]? := by
  simp only [registerExclusiveCallback, ExtTreeMap.getElem?_insert, Std.LawfulEqCmp.compare_eq_iff_eq,
    Bool.true_eq_false, if_false]
  split
  · next same => rw [← same]; rfl
  · rfl

/-- A sweep changes each selected entry by itself. -/
theorem sweep_getElem? {selects : String → ClaimInterfaceState → Bool}
    {next : ClaimInterfaceState → Option ClaimInterfaceState} (key : String) :
    (sweep selects next table).claimStateMap[key]? =
      (table.claimStateMap[key]?).bind fun state => if selects key state then next state else some state := by
  simp [sweep, ExtTreeMap.getElem?_filterMap]

/-- A close drops the exclusive claims of its client on its device. -/
theorem removeExclusiveClaimByDevice_getElem? (key : String) :
    (removeExclusiveClaimByDevice b d t table).claimStateMap[key]? =
      (table.claimStateMap[key]?).bind fun state =>
        if comparePrefix key (claimPrefix b d) = true ∧ state.exclusiveOwner = t then state.dropExclusive
        else some state := by
  rw [removeExclusiveClaimByDevice, sweep_getElem?]
  simp only [Bool.and_eq_true, beq_iff_eq]

/-- A detach erases every entry of its device. -/
theorem removeAllClaimByDevice_getElem? (key : String) :
    (removeAllClaimByDevice b d table).claimStateMap[key]? =
      if comparePrefix key (claimPrefix b d) then none else table.claimStateMap[key]? := by
  rw [removeAllClaimByDevice, sweep_getElem?]
  cases comparePrefix key (claimPrefix b d) <;> cases table.claimStateMap[key]? <;> simp

/-- What `releaseClaimState` leaves of an entry. -/
def releasedEntry (t : TokenId) (state : ClaimInterfaceState) : Option ClaimInterfaceState :=
  if state.exclusiveOwner = t then state.dropExclusive
  else if state.exclusiveOwner ≠ 0 then some { state with normalClaimed := false }
  else if state.normalClaimed then none
  else some state

/-- A release changes the entry of its interface. -/
theorem releaseClaimState_getElem? (key : String) :
    (releaseClaimState b d i t table).table.claimStateMap[key]? =
      if makeClaimKey b d i = key then (table.claimStateMap[key]?).bind (releasedEntry t)
      else table.claimStateMap[key]? := by
  by_cases same : makeClaimKey b d i = key
  · subst same
    simp only [releaseClaimState, if_true]
    cases found : table.claimStateMap[makeClaimKey b d i]? with
    | none => simp [found]
    | some state =>
      obtain ⟨owner, normal, cb, recipient⟩ := state
      simp only [Option.bind_some, releasedEntry, ClaimInterfaceState.dropExclusive]
      split_ifs <;> simp_all
  · simp only [releaseClaimState, if_neg same]
    cases table.claimStateMap[makeClaimKey b d i]? with
    | none => rfl
    | some state => dsimp only; split_ifs <;> simp [ExtTreeMap.getElem?_insert, ExtTreeMap.getElem?_erase, same]

/-- The death of a client drops its exclusive claim, if it still owns the interface. -/
theorem onRemoteDied_getElem? {r : ClaimDeathRecipient} {cb : Callback} (key : String) :
    (r.onRemoteDied cb table).1.claimStateMap[key]? =
      if r.key = key then
        (table.claimStateMap[key]?).bind fun state =>
          if state.exclusiveOwner = r.tokenId then state.dropExclusive else some state
      else table.claimStateMap[key]? := by
  by_cases same : r.key = key
  · subst same
    simp only [ClaimDeathRecipient.onRemoteDied, if_true]
    cases found : table.claimStateMap[r.key]? with
    | none => simp [found]
    | some state =>
      simp only [Option.bind_some, ClaimInterfaceState.dropExclusive]
      split_ifs <;> simp_all
  · simp only [ClaimDeathRecipient.onRemoteDied, if_neg same]
    cases table.claimStateMap[r.key]? with
    | none => rfl
    | some state => dsimp only; split_ifs <;> simp [ExtTreeMap.getElem?_insert, ExtTreeMap.getElem?_erase, same]

/-! ### Owner and normal flag -/

section Fields

variable {key : String}

open ClaimTable ClaimInterfaceState

/-- A normal claim changes no owner. -/
@[simp]
theorem notifyExclusiveOwner_owner : (notifyExclusiveOwner b d i t table).1.owner key = table.owner key := by
  rw [owner_eq, notifyExclusiveOwner_getElem?]
  split
  · rfl
  · rw [owner_eq]

@[simp]
theorem notifyExclusiveOwner_normal :
    (notifyExclusiveOwner b d i t table).1.normal key =
      if makeClaimKey b d i = key then true else table.normal key := by
  rw [normal_eq, notifyExclusiveOwner_getElem?]
  split
  · rfl
  · rw [normal_eq]

@[simp]
theorem registerExclusiveCallback_owner {cb : Callback} {isRepeat : Bool} :
    (registerExclusiveCallback b d i t (some cb) isRepeat true table).owner key =
      if makeClaimKey b d i = key ∧ isRepeat = false then t.1 else table.owner key := by
  rw [owner_eq, registerExclusiveCallback_getElem?]
  by_cases same : makeClaimKey b d i = key
  · cases isRepeat <;> simp [same]
  · simp [same, owner_eq]

/-- An exclusive claim changes no normal flag. -/
@[simp]
theorem registerExclusiveCallback_normal {cb : Callback} {isRepeat : Bool} :
    (registerExclusiveCallback b d i t (some cb) isRepeat true table).normal key = table.normal key := by
  rw [normal_eq, registerExclusiveCallback_getElem?]
  split
  · rfl
  · rw [normal_eq]

@[simp]
theorem removeExclusiveClaimByDevice_owner :
    (removeExclusiveClaimByDevice b d t table).owner key =
      if comparePrefix key (claimPrefix b d) = true ∧ table.owner key = t then 0 else table.owner key := by
  rw [owner_eq, owner_eq, removeExclusiveClaimByDevice_getElem?]
  cases table.claimStateMap[key]? with
  | none => simp
  | some state => simp only [Option.bind_some, Option.getD_some, dropExclusive, clearExclusive]; split_ifs <;> rfl

/-- A close keeps the normal flags. -/
@[simp]
theorem removeExclusiveClaimByDevice_normal :
    (removeExclusiveClaimByDevice b d t table).normal key = table.normal key := by
  rw [normal_eq, normal_eq, removeExclusiveClaimByDevice_getElem?]
  cases table.claimStateMap[key]? with
  | none => simp
  | some state =>
    simp only [Option.bind_some, Option.getD_some, dropExclusive, clearExclusive]
    split_ifs <;> simp_all

@[simp]
theorem removeAllClaimByDevice_owner :
    (removeAllClaimByDevice b d table).owner key =
      if comparePrefix key (claimPrefix b d) then 0 else table.owner key := by
  rw [owner_eq, owner_eq, removeAllClaimByDevice_getElem?]
  split <;> rfl

@[simp]
theorem removeAllClaimByDevice_normal :
    (removeAllClaimByDevice b d table).normal key =
      if comparePrefix key (claimPrefix b d) then false else table.normal key := by
  rw [normal_eq, normal_eq, removeAllClaimByDevice_getElem?]
  split <;> rfl

/-- A release clears the owner only where it is the owner's. -/
@[simp]
theorem releaseClaimState_owner :
    (releaseClaimState b d i t table).table.owner key =
      if makeClaimKey b d i = key ∧ table.owner key = t then 0 else table.owner key := by
  rw [owner_eq, owner_eq, releaseClaimState_getElem?]
  by_cases same : makeClaimKey b d i = key
  · cases table.claimStateMap[key]? with
    | none => simp [same]
    | some state =>
      simp only [same, if_true, true_and, Option.bind_some, Option.getD_some, releasedEntry, dropExclusive,
        clearExclusive]
      split_ifs <;> simp_all
  · simp [same]

/-- A release that is not the owner's clears the normal flag, whoever set it. -/
@[simp]
theorem releaseClaimState_normal :
    (releaseClaimState b d i t table).table.normal key =
      if makeClaimKey b d i = key ∧ table.owner key ≠ t then false else table.normal key := by
  rw [normal_eq, normal_eq, owner_eq, releaseClaimState_getElem?]
  by_cases same : makeClaimKey b d i = key
  · cases table.claimStateMap[key]? with
    | none => simp [same]
    | some state =>
      simp only [same, if_true, true_and, Option.bind_some, Option.getD_some, releasedEntry, dropExclusive,
        clearExclusive]
      split_ifs <;> simp_all
  · simp [same]

@[simp]
theorem onRemoteDied_owner {r : ClaimDeathRecipient} {cb : Callback} :
    (r.onRemoteDied cb table).1.owner key =
      if r.key = key ∧ table.owner key = r.tokenId then 0
      else table.owner key := by
  rw [owner_eq, owner_eq, onRemoteDied_getElem?]
  by_cases same : r.key = key
  · cases table.claimStateMap[key]? with
    | none => simp [same]
    | some state =>
      simp only [same, if_true, true_and, Option.bind_some, Option.getD_some, dropExclusive, clearExclusive]
      split_ifs <;> rfl
  · simp [same]

/-- A death keeps the normal flags. -/
@[simp]
theorem onRemoteDied_normal {r : ClaimDeathRecipient} {cb : Callback} :
    (r.onRemoteDied cb table).1.normal key = table.normal key := by
  rw [normal_eq, normal_eq, onRemoteDied_getElem?]
  split
  · cases table.claimStateMap[key]? with
    | none => rfl
    | some state =>
      simp only [Option.bind_some, Option.getD_some, dropExclusive, clearExclusive]
      split_ifs <;> simp_all
  · rfl

/-- When a release is accepted. -/
theorem releaseClaimState_ret :
    (releaseClaimState b d i t table).ret = .uecOk ↔
      table.owner (makeClaimKey b d i) = t ∨ table.owner (makeClaimKey b d i) = 0 ∨
        table.normal (makeClaimKey b d i) = true := by
  rw [owner_eq, normal_eq]
  cases found : table.claimStateMap[makeClaimKey b d i]? with
  | none => simp [releaseClaimState, found]
  | some state =>
    simp only [releaseClaimState, found, Option.getD_some]
    split_ifs <;> simp_all

/-- When an accepted release goes on to the driver. -/
theorem releaseClaimState_releaseToHdi (ok : (releaseClaimState b d i t table).ret = .uecOk) :
    (releaseClaimState b d i t table).releaseToHdi = true ↔
      (table.owner (makeClaimKey b d i) = t ∧ table.normal (makeClaimKey b d i) = false) ∨
        table.owner (makeClaimKey b d i) = 0 := by
  have nonzero := t.2
  rw [owner_eq, normal_eq]
  cases found : table.claimStateMap[makeClaimKey b d i]? with
  | none => simp [releaseClaimState, found]
  | some state =>
    simp only [releaseClaimState, found, Option.getD_some] at ok ⊢
    split_ifs at ok ⊢ <;> simp_all

/-- The driver is told of a death that ends the last claim on the interface. -/
theorem onRemoteDied_needReleaseHdi {r : ClaimDeathRecipient} {cb : Callback} :
    (r.onRemoteDied cb table).2 = true ↔
      table.owner r.key = r.tokenId ∧
        table.normal r.key = false := by
  have nonzero := r.tokenId.2
  rw [owner_eq, normal_eq]
  cases found : table.claimStateMap[r.key]? with
  | none => simp [ClaimDeathRecipient.onRemoteDied, found, nonzero.symm]
  | some state =>
    simp only [ClaimDeathRecipient.onRemoteDied, found, Option.getD_some]
    split_ifs <;> simp_all

end Fields

end UsbManager.Claim
