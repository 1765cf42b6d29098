import UsbManager.Claim.Lookup
import UsbManager.Claim.Operations

/-!
# What one operation can do to the claim table

`Sections` lists, for each operation, the critical sections it may go through whatever its
environment answers, and `EntryStep` where an entry found afterwards comes from. Invariants of
sequential runs are case splits over these two.
-/

namespace UsbManager.Claim

/-- The table an operation leaves, as the critical sections it went through. -/
inductive Sections (table : ClaimTable) : Op → ClaimTable → Prop where
  | skip {op : Op} : Sections table op table
  | notified {t : TokenId} {b d i force : UInt8} :
      Sections table (.claimInterface t b d i force) (notifyExclusiveOwner b d i t table).1
  | registered {t : TokenId} {b d i force : UInt8} {cb : Callback} {isRepeat : Bool} :
      checkExclusiveClaim b d i t table = .ok isRepeat →
      Sections table (.claimInterfaceExclusive t b d i force (some cb))
        (registerExclusiveCallback b d i t (some cb) isRepeat true table)
  | released {t : TokenId} {b d i : UInt8} :
      Sections table (.releaseInterface t b d i) (releaseClaimState b d i t table).table
  | closed {t : TokenId} {b d : UInt8} :
      Sections table (.close t b d) (removeExclusiveClaimByDevice b d t table)
  | died {cb : Callback} {r : ClaimDeathRecipient} :
      Sections table (.onRemoteDied cb r) (r.onRemoteDied cb table).1
  | removed {t : TokenId} {b d : UInt8} :
      Sections table (.delDevice t b d) (removeAllClaimByDevice b d table)
  | removedClosed {t : TokenId} {b d : UInt8} :
      Sections table (.delDevice t b d)
        (removeExclusiveClaimByDevice b d t (removeAllClaimByDevice b d table))

theorem claimInterface_cases (t : TokenId) (b d i force : UInt8) (env : Env) (table : ClaimTable) :
    ((claimInterface t b d i force env table).ret = .uecOk ∧
      (claimInterface t b d i force env table).table = (notifyExclusiveOwner b d i t table).1 ∧
      (claimInterface t b d i force env table).effects = .hdi (.claimInterface b d i force) ::
        (notifyExclusiveOwner b d i t table).2.toList.map (.onConflict · b d i)) ∨
    ((claimInterface t b d i force env table).ret ≠ .uecOk ∧
      (claimInterface t b d i force env table).table = table) := by
  obtain ⟨permitted, host, added⟩ := env
  cases permitted
  · exact .inr ⟨by simp [claimInterface], rfl⟩
  cases host with
  | null => simp [claimInterface, HostManager.isNull]
  | noInterface => simp [claimInterface, HostManager.isNull, HostManager.call]
  | driver answer =>
    by_cases ok : answer (.claimInterface b d i force) = .uecOk <;>
      simp [claimInterface, HostManager.isNull, HostManager.call, ok]

/-- A refused check is an error of the call. -/
theorem checkExclusiveClaim_error {b d i : UInt8} {t : TokenId} {table : ClaimTable} {busy : UsbErrCode}
    (checked : checkExclusiveClaim b d i t table = .error busy) : busy ≠ .uecOk := by
  unfold checkExclusiveClaim at checked
  split at checked
  · cases checked
  · split_ifs at checked <;> cases checked <;> decide

theorem claimInterfaceExclusive_cases (t : TokenId) (b d i force : UInt8) (cb : Option Callback) (env : Env)
    (table : ClaimTable) :
    (∃ isRepeat, checkExclusiveClaim b d i t table = .ok isRepeat ∧
      (claimInterfaceExclusive t b d i force cb env table).ret = .uecOk ∧
      (claimInterfaceExclusive t b d i force cb env table).table =
        registerExclusiveCallback b d i t cb isRepeat env.addDeathRecipient table) ∨
    ((claimInterfaceExclusive t b d i force cb env table).ret ≠ .uecOk ∧
      (claimInterfaceExclusive t b d i force cb env table).table = table) := by
  obtain ⟨permitted, host, added⟩ := env
  cases permitted
  · exact .inr ⟨by simp [claimInterfaceExclusive], rfl⟩
  cases checked : checkExclusiveClaim b d i t table with
  | error busy =>
    have refused := checkExclusiveClaim_error checked
    cases host <;> simp [claimInterfaceExclusive, HostManager.isNull, checked, refused]
  | ok isRepeat =>
    cases host with
    | null => simp [claimInterfaceExclusive, HostManager.isNull]
    | noInterface => simp [claimInterfaceExclusive, HostManager.isNull, HostManager.call, checked]
    | driver answer =>
      by_cases ok : answer (.claimInterface b d i force) = .uecOk <;>
        simp [claimInterfaceExclusive, HostManager.isNull, HostManager.call, checked, ok]

theorem close_table (t : TokenId) (b d : UInt8) (env : Env) (table : ClaimTable) :
    (close t b d env table).table =
      if env.permitted then removeExclusiveClaimByDevice b d t table else table := by
  unfold close
  cases env.permitted <;> simp only [Bool.false_eq_true, if_true, if_false, reduceCtorEq]
  split <;> rfl

theorem releaseInterface_table (t : TokenId) (b d i : UInt8) (env : Env) (table : ClaimTable) :
    (releaseInterface t b d i env table).table =
      if env.permitted then (releaseClaimState b d i t table).table else table := by
  unfold releaseInterface
  cases env.permitted <;> simp only [Bool.false_eq_true, if_true, if_false, reduceCtorEq]
  split
  · rfl
  · split
    · rfl
    · split <;> rfl

theorem onRemoteDied_table (cb : Callback) (r : ClaimDeathRecipient) (env : Env) (table : ClaimTable) :
    (onRemoteDied cb r env table).table = (r.onRemoteDied cb table).1 := by
  unfold onRemoteDied
  dsimp only
  split <;> rfl

theorem Op.exec_sections (op : Op) (env : Env) (table : ClaimTable) :
    Sections table op (op.exec env table).table := by
  cases op with
  | claimInterface t b d i force =>
    rcases claimInterface_cases t b d i force env table with ⟨-, left, -⟩ | ⟨-, left⟩
    · rw [Op.exec, left]
      exact .notified
    · rw [Op.exec, left]
      exact .skip
  | claimInterfaceExclusive t b d i force cb =>
    rcases claimInterfaceExclusive_cases t b d i force cb env table with ⟨isRepeat, checked, -, left⟩ | ⟨-, left⟩
    · rw [Op.exec, left]
      cases cb with
      | none => exact .skip
      | some cb =>
        cases env.addDeathRecipient with
        | false => exact .skip
        | true => exact .registered checked
    · rw [Op.exec, left]
      exact .skip
  | releaseInterface t b d i =>
    rw [Op.exec, releaseInterface_table]
    split
    · exact .released
    · exact .skip
  | close t b d =>
    rw [Op.exec, close_table]
    split
    · exact .closed
    · exact .skip
  | onRemoteDied cb r =>
    rw [Op.exec, onRemoteDied_table]
    exact .died
  | delDevice t b d =>
    rw [Op.exec, Claim.delDevice, close_table]
    split
    · exact .removedClosed
    · exact .removed

/-! ### The check of an exclusive claim -/

theorem checkExclusiveClaim_repeat {b d i : UInt8} {t : TokenId} {table : ClaimTable}
    (checked : checkExclusiveClaim b d i t table = .ok true) : table.owner (makeClaimKey b d i) = t := by
  rw [ClaimTable.owner_eq]
  unfold checkExclusiveClaim at checked
  cases found : table.claimStateMap[makeClaimKey b d i]? with
  | none => simp [found] at checked
  | some state =>
    simp only [found] at checked
    split_ifs at checked with same
    · exact same
    · cases checked

theorem checkExclusiveClaim_fresh {b d i : UInt8} {t : TokenId} {table : ClaimTable}
    (checked : checkExclusiveClaim b d i t table = .ok false) :
    table.owner (makeClaimKey b d i) = 0 ∧ table.normal (makeClaimKey b d i) = false := by
  rw [ClaimTable.owner_eq, ClaimTable.normal_eq]
  unfold checkExclusiveClaim at checked
  cases found : table.claimStateMap[makeClaimKey b d i]? with
  | none => exact ⟨rfl, rfl⟩
  | some state =>
    simp only [found] at checked
    split_ifs at checked with same owned normal
    · cases checked
    · exact ⟨not_not.1 owned, by simpa using normal⟩

/-! ### Where an entry comes from -/

theorem ClaimInterfaceState.dropExclusive_eq_some {state after : ClaimInterfaceState} :
    state.dropExclusive = some after ↔ state.normalClaimed = true ∧ state.clearExclusive = after := by
  unfold dropExclusive
  split <;> simp_all

theorem releasedEntry_eq_some {t : TokenId} {state after : ClaimInterfaceState} :
    releasedEntry t state = some after ↔
      (state.exclusiveOwner = t ∧ state.normalClaimed = true ∧ state.clearExclusive = after) ∨
      (state.exclusiveOwner ≠ t ∧ state.exclusiveOwner ≠ 0 ∧ { state with normalClaimed := false } = after) ∨
      (state.exclusiveOwner ≠ t ∧ state.exclusiveOwner = 0 ∧ state.normalClaimed = false ∧ state = after) := by
  unfold releasedEntry
  split_ifs <;> simp_all [ClaimInterfaceState.dropExclusive_eq_some]

/-- The origin of the entry under `key` after `op`, if there is one. -/
inductive EntryStep (table : ClaimTable) (key : String) : Op → ClaimInterfaceState → Prop where
  | kept {op : Op} {state : ClaimInterfaceState} :
      table.claimStateMap[key]? = some state → EntryStep table key op state
  | cleared {op : Op} {state : ClaimInterfaceState} :
      table.claimStateMap[key]? = some state → state.normalClaimed = true →
      EntryStep table key op state.clearExclusive
  | denormalized {op : Op} {state : ClaimInterfaceState} :
      table.claimStateMap[key]? = some state → state.exclusiveOwner ≠ 0 →
      EntryStep table key op { state with normalClaimed := false }
  | normalized {t : TokenId} {b d i force : UInt8} :
      makeClaimKey b d i = key →
      EntryStep table key (.claimInterface t b d i force) { table.entry key with normalClaimed := true }
  | registered {t : TokenId} {b d i force : UInt8} {cb : Callback} {isRepeat : Bool} :
      makeClaimKey b d i = key → checkExclusiveClaim b d i t table = .ok isRepeat →
      EntryStep table key (.claimInterfaceExclusive t b d i force (some cb))
        { table.entry key with
          exclusiveOwner := t, notifyCallback := some cb, claimRecipient := some ⟨b, d, i, t⟩ }

/-- The origin of what an exclusive claim that is dropped, if it is, leaves. -/
theorem EntryStep.of_dropped {op : Op} {table : ClaimTable} {key : String} {state after : ClaimInterfaceState}
    {dropped : Prop} [Decidable dropped] (before : table.claimStateMap[key]? = some state)
    (found : (if dropped then state.dropExclusive else some state) = some after) : EntryStep table key op after := by
  split at found
  · obtain ⟨normal, rfl⟩ := ClaimInterfaceState.dropExclusive_eq_some.1 found
    exact .cleared before normal
  · cases found
    exact .kept before

theorem removeExclusiveClaimByDevice_entry {b d : UInt8} {t : TokenId} {table : ClaimTable} {key : String}
    {after : ClaimInterfaceState} (op : Op)
    (found : (removeExclusiveClaimByDevice b d t table).claimStateMap[key]? = some after) :
    EntryStep table key op after := by
  rw [removeExclusiveClaimByDevice_getElem?] at found
  obtain ⟨state, before, found⟩ := Option.bind_eq_some_iff.1 found
  exact .of_dropped before found

theorem removeAllClaimByDevice_entry {b d : UInt8} {table : ClaimTable} {key : String}
    {after : ClaimInterfaceState}
    (found : (removeAllClaimByDevice b d table).claimStateMap[key]? = some after) :
    table.claimStateMap[key]? = some after := by
  rw [removeAllClaimByDevice_getElem?] at found
  split at found
  · cases found
  · exact found

theorem releaseClaimState_entry {b d i : UInt8} {t : TokenId} {table : ClaimTable} {key : String}
    {after : ClaimInterfaceState} (op : Op)
    (found : (releaseClaimState b d i t table).table.claimStateMap[key]? = some after) :
    EntryStep table key op after := by
  rw [releaseClaimState_getElem?] at found
  split at found
  · obtain ⟨state, before, found⟩ := Option.bind_eq_some_iff.1 found
    rcases releasedEntry_eq_some.1 found with ⟨-, normal, rfl⟩ | ⟨-, owned, rfl⟩ | ⟨-, -, -, rfl⟩
    · exact .cleared before normal
    · exact .denormalized before owned
    · exact .kept before
  · exact .kept found

theorem onRemoteDied_entry {cb : Callback} {r : ClaimDeathRecipient} {table : ClaimTable} {key : String}
    {after : ClaimInterfaceState} (op : Op)
    (found : (r.onRemoteDied cb table).1.claimStateMap[key]? = some after) :
    EntryStep table key op after := by
  rw [onRemoteDied_getElem?] at found
  split at found
  · obtain ⟨state, before, found⟩ := Option.bind_eq_some_iff.1 found
    exact .of_dropped before found
  · exact .kept found

theorem Sections.entry {op : Op} {table after : ClaimTable} {key : String} {state : ClaimInterfaceState}
    (sections : Sections table op after) (found : after.claimStateMap[key]? = some state) :
    EntryStep table key op state := by
  cases sections with
  | skip => exact .kept found
  | notified =>
    rw [notifyExclusiveOwner_getElem?] at found
    split at found
    · next same =>
      cases found
      exact .normalized same
    · exact .kept found
  | @registered t b d i force cb isRepeat checked =>
    rw [registerExclusiveCallback_getElem?] at found
    split at found
    · next same =>
      cases found
      -- a repeat leaves the owner, which the check found to be the caller
      have owner : (if isRepeat = true then table.owner key else t.1) = t := by
        cases isRepeat with
        | false => rfl
        | true => rw [← same]; exact checkExclusiveClaim_repeat checked
      rw [owner]
      exact .registered same checked
    · exact .kept found
  | released => exact releaseClaimState_entry _ found
  | closed => exact removeExclusiveClaimByDevice_entry _ found
  | died => exact onRemoteDied_entry _ found
  | removed => exact .kept (removeAllClaimByDevice_entry found)
  | removedClosed =>
    cases removeExclusiveClaimByDevice_entry (.close ⟨1, by decide⟩ 0 0) found with
    | kept before => exact .kept (removeAllClaimByDevice_entry before)
    | cleared before normal => exact .cleared (removeAllClaimByDevice_entry before) normal
    | denormalized before owned => exact .denormalized (removeAllClaimByDevice_entry before) owned

end UsbManager.Claim
