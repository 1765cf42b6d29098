import UsbManager.Claim.Sections

/-!
# Calls that fail

A claim that fails changes nothing: the table is changed after the driver has claimed the interface. A release and
a close change the table before they ask the driver, and do not change it back.
-/

namespace UsbManager.Claim

open Std (ExtTreeMap)

variable {b d i force : UInt8} {t : TokenId} {env : Env} {table : ClaimTable}

/-- If the call fails the claims are as before. -/
def FailsClean (table : ClaimTable) (out : Outcome) : Prop :=
  out.ret ≠ .uecOk → out.table.claimStateMap = table.claimStateMap

/-- A release takes the entry of the interface out of the table: the caller's own, or that of normal claims only. -/
def TakesOut (t : TokenId) (table : ClaimTable) (key : String) : Prop :=
  (table.owner key = t ∧ table.normal key = false) ∨ (table.owner key = 0 ∧ table.normal key = true)

/-! ### Releases -/

section Release

/-- An entry that is erased has been there. -/
theorem erase_ne {key : String} {state : ClaimInterfaceState} (found : table.claimStateMap[key]? = some state) :
    table.claimStateMap.erase key ≠ table.claimStateMap := by
  intro same
  have gone : (table.claimStateMap.erase key)[key]? = none := ExtTreeMap.getElem?_erase_self
  rw [same, found] at gone
  cases gone

/-- A release is refused, or leaves the interface to another holder, or goes on to the driver. -/
theorem releaseClaimState_cases (t : TokenId) (b d i : UInt8) (table : ClaimTable) :
    ((releaseClaimState b d i t table).ret ≠ .uecOk ∧ (releaseClaimState b d i t table).table = table ∧
      ¬ TakesOut t table (makeClaimKey b d i)) ∨
    ((releaseClaimState b d i t table).ret = .uecOk ∧ (releaseClaimState b d i t table).releaseToHdi = false ∧
      ¬ TakesOut t table (makeClaimKey b d i)) ∨
    ((releaseClaimState b d i t table).ret = .uecOk ∧ (releaseClaimState b d i t table).releaseToHdi = true ∧
      ((releaseClaimState b d i t table).table.claimStateMap = table.claimStateMap ↔
        ¬ TakesOut t table (makeClaimKey b d i))) := by
  have nonzero := t.2
  unfold TakesOut releaseClaimState
  rw [ClaimTable.owner_eq, ClaimTable.normal_eq]
  cases found : table.claimStateMap[makeClaimKey b d i]? with
  | none => simp [found, nonzero.symm]
  | some state =>
    have erased := erase_ne found
    simp only [found, Option.getD_some]
    split_ifs with own normal foreign normal normal
    · exact .inr (.inl ⟨rfl, rfl, by simp [own, normal, nonzero]⟩)
    · exact .inr (.inr ⟨rfl, rfl, by simp [own, normal, erased]⟩)
    · exact .inr (.inl ⟨rfl, rfl, by simp [own, foreign]⟩)
    · exact .inl ⟨nofun, rfl, by simp [own, foreign]⟩
    · exact .inr (.inr ⟨rfl, rfl, by simp [not_not.1 foreign, normal, erased]⟩)
    · exact .inr (.inr ⟨rfl, rfl, by simp [own, normal]⟩)

/-- What a release that goes on to the driver returns. -/
theorem releaseInterface_ret (permitted : env.permitted = true) (ok : (releaseClaimState b d i t table).ret = .uecOk)
    (goesOn : (releaseClaimState b d i t table).releaseToHdi = true) :
    (releaseInterface t b d i env table).ret = .uecOk ↔ (env.host.call (.releaseInterface b d i)).1 = .uecOk := by
  unfold releaseInterface
  simp only [permitted, ok, goesOn, Bool.true_eq_false, ne_eq, not_true_eq_false, if_false]
  cases env.host with
  | null => exact iff_of_false nofun nofun
  | noInterface => exact iff_of_false nofun nofun
  | driver answer =>
    have present : (HostManager.driver answer).isNull = false := rfl
    rw [present, if_neg Bool.false_ne_true]
    dsimp only
    split_ifs with refused
    · exact iff_of_false nofun fun accepted => UsbErrCode.noConfusion (refused.symm.trans accepted)
    · exact Iff.rfl

theorem releaseInterface_failsClean_iff (t : TokenId) (b d i : UInt8) (env : Env) (table : ClaimTable) :
    FailsClean table (releaseInterface t b d i env table) ↔
      env.permitted = false ∨ ¬ TakesOut t table (makeClaimKey b d i) ∨
        (env.host.call (.releaseInterface b d i)).1 = .uecOk := by
  unfold FailsClean
  cases permitted : env.permitted with
  | false =>
    refine iff_of_true (fun _ => ?_) (.inl rfl)
    rw [releaseInterface_table, permitted]
    rfl
  | true =>
    have left : (releaseInterface t b d i env table).table = (releaseClaimState b d i t table).table := by
      rw [releaseInterface_table, if_pos permitted]
    obtain ⟨refused, same, kept⟩ | ⟨ok, shared, kept⟩ | ⟨ok, goesOn, changed⟩ := releaseClaimState_cases t b d i table
    · refine iff_of_true (fun _ => ?_) (.inr (.inl kept))
      rw [left, same]
    · refine iff_of_true (fun failed => absurd ?_ failed) (.inr (.inl kept))
      unfold releaseInterface
      rw [permitted, if_neg Bool.true_eq_false.mp]
      dsimp only
      rw [if_neg (not_not.2 ok), if_pos shared]
    · rw [left, changed, ne_eq, releaseInterface_ret permitted ok goesOn]
      simp only [Bool.true_eq_false, false_or]
      tauto

end Release

/-! ### Closes -/

section Close

/-- A sweep changes the table exactly if it finds a claim of the client. -/
theorem removeExclusiveClaimByDevice_same_iff (t : TokenId) (b d : UInt8) (table : ClaimTable) :
    (removeExclusiveClaimByDevice b d t table).claimStateMap = table.claimStateMap ↔
      ∀ key, comparePrefix key (claimPrefix b d) = true → table.owner key ≠ t := by
  have nonzero := t.2
  constructor
  · intro same key selected own
    have owner : (removeExclusiveClaimByDevice b d t table).owner key = table.owner key := by
      rw [ClaimTable.owner_eq, ClaimTable.owner_eq, same]
    rw [removeExclusiveClaimByDevice_owner, if_pos ⟨selected, own⟩, own] at owner
    exact nonzero owner.symm
  · intro none
    refine ExtTreeMap.ext_getElem? fun key => ?_
    rw [removeExclusiveClaimByDevice_getElem?]
    cases found : table.claimStateMap[key]? with
    | none => rfl
    | some state =>
      refine if_neg fun own => none key own.1 ?_
      rw [ClaimTable.owner_eq, found]
      exact own.2

theorem close_failsClean_iff (t : TokenId) (b d : UInt8) (env : Env) (table : ClaimTable) :
    FailsClean table (close t b d env table) ↔
      env.permitted = false ∨ (∀ key, comparePrefix key (claimPrefix b d) = true → table.owner key ≠ t) ∨
        (env.host.call (.closeDevice b d)).1 = .uecOk := by
  unfold FailsClean
  cases permitted : env.permitted with
  | false =>
    refine iff_of_true (fun _ => ?_) (.inl rfl)
    rw [close_table, permitted]
    rfl
  | true =>
    have left : (close t b d env table).table = removeExclusiveClaimByDevice b d t table := by
      rw [close_table, if_pos permitted]
    have ret : (close t b d env table).ret = .uecOk ↔ (env.host.call (.closeDevice b d)).1 = .uecOk := by
      unfold close
      rw [permitted, if_neg Bool.true_eq_false.mp]
      cases env.host with
      | null => exact Iff.rfl
      | noInterface => exact Iff.rfl
      | driver answer => exact Iff.rfl
    rw [left, removeExclusiveClaimByDevice_same_iff, ne_eq, ret]
    simp only [Bool.true_eq_false, false_or]
    tauto

end Close

/-- For which calls a failure leaves the claims as they were: all claims; a release that is not permitted, takes
nothing out of the table, or that the driver accepts; a close that is not permitted, finds no claim of its caller, or
that the driver accepts. -/
theorem failed_claims_atomic (t : TokenId) (b d i force : UInt8) (cb : Option Callback) (env : Env)
    (table : ClaimTable) :
    FailsClean table (claimInterface t b d i force env table) ∧
    FailsClean table (claimInterfaceExclusive t b d i force cb env table) ∧
    (FailsClean table (releaseInterface t b d i env table) ↔
      env.permitted = false ∨ ¬ TakesOut t table (makeClaimKey b d i) ∨
        (env.host.call (.releaseInterface b d i)).1 = .uecOk) ∧
    (FailsClean table (close t b d env table) ↔
      env.permitted = false ∨ (∀ key, comparePrefix key (claimPrefix b d) = true → table.owner key ≠ t) ∨
        (env.host.call (.closeDevice b d)).1 = .uecOk) := by
  refine ⟨fun failed => ?_, fun failed => ?_, ?_, ?_⟩
  · obtain ⟨ok, -⟩ | ⟨-, same⟩ := claimInterface_cases t b d i force env table
    · exact absurd ok failed
    · rw [same]
  · obtain ⟨-, -, ok, -⟩ | ⟨-, same⟩ := claimInterfaceExclusive_cases t b d i force cb env table
    · exact absurd ok failed
    · rw [same]
  · exact releaseInterface_failsClean_iff t b d i env table
  · exact close_failsClean_iff t b d env table

/-- The driver claims and refuses everything else. -/
def claimsOnly : Env where
  permitted := true
  host := .driver fun
    | .claimInterface _ _ _ _ => .uecOk
    | _ => .hdfFailure
  addDeathRecipient := true

/-- The table after the exclusive claim of a client. -/
def claimedTable (client : TokenId) : ClaimTable :=
  (claimInterfaceExclusive client 1 2 0 1 (some 7) claimsOnly {}).table

/-- The driver fails a release and a close of the owner, client 5, and its claim is gone. -/
theorem failed_release_loses_claim :
    (claimedTable ⟨5, by decide⟩).owner (makeClaimKey 1 2 0) = 5 ∧
      (releaseInterface ⟨5, by decide⟩ 1 2 0 claimsOnly (claimedTable ⟨5, by decide⟩)).ret = .hdfFailure ∧
      (releaseInterface ⟨5, by decide⟩ 1 2 0 claimsOnly (claimedTable ⟨5, by decide⟩)).table.owner
        (makeClaimKey 1 2 0) = 0 ∧
      (close ⟨5, by decide⟩ 1 2 claimsOnly (claimedTable ⟨5, by decide⟩)).ret = .hdfFailure ∧
      (close ⟨5, by decide⟩ 1 2 claimsOnly (claimedTable ⟨5, by decide⟩)).table.owner (makeClaimKey 1 2 0) = 0 := by
  decide +kernel

end UsbManager.Claim
