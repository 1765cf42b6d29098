import UsbManager.Lib.Separator

/-!
# Keys of the claim table

`claimStateMap_` is keyed by the text `"bus-dev-interface"`, and the per-device sweeps select
entries by the text prefix `"bus-dev-"`. Both are exact: the key determines its three numbers,
and the prefix of a device selects the entries of that device only.
-/

namespace UsbManager.Claim

open Separator

/-- `UsbService::MakeClaimKey`. -/
def makeClaimKey (busNum devAddr interfaceid : UInt8) : String :=
  toString busNum.toNat ++ "-" ++ toString devAddr.toNat ++ "-" ++ toString interfaceid.toNat

/-- The local `prefix` of the two sweeps. -/
def claimPrefix (busNum devAddr : UInt8) : String :=
  toString busNum.toNat ++ "-" ++ toString devAddr.toNat ++ "-"

/-- `key.compare(0, prefix.size(), prefix) == 0`. -/
def comparePrefix (key pre : String) : Bool := pre.toList.isPrefixOf key.toList

theorem toList_makeClaimKey (b d i : UInt8) :
    (makeClaimKey b d i).toList =
      digits b.toNat ++ '-' :: (digits d.toNat ++ '-' :: digits i.toNat) := by
  simp [makeClaimKey, digits]

theorem toList_claimPrefix (b d : UInt8) :
    (claimPrefix b d).toList = digits b.toNat ++ '-' :: (digits d.toNat ++ '-' :: []) := by
  simp [claimPrefix, digits]

theorem makeClaimKey_inj {b d i b' d' i' : UInt8} :
    makeClaimKey b d i = makeClaimKey b' d' i' ↔ b = b' ∧ d = d' ∧ i = i' := by
  rw [← String.toList_inj, toList_makeClaimKey, toList_makeClaimKey,
    append_cons_inj (dash_notMem_digits _) (dash_notMem_digits _),
    append_cons_inj (dash_notMem_digits _) (dash_notMem_digits _),
    digits_inj, digits_inj, digits_inj, UInt8.toNat_inj, UInt8.toNat_inj, UInt8.toNat_inj]

/-- A device's prefix selects exactly the keys of that device. -/
theorem comparePrefix_makeClaimKey {b d b' d' i' : UInt8} :
    comparePrefix (makeClaimKey b' d' i') (claimPrefix b d) = true ↔ b = b' ∧ d = d' := by
  unfold comparePrefix
  rw [List.isPrefixOf_iff_prefix, toList_claimPrefix, toList_makeClaimKey,
    append_cons_prefix (dash_notMem_digits _) (dash_notMem_digits _),
    append_cons_prefix (dash_notMem_digits _) (dash_notMem_digits _),
    digits_inj, digits_inj, UInt8.toNat_inj, UInt8.toNat_inj]
  simp

end UsbManager.Claim
