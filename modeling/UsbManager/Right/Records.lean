import UsbManager.Right.CleanUp

/-!
# The records of a key

A right is kept under a user, a device, a bundle and a token. `ofKey` are its records in the table;
the operations on one right change only these, and a clean-up takes out some of them.
-/

namespace UsbManager.Right

open Rdb

/-- What a right is kept under. -/
structure Key where
  uid : Int32
  deviceName : String
  bundleName : String
  tokenId : String
  deriving DecidableEq, Repr

def Key.isRecord (k : Key) : Row → Bool := isRecordOf k.uid k.deviceName k.bundleName k.tokenId

/-- The records of a key, in the order of the table. -/
def ofKey (k : Key) (rows : List Row) : List Row := rows.filter k.isRecord

section Algebra

variable {k key : Key} {rows : List Row}

theorem isRecord_iff {row : Row} : k.isRecord row = true ↔
    row.uid = k.uid ∧ row.deviceName = k.deviceName ∧ row.bundleName = k.bundleName ∧ row.tokenId = some k.tokenId := by
  simp [Key.isRecord, isRecordOf]

/-- A row is the record of one key at most. -/
theorem isRecord_inj {row : Row} (one : k.isRecord row = true) (other : key.isRecord row = true) : k = key := by
  rw [isRecord_iff] at one other
  obtain ⟨uid, device, bundle, token⟩ := one
  obtain ⟨uid', device', bundle', token'⟩ := other
  cases k
  cases key
  simp_all

theorem mem_ofKey {row : Row} : row ∈ ofKey k rows ↔ row ∈ rows ∧ k.isRecord row = true := List.mem_filter

/-- What is taken out of the table is taken out of the records of each key. -/
theorem ofKey_filter (keep : Row → Bool) : ofKey k (rows.filter keep) = (ofKey k rows).filter keep := by
  rw [ofKey, ofKey, List.filter_filter, List.filter_filter]
  apply List.filter_congr
  intro row _
  exact Bool.and_comm _ _

/-- A deletion for a key leaves it no record. -/
theorem ofKey_delete_self : ofKey k (rows.filter fun row => !k.isRecord row) = [] := by
  rw [ofKey_filter, List.filter_eq_nil_iff]
  intro row member
  simp [(mem_ofKey.1 member).2]

/-- A deletion for another key changes nothing for this one. -/
theorem ofKey_delete_other (other : k ≠ key) : ofKey k (rows.filter fun row => !key.isRecord row) = ofKey k rows := by
  rw [ofKey_filter, List.filter_eq_self]
  intro row member
  cases selected : key.isRecord row with
  | false => rfl
  | true => exact absurd (isRecord_inj (mem_ofKey.1 member).2 selected) other

theorem ofKey_append_other {row : Row} (record : key.isRecord row = true) (other : k ≠ key) :
    ofKey k (rows ++ [row]) = ofKey k rows := by
  have none : k.isRecord row = false := Bool.eq_false_iff.2 fun own => other (isRecord_inj own record)
  simp [ofKey, none]

/-- A new record is the only one if there was none. -/
theorem ofKey_append_self {row : Row} (record : k.isRecord row = true) (none : ofKey k rows = []) :
    ofKey k (rows ++ [row]) = [row] := by
  rw [ofKey] at none
  simp [ofKey, none, record]

/-- An update for a key leaves it as many records. -/
theorem ofKey_overwrite_self {new : Int64 → Row} (record : ∀ id, k.isRecord (new id) = true) :
    ofKey k (overwrite k.isRecord new rows) = (ofKey k rows).map fun row => new row.id := by
  induction rows with
  | nil => rfl
  | cons row rows ih =>
    rw [ofKey] at ih
    cases own : k.isRecord row <;> simp_all [ofKey, overwrite]

/-- An update for another key changes nothing for this one. -/
theorem ofKey_overwrite_other {new : Int64 → Row} (record : ∀ id, key.isRecord (new id) = true) (other : k ≠ key) :
    ofKey k (overwrite key.isRecord new rows) = ofKey k rows := by
  have strange : ∀ id, k.isRecord (new id) = false := fun id =>
    Bool.eq_false_iff.2 fun own => other (isRecord_inj own (record id))
  induction rows with
  | nil => rfl
  | cons row rows ih =>
    rw [ofKey] at ih
    cases selected : key.isRecord row with
    | false => simp_all [ofKey, overwrite, List.filter_cons]
    | true =>
      have none : k.isRecord row = false := Bool.eq_false_iff.2 fun own => other (isRecord_inj own selected)
      simp_all [ofKey, overwrite]

theorem rowOf_isRecord (k : Key) (info : UsbRightAppInfo) (same : info.uid = k.uid) (id : Int64) :
    k.isRecord (rowOf k.deviceName k.bundleName k.tokenId info id) = true := by
  rw [isRecord_iff]
  exact ⟨same, rfl, rfl, rfl⟩

end Algebra

/-! ### The table of a run -/

/-- What every table of a run satisfies: a key has one record at most, and a record was made by a grant. -/
structure Kept (s : Store Row) : Prop where
  quiet : s.Quiet
  single : ∀ k, (ofKey k s.rows).length ≤ 1
  period : ∀ row ∈ s.rows, row.validPeriod = usbRightValidPeriodSet.toInt64
  requested : ∀ row ∈ s.rows, 0 ≤ row.requestTime

/-- A clean-up leaves a table of this kind. -/
theorem Kept.filter {s s' : Store Row} (kept : Kept s) {keep : Row → Bool} (leaves : Leaves (s.rows.filter keep) s') :
    Kept s' := by
  obtain ⟨rows, quiet⟩ := leaves
  refine ⟨quiet, fun k => ?_, fun row member => ?_, fun row member => ?_⟩
  · rw [rows, ofKey_filter]
    exact Nat.le_trans (List.length_filter_le ..) (kept.single k)
  · rw [rows] at member
    exact kept.period row (List.mem_filter.1 member).1
  · rw [rows] at member
    exact kept.requested row (List.mem_filter.1 member).1

/-- A key has no record or one. -/
theorem Kept.cases {s : Store Row} (kept : Kept s) (k : Key) :
    ofKey k s.rows = [] ∨ ∃ row, ofKey k s.rows = [row] := by
  have single := kept.single k
  rcases shape : ofKey k s.rows with _ | ⟨row, _ | ⟨other, rest⟩⟩
  · exact .inl rfl
  · exact .inr ⟨row, rfl⟩
  · rw [shape] at single
    simp at single

end UsbManager.Right
