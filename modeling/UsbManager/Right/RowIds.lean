import UsbManager.Right.StoreCorrect

/-!
# Row ids and the result of a grant

`Insert` returns the id of the new row as an `int64_t`, and `AddOrUpdateRightRecordEx` stores it in the `int32_t`
whose sign tells it success from failure. The ids are `AUTOINCREMENT`, so a table that has lived for long enough
gives ids from 2147483648 on. The half of these with bit 31 set is negative as an `int32_t`: the helper takes the
id for an error and rolls its own row back. A right that is on record already is updated and needs no id.
-/

namespace UsbManager.Right

open Rdb

/-! ## The narrowed id -/

/-- Bit 31 of the row id is clear. -/
def FitsResult (id : Int64) : Prop := id.toInt % 0x100000000 < 0x80000000

instance (id : Int64) : Decidable (FitsResult id) := inferInstanceAs (Decidable (_ < _))

theorem narrow_nonneg_iff (ret : Int) : usbRightOk ≤ narrow ret ↔ ret % 0x100000000 < 0x80000000 := by
  have size : Int32.size = 4294967296 := rfl
  rw [usbRightOk, narrow, Int32.toInt_ofInt, Int.bmod, size]
  split <;> omega

theorem narrow_neg_iff (id : Int64) : narrow id.toInt < usbRightOk ↔ ¬ FitsResult id := by
  rw [← Int.not_le, narrow_nonneg_iff]
  rfl

/-! ## Grants -/

/-- The arguments of one `AddOrUpdateRightRecord`. -/
structure Grant where
  key : Key
  info : UsbRightAppInfo
  /-- The callers put the user into the record. -/
  own : info.uid = key.uid

def Key.Recorded (k : Key) (s : Store Row) : Prop := ofKey k s.rows ≠ []

namespace Grant

variable (db : UsbRightDataBase) (s : Store Row) (g : Grant)

def exec : Int × Store Row :=
  addOrUpdateRightRecord db g.key.uid g.key.deviceName g.key.bundleName g.key.tokenId g.info s

def row (id : Int64) : Row := rowOf g.key.deviceName g.key.bundleName g.key.tokenId g.info id

/-- The grant reports success, its row is there for good, and it has not taken it back. -/
structure Stands : Prop where
  result : usbRightOk ≤ (g.exec db s).1
  present : ∃ id, g.row id ∈ (g.exec db s).2.stored
  accepted : ∃ made, (g.exec db s).2.log = made ++ s.log ∧ ∀ call ∈ made, call.1 ≠ .rollBack

theorem row_isRecord (id : Int64) : g.key.isRecord (g.row id) = true := rowOf_isRecord g.key g.info g.own id

variable {db s}

/-- What a grant comes to on a store that answers well. -/
theorem exec_cases (ok : db.Succeeds) (quiet : s.Quiet) :
    (g.key.Recorded s ∧ g.exec db s =
      (usbRightOk, { s.succeeded [.commit, .update, .query, .beginTransaction] with
        rows := overwrite g.key.isRecord g.row s.rows, saved := none })) ∨
    (¬ g.key.Recorded s ∧ ¬ FitsResult (db.rowIds (s.calls + 2)) ∧ g.exec db s =
      (narrow (db.rowIds (s.calls + 2)).toInt, s.succeeded [.rollBack, .insert, .query, .beginTransaction])) ∨
    (¬ g.key.Recorded s ∧ FitsResult (db.rowIds (s.calls + 2)) ∧ g.exec db s =
      (usbRightOk, { s.succeeded [.commit, .insert, .query, .beginTransaction] with
        rows := s.rows ++ [g.row (db.rowIds (s.calls + 2))], saved := none })) := by
  have recorded : 0 < (s.rows.filter g.key.isRecord).length ↔ g.key.Recorded s := List.length_pos_iff
  have made := addOrUpdateRightRecord_ok ok quiet g.key.deviceName g.key.bundleName g.key.tokenId g.info
  rw [g.own] at made
  unfold exec
  by_cases found : g.key.Recorded s
  · exact .inl ⟨found, made.trans (if_pos (recorded.2 found))⟩
  · have made := made.trans (if_neg (mt recorded.1 found))
    by_cases fits : FitsResult (db.rowIds (s.calls + 2))
    · exact .inr (.inr ⟨found, fits, made.trans (if_neg (mt (narrow_neg_iff _).1 (not_not.2 fits)))⟩)
    · exact .inr (.inl ⟨found, fits, made.trans (if_pos ((narrow_neg_iff _).2 fits))⟩)

theorem exec_quiet (ok : db.Succeeds) (quiet : s.Quiet) : (g.exec db s).2.Quiet := by
  obtain ⟨-, done⟩ | ⟨-, -, undone⟩ | ⟨-, -, done⟩ := g.exec_cases ok quiet
  · rw [done]
    rfl
  · rw [undone]
    exact quiet
  · rw [done]
    rfl

theorem exec_calls (ok : db.Succeeds) (quiet : s.Quiet) : (g.exec db s).2.calls = s.calls + 4 := by
  obtain ⟨-, done⟩ | ⟨-, -, undone⟩ | ⟨-, -, done⟩ := g.exec_cases ok quiet
  · rw [done]
    rfl
  · rw [undone]
    rfl
  · rw [done]
    rfl

/-- One grant stands unless its row is new and the id of it does not fit. -/
theorem stands_iff (ok : db.Succeeds) (quiet : s.Quiet) :
    g.Stands db s ↔ g.key.Recorded s ∨ FitsResult (db.rowIds (s.calls + 2)) := by
  have stored := (g.exec_quiet ok quiet).stored
  obtain ⟨recorded, done⟩ | ⟨new, large, undone⟩ | ⟨-, fits, done⟩ := g.exec_cases ok quiet
  · refine iff_of_true ⟨?_, ?_, ?_⟩ (.inl recorded)
    · exact Int.le_of_eq (congrArg Prod.fst done).symm
    · obtain ⟨row, record⟩ := List.exists_mem_of_ne_nil _ recorded
      obtain ⟨member, own⟩ := mem_ofKey.1 record
      refine ⟨row.id, ?_⟩
      rw [stored, done]
      exact List.mem_map.2 ⟨row, member, if_pos own⟩
    · rw [done]
      exact ⟨_, rfl, by decide⟩
  · refine iff_of_false (fun stands => ?_) (not_or.2 ⟨new, large⟩)
    have result := stands.result
    rw [undone] at result
    exact absurd result (Int.not_le.2 ((narrow_neg_iff _).2 large))
  · refine iff_of_true ⟨?_, ?_, ?_⟩ (.inr fits)
    · exact Int.le_of_eq (congrArg Prod.fst done).symm
    · refine ⟨db.rowIds (s.calls + 2), ?_⟩
      rw [stored, done]
      exact List.mem_append_right _ (List.mem_singleton_self _)
    · rw [done]
      exact ⟨_, rfl, by decide⟩

/-- A grant that stands puts its own key on record. -/
theorem recorded_exec (ok : db.Succeeds) (quiet : s.Quiet) (stands : g.Stands db s) (k : Key) :
    k.Recorded (g.exec db s).2 ↔ k.Recorded s ∨ k = g.key := by
  by_cases own : k = g.key
  · subst own
    refine iff_of_true ?_ (.inr rfl)
    obtain ⟨recorded, done⟩ | ⟨new, large, -⟩ | ⟨new, -, done⟩ := g.exec_cases ok quiet
    · rw [Key.Recorded, done, ofKey_overwrite_self g.row_isRecord]
      exact mt List.map_eq_nil_iff.1 recorded
    · exact absurd ((g.stands_iff ok quiet).1 stands) (not_or.2 ⟨new, large⟩)
    · rw [Key.Recorded, done, ofKey_append_self (g.row_isRecord _) (not_not.1 new)]
      exact List.cons_ne_nil _ _
  · rw [or_iff_left own, Key.Recorded, Key.Recorded]
    obtain ⟨-, done⟩ | ⟨-, -, undone⟩ | ⟨-, -, done⟩ := g.exec_cases ok quiet
    · rw [done, ofKey_overwrite_other g.row_isRecord own]
    · rw [undone, Store.succeeded_rows]
    · rw [done, ofKey_append_other (g.row_isRecord _) own]

end Grant

/-! ## Sequences of grants -/

/-- The store after the grants. -/
def grantAll (db : UsbRightDataBase) (s : Store Row) (grants : List Grant) : Store Row :=
  grants.foldl (fun s g => (g.exec db s).2) s

/-- Each place of a list is its head, or a place of its tail. -/
theorem forall_place_cons {α : Type} {first : α} {rest : List α} {P : List α → α → Prop} :
    (∀ before a after, first :: rest = before ++ a :: after → P before a) ↔
      P [] first ∧ ∀ before a after, rest = before ++ a :: after → P (first :: before) a := by
  constructor
  · intro each
    refine ⟨each [] first rest rfl, fun before a after split => ?_⟩
    exact each (first :: before) a after (congrArg (first :: ·) split)
  · rintro ⟨head, tail⟩ before a after split
    cases before with
    | nil =>
      cases split
      exact head
    | cons b before =>
      cases split
      exact tail before a after rfl

/-- All grants of a sequence stand exactly if every one of them finds its key on record, in the table or by a grant
before it, or gets a row id whose bit 31 is clear. -/
theorem grants_stand_iff {db : UsbRightDataBase} (ok : db.Succeeds) (grants : List Grant) {s : Store Row}
    (quiet : s.Quiet) :
    (∀ before g after, grants = before ++ g :: after → g.Stands db (grantAll db s before)) ↔
      ∀ before g after, grants = before ++ g :: after →
        g.key.Recorded s ∨ (∃ earlier ∈ before, earlier.key = g.key) ∨
          FitsResult (db.rowIds (s.calls + 4 * before.length + 2)) := by
  induction grants generalizing s with
  | nil => simp
  | cons first rest ih =>
    rw [forall_place_cons, forall_place_cons]
    have head : first.Stands db (grantAll db s []) ↔ first.key.Recorded s ∨
        (∃ earlier ∈ ([] : List Grant), earlier.key = first.key) ∨
          FitsResult (db.rowIds (s.calls + 4 * ([] : List Grant).length + 2)) := by
      simpa [grantAll] using first.stands_iff ok quiet
    have tail (stands : first.Stands db s) :
        (∀ before g after, rest = before ++ g :: after → g.Stands db (grantAll db s (first :: before))) ↔
          ∀ before g after, rest = before ++ g :: after →
            g.key.Recorded s ∨ (∃ earlier ∈ first :: before, earlier.key = g.key) ∨
              FitsResult (db.rowIds (s.calls + 4 * (first :: before).length + 2)) := by
      refine (ih (first.exec_quiet ok quiet)).trans (forall₄_congr fun before g after _ => ?_)
      have calls : s.calls + 4 + 4 * before.length + 2 = s.calls + 4 * (before.length + 1) + 2 := by omega
      rw [first.recorded_exec ok quiet stands, first.exec_calls ok quiet, List.length_cons, List.exists_mem_cons_iff,
        calls, or_assoc, or_assoc, eq_comm (a := g.key)]
    constructor
    · rintro ⟨stands, later⟩
      exact ⟨head.1 stands, (tail stands).1 later⟩
    · rintro ⟨allowed, later⟩
      have stands : first.Stands db s := head.2 allowed
      exact ⟨stands, (tail stands).2 later⟩

/-- The right of `sampleKey`. -/
def scannerGrant : Grant := ⟨sampleKey, (samplePlatform true).grantInfo 100 "com.example.scanner", rfl⟩

/-- A store that gives this id to the next row. -/
def numbering (id : Int64) : UsbRightDataBase := { sampleDataBase with rowIds := fun _ => id }

theorem numbering_succeeds (id : Int64) : (numbering id).Succeeds :=
  ⟨rfl, fun _ => rfl, fun _ => rfl, fun _ _ => rfl, fun _ _ => rfl⟩

/-- Ids past the 32 bits are none the worse for it: here a right is granted, and then granted again. -/
theorem grants_stand_iff_regranted :
    scannerGrant.Stands (numbering 4294967297) {} ∧
      scannerGrant.Stands (numbering 4294967297) (scannerGrant.exec (numbering 4294967297) {}).2 := by
  have stand := grants_stand_iff (numbering_succeeds 4294967297) [scannerGrant, scannerGrant] (s := {}) rfl
  have each := stand.2 (forall_place_cons.2 ⟨.inr (.inr (by decide)), forall_place_cons.2 ⟨.inr (.inl ?_), ?_⟩⟩)
  · exact ⟨each [] scannerGrant [scannerGrant] rfl, each [scannerGrant] scannerGrant [] rfl⟩
  · exact ⟨scannerGrant, List.mem_singleton_self _, rfl⟩
  · exact fun before g after none => absurd none.symm (by simp)

/-- The table has a row of another device, and the ids have come to the end of `int32_t`. -/
def lastFitting : Store Row where
  rows := [rowOf "1111-2222-B2" "com.example.scanner" "537" scannerGrant.info 2147483647]

/-- The next row is inserted and rolled back. -/
theorem row_id_breaks_grant :
    ¬ ∀ (db : UsbRightDataBase) (s : Store Row) (grants : List Grant), db.Succeeds → s.Quiet →
      (∀ n, 1 ≤ (db.rowIds n).toInt) →
        ∀ before g after, grants = before ++ g :: after → g.Stands db (grantAll db s before) := by
  intro always
  have stands := always (numbering 2147483648) lastFitting [scannerGrant] (numbering_succeeds _) rfl
    (fun _ => (by decide : (1 : Int) ≤ (2147483648 : Int64).toInt)) [] scannerGrant [] rfl
  have result : ((scannerGrant.exec (numbering 2147483648) lastFitting).1 : Int) = -2147483648 := by decide +kernel
  exact absurd stands.result (by rw [grantAll, List.foldl_nil, result]; decide)

end UsbManager.Right
