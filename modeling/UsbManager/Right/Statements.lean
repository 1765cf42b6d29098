import UsbManager.Right.Manager

/-!
# Statements on a store that does not fail

What the helper's statements do to the rows when every call on the store succeeds: a query changes
nothing and sees all selected rows, a deletion takes out exactly the selected rows.
-/

namespace UsbManager.Right

open Rdb

variable {db : UsbRightDataBase} {s : Store Row}

/-! ### Calls -/

section Calls

/-- The rows of the beginning are kept for a roll-back. -/
theorem beginTransaction_ok (ok : db.Succeeds) (quiet : s.Quiet) :
    db.beginTransaction s = (usbRightOk, { s.succeeded [.beginTransaction] with saved := some s.rows }) := by
  have quiet : s.saved = none := quiet
  simp [UsbRightDataBase.beginTransaction, UsbRightDataBase.execute, Rdb.beginTransaction, call, stateM_bind,
    stateM_pure, Store.succeeded, quiet, ok.store, ok.answers]

/-- A commit forgets the rows that were kept. -/
theorem commit_ok (ok : db.Succeeds) :
    db.commit s = (usbRightOk, { s.succeeded [.commit] with saved := none }) := by
  simp [UsbRightDataBase.commit, UsbRightDataBase.execute, Rdb.commit, call, stateM_bind, stateM_pure,
    Store.succeeded, ok.store, ok.answers]

/-- A roll-back restores them. -/
theorem rollBack_ok (ok : db.Succeeds) :
    db.rollBack s = (usbRightOk, { s.succeeded [.rollBack] with rows := s.saved.getD s.rows, saved := none }) := by
  simp [UsbRightDataBase.rollBack, UsbRightDataBase.execute, Rdb.rollBack, call, stateM_bind, stateM_pure,
    Store.succeeded, ok.store, ok.answers]

/-- A deletion answers how many rows it has taken out. -/
theorem delete_ok (ok : db.Succeeds) (clause : Row → Bool) :
    db.delete clause s = ((usbRightOk, (s.rows.filter clause).length),
      { s.succeeded [.delete] with rows := s.rows.filter fun row => !clause row }) := by
  simp [UsbRightDataBase.delete, Rdb.delete, call, stateM_bind, stateM_pure, stateM_map, stateM_get,
    Store.succeeded, ok.store, ok.answers]

/-- An update changes the selected rows in their places. -/
theorem update_ok (ok : db.Succeeds) (clause : Row → Bool) (values : Row → Row) :
    db.update clause values s = ((usbRightOk, (s.rows.filter clause).length),
      { s.succeeded [.update] with rows := s.rows.map fun row => if clause row then values row else row }) := by
  simp [UsbRightDataBase.update, Rdb.update, call, stateM_bind, stateM_pure, stateM_map, stateM_get,
    Store.succeeded, ok.store, ok.answers]

/-- An insertion answers the number that the store gives the row. -/
theorem insert_ok (ok : db.Succeeds) (row : Row) :
    db.insert row s = ((db.rowIds s.calls).toInt,
      { s.succeeded [.insert] with rows := s.rows ++ [{ row with id := db.rowIds s.calls }] }) := by
  simp [UsbRightDataBase.insert, UsbRightDataBase.execute, Rdb.insert, call, stateM_bind, stateM_pure, stateM_map,
    stateM_get, Store.succeeded, ok.store, ok.answers]

/-- A query yields the selected rows, in the order of the table. -/
theorem query_ok (ok : db.Succeeds) (predicates : Row → Bool) :
    db.query predicates s = (some (s.rows.filter predicates, db.cursors s.calls), s.succeeded [.query]) := by
  simp [UsbRightDataBase.query, Rdb.query, call, stateM_bind, stateM_map, stateM_get, Store.succeeded, ok.store,
    ok.answers]

end Calls

/-! ### Statements -/

section Statements

/-- The selected rows are gone, and the function answers that the table was empty if there were none. -/
theorem deleteAndNoOtherOperation_ok (ok : db.Succeeds) (quiet : s.Quiet) (clause : Row → Bool) :
    deleteAndNoOtherOperation db clause s =
      (if (s.rows.filter clause).length ≤ 0 then usbRightRdbEmpty else usbRightOk,
        { s.succeeded [.commit, .delete, .beginTransaction] with
          rows := s.rows.filter fun row => !clause row
          saved := none }) := by
  simp only [deleteAndNoOtherOperation, stateM_bind, beginTransaction_ok ok quiet, delete_ok ok, commit_ok ok,
    Store.succeeded_rows, Int.lt_irrefl, ↓reduceIte]
  split <;> rfl

/-- The selected rows are gone, and no answer depends on whether there were any. -/
theorem deletePredicates_ok (ok : db.Succeeds) (quiet : s.Quiet) (predicates : Row → Bool) :
    deletePredicates db predicates s =
      (usbRightOk,
        { s.succeeded [.commit, .delete, .beginTransaction] with
          rows := s.rows.filter fun row => !predicates row
          saved := none }) := by
  simp only [deletePredicates, stateM_bind, beginTransaction_ok ok quiet, delete_ok ok, commit_ok ok,
    Store.succeeded_rows, Int.lt_irrefl, ↓reduceIte]
  rfl

/-- A query between the beginning and the end of a transaction leaves the rows. -/
theorem queryInTransaction_ok (ok : db.Succeeds) (quiet : s.Quiet) (predicates : Row → Bool) :
    queryInTransaction db predicates s =
      (.ok (s.rows.filter predicates, db.cursors (s.calls + 1)), s.succeeded [.commit, .query, .beginTransaction]) := by
  have quiet' : s.saved = none := quiet
  simp only [queryInTransaction, stateM_bind, beginTransaction_ok ok quiet, query_ok ok, commit_ok ok,
    Int.lt_irrefl, ↓reduceIte, ← quiet', Store.succeeded_rows]
  rfl

/-- A cursor that moves and reads yields every row. -/
theorem readInfos_ok {cursor : Cursor} (goTo : ∀ i, cursor.goToRow i = true) (columns : ∀ i, cursor.columns i = true)
    (i : Nat) (rows : List Row) : readInfos cursor i rows = rows.map Row.info := by
  induction rows generalizing i with
  | nil => rfl
  | cons row rows ih => simp [readInfos, goTo, columns, ih]

/-- Likewise for one column. -/
theorem readColumn_ok {α : Type} {cursor : Cursor} (goTo : ∀ i, cursor.goToRow i = true)
    (columns : ∀ i, cursor.columns i = true) (i : Nat) (values : List α) :
    readColumn cursor i values = some values := by
  induction values generalizing i with
  | nil => rfl
  | cons value values ih => simp [readColumn, goTo, columns, ih]

/-- The answer is the number of the rows, and their contents. -/
theorem queryAndGetResult_ok (ok : db.Succeeds) (quiet : s.Quiet) (predicates : Row → Bool) :
    queryAndGetResult db predicates s =
      ((((s.rows.filter predicates).length : Int), (s.rows.filter predicates).map Row.info),
        s.succeeded [.commit, .query, .beginTransaction]) := by
  simp only [queryAndGetResult, stateM_bind, queryInTransaction_ok ok quiet, getResultRightRecordEx,
    ok.tableInfo, readInfos_ok (ok.goToRow _) (ok.columns _), List.length_map]
  rfl

/-- The answer is the number of the different values of the column, and these values. -/
theorem queryAndGetResultColumnValues_ok {α : Type} [DecidableEq α] (ok : db.Succeeds) (quiet : s.Quiet)
    (predicates : Row → Bool) (column : Row → α) :
    queryAndGetResultColumnValues db predicates column s =
      (((((s.rows.filter predicates).map column).dedup.length : Int), ((s.rows.filter predicates).map column).dedup),
        s.succeeded [.commit, .query, .beginTransaction]) := by
  simp only [queryAndGetResultColumnValues, stateM_bind, queryInTransaction_ok ok quiet, ok.tableInfo,
    readColumn_ok (ok.goToRow _) (ok.columns _)]
  rfl

/-- The selected rows get new values and keep their ids. -/
def overwrite (clause : Row → Bool) (new : Int64 → Row) (rows : List Row) : List Row :=
  rows.map fun row => if clause row then new row.id else row

/-- An update is due exactly if the table has a record of the right. -/
theorem checkIfNeedUpdateEx_ok (ok : db.Succeeds) (uid : Int32) (deviceName bundleName tokenId : String) :
    checkIfNeedUpdateEx db uid deviceName bundleName tokenId s =
      ((usbRightOk, decide (0 < (s.rows.filter (isRecordOf uid deviceName bundleName tokenId)).length)),
        s.succeeded [.query]) := by
  simp only [checkIfNeedUpdateEx, stateM_bind, query_ok ok, ok.tableInfo]
  rfl

theorem addOrUpdateRightRecordEx_update_ok (ok : db.Succeeds) (deviceName bundleName tokenId : String)
    (info : UsbRightAppInfo) :
    addOrUpdateRightRecordEx db true deviceName bundleName tokenId info s =
      (usbRightOk,
        { s.succeeded [.update] with
          rows := overwrite (isRecordOf info.uid deviceName bundleName tokenId)
            (rowOf deviceName bundleName tokenId info) s.rows }) := by
  simp only [addOrUpdateRightRecordEx, stateM_bind, update_ok ok, Int.lt_irrefl, ↓reduceIte]
  rfl

/-- A negative number of the new row rolls the insertion back. -/
theorem addOrUpdateRightRecordEx_insert_ok (ok : db.Succeeds) (deviceName bundleName tokenId : String)
    (info : UsbRightAppInfo) :
    addOrUpdateRightRecordEx db false deviceName bundleName tokenId info s =
      if narrow (db.rowIds s.calls).toInt < usbRightOk then
        (narrow (db.rowIds s.calls).toInt,
          { s.succeeded [.rollBack, .insert] with
            rows := s.saved.getD (s.rows ++ [rowOf deviceName bundleName tokenId info (db.rowIds s.calls)])
            saved := none })
      else
        (narrow (db.rowIds s.calls).toInt,
          { s.succeeded [.insert] with
            rows := s.rows ++ [rowOf deviceName bundleName tokenId info (db.rowIds s.calls)] }) := by
  simp only [addOrUpdateRightRecordEx, stateM_bind, insert_ok ok, Bool.false_eq_true, ↓reduceIte]
  split_ifs
  · simp only [stateM_bind, rollBack_ok ok]
    rfl
  · rfl

/-- A record that exists is overwritten but for its id; else a new one is inserted, unless the id the
store gave it is negative as an `int32_t`. -/
theorem addOrUpdateRightRecord_ok (ok : db.Succeeds) (quiet : s.Quiet) (deviceName bundleName tokenId : String)
    (info : UsbRightAppInfo) :
    addOrUpdateRightRecord db info.uid deviceName bundleName tokenId info s =
      if 0 < (s.rows.filter (isRecordOf info.uid deviceName bundleName tokenId)).length then
        (usbRightOk,
          { s.succeeded [.commit, .update, .query, .beginTransaction] with
            rows := overwrite (isRecordOf info.uid deviceName bundleName tokenId)
              (rowOf deviceName bundleName tokenId info) s.rows
            saved := none })
      else if narrow (db.rowIds (s.calls + 2)).toInt < usbRightOk then
        (narrow (db.rowIds (s.calls + 2)).toInt, s.succeeded [.rollBack, .insert, .query, .beginTransaction])
      else
        (usbRightOk,
          { s.succeeded [.commit, .insert, .query, .beginTransaction] with
            rows := s.rows ++ [rowOf deviceName bundleName tokenId info (db.rowIds (s.calls + 2))]
            saved := none }) := by
  have quiet' : s.saved = none := quiet
  simp only [addOrUpdateRightRecord, stateM_bind, beginTransaction_ok ok quiet, checkIfNeedUpdateEx_ok ok,
    Store.succeeded_rows, Int.lt_irrefl, ↓reduceIte]
  by_cases found : 0 < (s.rows.filter (isRecordOf info.uid deviceName bundleName tokenId)).length
  · simp only [found, decide_true, addOrUpdateRightRecordEx_update_ok ok, stateM_bind, commit_ok ok, Int.lt_irrefl,
      ↓reduceIte]
    rfl
  · simp only [found, decide_false, addOrUpdateRightRecordEx_insert_ok ok, Store.succeeded_calls, List.length_cons,
      List.length_nil, Nat.add_assoc, Nat.reduceAdd, ↓reduceIte]
    split_ifs with negative
    · simp only [Store.succeeded_saved, Option.getD_some, ← quiet']
      rfl
    · simp only [stateM_bind, commit_ok ok]
      rfl

end Statements

end UsbManager.Right
