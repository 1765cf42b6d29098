import UsbManager.Right.Records

/-!
# The statements on a store that may fail

What a function of `UsbRightDbHelper` leaves when any of its calls may fail. Each of them is one
transaction: it is committed, or rolled back, or stays open because its `RollBack` failed.
-/

namespace UsbManager.Right

open Rdb

variable {db : UsbRightDataBase} {s s' : Store Row} {rows : List Row}

/-- The store after a `RollBack`; if that failed, the transaction is still open. -/
def GivenUp (s s' : Store Row) : Prop := Ended s s.rows s' ∨ (s'.saved = some s.rows ∧ ¬ s'.RollsBack)

/-- What a statement that does not do its work leaves stored. -/
theorem GivenUp.stored (quiet : s.Quiet) (givenUp : GivenUp s s') : s'.stored = s.stored := by
  rw [quiet.stored]
  obtain ended | ⟨saved', -⟩ := givenUp
  · rw [Store.Quiet.stored ended.quiet, ended.rows_eq]
  · rw [Store.stored, saved', Option.getD_some]

/-! ### Calls -/

section Calls

theorem noInit_neg : usbRightRdbNoInit < usbRightOk := by decide

theorem executeFailture_neg : usbRightRdbExecuteFailture < usbRightOk := by decide

theorem narrow_executeFailture_neg : narrow usbRightRdbExecuteFailture < usbRightOk := by decide

theorem execute_eq (store : db.store = true) (call : Session Row Bool) (s : Store Row) :
    db.execute call s = (if (call s).1 then usbRightOk else usbRightRdbExecuteFailture, (call s).2) := by
  unfold UsbRightDataBase.execute
  rw [if_neg (Bool.not_eq_false _ ▸ store), stateM_bind]
  cases (call s).1 with
  | false => rfl
  | true => rfl

theorem beginTransaction_answered (saved : s.saved = none) (store : db.store = true)
    (begun : db.answers s.calls = true) :
    db.beginTransaction s = (usbRightOk, { s.succeeded [.beginTransaction] with saved := some s.rows }) := by
  simp [UsbRightDataBase.beginTransaction, UsbRightDataBase.execute, Rdb.beginTransaction, call, stateM_bind,
    stateM_pure, Store.succeeded, saved, store, begun]

theorem query_answered (store : db.store = true) (queried : db.answers s.calls = true) (predicates : Row → Bool) :
    db.query predicates s = (some (s.rows.filter predicates, db.cursors s.calls), s.succeeded [.query]) := by
  simp [UsbRightDataBase.query, Rdb.query, call, stateM_bind, stateM_map, stateM_get, Store.succeeded, store, queried]

theorem commit_answered (store : db.store = true) (committed : db.answers s.calls = true) :
    db.commit s = (usbRightOk, { s.succeeded [.commit] with saved := none }) := by
  simp [UsbRightDataBase.commit, UsbRightDataBase.execute, Rdb.commit, call, stateM_bind, stateM_pure, Store.succeeded,
    store, committed]

/-- A transaction that starts shows that there is a store. -/
theorem beginTransaction_inside (db : UsbRightDataBase) (quiet : s.Quiet) :
    ((db.beginTransaction s).1 < usbRightOk ∧ Ended s s.rows (db.beginTransaction s).2) ∨
      (db.store = true ∧ (db.beginTransaction s).1 = usbRightOk ∧ Inside s s.rows (db.beginTransaction s).2) := by
  unfold UsbRightDataBase.beginTransaction
  cases store : db.store with
  | false =>
    unfold UsbRightDataBase.execute
    rw [if_pos store]
    exact .inl ⟨noInit_neg, .refl quiet⟩
  | true =>
    rw [execute_eq store]
    obtain ⟨failed, ended⟩ | ⟨began, inside⟩ := beginTransaction_cases db.answers quiet
    · rw [failed]
      exact .inl ⟨executeFailture_neg, ended⟩
    · rw [began]
      exact .inr ⟨rfl, rfl, inside⟩

variable (store : db.store = true) (inside : Inside s rows s')
include store inside

theorem commit_inside :
    ((db.commit s').1 < usbRightOk ∧ Inside s rows (db.commit s').2) ∨
      ((db.commit s').1 = usbRightOk ∧ Ended s rows (db.commit s').2) := by
  rw [UsbRightDataBase.commit, execute_eq store]
  obtain ⟨failed, inside⟩ | ⟨done, ended⟩ := inside.commit db.answers
  · rw [failed]
    exact .inl ⟨executeFailture_neg, inside⟩
  · rw [done]
    exact .inr ⟨rfl, ended⟩

theorem rollBack_inside : GivenUp s (db.rollBack s').2 := by
  rw [UsbRightDataBase.rollBack, execute_eq store]
  exact inside.rollBack db.answers

theorem delete_inside (clause : Row → Bool) :
    ((db.delete clause s').1 = (usbRightRdbExecuteFailture, 0) ∧ Inside s rows (db.delete clause s').2) ∨
      ((db.delete clause s').1 = (usbRightOk, (rows.filter clause).length) ∧
        Inside s (rows.filter fun row => !clause row) (db.delete clause s').2) := by
  unfold UsbRightDataBase.delete
  rw [if_neg (Bool.not_eq_false _ ▸ store), stateM_bind]
  obtain ⟨failed, inside⟩ | ⟨done, inside⟩ := inside.delete db.answers clause
  · rw [failed]
    exact .inl ⟨rfl, inside⟩
  · rw [done]
    exact .inr ⟨rfl, inside⟩

theorem update_inside (clause : Row → Bool) (values : Row → Row) :
    ((db.update clause values s').1 = (usbRightRdbExecuteFailture, 0) ∧ Inside s rows (db.update clause values s').2) ∨
      ((db.update clause values s').1 = (usbRightOk, (rows.filter clause).length) ∧
        Inside s (rows.map fun row => if clause row then values row else row) (db.update clause values s').2) := by
  unfold UsbRightDataBase.update
  rw [if_neg (Bool.not_eq_false _ ▸ store), stateM_bind]
  obtain ⟨failed, inside⟩ | ⟨done, inside⟩ := inside.update db.answers clause values
  · rw [failed]
    exact .inl ⟨rfl, inside⟩
  · rw [done]
    exact .inr ⟨rfl, inside⟩

/-- The id of a row that is inserted may be negative for the caller. -/
theorem insert_inside (row : Row) :
    (narrow (db.insert row s').1 < usbRightOk ∧ ∃ rows', Inside s rows' (db.insert row s').2) ∨
      (usbRightOk ≤ narrow (db.insert row s').1 ∧
        ∃ id, Inside s (rows ++ [{ row with id := id }]) (db.insert row s').2) := by
  unfold UsbRightDataBase.insert
  simp only [stateM_bind, stateM_get, stateM_pure, execute_eq store]
  obtain ⟨failed, inside⟩ | ⟨done, inside⟩ := inside.insert db.answers { row with id := db.rowIds s'.calls }
  · rw [failed]
    exact .inl ⟨narrow_executeFailture_neg, _, inside⟩
  · rw [done]
    by_cases negative : narrow (db.rowIds s'.calls).toInt < usbRightOk
    · exact .inl ⟨negative, _, inside⟩
    · exact .inr ⟨Int.not_lt.1 negative, _, inside⟩

theorem query_inside (predicates : Row → Bool) :
    ((db.query predicates s').1 = none ∨ ∃ cursor, (db.query predicates s').1 = some (rows.filter predicates, cursor)) ∧
      Inside s rows (db.query predicates s').2 := by
  unfold UsbRightDataBase.query
  simp only [if_neg (Bool.not_eq_false _ ▸ store), stateM_bind, stateM_get]
  obtain ⟨result, inside⟩ := inside.query db.answers predicates
  refine ⟨?_, inside⟩
  obtain failed | found := result
  · rw [failed]
    exact .inl rfl
  · rw [found]
    exact .inr ⟨_, rfl⟩

end Calls

/-! ### Statements -/

/-- What has become of a statement in a transaction of its own, by its code and the store it leaves. -/
inductive Outcome (s : Store Row) (rows : List Row) : Int × Store Row → Prop where
  | failed {ret : Int} {s' : Store Row} (negative : ret < usbRightOk) (givenUp : GivenUp s s') :
      Outcome s rows (ret, s')
  | done {ret : Int} {s' : Store Row} (nonneg : usbRightOk ≤ ret) (ended : Ended s rows s') : Outcome s rows (ret, s')

section Statements

/-- The error path: the code is returned after a `RollBack`. -/
theorem Outcome.rolledBack {ret : Int} {rows' : List Row} (store : db.store = true) (inside : Inside s rows' s')
    (negative : ret < usbRightOk) : Outcome s rows (ret, (db.rollBack s').2) :=
  .failed negative (rollBack_inside store inside)

/-- The last lines of most statements. -/
theorem Outcome.committed (store : db.store = true) (inside : Inside s rows s') :
    Outcome s rows ((do
      let ret ← db.commit
      if ret < usbRightOk then
        let _ ← db.rollBack
      return ret : Session Row Int) s') := by
  rw [stateM_bind]
  obtain ⟨negative, inside⟩ | ⟨ok, ended⟩ := commit_inside store inside
  · rw [if_pos negative]
    exact .rolledBack store inside negative
  · rw [ok]
    exact .done (Int.le_refl _) ended

/-- The first lines of a statement in a transaction of its own. -/
theorem transaction {α : Type} {Q : α × Store Row → Prop} {fail : Int → α} {body : Session Row α} (quiet : s.Quiet)
    (failed : ∀ ret s', ret < usbRightOk → GivenUp s s' → Q (fail ret, s'))
    (begun : ∀ s', db.store = true → Inside s s.rows s' → Q (body s')) :
    Q ((do
      let ret ← db.beginTransaction
      if ret < usbRightOk then return fail ret
      body : Session Row α) s) := by
  rw [stateM_bind]
  obtain ⟨negative, ended⟩ | ⟨store, ok, inside⟩ := beginTransaction_inside db quiet
  · rw [if_pos negative]
    exact failed _ _ negative (.inl ended)
  · rw [ok, if_neg (Int.lt_irrefl _)]
    exact begun _ store inside

/-- A deletion of no row fails, and changes nothing. -/
theorem deleteAndNoOtherOperation_outcome (db : UsbRightDataBase) (quiet : s.Quiet) (clause : Row → Bool) :
    Outcome s (s.rows.filter fun row => !clause row) (deleteAndNoOtherOperation db clause s) := by
  unfold deleteAndNoOtherOperation
  refine transaction quiet (fun _ _ => .failed) fun s' store inside => ?_
  rw [stateM_bind]
  obtain ⟨failed, inside⟩ | ⟨deleted, inside⟩ := delete_inside store inside clause
  · rw [failed]
    exact .rolledBack store inside executeFailture_neg
  rw [deleted]
  dsimp only
  rw [if_neg (Int.lt_irrefl _), stateM_bind]
  have empty : (s.rows.filter clause).length ≤ 0 → s.rows = s.rows.filter fun row => !clause row := by
    intro none
    refine (List.filter_eq_self.2 fun row member => ?_).symm
    have selected : s.rows.filter clause = [] := List.eq_nil_of_length_eq_zero (Nat.le_zero.1 none)
    rw [Bool.not_eq_true', ← Bool.not_eq_true]
    exact List.filter_eq_nil_iff.1 selected row member
  obtain ⟨negative, inside⟩ | ⟨ok, ended⟩ := commit_inside store inside
  · rw [if_pos negative]
    rw [stateM_bind]
    split_ifs
    · exact .rolledBack store inside (by decide)
    · exact .rolledBack store inside negative
  · rw [ok, if_neg (Int.lt_irrefl _)]
    split_ifs with none
    · exact .failed (by decide) (.inl (empty none ▸ ended))
    · exact .done (Int.le_refl _) ended

theorem deletePredicates_outcome (db : UsbRightDataBase) (quiet : s.Quiet) (predicates : Row → Bool) :
    Outcome s (s.rows.filter fun row => !predicates row) (deletePredicates db predicates s) := by
  unfold deletePredicates
  refine transaction quiet (fun _ _ => .failed) fun s' store inside => ?_
  rw [stateM_bind]
  obtain ⟨failed, inside⟩ | ⟨deleted, inside⟩ := delete_inside store inside predicates
  · rw [failed]
    exact .rolledBack store inside executeFailture_neg
  rw [deleted]
  exact .committed store inside

theorem addRightRecord_outcome (db : UsbRightDataBase) (quiet : s.Quiet) (deviceName bundleName : String)
    (info : UsbRightAppInfo) :
    ∃ id, Outcome s (s.rows ++ [rowWithoutToken deviceName bundleName info id none])
      (addRightRecord db deviceName bundleName info s) := by
  unfold addRightRecord
  refine transaction
    (Q := fun out => ∃ id, Outcome s (s.rows ++ [rowWithoutToken deviceName bundleName info id none]) out)
    quiet (fun _ _ negative givenUp => ⟨0, .failed negative givenUp⟩) fun s' store inside => ?_
  rw [stateM_bind]
  obtain ⟨negative, rows', inside⟩ | ⟨nonneg, id, inside⟩ :=
    insert_inside store inside (rowWithoutToken deviceName bundleName info 0 none)
  · rw [if_pos negative]
    exact ⟨0, .rolledBack store inside negative⟩
  · rw [if_neg (Int.not_lt.2 nonneg)]
    exact ⟨id, .committed store inside⟩

theorem updateRightRecord_outcome (db : UsbRightDataBase) (quiet : s.Quiet) (uid : Int32)
    (deviceName bundleName : String) (info : UsbRightAppInfo) :
    Outcome s
      (s.rows.map fun row =>
        if (row.uid = info.uid ∧ row.deviceName = deviceName ∧ row.bundleName = bundleName : Bool) then
          rowWithoutToken deviceName bundleName info row.id row.tokenId
        else row)
      (updateRightRecord db uid deviceName bundleName info s) := by
  unfold updateRightRecord
  refine transaction quiet (fun _ _ => .failed) fun s' store inside => ?_
  rw [stateM_bind]
  obtain ⟨failed, inside⟩ | ⟨updated, inside⟩ := update_inside store inside
    (fun row => row.uid = info.uid ∧ row.deviceName = deviceName ∧ row.bundleName = bundleName)
    fun row => rowWithoutToken deviceName bundleName info row.id row.tokenId
  · rw [failed]
    exact .rolledBack store inside executeFailture_neg
  rw [updated]
  exact .committed store inside

theorem checkIfNeedUpdateEx_inside (store : db.store = true) (inside : Inside s rows s') (uid : Int32)
    (deviceName bundleName tokenId : String) :
    let out := checkIfNeedUpdateEx db uid deviceName bundleName tokenId s'
    (out.1 = (usbRightRdbExecuteFailture, false) ∧ GivenUp s out.2) ∨
      (out.1 = (usbRightOk, decide (0 < (rows.filter (isRecordOf uid deviceName bundleName tokenId)).length)) ∧
        Inside s rows out.2) := by
  dsimp only
  unfold checkIfNeedUpdateEx
  rw [stateM_bind]
  obtain ⟨failed | ⟨cursor, found⟩, inside⟩ :=
    query_inside store inside (isRecordOf uid deviceName bundleName tokenId)
  · rw [failed]
    exact .inl ⟨rfl, rollBack_inside store inside⟩
  · rw [found]
    dsimp only
    split_ifs
    · exact .inl ⟨rfl, rollBack_inside store inside⟩
    · exact .inr ⟨rfl, inside⟩

theorem addOrUpdateRightRecordEx_inside (store : db.store = true) (inside : Inside s rows s') (isUpdate : Bool)
    (deviceName bundleName tokenId : String) (info : UsbRightAppInfo) :
    let out := addOrUpdateRightRecordEx db isUpdate deviceName bundleName tokenId info s'
    (out.1 < usbRightOk ∧ GivenUp s out.2) ∨
      (usbRightOk ≤ out.1 ∧ ∃ id, Inside s
        (if isUpdate then
          overwrite (isRecordOf info.uid deviceName bundleName tokenId) (rowOf deviceName bundleName tokenId info) rows
        else rows ++ [rowOf deviceName bundleName tokenId info id]) out.2) := by
  dsimp only
  unfold addOrUpdateRightRecordEx
  cases isUpdate with
  | true =>
    simp only [if_true, stateM_bind]
    obtain ⟨failed, inside⟩ | ⟨updated, inside⟩ := update_inside store inside
      (isRecordOf info.uid deviceName bundleName tokenId) fun row => rowOf deviceName bundleName tokenId info row.id
    · rw [failed]
      exact .inl ⟨executeFailture_neg, rollBack_inside store inside⟩
    · rw [updated]
      exact .inr ⟨Int.le_refl _, 0, inside⟩
  | false =>
    simp only [Bool.false_eq_true, if_false, stateM_bind]
    obtain ⟨negative, rows', inside⟩ | ⟨nonneg, id, inside⟩ :=
      insert_inside store inside (rowOf deviceName bundleName tokenId info 0)
    · rw [if_pos negative]
      exact .inl ⟨negative, rollBack_inside store inside⟩
    · rw [if_neg (Int.not_lt.2 nonneg)]
      exact .inr ⟨nonneg, id, inside⟩

/-- The rows after a grant: the record of the key gets the values of the grant, or a new one is made. -/
def granted (uid : Int32) (deviceName bundleName tokenId : String) (info : UsbRightAppInfo) (id : Int64)
    (rows : List Row) : List Row :=
  if 0 < (rows.filter (isRecordOf uid deviceName bundleName tokenId)).length then
    overwrite (isRecordOf info.uid deviceName bundleName tokenId) (rowOf deviceName bundleName tokenId info) rows
  else rows ++ [rowOf deviceName bundleName tokenId info id]

theorem addOrUpdateRightRecord_outcome (db : UsbRightDataBase) (quiet : s.Quiet) (uid : Int32)
    (deviceName bundleName tokenId : String) (info : UsbRightAppInfo) :
    ∃ id, Outcome s (granted uid deviceName bundleName tokenId info id s.rows)
      (addOrUpdateRightRecord db uid deviceName bundleName tokenId info s) := by
  unfold addOrUpdateRightRecord
  refine transaction (Q := fun out => ∃ id, Outcome s (granted uid deviceName bundleName tokenId info id s.rows) out)
    quiet (fun _ _ negative givenUp => ⟨0, .failed negative givenUp⟩) fun s' store inside => ?_
  rw [stateM_bind]
  obtain ⟨failed, givenUp⟩ | ⟨checked, inside⟩ :=
    checkIfNeedUpdateEx_inside store inside uid deviceName bundleName tokenId
  · rw [failed]
    exact ⟨0, .failed executeFailture_neg givenUp⟩
  rw [checked]
  dsimp only
  rw [if_neg (Int.lt_irrefl _), stateM_bind]
  obtain ⟨negative, givenUp⟩ | ⟨nonneg, id, inside⟩ :=
    addOrUpdateRightRecordEx_inside store inside _ deviceName bundleName tokenId info
  · rw [if_pos negative]
    exact ⟨0, .failed negative givenUp⟩
  · rw [if_neg (Int.not_lt.2 nonneg)]
    simp only [decide_eq_true_eq] at inside
    exact ⟨id, .committed store inside⟩

/-- A query leaves the rows alone. -/
theorem queryInTransaction_outcome (db : UsbRightDataBase) (quiet : s.Quiet) (predicates : Row → Bool) :
    let out := queryInTransaction db predicates s
    (∃ ret, out.1 = .error ret ∧ GivenUp s out.2) ∨
      ∃ cursor, out.1 = .ok (s.rows.filter predicates, cursor) ∧ Ended s s.rows out.2 := by
  dsimp only
  unfold queryInTransaction
  refine transaction (Q := fun out => (∃ ret, out.1 = Except.error ret ∧ GivenUp s out.2) ∨
      ∃ cursor, out.1 = Except.ok (s.rows.filter predicates, cursor) ∧ Ended s s.rows out.2) quiet
    (fun ret _ _ givenUp => .inl ⟨ret, rfl, givenUp⟩) fun s' store inside => ?_
  rw [stateM_bind]
  obtain ⟨failed | ⟨cursor, found⟩, inside⟩ := query_inside store inside predicates
  · rw [failed]
    exact .inl ⟨_, rfl, rollBack_inside store inside⟩
  · rw [found]
    dsimp only
    rw [stateM_bind]
    obtain ⟨negative, inside⟩ | ⟨ok, ended⟩ := commit_inside store inside
    · rw [if_pos negative]
      exact .inl ⟨_, rfl, rollBack_inside store inside⟩
    · rw [ok, if_neg (Int.lt_irrefl _)]
      exact .inr ⟨cursor, rfl, ended⟩

end Statements

/-! ### Failed `RollBack`s -/

section Failure

/-- Some `RollBack` has failed. -/
def Failed (s : Store Row) : Prop := ¬ s.RollsBack

variable (db : UsbRightDataBase)

theorem execute_failed {call : Session Row Bool} (kept : Keeps Failed call) : Keeps Failed (db.execute call) :=
  .ite (fun _ => .pure _) fun _ => .bind kept fun _ => .ite (fun _ => .pure _) fun _ => .pure _

theorem beginTransaction_failed : Keeps Failed db.beginTransaction :=
  execute_failed db (beginTransaction_keeps_failure _)

theorem commit_failed : Keeps Failed db.commit := execute_failed db (call_keeps_failure _ _ fun _ => rfl)

theorem rollBack_failed : Keeps Failed db.rollBack := execute_failed db (call_keeps_failure _ _ fun _ => rfl)

theorem insert_failed (row : Row) : Keeps Failed (db.insert row) :=
  .get fun _ _ => .bind (execute_failed db (call_keeps_failure _ _ fun _ => rfl)) fun _ => .pure _

theorem update_failed (clause : Row → Bool) (values : Row → Row) : Keeps Failed (db.update clause values) :=
  .ite (fun _ => .pure _) fun _ => .bind (update_keeps_failure _ _ _) fun _ => .pure _

theorem delete_failed (clause : Row → Bool) : Keeps Failed (db.delete clause) :=
  .ite (fun _ => .pure _) fun _ => .bind (delete_keeps_failure _ _) fun _ => .pure _

theorem query_failed (predicates : Row → Bool) : Keeps Failed (db.query predicates) :=
  .ite (fun _ => .pure _) fun _ => .get fun _ _ => .bind (query_keeps_failure _ _) fun _ => .pure _

theorem deleteAndNoOtherOperation_failed (clause : Row → Bool) :
    Keeps Failed (deleteAndNoOtherOperation db clause) := by
  unfold deleteAndNoOtherOperation
  refine .bind (beginTransaction_failed db) fun _ => .ite (fun _ => .pure _) fun _ => ?_
  refine .bind (delete_failed db clause) fun _ => ?_
  refine .ite (fun _ => .bind (rollBack_failed db) fun _ => .pure _) fun _ => .bind (commit_failed db) fun _ => ?_
  refine .ite (fun _ => .bind (rollBack_failed db) fun _ => ?_) fun _ => ?_
  · exact .ite (fun _ => .pure _) fun _ => .pure _
  · exact .ite (fun _ => .pure _) fun _ => .pure _

/-- The last lines of most statements. -/
theorem committed_failed : Keeps Failed (do
    let ret ← db.commit
    if ret < usbRightOk then
      let _ ← db.rollBack
    return ret : Session Row Int) :=
  .bind (commit_failed db) fun _ => .ite (fun _ => .bind (rollBack_failed db) fun _ => .pure _) fun _ => .pure _

theorem deletePredicates_failed (predicates : Row → Bool) : Keeps Failed (deletePredicates db predicates) := by
  refine .bind (beginTransaction_failed db) fun _ => .ite (fun _ => .pure _) fun _ => ?_
  refine .bind (delete_failed db predicates) fun _ => ?_
  exact .ite (fun _ => .bind (rollBack_failed db) fun _ => .pure _) fun _ => committed_failed db

theorem addRightRecord_failed (deviceName bundleName : String) (info : UsbRightAppInfo) :
    Keeps Failed (addRightRecord db deviceName bundleName info) := by
  refine .bind (beginTransaction_failed db) fun _ => .ite (fun _ => .pure _) fun _ => ?_
  refine .bind (insert_failed db _) fun _ => ?_
  exact .ite (fun _ => .bind (rollBack_failed db) fun _ => .pure _) fun _ => committed_failed db

theorem updateRightRecord_failed (uid : Int32) (deviceName bundleName : String) (info : UsbRightAppInfo) :
    Keeps Failed (updateRightRecord db uid deviceName bundleName info) := by
  refine .bind (beginTransaction_failed db) fun _ => .ite (fun _ => .pure _) fun _ => ?_
  refine .bind (update_failed db _ _) fun _ => ?_
  exact .ite (fun _ => .bind (rollBack_failed db) fun _ => .pure _) fun _ => committed_failed db

theorem checkIfNeedUpdateEx_failed (uid : Int32) (deviceName bundleName tokenId : String) :
    Keeps Failed (checkIfNeedUpdateEx db uid deviceName bundleName tokenId) := by
  refine .bind (query_failed db _) fun resultSet => ?_
  cases resultSet with
  | none => exact .bind (rollBack_failed db) fun _ => .pure _
  | some resultSet => exact .ite (fun _ => .bind (rollBack_failed db) fun _ => .pure _) fun _ => .pure _

theorem addOrUpdateRightRecordEx_failed (isUpdate : Bool) (deviceName bundleName tokenId : String)
    (info : UsbRightAppInfo) :
    Keeps Failed (addOrUpdateRightRecordEx db isUpdate deviceName bundleName tokenId info) := by
  refine .ite (fun _ => .bind (update_failed db _ _) fun _ => ?_) fun _ => .bind (insert_failed db _) fun _ => ?_
  · exact .ite (fun _ => .bind (rollBack_failed db) fun _ => .pure _) fun _ => .pure _
  · exact .ite (fun _ => .bind (rollBack_failed db) fun _ => .pure _) fun _ => .pure _

theorem addOrUpdateRightRecord_failed (uid : Int32) (deviceName bundleName tokenId : String) (info : UsbRightAppInfo) :
    Keeps Failed (addOrUpdateRightRecord db uid deviceName bundleName tokenId info) := by
  refine .bind (beginTransaction_failed db) fun _ => .ite (fun _ => .pure _) fun _ => ?_
  refine .bind (checkIfNeedUpdateEx_failed db _ _ _ _) fun _ => .ite (fun _ => .pure _) fun _ => ?_
  refine .bind (addOrUpdateRightRecordEx_failed db _ _ _ _ _) fun _ => .ite (fun _ => .pure _) fun _ => ?_
  exact committed_failed db

theorem queryInTransaction_failed (predicates : Row → Bool) : Keeps Failed (queryInTransaction db predicates) := by
  refine .bind (beginTransaction_failed db) fun _ => .ite (fun _ => .pure _) fun _ => ?_
  refine .bind (query_failed db predicates) fun resultSet => ?_
  cases resultSet with
  | none => exact .bind (rollBack_failed db) fun _ => .pure _
  | some resultSet =>
    refine .bind (commit_failed db) fun _ => ?_
    exact .ite (fun _ => .bind (rollBack_failed db) fun _ => .pure _) fun _ => .pure _

end Failure

/-! ### All operations -/

/-- The functions of `UsbRightDbHelper` that change the table. -/
inductive Mutation where
  | addRightRecord (deviceName bundleName : String) (info : UsbRightAppInfo)
  | updateRightRecord (uid : Int32) (deviceName bundleName : String) (info : UsbRightAppInfo)
  | addOrUpdateRightRecord (uid : Int32) (deviceName bundleName tokenId : String) (info : UsbRightAppInfo)
  | deleteRightRecord (uid : Int32) (deviceName bundleName tokenId : String)
  | deleteDeviceRightRecord (uid : Int32) (deviceName : String)
  | deleteAppRightRecord (uid : Int32) (bundleName : String)
  | deleteAppsRightRecord (uid : Int32) (bundleNames : List String)
  | deleteUidRightRecord (uid : Int32)
  | deleteNormalExpiredRightRecord (uid : Int32) (expiredTime : UInt64)
  | deleteValidPeriodRightRecord (validPeriod : Int64) (deviceName : String)

namespace Mutation

def run (db : UsbRightDataBase) : Mutation → Session Row Int
  | addRightRecord deviceName bundleName info => Right.addRightRecord db deviceName bundleName info
  | updateRightRecord uid deviceName bundleName info => Right.updateRightRecord db uid deviceName bundleName info
  | addOrUpdateRightRecord uid deviceName bundleName tokenId info =>
    Right.addOrUpdateRightRecord db uid deviceName bundleName tokenId info
  | deleteRightRecord uid deviceName bundleName tokenId => Right.deleteRightRecord db uid deviceName bundleName tokenId
  | deleteDeviceRightRecord uid deviceName => Right.deleteDeviceRightRecord db uid deviceName
  | deleteAppRightRecord uid bundleName => Right.deleteAppRightRecord db uid bundleName
  | deleteAppsRightRecord uid bundleNames => Right.deleteAppsRightRecord db uid bundleNames
  | deleteUidRightRecord uid => Right.deleteUidRightRecord db uid
  | deleteNormalExpiredRightRecord uid expiredTime => Right.deleteNormalExpiredRightRecord db uid expiredTime
  | deleteValidPeriodRightRecord validPeriod deviceName =>
    Right.deleteValidPeriodRightRecord db validPeriod deviceName

/-- The whole effect of a function, whose new row gets the id `id`. -/
def effect (id : Int64) (rows : List Row) : Mutation → List Row
  | addRightRecord deviceName bundleName info => rows ++ [rowWithoutToken deviceName bundleName info id none]
  | updateRightRecord _ deviceName bundleName info =>
    rows.map fun row =>
      if (row.uid = info.uid ∧ row.deviceName = deviceName ∧ row.bundleName = bundleName : Bool) then
        rowWithoutToken deviceName bundleName info row.id row.tokenId
      else row
  | addOrUpdateRightRecord uid deviceName bundleName tokenId info =>
    granted uid deviceName bundleName tokenId info id rows
  | deleteRightRecord uid deviceName bundleName tokenId =>
    rows.filter fun row => !isRecordOf uid deviceName bundleName tokenId row
  | deleteDeviceRightRecord uid deviceName =>
    rows.filter fun row => !(row.uid = uid ∧ row.deviceName = deviceName : Bool)
  | deleteAppRightRecord uid bundleName => rows.filter fun row => !(row.uid = uid ∧ row.bundleName = bundleName : Bool)
  | deleteAppsRightRecord uid bundleNames =>
    rows.filter fun row => !(row.uid = uid ∧ row.bundleName ∈ bundleNames : Bool)
  | deleteUidRightRecord uid => rows.filter fun row => !(row.uid = uid : Bool)
  | deleteNormalExpiredRightRecord uid expiredTime => rows.filter fun row => !isNormalExpired uid expiredTime row
  | deleteValidPeriodRightRecord validPeriod deviceName =>
    rows.filter fun row => !(row.validPeriod = validPeriod ∧ row.deviceName = deviceName : Bool)

theorem run_outcome (db : UsbRightDataBase) (quiet : s.Quiet) (m : Mutation) :
    ∃ id, Outcome s (m.effect id s.rows) (m.run db s) := by
  cases m with
  | addRightRecord deviceName bundleName info => exact addRightRecord_outcome db quiet deviceName bundleName info
  | updateRightRecord uid deviceName bundleName info =>
    exact ⟨0, updateRightRecord_outcome db quiet uid deviceName bundleName info⟩
  | addOrUpdateRightRecord uid deviceName bundleName tokenId info =>
    exact addOrUpdateRightRecord_outcome db quiet uid deviceName bundleName tokenId info
  | deleteAppsRightRecord uid bundleNames => exact ⟨0, deletePredicates_outcome db quiet _⟩
  | deleteRightRecord _ _ _ _ => exact ⟨0, deleteAndNoOtherOperation_outcome db quiet _⟩
  | deleteDeviceRightRecord _ _ => exact ⟨0, deleteAndNoOtherOperation_outcome db quiet _⟩
  | deleteAppRightRecord _ _ => exact ⟨0, deleteAndNoOtherOperation_outcome db quiet _⟩
  | deleteUidRightRecord _ => exact ⟨0, deleteAndNoOtherOperation_outcome db quiet _⟩
  | deleteNormalExpiredRightRecord _ _ => exact ⟨0, deleteAndNoOtherOperation_outcome db quiet _⟩
  | deleteValidPeriodRightRecord _ _ => exact ⟨0, deleteAndNoOtherOperation_outcome db quiet _⟩

theorem run_failed (db : UsbRightDataBase) (m : Mutation) : Keeps Failed (m.run db) := by
  cases m with
  | addRightRecord _ _ _ => exact addRightRecord_failed db _ _ _
  | updateRightRecord uid _ _ _ => exact updateRightRecord_failed db uid _ _ _
  | addOrUpdateRightRecord _ _ _ _ _ => exact addOrUpdateRightRecord_failed db _ _ _ _ _
  | deleteAppsRightRecord _ _ => exact deletePredicates_failed db _
  | deleteRightRecord _ _ _ _ => exact deleteAndNoOtherOperation_failed db _
  | deleteDeviceRightRecord _ _ => exact deleteAndNoOtherOperation_failed db _
  | deleteAppRightRecord _ _ => exact deleteAndNoOtherOperation_failed db _
  | deleteUidRightRecord _ => exact deleteAndNoOtherOperation_failed db _
  | deleteNormalExpiredRightRecord _ _ => exact deleteAndNoOtherOperation_failed db _
  | deleteValidPeriodRightRecord _ _ => exact deleteAndNoOtherOperation_failed db _

end Mutation

/-- A call of a function of `UsbRightDbHelper`. -/
inductive HelperCall where
  | mutation (m : Mutation)
  | query (predicates : Row → Bool)

namespace HelperCall

def exec (db : UsbRightDataBase) (call : HelperCall) (s : Store Row) : Store Row :=
  match call with
  | mutation m => (m.run db s).2
  | query predicates => (queryInTransaction db predicates s).2

/-- The calls one after another, as `databaseMutex_` has them. -/
def execAll (db : UsbRightDataBase) (calls : List HelperCall) (s : Store Row) : Store Row :=
  calls.foldl (fun s call => call.exec db s) s

theorem exec_failed (db : UsbRightDataBase) (call : HelperCall) (failed : Failed s) : Failed (call.exec db s) := by
  cases call with
  | mutation m => exact m.run_failed db s failed
  | query predicates => exact queryInTransaction_failed db predicates s failed

theorem execAll_failed (db : UsbRightDataBase) (calls : List HelperCall) (failed : Failed s) :
    Failed (execAll db calls s) := by
  induction calls generalizing s with
  | nil => exact failed
  | cons call calls ih => exact ih (call.exec_failed db failed)

/-- A call leaves the rows alone or has its whole effect. -/
theorem exec_ended (db : UsbRightDataBase) (quiet : s.Quiet) (call : HelperCall)
    (rollsBack : (call.exec db s).RollsBack) :
    Ended s s.rows (call.exec db s) ∨ ∃ m id, call = mutation m ∧ Ended s (m.effect id s.rows) (call.exec db s) := by
  cases call with
  | mutation m =>
    obtain ⟨id, outcome⟩ := m.run_outcome db quiet
    dsimp only [exec] at rollsBack ⊢
    generalize m.run db s = out at outcome rollsBack
    cases outcome with
    | failed negative givenUp =>
      obtain ended | ⟨-, failed⟩ := givenUp
      · exact .inl ended
      · exact absurd rollsBack failed
    | done nonneg ended => exact .inr ⟨m, id, rfl, ended⟩
  | query predicates =>
    obtain ⟨ret, -, ended | ⟨-, failed⟩⟩ | ⟨cursor, -, ended⟩ := queryInTransaction_outcome db quiet predicates
    · exact .inl ended
    · exact absurd rollsBack failed
    · exact .inl ended

theorem execAll_quiet (db : UsbRightDataBase) (quiet : s.Quiet) (calls : List HelperCall)
    (rollsBack : (execAll db calls s).RollsBack) : (execAll db calls s).Quiet := by
  induction calls generalizing s with
  | nil => exact quiet
  | cons call calls ih =>
    have here : (call.exec db s).RollsBack := by
      by_contra failed
      exact execAll_failed db calls failed rollsBack
    obtain ended | ⟨m, id, -, ended⟩ := call.exec_ended db quiet here
    · exact ih ended.quiet rollsBack
    · exact ih ended.quiet rollsBack

end HelperCall

/-- A function that returns a negative value has changed nothing, another one has done all it does. Each ends the
transaction that it has begun, once, so that none is open when the next one begins. -/
theorem rights_operations_atomic (db : UsbRightDataBase) (s : Store Row) (quiet : s.Quiet) :
    (∀ m : Mutation, (m.run db s).2.RollsBack →
      ((m.run db s).1 < 0 → (m.run db s).2.rows = s.rows) ∧
        (0 ≤ (m.run db s).1 → ∃ id, (m.run db s).2.rows = m.effect id s.rows) ∧
        ∃ made, (m.run db s).2.log = made ++ s.log ∧ Balanced made) ∧
      ∀ calls : List HelperCall, (HelperCall.execAll db calls s).RollsBack → (HelperCall.execAll db calls s).Quiet := by
  refine ⟨fun m rollsBack => ?_, fun calls => HelperCall.execAll_quiet db quiet calls⟩
  obtain ⟨id, outcome⟩ := m.run_outcome db quiet
  generalize m.run db s = out at outcome rollsBack
  cases outcome with
  | failed negative givenUp =>
    obtain ended | ⟨-, failed⟩ := givenUp
    · exact ⟨fun _ => ended.rows_eq, fun nonneg => absurd negative (Int.not_lt.2 nonneg), ended.balanced⟩
    · exact absurd rollsBack failed
  | done nonneg ended =>
    exact ⟨fun negative => absurd negative (Int.not_lt.2 nonneg), fun _ => ⟨id, ended.rows_eq⟩, ended.balanced⟩

/-- The third call fails. -/
def failsThird : UsbRightDataBase where
  store := true
  answers := fun n => n ≠ 2
  rowIds := fun n => Int64.ofNat (n + 1)
  cursors := fun _ => ⟨true, fun _ => true, fun _ => true⟩

def scannerRow : Row := ⟨1, 100, 0, 0, 1700000000, 268435455, "4817-4258-A1", "com.example.scanner", some "537"⟩

/-- No call fails. -/
def failsNever : UsbRightDataBase := { failsThird with answers := fun _ => true }

/-- A deletion whose `Commit` fails leaves the row, and one that succeeds deletes it. -/
theorem rights_operations_atomic_delete :
    ((deleteUidRightRecord failsThird 100 { rows := [scannerRow] }).1 < 0 ∧
      (deleteUidRightRecord failsThird 100 { rows := [scannerRow] }).2.rows = [scannerRow]) ∧
    0 ≤ (deleteUidRightRecord failsNever 100 { rows := [scannerRow] }).1 ∧
      (deleteUidRightRecord failsNever 100 { rows := [scannerRow] }).2.rows = [] := by
  refine ⟨?_, ?_⟩
  · have negative : (deleteUidRightRecord failsThird 100 { rows := [scannerRow] }).1 < 0 := by decide
    have rollsBack : (deleteUidRightRecord failsThird 100 { rows := [scannerRow] }).2.RollsBack := by decide
    have atomic := (rights_operations_atomic failsThird { rows := [scannerRow] } rfl).1 (.deleteUidRightRecord 100)
    exact ⟨negative, (atomic rollsBack).1 negative⟩
  · have nonneg : 0 ≤ (deleteUidRightRecord failsNever 100 { rows := [scannerRow] }).1 := by decide
    have rollsBack : (deleteUidRightRecord failsNever 100 { rows := [scannerRow] }).2.RollsBack := by decide
    have atomic := (rights_operations_atomic failsNever { rows := [scannerRow] } rfl).1 (.deleteUidRightRecord 100)
    obtain ⟨_, rows⟩ := (atomic rollsBack).2.1 nonneg
    exact ⟨nonneg, rows⟩

end UsbManager.Right
