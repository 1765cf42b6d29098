import UsbManager.Right.Atomic
import UsbManager.Right.Effects

/-!
# What a later check answers

A check that finds a right shows that the table has it, whatever the store answered. A removal that
reports success leaves no record of its key; a cancellation reports success also if the store refused
the deletion, and then the right is still there.
-/

namespace UsbManager.Right

open Rdb

variable {db later : UsbRightDataBase} {s s' : Store Row} {k : Key} {now : ClockReading}

/-! ### Checks -/

section Checks

theorem mem_readInfos {cursor : Cursor} {i : Nat} {rows : List Row} {info : UsbRightAppInfo}
    (read : info ∈ readInfos cursor i rows) : ∃ row ∈ rows, row.info = info := by
  induction rows generalizing i with
  | nil => cases read
  | cons row rows ih =>
    have rest : info ∈ readInfos cursor (i + 1) rows → ∃ r ∈ row :: rows, r.info = info := by
      intro read
      obtain ⟨r, member, same⟩ := ih read
      exact ⟨r, List.mem_cons_of_mem _ member, same⟩
    unfold readInfos at read
    split_ifs at read
    · cases read
    · obtain rfl | read := List.mem_cons.1 read
      · exact ⟨row, List.mem_cons_self .., rfl⟩
      · exact rest read
    · exact rest read

/-- A transaction that is still open lets no other start. -/
theorem beginTransaction_busy (db : UsbRightDataBase) (busy : s.saved.isSome = true) :
    (db.beginTransaction s).1 < usbRightOk ∧ (db.beginTransaction s).2.saved = s.saved := by
  unfold UsbRightDataBase.beginTransaction
  cases store : db.store with
  | false =>
    unfold UsbRightDataBase.execute
    rw [if_pos store]
    exact ⟨noInit_neg, rfl⟩
  | true =>
    rw [execute_eq store]
    unfold Rdb.beginTransaction
    rw [if_pos busy]
    exact ⟨executeFailture_neg, rfl⟩

theorem beginTransaction_stored (db : UsbRightDataBase) (busy : s.saved.isSome = true) :
    (db.beginTransaction s).2.stored = s.stored := by
  obtain ⟨rows, there⟩ := Option.isSome_iff_exists.1 busy
  rw [Store.stored, Store.stored, (beginTransaction_busy db busy).2, there]
  rfl

theorem quiet_or_busy (s : Store Row) : s.Quiet ∨ s.saved.isSome = true := by
  unfold Store.Quiet
  cases s.saved with
  | none => exact .inl rfl
  | some rows => exact .inr rfl

/-- A query that succeeds has had its transaction, has seen the selected rows and leaves the table as it was. -/
theorem queryInTransaction_cases (db : UsbRightDataBase) (s : Store Row) (predicates : Row → Bool) :
    (∃ ret, (queryInTransaction db predicates s).1 = .error ret) ∨
      (s.Quiet ∧ Ended s s.rows (queryInTransaction db predicates s).2 ∧
        ∃ cursor, (queryInTransaction db predicates s).1 = .ok (s.rows.filter predicates, cursor)) := by
  obtain quiet | busy := quiet_or_busy s
  · obtain ⟨ret, error, -⟩ | found := queryInTransaction_outcome db quiet predicates
    · exact .inl ⟨ret, error⟩
    · obtain ⟨cursor, found, ended⟩ := found
      exact .inr ⟨quiet, ended, cursor, found⟩
  · unfold queryInTransaction
    rw [stateM_bind, if_pos (beginTransaction_busy db busy).1]
    exact .inl ⟨_, rfl⟩

/-- What a query reads are selected rows. -/
theorem queryAndGetResult_cases (db : UsbRightDataBase) (s : Store Row) (predicates : Row → Bool) :
    (queryAndGetResult db predicates s).1.2 = [] ∨
      (s.Quiet ∧ Ended s s.rows (queryAndGetResult db predicates s).2 ∧
        ∀ info ∈ (queryAndGetResult db predicates s).1.2, ∃ row ∈ s.rows.filter predicates, row.info = info) := by
  unfold queryAndGetResult
  rw [stateM_bind]
  obtain ⟨ret, error⟩ | ⟨quiet, ended, cursor, found⟩ := queryInTransaction_cases db s predicates
  · rw [error]
    exact .inl rfl
  · rw [found]
    refine .inr ⟨quiet, ended, fun info read => ?_⟩
    have read : info ∈ (getResultRightRecordEx cursor (s.rows.filter predicates)).2 := read
    unfold getResultRightRecordEx at read
    split_ifs at read
    · cases read
    · exact mem_readInfos read

/-- A key that is not expired has been read from the table. -/
theorem isRecordExpired_found {uid : Int32} {deviceName bundleName tokenId : String} {expiredTime : UInt64}
    (valid : (isRecordExpired db uid deviceName bundleName tokenId expiredTime s).1 = false) :
    s.Quiet ∧ Ended s s.rows (isRecordExpired db uid deviceName bundleName tokenId expiredTime s).2 ∧
      ∃ row ∈ s.rows.filter (isRecordOf uid deviceName bundleName tokenId),
        row.info.isRecordExpired expiredTime = false := by
  unfold isRecordExpired queryRightRecord at valid ⊢
  rw [stateM_bind] at valid ⊢
  dsimp only at valid ⊢
  split_ifs at valid ⊢
  · cases valid
  · obtain ⟨info, read, fresh⟩ := List.all_eq_false.1 valid
    obtain none | ⟨quiet, ended, rows⟩ :=
      queryAndGetResult_cases db s (isRecordOf uid deviceName bundleName tokenId)
    · rw [none] at read
      cases read
    · obtain ⟨row, member, rfl⟩ := rows info read
      exact ⟨quiet, ended, row, member, Bool.eq_false_iff.2 fresh⟩

/-- A right that is found is in the table. -/
theorem hasRight_found (user : k.uid ≠ usbRightUseridConsole) (has : k.hasRight db now s = true) :
    s.Quiet ∧ Ended s s.rows (Right.hasRight db now k.deviceName k.bundleName k.tokenId k.uid s).2 ∧
      (ofKey k s.rows).any (fun row => !row.info.isRecordExpired now.getCurrentTimestamp) = true := by
  unfold Key.hasRight at has
  unfold Right.hasRight at has ⊢
  rw [if_neg user, stateM_bind] at has ⊢
  obtain ⟨quiet, ended, row, member, fresh⟩ := isRecordExpired_found (Bool.not_inj has)
  exact ⟨quiet, ended, List.any_eq_true.2 ⟨row, member, congrArg (!·) fresh⟩⟩

/-- The same check finds it again while the store answers. -/
theorem hasRight_again (user : k.uid ≠ usbRightUseridConsole) (has : k.hasRight db now s = true)
    (ok : later.Succeeds) :
    k.hasRight later now (Right.hasRight db now k.deviceName k.bundleName k.tokenId k.uid s).2 = true := by
  obtain ⟨-, ended, found⟩ := hasRight_found user has
  rw [hasRight_eq ok ended.quiet user, ended.rows_eq]
  exact found

theorem hasRight_busy (db : UsbRightDataBase) (now : ClockReading) (user : k.uid ≠ usbRightUseridConsole)
    (busy : s.saved.isSome = true) : k.hasRight db now s = false := by
  rw [Bool.eq_false_iff]
  intro has
  have quiet : s.saved = none := (hasRight_found user has).1
  rw [quiet] at busy
  cases busy

end Checks

/-- The right is asked for at most twice: before the dialog and after it. -/
theorem requestRight_eq (db : UsbRightDataBase) (now : ClockReading) (dialog : Store Row → Option (Store Row))
    (k : Key) (s : Store Row) :
    (requestRight db now dialog k.deviceName k.bundleName k.tokenId k.uid s).1 =
      (k.hasRight db now s ||
        (dialog (Right.hasRight db now k.deviceName k.bundleName k.tokenId k.uid s).2).any (k.hasRight db now)) := by
  unfold requestRight Key.hasRight
  rw [stateM_bind]
  split_ifs with has
  · rw [has]
    rfl
  · rw [stateM_bind, stateM_get, Bool.eq_false_iff.2 has]
    dsimp only
    cases dialog (Right.hasRight db now k.deviceName k.bundleName k.tokenId k.uid s).2 with
    | none => rfl
    | some rights => rfl

/-- The right that a request reports is found. -/
theorem requestRight_found {dialog : Store Row → Option (Store Row)} (user : k.uid ≠ usbRightUseridConsole)
    (granted : (requestRight db now dialog k.deviceName k.bundleName k.tokenId k.uid s).1 = true)
    (ok : later.Succeeds) :
    k.hasRight later now (requestRight db now dialog k.deviceName k.bundleName k.tokenId k.uid s).2 = true := by
  unfold requestRight at granted ⊢
  rw [stateM_bind] at granted ⊢
  split_ifs at granted ⊢ with has
  · exact hasRight_again user has ok
  · rw [stateM_bind, stateM_get] at granted ⊢
    dsimp only at granted ⊢
    cases shown : dialog (Right.hasRight db now k.deviceName k.bundleName k.tokenId k.uid s).2 with
    | none =>
      rw [shown] at granted
      cases granted
    | some rights =>
      rw [shown] at granted
      exact hasRight_again user granted ok

/-! ### Removals -/

section Removals

/-- A removal in a transaction that is still open does not begin. -/
theorem deleteAndNoOtherOperation_busy (db : UsbRightDataBase) (busy : s.saved.isSome = true) (clause : Row → Bool) :
    (deleteAndNoOtherOperation db clause s).1 < usbRightOk ∧
      (deleteAndNoOtherOperation db clause s).2.saved.isSome = true := by
  obtain ⟨negative, saved⟩ := beginTransaction_busy db busy
  unfold deleteAndNoOtherOperation
  rw [stateM_bind, if_pos negative]
  exact ⟨negative, saved ▸ busy⟩

/-- It leaves the rows that are stored. -/
theorem deleteAndNoOtherOperation_unbegun (db : UsbRightDataBase) (busy : s.saved.isSome = true) (clause : Row → Bool) :
    (deleteAndNoOtherOperation db clause s).2.stored = s.stored := by
  unfold deleteAndNoOtherOperation
  rw [stateM_bind, if_pos (beginTransaction_busy db busy).1]
  exact beginTransaction_stored db busy

theorem hasRight_deleted (quiet : s.Quiet) (user : k.uid ≠ usbRightUseridConsole) (ok : later.Succeeds)
    {rows : List Row} (left : s.rows = rows.filter fun row => !k.isRecord row) (now : ClockReading) :
    k.hasRight later now s = false := by
  rw [hasRight_eq ok quiet user, left, ofKey_delete_self]
  rfl

/-- After a removal that reports success the key has no record. -/
theorem removeDeviceRight_gone (user : k.uid ≠ usbRightUseridConsole)
    (removed : (removeDeviceRight db k.deviceName k.bundleName k.tokenId k.uid s).1 = true) (ok : later.Succeeds)
    (now : ClockReading) :
    k.hasRight later now (removeDeviceRight db k.deviceName k.bundleName k.tokenId k.uid s).2 = false := by
  unfold removeDeviceRight deleteRightRecord at removed ⊢
  rw [if_neg user, stateM_bind] at removed ⊢
  have nonneg : usbRightOk ≤ (deleteAndNoOtherOperation db k.isRecord s).1 := of_decide_eq_true removed
  obtain quiet | busy := quiet_or_busy s
  · have outcome := deleteAndNoOtherOperation_outcome db quiet k.isRecord
    change k.hasRight later now (deleteAndNoOtherOperation db k.isRecord s).2 = false
    generalize deleteAndNoOtherOperation db k.isRecord s = out at outcome nonneg
    cases outcome with
    | failed negative givenUp => exact absurd negative (Int.not_lt.2 nonneg)
    | done _ ended => exact hasRight_deleted ended.quiet user ok ended.rows_eq now
  · exact absurd (deleteAndNoOtherOperation_busy db busy k.isRecord).1 (Int.not_lt.2 nonneg)

/-- The answers to a deletion that leave the rows that it should delete, and no transaction open. -/
def Restored (db : UsbRightDataBase) (s : Store Row) : Prop :=
  db.store = false ∨ db.answers s.calls = false ∨
    (db.answers (s.calls + 1) = false ∧ db.answers (s.calls + 2) = true) ∨
    (db.answers (s.calls + 1) = true ∧ db.answers (s.calls + 2) = false ∧ db.answers (s.calls + 3) = true)

instance : Decidable (Restored db s) := inferInstanceAs (Decidable (_ ∨ _))

/-- The table after a deletion, by what the store has answered. -/
theorem deleteAndNoOtherOperation_left (db : UsbRightDataBase) (quiet : s.Quiet) (clause : Row → Bool) :
    let out := (deleteAndNoOtherOperation db clause s).2
    (Restored db s ∧ out.Quiet ∧ out.rows = s.rows) ∨
      (¬ Restored db s ∧
        (out.saved.isSome = true ∨ (out.Quiet ∧ out.rows = s.rows.filter fun row => !clause row))) := by
  have none : s.saved = none := quiet
  unfold Restored Store.Quiet
  cases store : db.store with
  | false =>
    have left : (deleteAndNoOtherOperation db clause s).2 = s := by
      unfold deleteAndNoOtherOperation UsbRightDataBase.beginTransaction UsbRightDataBase.execute
      rw [if_pos store, stateM_bind, stateM_pure, if_pos noInit_neg]
      rfl
    rw [left]
    exact .inl ⟨.inl rfl, quiet, rfl⟩
  | true =>
    unfold deleteAndNoOtherOperation UsbRightDataBase.beginTransaction UsbRightDataBase.delete UsbRightDataBase.commit
      UsbRightDataBase.rollBack
    -- the calls that the function makes, each with its answer
    cases begun : db.answers s.calls with
    | false =>
      simp [stateM_bind, execute_eq store, Rdb.beginTransaction, call, none, begun, executeFailture_neg, stateM_pure]
    | true =>
      cases deleted : db.answers (s.calls + 1) with
      | false =>
        cases rolledBack : db.answers (s.calls + 2) <;>
          simp [stateM_bind, execute_eq store, Rdb.beginTransaction, Rdb.delete, Rdb.rollBack, call, none, begun,
            deleted, rolledBack, store, executeFailture_neg, stateM_get, stateM_map]
      | true =>
        cases committed : db.answers (s.calls + 2) with
        | false =>
          cases rolledBack : db.answers (s.calls + 3) <;>
            simp [stateM_bind, execute_eq store, Rdb.beginTransaction, Rdb.delete, Rdb.commit, Rdb.rollBack, call, none,
              begun, deleted, committed, rolledBack, store, executeFailture_neg, stateM_pure_ite, stateM_get]
        | true =>
          simp [stateM_bind, execute_eq store, Rdb.beginTransaction, Rdb.delete, Rdb.commit, call, none, begun, deleted,
            committed, store, stateM_pure_ite, stateM_get]

/-- One statement is made in a transaction of its own, which is committed. -/
def Commits (db : UsbRightDataBase) (s : Store Row) : Prop :=
  s.saved = none ∧ db.store = true ∧ db.answers s.calls = true ∧ db.answers (s.calls + 1) = true ∧
    db.answers (s.calls + 2) = true

instance : Decidable (Commits db s) := inferInstanceAs (Decidable (_ ∧ _))

/-- A committed deletion takes the rows; it reports a failure if it has found none. -/
theorem deleteAndNoOtherOperation_commits (commits : Commits db s) (clause : Row → Bool) :
    (deleteAndNoOtherOperation db clause s).2.stored = s.stored.filter (fun row => !clause row) ∧
      (usbRightOk ≤ (deleteAndNoOtherOperation db clause s).1 ↔ s.stored.any clause = true) := by
  obtain ⟨saved, store, begun, deleted, committed⟩ := commits
  have code : (deleteAndNoOtherOperation db clause s).1 =
      if ∀ row ∈ s.rows, clause row = false then usbRightRdbEmpty else usbRightOk := by
    unfold deleteAndNoOtherOperation UsbRightDataBase.beginTransaction UsbRightDataBase.delete UsbRightDataBase.commit
    simp [stateM_bind, execute_eq store, Rdb.beginTransaction, Rdb.delete, Rdb.commit, call, saved, begun, deleted,
      committed, store, stateM_pure_ite_fst, stateM_get]
  constructor
  · unfold deleteAndNoOtherOperation UsbRightDataBase.beginTransaction UsbRightDataBase.delete UsbRightDataBase.commit
      Store.stored
    simp [stateM_bind, execute_eq store, Rdb.beginTransaction, Rdb.delete, Rdb.commit, call, saved, begun, deleted,
      committed, store, stateM_pure_ite, stateM_get]
  · have stored : s.stored = s.rows := Store.Quiet.stored saved
    have found : s.rows.any clause = true ↔ ¬ ∀ row ∈ s.rows, clause row = false := by simp
    rw [code, stored, found]
    split
    next none => exact ⟨fun done => absurd done (by decide), fun some => absurd none some⟩
    next some => exact ⟨fun _ => some, fun _ => Int.le_refl _⟩

/-- Without a commit the rows stay, and the deletion reports a failure. -/
theorem deleteAndNoOtherOperation_uncommitted (uncommitted : ¬ Commits db s) (clause : Row → Bool) :
    (deleteAndNoOtherOperation db clause s).2.stored = s.stored ∧
      (deleteAndNoOtherOperation db clause s).1 < usbRightOk := by
  have nothing : usbRightRdbEmpty < usbRightOk := by decide
  obtain quiet | busy := quiet_or_busy s
  · have saved : s.saved = none := quiet
    unfold Commits at uncommitted
    cases store : db.store with
    | false =>
      have left : deleteAndNoOtherOperation db clause s = (usbRightRdbNoInit, s) := by
        unfold deleteAndNoOtherOperation UsbRightDataBase.beginTransaction UsbRightDataBase.execute
        rw [if_pos store, stateM_bind, stateM_pure, if_pos noInit_neg]
        rfl
      rw [left]
      exact ⟨rfl, noInit_neg⟩
    | true =>
      unfold deleteAndNoOtherOperation UsbRightDataBase.beginTransaction UsbRightDataBase.delete
        UsbRightDataBase.commit UsbRightDataBase.rollBack Store.stored
      -- the calls that the function makes, each with its answer
      cases begun : db.answers s.calls with
      | false =>
        simp [stateM_bind, execute_eq store, Rdb.beginTransaction, call, saved, begun, executeFailture_neg, stateM_pure]
      | true =>
        cases deleted : db.answers (s.calls + 1) with
        | false =>
          cases rolledBack : db.answers (s.calls + 2) <;>
            simp [stateM_bind, execute_eq store, Rdb.beginTransaction, Rdb.delete, Rdb.rollBack, call, saved, begun,
              deleted, rolledBack, store, executeFailture_neg, stateM_get, stateM_map]
        | true =>
          have committed : db.answers (s.calls + 2) = false := by
            simpa [saved, store, begun, deleted] using uncommitted
          have either : (if ∀ row ∈ s.rows, clause row = false then usbRightRdbEmpty else usbRightRdbExecuteFailture) <
              usbRightOk := by
            split
            · exact nothing
            · exact executeFailture_neg
          cases rolledBack : db.answers (s.calls + 3) <;>
            simp [stateM_bind, execute_eq store, Rdb.beginTransaction, Rdb.delete, Rdb.commit, Rdb.rollBack, call,
              saved, begun, deleted, committed, rolledBack, store, executeFailture_neg, stateM_pure_ite,
              stateM_pure_ite_fst, stateM_get, either]
  · exact ⟨deleteAndNoOtherOperation_unbegun db busy clause, (deleteAndNoOtherOperation_busy db busy clause).1⟩

theorem removeDeviceRight_console (console : k.uid = usbRightUseridConsole) :
    removeDeviceRight db k.deviceName k.bundleName k.tokenId k.uid s = (true, s) := by
  unfold removeDeviceRight
  rw [if_pos console]
  rfl

theorem removeDeviceRight_eq (user : k.uid ≠ usbRightUseridConsole) :
    removeDeviceRight db k.deviceName k.bundleName k.tokenId k.uid s =
      (decide (usbRightOk ≤ (deleteAndNoOtherOperation db k.isRecord s).1),
        (deleteAndNoOtherOperation db k.isRecord s).2) := by
  unfold removeDeviceRight deleteRightRecord
  rw [if_neg user, stateM_bind]
  rfl

/-- A removal takes the records of its key, and reports success, if it is committed and there are any. -/
theorem removeDeviceRight_stored (user : k.uid ≠ usbRightUseridConsole) :
    (removeDeviceRight db k.deviceName k.bundleName k.tokenId k.uid s).2.stored =
        (if Commits db s then s.stored.filter fun row => !k.isRecord row else s.stored) ∧
      ((removeDeviceRight db k.deviceName k.bundleName k.tokenId k.uid s).1 = true ↔
        Commits db s ∧ s.stored.any k.isRecord = true) := by
  rw [removeDeviceRight_eq user, decide_eq_true_eq]
  by_cases commits : Commits db s
  · obtain ⟨left, code⟩ := deleteAndNoOtherOperation_commits commits k.isRecord
    rw [if_pos commits, left, code]
    exact ⟨rfl, fun found => ⟨commits, found⟩, And.right⟩
  · obtain ⟨left, code⟩ := deleteAndNoOtherOperation_uncommitted commits k.isRecord
    rw [if_neg commits, left]
    exact ⟨rfl, fun done => absurd code (Int.not_lt.2 done), fun done => absurd done.1 commits⟩

theorem cancelDeviceRight_code (db : UsbRightDataBase) (s : Store Row) (user : k.uid ≠ usbRightUseridConsole) :
    (cancelDeviceRight db k.deviceName k.bundleName k.tokenId k.uid s).1 = .uecOk := by
  unfold cancelDeviceRight
  rw [if_neg user, stateM_bind]
  rfl

/-- A cancellation leaves the right exactly if the store has refused to delete it. -/
theorem cancelDeviceRight_has (db : UsbRightDataBase) (s : Store Row) (user : k.uid ≠ usbRightUseridConsole)
    (ok : later.Succeeds) (now : ClockReading) :
    k.hasRight later now (cancelDeviceRight db k.deviceName k.bundleName k.tokenId k.uid s).2 = true ↔
      k.hasRight later now s = true ∧ Restored db s := by
  have left : (cancelDeviceRight db k.deviceName k.bundleName k.tokenId k.uid s).2 =
      (deleteAndNoOtherOperation db k.isRecord s).2 := by
    unfold cancelDeviceRight deleteRightRecord
    rw [if_neg user, stateM_bind]
    rfl
  rw [left]
  obtain quiet | busy := quiet_or_busy s
  · obtain ⟨restored, quiet', rows⟩ | ⟨gone, open' | ⟨quiet', rows⟩⟩ :=
      deleteAndNoOtherOperation_left db quiet k.isRecord
    · rw [hasRight_congr ok quiet quiet' user (congrArg (ofKey k) rows)]
      exact ⟨fun has => ⟨has, restored⟩, And.left⟩
    · rw [hasRight_busy later now user open']
      exact ⟨nofun, fun has => absurd has.2 gone⟩
    · rw [hasRight_deleted quiet' user ok rows now]
      exact ⟨nofun, fun has => absurd has.2 gone⟩
  · rw [hasRight_busy later now user (deleteAndNoOtherOperation_busy db busy k.isRecord).2,
      hasRight_busy later now user busy]
    exact ⟨nofun, And.left⟩

end Removals

end UsbManager.Right
