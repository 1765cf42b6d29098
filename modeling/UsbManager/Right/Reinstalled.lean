import UsbManager.Right.Reasons

/-!
# The clean-up of reinstalled applications

`CleanUpRightAppReinstalled` collects the bundles of a user that have a row of another installation than the
present one and deletes all their rows with one statement.
-/

namespace UsbManager.Right

open Rdb

/-- Every result set is read to its end. -/
structure UsbRightDataBase.ReadsAll (db : UsbRightDataBase) : Prop where
  tableInfo : ∀ n, (db.cursors n).tableInfo = true
  goToRow : ∀ n i, (db.cursors n).goToRow i = true
  columns : ∀ n i, (db.cursors n).columns i = true

/-! ## Distinct names -/

theorem nodup_unique : ∀ {strings : List String}, strings.Pairwise (· ≤ ·) → (unique strings).Nodup
  | [], _ => List.nodup_nil
  | [_], _ => List.nodup_singleton _
  | s :: t :: rest, sorted => by
    have tail := List.Pairwise.of_cons sorted
    have ih := nodup_unique tail
    unfold unique
    split_ifs with same
    · exact ih
    · refine List.nodup_cons.2 ⟨fun again => ?_, ih⟩
      have below : s ≤ t := List.rel_of_pairwise_cons sorted List.mem_cons_self
      obtain rfl | later := List.mem_cons.1 ((mem_unique _).1 again)
      · exact same rfl
      · exact same (String.le_antisymm below (List.rel_of_pairwise_cons tail later))

theorem nodup_stringVectorSortAndUniq (strings : List String) : (stringVectorSortAndUniq strings).Nodup := by
  refine nodup_unique ?_
  have sorted := @List.pairwise_mergeSort String (fun s t => decide (s ≤ t))
    (fun a b c first second => by
      simp only [decide_eq_true_eq] at first second ⊢
      exact String.le_trans first second)
    (fun a b => by
      simp only [Bool.or_eq_true, decide_eq_true_eq]
      exact String.le_total a b) strings
  exact sorted.imp of_decide_eq_true

/-- Sorting and removing duplicates leaves each name once. -/
theorem length_stringVectorSortAndUniq {strings names : List String} (distinct : names.Nodup)
    (same : ∀ name, name ∈ strings ↔ name ∈ names) : (stringVectorSortAndUniq strings).length = names.length := by
  refine List.Perm.length_eq ?_
  refine (List.perm_ext_iff_of_nodup (nodup_stringVectorSortAndUniq strings) distinct).2 fun name => ?_
  rw [mem_stringVectorSortAndUniq]
  exact same name

/-! ## Complete queries -/

section Queries

variable {db : UsbRightDataBase} {s : Store Row} {predicates : Row → Bool}

theorem query_cursor {resultSet : List Row × Cursor} (found : (db.query predicates s).1 = some resultSet) :
    resultSet.2 = db.cursors s.calls := by
  unfold UsbRightDataBase.query at found
  split_ifs at found
  · cases found
  · simp only [stateM_bind, stateM_get, stateM_pure, Option.map_eq_some_iff] at found
    obtain ⟨rows, -, rfl⟩ := found
    rfl

/-- A failed query has a negative code. -/
theorem queryInTransaction_result (db : UsbRightDataBase) (predicates : Row → Bool) (s : Store Row) :
    match (queryInTransaction db predicates s).1 with
    | .error ret => ret < usbRightOk
    | .ok resultSet => ∃ n, resultSet.2 = db.cursors n := by
  unfold queryInTransaction
  rw [stateM_bind]
  split_ifs with negative
  · exact negative
  rw [stateM_bind]
  cases found : (db.query predicates (db.beginTransaction s).2).1 with
  | none => exact executeFailture_neg
  | some resultSet =>
    dsimp only
    rw [stateM_bind]
    split_ifs with negative
    · exact negative
    · exact ⟨_, query_cursor found⟩

/-- A query that does not fail has read all selected rows. -/
theorem queryAndGetResult_all (all : db.ReadsAll) (predicates : Row → Bool) (s : Store Row) :
    (queryAndGetResult db predicates s).1.1 < usbRightOk ∨
      (Ended s s.rows (queryAndGetResult db predicates s).2 ∧
        (queryAndGetResult db predicates s).1.2 = (s.rows.filter predicates).map Row.info) := by
  have result := queryInTransaction_result db predicates s
  unfold queryAndGetResult
  rw [stateM_bind]
  obtain ⟨ret, error⟩ | ⟨-, ended, cursor, found⟩ := queryInTransaction_cases db s predicates
  · rw [error] at result ⊢
    exact .inl result
  · rw [found] at result ⊢
    obtain ⟨n, rfl⟩ : ∃ n, cursor = db.cursors n := result
    refine .inr ⟨ended, ?_⟩
    dsimp only
    unfold getResultRightRecordEx
    rw [all.tableInfo, if_neg Bool.false_ne_true.symm]
    exact readInfos_ok (all.goToRow n) (all.columns n) 0 _

/-- A query whose calls are answered does not fail. -/
theorem queryInTransaction_answered (answered : Commits db s) (predicates : Row → Bool) :
    ∃ resultSet, (queryInTransaction db predicates s).1 = .ok resultSet := by
  obtain ⟨saved, store, begun, queried, committed⟩ := answered
  unfold queryInTransaction
  rw [stateM_bind, beginTransaction_answered saved store begun]
  dsimp only
  rw [if_neg (Int.lt_irrefl _), stateM_bind, query_answered store queried]
  dsimp only
  rw [stateM_bind, commit_answered store committed]
  exact ⟨_, rfl⟩

theorem queryAndGetResultColumnValues_all {α : Type} [DecidableEq α] (all : db.ReadsAll) (predicates : Row → Bool)
    (column : Row → α) (s : Store Row) :
    let out := queryAndGetResultColumnValues db predicates column s
    (out.1.1 < usbRightOk ∧ ¬ Commits db s) ∨
      (s.Quiet ∧ Ended s s.rows out.2 ∧ out.1.1 = out.1.2.length ∧
        out.1.2 = ((s.rows.filter predicates).map column).dedup) := by
  dsimp only
  have result := queryInTransaction_result db predicates s
  unfold queryAndGetResultColumnValues
  rw [stateM_bind]
  obtain ⟨ret, error⟩ | ⟨quiet, ended, cursor, found⟩ := queryInTransaction_cases db s predicates
  · have failed : ¬ Commits db s := by
      intro answered
      obtain ⟨resultSet, found⟩ := queryInTransaction_answered answered predicates
      rw [error] at found
      cases found
    rw [error] at result ⊢
    exact .inl ⟨result, failed⟩
  · rw [found] at result ⊢
    obtain ⟨n, rfl⟩ : ∃ n, cursor = db.cursors n := result
    refine .inr ⟨quiet, ?_⟩
    dsimp only
    rw [all.tableInfo, if_neg Bool.false_ne_true.symm, readColumn_ok (all.goToRow n) (all.columns n)]
    exact ⟨ended, rfl, rfl⟩

end Queries

/-! ## The loop -/

section Loop

variable {db : UsbRightDataBase} {p : Platform} {s : Store Row} {uid : Int32}

/-- If the loop ends, the install times are known, and it has found the bundles that have an old row. -/
theorem reinstalledBundles_all (all : db.ReadsAll) (quiet : s.Quiet) {apps bundleNames : List String}
    (found : (reinstalledBundles db p uid apps s).1 = some bundleNames) :
    Leaves s.rows (reinstalledBundles db p uid apps s).2 ∧
      (∀ app ∈ apps, (p.getBundleInstallAndUpdateTime uid app).isSome = true) ∧
      bundleNames = apps.filter (CleanUp.hasOldRecord p s.rows uid) := by
  induction apps generalizing s bundleNames with
  | nil =>
    cases found
    exact ⟨⟨rfl, quiet⟩, nofun, rfl⟩
  | cons app apps ih =>
    have read := queryAndGetResult_all all (fun row => row.uid = uid ∧ row.bundleName = app) s
    unfold reinstalledBundles queryAppRightRecord at found ⊢
    rw [stateM_bind] at found ⊢
    dsimp only at found ⊢
    obtain negative | ⟨ended, infos⟩ := read
    · have negative : (queryAndGetResult db (fun row => row.uid = uid ∧ row.bundleName = app) s).1.1 < 0 := negative
      rw [if_pos negative] at found
      cases found
    · split_ifs at found ⊢ with failed
      · cases found
      cases times : p.getBundleInstallAndUpdateTime uid app with
      | none =>
        rw [times] at found
        cases found
      | some times' =>
        obtain ⟨installTime, updateTime⟩ := times'
        rw [times] at found
        obtain ⟨rest, later, rfl⟩ := Option.map_eq_some_iff.1 found
        obtain ⟨leaves, known, same⟩ := ih ended.quiet later
        rw [ended.rows_eq] at leaves same
        refine ⟨leaves, List.forall_mem_cons.2 ⟨by rw [times]; rfl, known⟩, ?_⟩
        rw [infos, ← CleanUp.hasOldRecord_eq s.rows times, List.filter_cons, same]

theorem hasOldRecord_iff {rows : List Row} {bundleName : String} :
    CleanUp.hasOldRecord p rows uid bundleName = true ↔
      ∃ row ∈ rows, row.uid = uid ∧ row.bundleName = bundleName ∧
        (p.getBundleInstallAndUpdateTime uid bundleName).map (·.1) ≠ some row.info.installTime := by
  simp [CleanUp.hasOldRecord]

theorem deletePredicates_done {predicates : Row → Bool} (quiet : s.Quiet)
    (done : (deletePredicates db predicates s).1 = usbRightOk) :
    (deletePredicates db predicates s).2.stored = s.rows.filter fun row => !predicates row := by
  have outcome := deletePredicates_outcome db quiet predicates
  generalize deletePredicates db predicates s = out at outcome done
  cases outcome with
  | failed negative givenUp => exact absurd done (Int.ne_of_lt negative)
  | @done ret s' nonneg ended =>
    rw [Store.stored, show s'.saved = none from ended.quiet, Option.getD_none, ended.rows_eq]

/-- The bundles that a user has rows of. -/
def recordedBundles (uid : Int32) (rows : List Row) : List String :=
  ((rows.filter fun row => row.uid = uid).map (·.bundleName)).dedup

theorem nodup_recordedBundles (uid : Int32) (rows : List Row) : (recordedBundles uid rows).Nodup := List.nodup_dedup _

theorem mem_recordedBundles {rows : List Row} {bundleName : String} :
    bundleName ∈ recordedBundles uid rows ↔ ∃ row ∈ rows, row.uid = uid ∧ row.bundleName = bundleName := by
  simp [recordedBundles, and_assoc]

theorem queryRightRecordApps_all (all : db.ReadsAll) (uid : Int32) (s : Store Row) :
    ((queryRightRecordApps db uid s).1.1 < usbRightOk ∧ ¬ Commits db s) ∨
      (s.Quiet ∧ Ended s s.rows (queryRightRecordApps db uid s).2 ∧
        (queryRightRecordApps db uid s).1.1 = (queryRightRecordApps db uid s).1.2.length ∧
        (queryRightRecordApps db uid s).1.2 = recordedBundles uid s.rows) :=
  queryAndGetResultColumnValues_all all ..

/-- What is left after a clean-up that reports success, with its two counts. -/
theorem cleanUpRightAppReinstalled_done (all : db.ReadsAll)
    (done : (cleanUpRightAppReinstalled db p uid s).1.ret = usbRightOk) :
    let out := cleanUpRightAppReinstalled db p uid s
    s.Quiet ∧ (∀ app ∈ recordedBundles uid s.rows, (p.getBundleInstallAndUpdateTime uid app).isSome = true) ∧
      out.2.stored =
        s.rows.filter (fun row => !(row.uid = uid ∧ CleanUp.hasOldRecord p s.rows uid row.bundleName : Bool)) ∧
      out.1.total = (recordedBundles uid s.rows).length ∧
      out.1.deleted = ((recordedBundles uid s.rows).filter (CleanUp.hasOldRecord p s.rows uid)).length := by
  dsimp only
  have read := queryRightRecordApps_all all uid s
  unfold cleanUpRightAppReinstalled at done ⊢
  rw [stateM_bind] at done ⊢
  generalize queryRightRecordApps db uid s = query at read done ⊢
  obtain ⟨⟨ret, apps⟩, s'⟩ := query
  dsimp only at read done ⊢
  split_ifs at done ⊢ with empty
  · cases done
  obtain ⟨negative, -⟩ | ⟨quiet, ended, -, rfl⟩ := read
  · exact absurd (Int.le_of_lt negative) empty
  have sorted : ∀ app, app ∈ stringVectorSortAndUniq (recordedBundles uid s.rows) ↔ app ∈ recordedBundles uid s.rows :=
    fun app => mem_stringVectorSortAndUniq
  rw [stateM_bind] at done ⊢
  have read := @reinstalledBundles_all db p s' uid all ended.quiet
    (stringVectorSortAndUniq (recordedBundles uid s.rows))
  generalize reinstalledBundles db p uid (stringVectorSortAndUniq (recordedBundles uid s.rows)) s' = loop at read done ⊢
  obtain ⟨_ | bundleNames, s''⟩ := loop
  · cases done
  obtain ⟨⟨rows, quiet'⟩, known, same⟩ := read rfl
  rw [ended.rows_eq] at rows same
  dsimp only at done ⊢
  rw [stateM_bind] at done ⊢
  have ok : (deleteAppsRightRecord db uid (stringVectorSortAndUniq bundleNames) s'').1 = usbRightOk := done
  have left := deletePredicates_done quiet' ok
  rw [rows] at left
  refine ⟨quiet, fun app member => known app ((sorted app).2 member), left.trans ?_, ?_, ?_⟩
  · apply List.filter_congr
    intro row member
    have deleted : row.bundleName ∈ stringVectorSortAndUniq bundleNames ↔
        (∃ other ∈ s.rows, other.uid = uid ∧ other.bundleName = row.bundleName) ∧
          CleanUp.hasOldRecord p s.rows uid row.bundleName = true := by
      rw [mem_stringVectorSortAndUniq, same, List.mem_filter, sorted, mem_recordedBundles]
    simp only [deleted, Bool.not_eq_eq_eq_not, Bool.not_not, decide_eq_decide]
    exact ⟨fun selected => ⟨selected.1, selected.2.2⟩,
      fun selected => ⟨selected.1, ⟨row, member, selected.1, rfl⟩, selected.2⟩⟩
  · exact length_stringVectorSortAndUniq (nodup_recordedBundles uid s.rows) fun app => Iff.rfl
  · have counted : (if (deleteAppsRightRecord db uid (stringVectorSortAndUniq bundleNames) s'').1 ≠ usbRightOk then 0
        else (stringVectorSortAndUniq bundleNames).length) = (stringVectorSortAndUniq bundleNames).length :=
      if_neg (not_not.2 ok)
    refine counted.trans (length_stringVectorSortAndUniq ((nodup_recordedBundles uid s.rows).filter _) fun app => ?_)
    rw [same, List.mem_filter, List.mem_filter, sorted]

/-- An unknown install time of a bundle of the user ends the clean-up. -/
theorem cleanUpRightAppReinstalled_unknown (all : db.ReadsAll) (answered : Commits db s) {app : String}
    (recorded : app ∈ recordedBundles uid s.rows) (unknown : p.getBundleInstallAndUpdateTime uid app = none) :
    (cleanUpRightAppReinstalled db p uid s).1.ret = usbRightFailure ∧
      (cleanUpRightAppReinstalled db p uid s).2.stored = s.stored := by
  have stored : (queryRightRecordApps db uid s).2.stored = s.stored := queryAndGetResultColumnValues_stored ..
  have read := queryRightRecordApps_all all uid s
  unfold cleanUpRightAppReinstalled
  rw [stateM_bind]
  generalize queryRightRecordApps db uid s = query at read stored ⊢
  obtain ⟨⟨ret, apps⟩, s'⟩ := query
  dsimp only at read stored ⊢
  obtain ⟨-, failed⟩ | ⟨-, ended, rfl, rfl⟩ := read
  · exact absurd answered failed
  have some : ¬ ((recordedBundles uid s.rows).length : Int) ≤ 0 := by
    have pos := List.length_pos_of_mem recorded
    omega
  rw [if_neg some, stateM_bind]
  have loop := @reinstalledBundles_all db p s' uid all ended.quiet
    (stringVectorSortAndUniq (recordedBundles uid s.rows))
  obtain ⟨kept, -⟩ := @reinstalledBundles_old db p uid (stringVectorSortAndUniq (recordedBundles uid s.rows)) s'
  generalize reinstalledBundles db p uid (stringVectorSortAndUniq (recordedBundles uid s.rows)) s' = out at loop kept ⊢
  obtain ⟨_ | bundleNames, s''⟩ := out
  · exact ⟨rfl, kept.trans stored⟩
  · obtain ⟨-, known, -⟩ := loop rfl
    have absent := known app (mem_stringVectorSortAndUniq.2 recorded)
    rw [unknown] at absent
    cases absent

/-- On a store that does not fail the clean-up reports success as soon as the install times are known. -/
theorem cleanUpRightAppReinstalled_succeeds (ok : db.Succeeds) (quiet : s.Quiet)
    (some : recordedBundles uid s.rows ≠ [])
    (known : ∀ app ∈ recordedBundles uid s.rows, (p.getBundleInstallAndUpdateTime uid app).isSome = true) :
    (cleanUpRightAppReinstalled db p uid s).1.ret = usbRightOk := by
  have pos := List.length_pos_iff.2 some
  have times : ∀ app ∈ stringVectorSortAndUniq (recordedBundles uid s.rows),
      (p.getBundleInstallAndUpdateTime uid app).isSome = true :=
    fun app member => known app (mem_stringVectorSortAndUniq.1 member)
  have query : queryRightRecordApps db uid s =
      ((((recordedBundles uid s.rows).length : Int), recordedBundles uid s.rows),
        s.succeeded [.commit, .query, .beginTransaction]) := queryAndGetResultColumnValues_ok ok quiet ..
  obtain ⟨made, loop⟩ := @reinstalledBundles_ok db (s.succeeded [.commit, .query, .beginTransaction]) p ok uid
    (stringVectorSortAndUniq (recordedBundles uid s.rows)) quiet
  unfold cleanUpRightAppReinstalled
  rw [stateM_bind, query]
  dsimp only
  rw [if_neg (by omega), stateM_bind, loop, if_pos times]
  dsimp only
  rw [stateM_bind]
  have quiet' : ((s.succeeded [.commit, .query, .beginTransaction]).succeeded made).Quiet := quiet
  exact congrArg Prod.fst (deletePredicates_ok ok quiet' _)

end Loop

/-! ## The clean-up -/

/-- The row was granted to the present installation of its bundle. -/
def IsCurrent (p : Platform) (row : Row) : Prop :=
  (p.getBundleInstallAndUpdateTime row.uid row.bundleName).map (·.1) = some row.info.installTime

/-- What the clean-up of a user has done: exactly the bundles with an old row are gone. -/
structure CleanedReinstalled (p : Platform) (uid : Int32) (s : Store Row) (out : Cleaned × Store Row) : Prop where
  current : ∀ row ∈ out.2.stored, row.uid = uid → IsCurrent p row
  kept : ∀ bundleName, (∀ row ∈ s.stored, row.uid = uid → row.bundleName = bundleName → IsCurrent p row) →
    (out.2.stored.filter fun row => row.uid = uid ∧ row.bundleName = bundleName) =
      s.stored.filter fun row => row.uid = uid ∧ row.bundleName = bundleName
  others : (out.2.stored.filter fun row => row.uid ≠ uid) = s.stored.filter fun row => row.uid ≠ uid
  total : out.1.total = (recordedBundles uid s.stored).length
  deleted : out.1.deleted = ((s.stored.filter fun row => row ∉ out.2.stored).map (·.bundleName)).dedup.length

section CleanUp

variable {db : UsbRightDataBase} {p : Platform} {s : Store Row} {uid : Int32} {rows : List Row}

/-- A row with an old one beside it makes its bundle old; a bundle without an old row is current. -/
theorem isCurrent_of_noOldRecord {row : Row} (member : row ∈ rows) (user : row.uid = uid)
    (none : CleanUp.hasOldRecord p rows uid row.bundleName = false) : IsCurrent p row := by
  by_contra old
  subst user
  exact Bool.eq_false_iff.1 none (hasOldRecord_iff.2 ⟨row, member, rfl, rfl, old⟩)

theorem noOldRecord_of_isCurrent {bundleName : String}
    (current : ∀ row ∈ rows, row.uid = uid → row.bundleName = bundleName → IsCurrent p row) :
    CleanUp.hasOldRecord p rows uid bundleName = false := by
  refine Bool.eq_false_iff.2 fun old => ?_
  obtain ⟨row, member, rfl, rfl, differs⟩ := hasOldRecord_iff.1 old
  exact differs (current row member rfl rfl)

/-- The bundles of the rows that are gone are those with an old row. -/
theorem length_goneBundles (uid : Int32) (rows : List Row) :
    ((rows.filter fun row => row ∉ rows.filter fun row =>
        !(row.uid = uid ∧ CleanUp.hasOldRecord p rows uid row.bundleName : Bool)).map (·.bundleName)).dedup.length =
      ((recordedBundles uid rows).filter (CleanUp.hasOldRecord p rows uid)).length := by
  refine List.Perm.length_eq ?_
  refine (List.perm_ext_iff_of_nodup (List.nodup_dedup _) ((nodup_recordedBundles uid rows).filter _)).2 fun name => ?_
  rw [List.mem_dedup, List.mem_filter, mem_recordedBundles, List.mem_map]
  constructor
  · rintro ⟨row, member, rfl⟩
    obtain ⟨member, gone⟩ := List.mem_filter.1 member
    have selected : row.uid = uid ∧ CleanUp.hasOldRecord p rows uid row.bundleName = true := by
      simpa [member] using gone
    exact ⟨⟨row, member, selected.1, rfl⟩, selected.2⟩
  · rintro ⟨⟨row, member, user, rfl⟩, old⟩
    refine ⟨row, List.mem_filter.2 ⟨member, ?_⟩, rfl⟩
    simp [user, old]

end CleanUp

/-- A clean-up that reports success leaves of its user exactly the rows of the bundles that are current, and nothing
else changes; if an install time is unknown it fails and changes nothing. -/
theorem cleanUpRightAppReinstalled_exact {db : UsbRightDataBase} (all : db.ReadsAll) (p : Platform) (uid : Int32)
    (s : Store Row) :
    ((cleanUpRightAppReinstalled db p uid s).1.ret = usbRightOk →
      CleanedReinstalled p uid s (cleanUpRightAppReinstalled db p uid s)) ∧
    (Commits db s →
      (∃ row ∈ s.stored, row.uid = uid ∧ p.getBundleInstallAndUpdateTime uid row.bundleName = none) →
        (cleanUpRightAppReinstalled db p uid s).1.ret = usbRightFailure ∧
          (cleanUpRightAppReinstalled db p uid s).2.stored = s.stored) := by
  constructor
  · intro done
    obtain ⟨quiet, -, left, total, deleted⟩ := cleanUpRightAppReinstalled_done all done
    have stored : s.stored = s.rows := quiet.stored
    constructor
    case current =>
      intro row member user
      rw [left] at member
      obtain ⟨member, kept⟩ := List.mem_filter.1 member
      exact isCurrent_of_noOldRecord member user (by simpa [user] using kept)
    case kept =>
      intro bundleName current
      rw [left, stored, List.filter_filter]
      rw [stored] at current
      apply List.filter_congr
      intro row member
      by_cases own : row.uid = uid ∧ row.bundleName = bundleName
      · obtain ⟨rfl, rfl⟩ := own
        simp [noOldRecord_of_isCurrent current]
      · simp [own]
    case others =>
      rw [left, stored, List.filter_filter]
      apply List.filter_congr
      intro row member
      by_cases own : row.uid = uid <;> simp [own]
    case total => rw [stored, total]
    case deleted => rw [deleted, left, stored, length_goneBundles]
  · rintro answered ⟨row, member, user, unknown⟩
    have stored : s.stored = s.rows := Store.Quiet.stored answered.1
    exact cleanUpRightAppReinstalled_unknown all answered
      (mem_recordedBundles.2 ⟨row, stored ▸ member, user, rfl⟩) unknown

/-- Two rows of the scanner, one of them from before it was installed again, and one of another application. -/
def reinstalledRows : List Row :=
  [⟨1, 100, 1600000000, 0, 1700000000, 268435455, "4817-4258-A1", "com.example.scanner", some "537"⟩,
    ⟨2, 100, 1500000000, 0, 1700000000, 268435455, "1111-2222-B2", "com.example.scanner", some "537"⟩,
    ⟨3, 100, 1600000000, 0, 1700000000, 268435455, "4817-4258-A1", "com.example.terminal", some "600"⟩]

/-- Both rows of the scanner go; without install times nothing does. -/
theorem cleanUpRightAppReinstalled_exact_scanner :
    CleanedReinstalled (samplePlatform true) 100 { rows := reinstalledRows }
        (cleanUpRightAppReinstalled sampleDataBase (samplePlatform true) 100 { rows := reinstalledRows }) ∧
      (cleanUpRightAppReinstalled sampleDataBase (samplePlatform true) 100 { rows := reinstalledRows }).1.deleted = 1 ∧
      (cleanUpRightAppReinstalled sampleDataBase (samplePlatform false) 100 { rows := reinstalledRows }).1.ret =
        usbRightFailure := by
  have all : sampleDataBase.ReadsAll :=
    ⟨sampleDataBase_succeeds.tableInfo, sampleDataBase_succeeds.goToRow, sampleDataBase_succeeds.columns⟩
  have done := @cleanUpRightAppReinstalled_succeeds sampleDataBase (samplePlatform true) { rows := reinstalledRows } 100
    sampleDataBase_succeeds rfl (by decide) (by decide)
  refine ⟨(cleanUpRightAppReinstalled_exact all (samplePlatform true) 100 { rows := reinstalledRows }).1 done, ?_, ?_⟩
  · obtain ⟨-, -, -, -, deleted⟩ := cleanUpRightAppReinstalled_done all done
    rw [deleted]
    decide
  · exact ((cleanUpRightAppReinstalled_exact all (samplePlatform false) 100 { rows := reinstalledRows }).2
      (by decide) ⟨_, List.mem_cons_self, rfl, rfl⟩).1

end UsbManager.Right
