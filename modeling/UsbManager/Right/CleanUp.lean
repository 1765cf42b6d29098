import Mathlib.Data.List.Dedup
import UsbManager.Right.Statements

/-!
# What a clean-up deletes

A clean-up is a query, a loop over what it returned and a deletion for each, or one deletion. On a
store that does not fail it comes to one where-clause over the table it started from: `selects` says
which rows go, `run_rows` that exactly these do.
-/

namespace UsbManager.Right

open Rdb

inductive CleanUp where
  | appUninstalled (uid : Int32)
  | bundleUninstalled (uid : Int32) (bundleName : String)
  | appReinstalled (uid : Int32)
  | userDeleted
  | userStopped (uid : Int32)
  | temporaryExpired (deviceName : String)
  | normalExpired (uid : Int32)

namespace CleanUp

def run (db : UsbRightDataBase) (p : Platform) : CleanUp → Session Row Int
  | .appUninstalled uid => return (← cleanUpRightAppUninstalled db p uid).ret
  | .bundleUninstalled uid bundleName => cleanUpRightBundleUninstalled db uid bundleName
  | .appReinstalled uid => return (← cleanUpRightAppReinstalled db p uid).ret
  | .userDeleted => return (← cleanUpRightUserDeleted db p).ret
  | .userStopped uid => cleanUpRightUserStopped db uid
  | .temporaryExpired deviceName => cleanUpRightTemporaryExpired db deviceName
  | .normalExpired uid => cleanUpRightNormalExpired db p uid

/-- The bundle has a record of another installation than the present one. -/
def hasOldRecord (p : Platform) (rows : List Row) (uid : Int32) (bundleName : String) : Bool :=
  rows.any fun row => row.uid = uid ∧ row.bundleName = bundleName ∧
    (p.getBundleInstallAndUpdateTime uid bundleName).map (·.1) ≠ some row.info.installTime

/-- The install time of every bundle on record for the user is known. -/
def allTimesKnown (p : Platform) (rows : List Row) (uid : Int32) : Bool :=
  rows.all fun row => row.uid = uid → (p.getBundleInstallAndUpdateTime uid row.bundleName).isSome

def selects (p : Platform) (rows : List Row) : CleanUp → Row → Bool
  | .appUninstalled uid, row => row.uid = uid ∧ p.isAppInstalled uid row.bundleName = false
  | .bundleUninstalled uid bundleName, row => row.uid = uid ∧ row.bundleName = bundleName
  | .appReinstalled uid, row => row.uid = uid ∧ allTimesKnown p rows uid ∧ hasOldRecord p rows uid row.bundleName
  | .userDeleted, row => p.osAccountExists row.uid = some false
  | .userStopped uid, row => row.uid = uid
  | .temporaryExpired deviceName, row => row.validPeriod = usbRightValidPeriodMin ∧ row.deviceName = deviceName
  | .normalExpired uid, row => isNormalExpired uid (p.clock 0).getCurrentTimestamp row

end CleanUp

/-- The session ends with no transaction open and these rows left. -/
structure Leaves (rows : List Row) (s' : Store Row) : Prop where
  rows_eq : s'.rows = rows
  quiet : s'.Quiet

section Loops

variable {db : UsbRightDataBase} {s : Store Row} {p : Platform}

theorem deleteAndNoOtherOperation_leaves (ok : db.Succeeds) (quiet : s.Quiet) (clause : Row → Bool) :
    Leaves (s.rows.filter fun row => !clause row) (deleteAndNoOtherOperation db clause s).2 := by
  rw [deleteAndNoOtherOperation_ok ok quiet]
  exact ⟨rfl, rfl⟩

theorem uninstallApps_leaves (ok : db.Succeeds) (uid : Int32) (apps : List String) (ret : Int) (deleted : Nat)
    (quiet : s.Quiet) :
    Leaves (s.rows.filter fun row =>
      !(row.uid = uid ∧ row.bundleName ∈ apps ∧ p.isAppInstalled uid row.bundleName = false : Bool))
      (uninstallApps db p uid apps ret deleted s).2 := by
  induction apps generalizing s ret deleted with
  | nil => exact ⟨by simp [uninstallApps, stateM_pure], quiet⟩
  | cons app apps ih =>
    unfold uninstallApps
    by_cases installed : p.isAppInstalled uid app = true
    · rw [if_pos installed]
      obtain ⟨rows, quiet⟩ := ih ret deleted quiet
      refine ⟨rows.trans ?_, quiet⟩
      apply List.filter_congr
      intro row _
      by_cases same : row.bundleName = app <;> simp_all
    · rw [if_neg installed]
      simp only [stateM_bind, deleteAppRightRecord, deleteAndNoOtherOperation_ok ok quiet]
      obtain ⟨rows, quiet⟩ := ih _ _ (rfl : Store.Quiet { rows := _, saved := none, calls := _, log := _ })
      refine ⟨rows.trans ?_, quiet⟩
      rw [List.filter_filter]
      apply List.filter_congr
      intro row _
      by_cases same : row.bundleName = app <;> simp_all

theorem deleteUsers_leaves (ok : db.Succeeds) (uids : List Int32) (deleted : Nat) (quiet : s.Quiet) :
    Leaves (s.rows.filter fun row => !(row.uid ∈ uids ∧ p.osAccountExists row.uid = some false : Bool))
      (deleteUsers db p uids deleted s).2 := by
  induction uids generalizing s deleted with
  | nil => exact ⟨by simp [deleteUsers, stateM_pure], quiet⟩
  | cons uid uids ih =>
    unfold deleteUsers
    by_cases gone : p.osAccountExists uid = some false
    · rw [if_pos gone]
      simp only [stateM_bind, deleteUidRightRecord, deleteAndNoOtherOperation_ok ok quiet]
      obtain ⟨rows, quiet⟩ := ih (deleted + 1) (rfl : Store.Quiet { rows := _, saved := none, calls := _, log := _ })
      refine ⟨rows.trans ?_, quiet⟩
      rw [List.filter_filter]
      apply List.filter_congr
      intro row _
      by_cases same : row.uid = uid <;> simp_all
    · rw [if_neg gone]
      obtain ⟨rows, quiet⟩ := ih deleted quiet
      refine ⟨rows.trans ?_, quiet⟩
      apply List.filter_congr
      intro row _
      by_cases same : row.uid = uid <;> simp_all

theorem mem_unique {x : String} : ∀ strings : List String, x ∈ unique strings ↔ x ∈ strings
  | [] => Iff.rfl
  | [_] => Iff.rfl
  | s :: t :: rest => by
    have ih := @mem_unique x (t :: rest)
    unfold unique
    split_ifs with same
    · rw [ih, same]
      simp
    · rw [List.mem_cons, ih]
      exact List.mem_cons.symm

theorem mem_stringVectorSortAndUniq {x : String} {strings : List String} :
    x ∈ stringVectorSortAndUniq strings ↔ x ∈ strings := by
  rw [stringVectorSortAndUniq, mem_unique, List.mem_mergeSort]

/-- The comparison of the loop of `CleanUpRightAppReinstalled`. -/
theorem CleanUp.hasOldRecord_eq {uid : Int32} {app : String} {installTime updateTime : UInt64} (rows : List Row)
    (times : p.getBundleInstallAndUpdateTime uid app = some (installTime, updateTime)) :
    CleanUp.hasOldRecord p rows uid app =
      ((rows.filter fun row => row.uid = uid ∧ row.bundleName = app).map Row.info).any
        fun info => info.installTime ≠ installTime := by
  simp only [CleanUp.hasOldRecord, times, List.any_map, List.any_filter]
  congr 1
  funext row
  simp [eq_comm, Bool.and_assoc]

/-- The loop only reads: it returns the bundles with an old record, or fails on an unknown time. -/
theorem reinstalledBundles_ok (ok : db.Succeeds) (uid : Int32) (apps : List String) (quiet : s.Quiet) :
    ∃ made, reinstalledBundles db p uid apps s =
      (if ∀ app ∈ apps, (p.getBundleInstallAndUpdateTime uid app).isSome then
        some (apps.filter (CleanUp.hasOldRecord p s.rows uid)) else none, s.succeeded made) := by
  induction apps generalizing s with
  | nil => exact ⟨[], by simp [reinstalledBundles, stateM_pure, Store.succeeded]⟩
  | cons app apps ih =>
    simp only [reinstalledBundles, stateM_bind, queryAppRightRecord, queryAndGetResult_ok ok quiet]
    rw [if_neg (by omega)]
    cases times : p.getBundleInstallAndUpdateTime uid app with
    | none => exact ⟨[.commit, .query, .beginTransaction], by simp [times, stateM_pure]⟩
    | some time =>
      obtain ⟨installTime, updateTime⟩ := time
      obtain ⟨made, rest⟩ := ih (s := s.succeeded [.commit, .query, .beginTransaction]) quiet
      refine ⟨made ++ [.commit, .query, .beginTransaction], ?_⟩
      simp only [stateM_bind, rest, Store.succeeded_succeeded]
      have old := CleanUp.hasOldRecord_eq s.rows times
      simp only [← old, List.forall_mem_cons, times, Option.isSome_some, true_and, List.filter_cons]
      split_ifs <;> rfl

end Loops

namespace CleanUp

variable {db : UsbRightDataBase} {s : Store Row} {p : Platform}

/-- Every row of a user has its bundle among the applications queried. -/
theorem mem_apps {rows : List Row} {row : Row} (member : row ∈ rows) :
    row.bundleName ∈ ((rows.filter fun other => other.uid = row.uid).map (·.bundleName)).dedup := by
  rw [List.mem_dedup]
  exact List.mem_map.2 ⟨row, List.mem_filter.2 ⟨member, by simp⟩, rfl⟩

/-- If nothing is on record for the user, a clause that asks for the user selects no row. -/
theorem filter_of_no_app {rows : List Row} {uid : Int32} {clause : Row → Bool}
    (none : ((((rows.filter fun row => row.uid = uid).map (·.bundleName)).dedup.length : Nat) : Int) ≤ 0)
    (asks : ∀ row, clause row = true → row.uid = uid) : rows.filter (fun row => !clause row) = rows := by
  rw [List.filter_eq_self]
  intro row member
  have absent : ((rows.filter fun row => row.uid = uid).map (·.bundleName)).dedup = [] :=
    List.eq_nil_of_length_eq_zero (by omega)
  cases selected : clause row with
  | false => rfl
  | true =>
    have present := mem_apps member
    rw [asks row selected, absent] at present
    cases present

theorem appUninstalled_leaves (ok : db.Succeeds) (quiet : s.Quiet) (uid : Int32) :
    Leaves (s.rows.filter fun row => !(appUninstalled uid).selects p s.rows row)
      ((appUninstalled uid).run db p s).2 := by
  simp only [run, cleanUpRightAppUninstalled, stateM_bind, queryRightRecordApps,
    queryAndGetResultColumnValues_ok ok quiet]
  split_ifs with empty
  · refine ⟨(filter_of_no_app empty fun row selected => ?_).symm, quiet⟩
    simp only [selects, decide_eq_true_eq] at selected
    exact selected.1
  · have after := @uninstallApps_leaves db (s.succeeded [.commit, .query, .beginTransaction]) p ok uid
      ((s.rows.filter fun row => row.uid = uid).map (·.bundleName)).dedup
      (((s.rows.filter fun row => row.uid = uid).map (·.bundleName)).dedup.length) 0 quiet
    refine ⟨after.rows_eq.trans ?_, after.quiet⟩
    apply List.filter_congr
    intro row member
    have app := mem_apps member
    simp only [selects, Bool.not_eq_eq_eq_not, Bool.not_not, decide_eq_decide]
    constructor
    · exact fun selected => ⟨selected.1, selected.2.2⟩
    · exact fun selected => ⟨selected.1, selected.1 ▸ app, selected.2⟩

theorem bundleUninstalled_leaves (ok : db.Succeeds) (quiet : s.Quiet) (uid : Int32) (bundleName : String) :
    Leaves (s.rows.filter fun row => !(bundleUninstalled uid bundleName).selects p s.rows row)
      ((bundleUninstalled uid bundleName).run db p s).2 := by
  simp only [run, cleanUpRightBundleUninstalled, stateM_bind, queryRightRecordApps,
    queryAndGetResultColumnValues_ok ok quiet]
  split_ifs with empty known
  · refine ⟨(filter_of_no_app empty fun row selected => ?_).symm, quiet⟩
    simp only [selects, decide_eq_true_eq] at selected
    exact selected.1
  · exact @deleteAndNoOtherOperation_leaves db (s.succeeded [.commit, .query, .beginTransaction]) ok quiet _
  · refine ⟨(List.filter_eq_self.2 fun row member => ?_).symm, quiet⟩
    have app := mem_apps member
    simp only [selects, Bool.not_eq_eq_eq_not, Bool.not_true, decide_eq_false_iff_not]
    rintro ⟨rfl, rfl⟩
    exact known app

theorem userDeleted_leaves (ok : db.Succeeds) (quiet : s.Quiet) :
    Leaves (s.rows.filter fun row => !userDeleted.selects p s.rows row) (userDeleted.run db p s).2 := by
  simp only [run, cleanUpRightUserDeleted, stateM_bind, queryRightRecordUids,
    queryAndGetResultColumnValues_ok ok quiet, List.filter_true]
  have uid : ∀ row ∈ s.rows, row.uid ∈ (s.rows.map (·.uid)).dedup := by
    intro row member
    rw [List.mem_dedup]
    exact List.mem_map_of_mem member
  split_ifs with empty
  · have none : (s.rows.map (·.uid)).dedup = [] := List.eq_nil_of_length_eq_zero (by omega)
    refine ⟨(List.filter_eq_self.2 fun row member => ?_).symm, quiet⟩
    have present := uid row member
    rw [none] at present
    cases present
  · have after := @deleteUsers_leaves db (s.succeeded [.commit, .query, .beginTransaction]) p ok
      (s.rows.map (·.uid)).dedup 0 quiet
    refine ⟨after.rows_eq.trans ?_, after.quiet⟩
    apply List.filter_congr
    intro row member
    simp [selects, uid row member]

theorem appReinstalled_leaves (ok : db.Succeeds) (quiet : s.Quiet) (uid : Int32) :
    Leaves (s.rows.filter fun row => !(appReinstalled uid).selects p s.rows row)
      ((appReinstalled uid).run db p s).2 := by
  simp only [run, cleanUpRightAppReinstalled, stateM_bind, queryRightRecordApps,
    queryAndGetResultColumnValues_ok ok quiet]
  split_ifs with empty
  · refine ⟨(filter_of_no_app empty fun row selected => ?_).symm, quiet⟩
    simp only [selects, decide_eq_true_eq] at selected
    exact selected.1
  · obtain ⟨made, found⟩ := @reinstalledBundles_ok db (s.succeeded [.commit, .query, .beginTransaction]) p ok uid
      (stringVectorSortAndUniq ((s.rows.filter fun row => row.uid = uid).map (·.bundleName)).dedup) quiet
    simp only [stateM_bind, found]
    have apps : ∀ app, app ∈ stringVectorSortAndUniq
        ((s.rows.filter fun row => row.uid = uid).map (·.bundleName)).dedup ↔
          ∃ row ∈ s.rows, row.uid = uid ∧ row.bundleName = app := by
      intro app
      rw [mem_stringVectorSortAndUniq, List.mem_dedup]
      simp [and_assoc]
    have known : (∀ app ∈ stringVectorSortAndUniq ((s.rows.filter fun row => row.uid = uid).map (·.bundleName)).dedup,
        (p.getBundleInstallAndUpdateTime uid app).isSome = true) ↔ allTimesKnown p s.rows uid = true := by
      simp only [apps, allTimesKnown, List.all_eq_true, decide_eq_true_eq]
      constructor
      · intro all row member same
        exact all _ ⟨row, member, same, rfl⟩
      · rintro all app ⟨row, member, same, rfl⟩
        exact all row member same
    split_ifs with all
    · have after := @deletePredicates_ok db ((s.succeeded [.commit, .query, .beginTransaction]).succeeded made) ok quiet
      simp only [stateM_bind, deleteAppsRightRecord, after]
      refine ⟨?_, rfl⟩
      apply List.filter_congr
      intro row member
      simp only [selects, mem_stringVectorSortAndUniq, List.mem_filter, apps, known.1 all, true_and,
        Bool.not_eq_eq_eq_not, Bool.not_not, decide_eq_decide]
      constructor
      · exact fun selected => ⟨selected.1, selected.2.2⟩
      · exact fun selected => ⟨selected.1, ⟨row, member, selected.1, rfl⟩, selected.2⟩
    · refine ⟨(List.filter_eq_self.2 fun row member => ?_).symm, quiet⟩
      have unknown : allTimesKnown p s.rows uid = false := Bool.eq_false_iff.2 fun yes => all (known.2 yes)
      simp [selects, unknown]

theorem run_leaves (ok : db.Succeeds) (quiet : s.Quiet) (cleanUp : CleanUp) :
    Leaves (s.rows.filter fun row => !cleanUp.selects p s.rows row) (cleanUp.run db p s).2 := by
  cases cleanUp with
  | appUninstalled uid => exact appUninstalled_leaves ok quiet uid
  | bundleUninstalled uid bundleName => exact bundleUninstalled_leaves ok quiet uid bundleName
  | appReinstalled uid => exact appReinstalled_leaves ok quiet uid
  | userDeleted => exact userDeleted_leaves ok quiet
  | userStopped uid => exact deleteAndNoOtherOperation_leaves ok quiet _
  | temporaryExpired deviceName => exact deleteAndNoOtherOperation_leaves ok quiet _
  | normalExpired uid => exact deleteAndNoOtherOperation_leaves ok quiet _

end CleanUp

end UsbManager.Right
