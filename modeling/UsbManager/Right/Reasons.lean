import UsbManager.Right.StoreCorrect
import UsbManager.Right.Answers

/-!
# The reasons for a deletion

`TidyUpRight` deletes what is gone: the rights of applications that are not installed or have been installed
again, and those of users that do not exist. It asks the bundle manager and the account service, which may not
answer, on a store that may fail.
-/

namespace UsbManager.Right

open Rdb

/-! ## The services -/

/-- What asking for an application comes to: `GetBundleMgr` gives nothing, `GetApplicationInfo` fails, or the bundle
manager answers. -/
inductive ApplicationAnswer where
  | noBundleMgr
  | failed
  | absent
  | installed
  deriving DecidableEq, Repr

/-- The platform whose bundle manager answers so. `IsAppInstalled` returns only whether the application was found. -/
def Platform.answering (p : Platform) (answer : Int32 → String → ApplicationAnswer) : Platform :=
  { p with applicationInfo := fun uid bundleName => answer uid bundleName = .installed }

/-- The bundle manager reports an install time that some row of the application does not have. -/
def OldInstallation (p : Platform) (rows : List Row) (uid : Int32) (bundleName : String) : Prop :=
  ∃ times, p.getBundleInstallAndUpdateTime uid bundleName = some times ∧
    ∃ row ∈ rows, row.uid = uid ∧ row.bundleName = bundleName ∧ row.info.installTime ≠ times.1

/-- Why a row may be deleted. -/
inductive Reason (p : Platform) (answer : Int32 → String → ApplicationAnswer) (rows : List Row) (row : Row) : Prop where
  | absent (gone : answer row.uid row.bundleName = .absent)
  | reinstalled (old : OldInstallation p rows row.uid row.bundleName)
  | userDeleted (gone : p.osAccountExists row.uid = some false)

/-- The row is expired for the check and for the clean-up. -/
def Expired (now : UInt64) (row : Row) : Prop :=
  isNormalExpired row.uid now row = true ∧ row.info.isRecordExpired now = true

/-! ## What the helper's statements leave stored -/

section Stored

variable {db : UsbRightDataBase} {s : Store Row}

theorem queryInTransaction_stored (db : UsbRightDataBase) (predicates : Row → Bool) (s : Store Row) :
    (queryInTransaction db predicates s).2.stored = s.stored := by
  obtain quiet | busy := quiet_or_busy s
  · obtain ⟨ret, -, givenUp⟩ | ⟨cursor, -, ended⟩ := queryInTransaction_outcome db quiet predicates
    · exact givenUp.stored quiet
    · exact GivenUp.stored quiet (.inl ended)
  · unfold queryInTransaction
    rw [stateM_bind, if_pos (beginTransaction_busy db busy).1]
    exact beginTransaction_stored db busy

theorem queryAndGetResult_stored (db : UsbRightDataBase) (predicates : Row → Bool) (s : Store Row) :
    (queryAndGetResult db predicates s).2.stored = s.stored := by
  rw [← queryInTransaction_stored db predicates s]
  unfold queryAndGetResult
  rw [stateM_bind]
  cases (queryInTransaction db predicates s).1 with
  | error ret => rfl
  | ok result => rfl

theorem queryAndGetResultColumnValues_stored {α : Type} [DecidableEq α] (db : UsbRightDataBase)
    (predicates : Row → Bool) (column : Row → α) (s : Store Row) :
    (queryAndGetResultColumnValues db predicates column s).2.stored = s.stored := by
  rw [← queryInTransaction_stored db predicates s]
  unfold queryAndGetResultColumnValues
  rw [stateM_bind]
  cases (queryInTransaction db predicates s).1 with
  | error ret => rfl
  | ok result =>
    dsimp only
    split_ifs
    · rfl
    · cases readColumn result.2 0 (result.1.map column).dedup with
      | none => rfl
      | some columnValues => rfl

theorem deleteAndNoOtherOperation_stored (db : UsbRightDataBase) (s : Store Row) (clause : Row → Bool) :
    (deleteAndNoOtherOperation db clause s).2.stored =
      if Commits db s then s.stored.filter fun row => !clause row else s.stored := by
  split_ifs with commits
  · exact (deleteAndNoOtherOperation_commits commits clause).1
  · exact (deleteAndNoOtherOperation_uncommitted commits clause).1

theorem deleteAndNoOtherOperation_sheds (db : UsbRightDataBase) (s : Store Row) (clause : Row → Bool) :
    Sheds (fun row => clause row = true) s (deleteAndNoOtherOperation db clause s).2 := by
  have stored := deleteAndNoOtherOperation_stored db s clause
  split_ifs at stored with commits
  · exact .of_filter stored fun row _ gone => Bool.not_eq_false' .. ▸ gone
  · exact .of_stored stored

theorem deletePredicates_sheds (db : UsbRightDataBase) (s : Store Row) (predicates : Row → Bool) :
    Sheds (fun row => predicates row = true) s (deletePredicates db predicates s).2 := by
  obtain quiet | busy := quiet_or_busy s
  · have outcome := deletePredicates_outcome db quiet predicates
    generalize deletePredicates db predicates s = out at outcome
    cases outcome with
    | failed negative givenUp => exact .of_stored (givenUp.stored quiet)
    | @done ret s' nonneg ended =>
      have after : s'.stored = s.stored.filter fun row => !predicates row := by
        rw [quiet.stored, Store.Quiet.stored ended.quiet, ended.rows_eq]
      exact .of_filter after fun row _ gone => Bool.not_eq_false' .. ▸ gone
  · refine .of_stored ?_
    unfold deletePredicates
    rw [stateM_bind, if_pos (beginTransaction_busy db busy).1]
    exact beginTransaction_stored db busy

end Stored

/-! ## What the clean-ups delete -/

/-- The applications of the loop of `CleanUpRightAppUninstalled` whose deletion is committed. -/
def uninstalled (db : UsbRightDataBase) (p : Platform) (uid : Int32) : List String → Store Row → List String
  | [], _ => []
  | app :: apps, s =>
    if p.isAppInstalled uid app then uninstalled db p uid apps s
    else
      let rest := uninstalled db p uid apps (deleteAppRightRecord db uid app s).2
      if Commits db s then app :: rest else rest

/-- The applications that `CleanUpRightAppUninstalled` deletes. -/
def uninstalledApps (db : UsbRightDataBase) (p : Platform) (uid : Int32) (s : Store Row) : List String :=
  let found := queryRightRecordApps db uid s
  if found.1.1 ≤ 0 then [] else uninstalled db p uid found.1.2 found.2

section Loops

variable {db : UsbRightDataBase} {p : Platform} {s : Store Row} {uid : Int32}

/-- Only an application that was not found is deleted. -/
theorem mem_uninstalled {app : String} {apps : List String} (deleted : app ∈ uninstalled db p uid apps s) :
    p.isAppInstalled uid app = false := by
  induction apps generalizing s with
  | nil => cases deleted
  | cons first apps ih =>
    unfold uninstalled at deleted
    split_ifs at deleted with installed commits
    · exact ih deleted
    · obtain rfl | deleted := List.mem_cons.1 deleted
      · exact Bool.eq_false_iff.2 installed
      · exact ih deleted
    · exact ih deleted

theorem mem_uninstalledApps {app : String} (deleted : app ∈ uninstalledApps db p uid s) :
    p.isAppInstalled uid app = false := by
  unfold uninstalledApps at deleted
  dsimp only at deleted
  split_ifs at deleted
  · cases deleted
  · exact mem_uninstalled deleted

theorem uninstallApps_stored (apps : List String) (ret : Int) (deleteApps : Nat) (s : Store Row) :
    (uninstallApps db p uid apps ret deleteApps s).2.stored =
      s.stored.filter fun row => !(row.uid = uid ∧ row.bundleName ∈ uninstalled db p uid apps s : Bool) := by
  induction apps generalizing ret deleteApps s with
  | nil => simp [uninstallApps, uninstalled, stateM_pure]
  | cons app apps ih =>
    unfold uninstallApps uninstalled
    split_ifs with installed commits
    · exact ih ret deleteApps s
    · rw [stateM_bind]
      refine (ih _ _ _).trans ?_
      have first : (deleteAppRightRecord db uid app s).2.stored = _ := deleteAndNoOtherOperation_stored db s _
      rw [first, if_pos commits, List.filter_filter]
      apply List.filter_congr
      intro row _
      by_cases user : row.uid = uid <;> by_cases same : row.bundleName = app <;> simp [user, same]
    · rw [stateM_bind]
      refine (ih _ _ _).trans ?_
      have first : (deleteAppRightRecord db uid app s).2.stored = _ := deleteAndNoOtherOperation_stored db s _
      rw [first, if_neg commits]

theorem appUninstalled_stored (db : UsbRightDataBase) (p : Platform) (uid : Int32) (s : Store Row) :
    ((CleanUp.appUninstalled uid).run db p s).2.stored =
      s.stored.filter fun row => !(row.uid = uid ∧ row.bundleName ∈ uninstalledApps db p uid s : Bool) := by
  have query : (queryRightRecordApps db uid s).2.stored = s.stored := queryAndGetResultColumnValues_stored ..
  unfold CleanUp.run cleanUpRightAppUninstalled uninstalledApps
  simp only [stateM_bind]
  split_ifs with empty
  · have nothing : (s.stored.filter fun row => !(row.uid = uid ∧ row.bundleName ∈ ([] : List String) : Bool)) =
        s.stored := by simp
    rw [nothing]
    exact query
  · rw [← query]
    exact uninstallApps_stored ..

theorem deleteUsers_sheds (uids : List Int32) (deleted : Nat) (s : Store Row) :
    Sheds (fun row => p.osAccountExists row.uid = some false) s (deleteUsers db p uids deleted s).2 := by
  induction uids generalizing deleted s with
  | nil => exact .of_stored rfl
  | cons uid uids ih =>
    unfold deleteUsers
    split_ifs with gone
    · rw [stateM_bind]
      have first := deleteAndNoOtherOperation_sheds db s fun row => row.uid = uid
      refine (first.mono fun row _ selected => ?_).trans (ih _ _)
      rw [of_decide_eq_true selected]
      exact gone
    · exact ih deleted s

theorem userDeleted_sheds (db : UsbRightDataBase) (p : Platform) (s : Store Row) :
    Sheds (fun row => p.osAccountExists row.uid = some false) s (CleanUp.userDeleted.run db p s).2 := by
  have query : (queryRightRecordUids db s).2.stored = s.stored := queryAndGetResultColumnValues_stored ..
  unfold CleanUp.run cleanUpRightUserDeleted
  simp only [stateM_bind]
  split_ifs with empty
  · exact .of_stored query
  · exact (Sheds.of_stored query).trans (deleteUsers_sheds _ _ _)

/-- What is read of an application is stored. -/
theorem queryAppRightRecord_read {app : String} {info : UsbRightAppInfo}
    (read : info ∈ (queryAppRightRecord db uid app s).1.2) :
    ∃ row ∈ s.stored, row.uid = uid ∧ row.bundleName = app ∧ row.info = info := by
  obtain none | ⟨quiet, -, rows⟩ := queryAndGetResult_cases db s fun row => row.uid = uid ∧ row.bundleName = app
  · have none : (queryAppRightRecord db uid app s).1.2 = [] := none
    rw [none] at read
    cases read
  · obtain ⟨row, member, same⟩ := rows info read
    obtain ⟨member, selected⟩ := List.mem_filter.1 member
    obtain ⟨user, bundle⟩ := of_decide_eq_true selected
    exact ⟨row, quiet.stored ▸ member, user, bundle, same⟩

/-- The bundles of the loop of `CleanUpRightAppReinstalled` have an old row, and it only reads. -/
theorem reinstalledBundles_old (apps : List String) (s : Store Row) :
    (reinstalledBundles db p uid apps s).2.stored = s.stored ∧
      ∀ bundleNames, (reinstalledBundles db p uid apps s).1 = some bundleNames →
        ∀ bundleName ∈ bundleNames, OldInstallation p s.stored uid bundleName := by
  induction apps generalizing s with
  | nil =>
    refine ⟨rfl, fun bundleNames found bundleName member => ?_⟩
    cases found
    cases member
  | cons app apps ih =>
    have query : (queryAppRightRecord db uid app s).2.stored = s.stored := queryAndGetResult_stored ..
    obtain ⟨stored, old⟩ := ih (queryAppRightRecord db uid app s).2
    rw [query] at stored old
    unfold reinstalledBundles
    rw [stateM_bind]
    dsimp only
    split_ifs with failed
    · exact ⟨query, fun _ found => by cases found⟩
    cases times : p.getBundleInstallAndUpdateTime uid app with
    | none => exact ⟨query, fun _ found => by cases found⟩
    | some times' =>
      obtain ⟨installTime, updateTime⟩ := times'
      refine ⟨stored, fun bundleNames found bundleName member => ?_⟩
      obtain ⟨rest, later, rfl⟩ := Option.map_eq_some_iff.1 found
      split_ifs at member with differs
      · obtain rfl | member := List.mem_cons.1 member
        · obtain ⟨info, read, other⟩ := List.any_eq_true.1 differs
          obtain ⟨row, there, user, bundle, rfl⟩ := queryAppRightRecord_read read
          exact ⟨(installTime, updateTime), times, row, there, user, bundle, of_decide_eq_true other⟩
        · exact old rest later bundleName member
      · exact old rest later bundleName member

theorem appReinstalled_sheds (db : UsbRightDataBase) (p : Platform) (uid : Int32) (s : Store Row) :
    Sheds (fun row => OldInstallation p s.stored row.uid row.bundleName) s
      ((CleanUp.appReinstalled uid).run db p s).2 := by
  have query : (queryRightRecordApps db uid s).2.stored = s.stored := queryAndGetResultColumnValues_stored ..
  unfold CleanUp.run cleanUpRightAppReinstalled
  simp only [stateM_bind]
  split_ifs with empty
  · exact .of_stored query
  obtain ⟨stored, old⟩ := @reinstalledBundles_old db p uid
    (stringVectorSortAndUniq (queryRightRecordApps db uid s).1.2) (queryRightRecordApps db uid s).2
  rw [query] at stored old
  rw [stateM_bind]
  cases found : (reinstalledBundles db p uid (stringVectorSortAndUniq (queryRightRecordApps db uid s).1.2)
    (queryRightRecordApps db uid s).2).1 with
  | none => exact .of_stored stored
  | some bundleNames =>
    refine (Sheds.of_stored stored).trans ((deletePredicates_sheds ..).mono fun row _ selected => ?_)
    obtain ⟨user, deleted⟩ := of_decide_eq_true selected
    rw [user]
    exact old bundleNames found row.bundleName (mem_stringVectorSortAndUniq.1 deleted)

end Loops

/-! ## Clean-ups without a reason -/

/-- The clean-up deletes a row that is none of these: its application was not found, or the row was requested long ago,
and the deletion is committed. -/
def CleanUp.Unfounded (db : UsbRightDataBase) (p : Platform) (excused : Row → Prop) (s : Store Row) : CleanUp → Prop
  | .appUninstalled uid =>
    ∃ row ∈ s.stored, row.uid = uid ∧ row.bundleName ∈ uninstalledApps db p uid s ∧ ¬ excused row
  | .normalExpired uid =>
    Commits db s ∧
      ∃ row ∈ s.stored, isNormalExpired uid (p.clock 0).getCurrentTimestamp row = true ∧ ¬ excused row
  | _ => False

/-- One of the clean-ups that are made one after another does. -/
def Unfounded (db : UsbRightDataBase) (p : Platform) (excused : Row → Prop) : List CleanUp → Store Row → Prop
  | [], _ => False
  | c :: cleanUps, s => c.Unfounded db p excused s ∨ Unfounded db p excused cleanUps (c.run db p s).2

/-- The clean-up takes the row for one that is gone: its application was not found, or it was requested long ago. -/
def CleanUp.Finds (p : Platform) (row : Row) : CleanUp → Prop
  | .appUninstalled uid => row.uid = uid ∧ p.isAppInstalled uid row.bundleName = false
  | .normalExpired uid => isNormalExpired uid (p.clock 0).getCurrentTimestamp row = true
  | _ => False

/-- Of these rows only such are found as are excused. -/
def Founded (p : Platform) (excused : Row → Prop) (cleanUps : List CleanUp) (rows : List Row) : Prop :=
  ∀ row ∈ rows, (∃ c ∈ cleanUps, c.Finds p row) → excused row

/-- The clean-ups of `TidyUpRight`. -/
inductive CleanUp.Tidies : CleanUp → Prop where
  | appUninstalled (uid : Int32) : Tidies (.appUninstalled uid)
  | userDeleted : Tidies .userDeleted
  | normalExpired (uid : Int32) : Tidies (.normalExpired uid)
  | appReinstalled (uid : Int32) : Tidies (.appReinstalled uid)

section Founded

variable {db : UsbRightDataBase} {p : Platform} {answer : Int32 → String → ApplicationAnswer} {s : Store Row}
  {rows : List Row} {excused : Row → Prop} {c : CleanUp} {cleanUps : List CleanUp}

theorem tidyUps_tidies (choose : UInt32) : ∀ c ∈ tidyUps p choose, c.Tidies := by
  intro c member
  unfold tidyUps at member
  split_ifs at member <;> simp at member <;> grind [CleanUp.Tidies]

theorem OldInstallation.mono {uid : Int32} {bundleName : String} (old : OldInstallation p s.stored uid bundleName)
    (within : ∀ row ∈ s.stored, row ∈ rows) : OldInstallation p rows uid bundleName := by
  obtain ⟨times, reported, row, member, same⟩ := old
  exact ⟨times, reported, row, within row member, same⟩

theorem CleanUp.Tidies.sheds (tidies : c.Tidies) (db : UsbRightDataBase) (p : Platform) (s : Store Row) :
    Sheds (fun _ => True) s (c.run db p s).2 := by
  cases tidies with
  | appUninstalled uid => exact .of_filter (appUninstalled_stored db p uid s) fun _ _ _ => trivial
  | userDeleted => exact (userDeleted_sheds db p s).mono fun _ _ _ => trivial
  | normalExpired uid => exact (deleteAndNoOtherOperation_sheds db s _).mono fun _ _ _ => trivial
  | appReinstalled uid => exact (appReinstalled_sheds db p uid s).mono fun _ _ _ => trivial

/-- What one clean-up deletes is excused, unless it is unfounded. -/
theorem CleanUp.Tidies.lost_iff (tidies : c.Tidies) (within : ∀ row ∈ s.stored, row ∈ rows)
    (reasons : ∀ row, Reason p answer rows row → excused row) :
    (∀ row ∈ s.stored, row ∉ (c.run db (p.answering answer) s).2.stored → excused row) ↔
      ¬ c.Unfounded db (p.answering answer) excused s := by
  cases tidies with
  | appUninstalled uid =>
    rw [appUninstalled_stored]
    constructor
    · rintro all ⟨row, member, user, deleted, bad⟩
      exact bad (all row member fun kept => by simpa [user, deleted] using (List.mem_filter.1 kept).2)
    · intro founded row member gone
      by_contra bad
      refine gone (List.mem_filter.2 ⟨member, ?_⟩)
      rw [Bool.not_eq_true', decide_eq_false_iff_not]
      rintro ⟨user, deleted⟩
      exact founded ⟨row, member, user, deleted, bad⟩
  | userDeleted =>
    refine ⟨fun _ => id, fun _ row member gone => reasons row (.userDeleted ?_)⟩
    exact (userDeleted_sheds db (p.answering answer) s).lost row member gone
  | normalExpired uid =>
    have stored : ((CleanUp.normalExpired uid).run db (p.answering answer) s).2.stored = _ :=
      deleteAndNoOtherOperation_stored db s (isNormalExpired uid (p.clock 0).getCurrentTimestamp)
    rw [stored]
    constructor
    · rintro all ⟨commits, row, member, selected, bad⟩
      rw [if_pos commits] at all
      have selected : isNormalExpired uid (p.clock 0).getCurrentTimestamp row = true := selected
      exact bad (all row member fun kept => by simpa [selected] using (List.mem_filter.1 kept).2)
    · intro founded row member gone
      by_contra bad
      split_ifs at gone with commits
      · refine gone (List.mem_filter.2 ⟨member, ?_⟩)
        rw [Bool.not_eq_true', ← Bool.not_eq_true]
        exact fun selected => founded ⟨commits, row, member, selected, bad⟩
      · exact gone member
  | appReinstalled uid =>
    refine ⟨fun _ => id, fun _ row member gone => reasons row (.reinstalled ?_)⟩
    have old := (appReinstalled_sheds db (p.answering answer) uid s).lost row member gone
    exact OldInstallation.mono old within

/-- What clean-ups delete one after another. -/
theorem runAll_lost_iff (tidy : ∀ c ∈ cleanUps, c.Tidies) (within : ∀ row ∈ s.stored, row ∈ rows)
    (reasons : ∀ row, Reason p answer rows row → excused row) :
    Sheds (fun _ => True) s (runAll db (p.answering answer) cleanUps s) ∧
      ((∀ row ∈ s.stored, row ∉ (runAll db (p.answering answer) cleanUps s).stored → excused row) ↔
        ¬ Unfounded db (p.answering answer) excused cleanUps s) := by
  induction cleanUps generalizing s with
  | nil => exact ⟨.of_stored rfl, fun _ => id, fun _ row member gone => absurd member gone⟩
  | cons c cleanUps ih =>
    have here := tidy c List.mem_cons_self
    have first := here.sheds db (p.answering answer) s
    obtain ⟨second, rest⟩ := ih (s := (c.run db (p.answering answer) s).2)
      (fun c member => tidy c (List.mem_cons_of_mem _ member)) fun row member => within row (first.subset row member)
    refine ⟨first.trans second, ?_⟩
    refine (first.lost_iff second).trans ?_
    rw [here.lost_iff within reasons, rest, Unfounded, not_or]

/-- The expiry clean-up selects no row that was made by a grant and is still valid. -/
theorem isRecordExpired_of_normalExpired {uid : Int32} {now : UInt64} {row : Row}
    (period : row.validPeriod = usbRightValidPeriodSet.toInt64) (requested : 0 ≤ row.requestTime)
    (selected : isNormalExpired uid now row = true) : row.info.isRecordExpired now = true := by
  have outside := not_valid_of_normalExpired requested selected (Nat.le_refl now.toNat)
  rw [← isRecordExpired_eq_false (Row.info_validPeriod period)] at outside
  exact Bool.not_eq_false _ ▸ outside

theorem CleanUp.Finds.selects {row : Row} (finds : c.Finds p row) (rows : List Row) : c.selects p rows row = true := by
  cases c with
  | appUninstalled uid => exact decide_eq_true finds
  | normalExpired uid => exact finds
  | bundleUninstalled | appReinstalled | userDeleted | userStopped | temporaryExpired => cases finds

theorem CleanUp.Unfounded.finds (unfounded : c.Unfounded db p excused s) :
    ∃ row ∈ s.stored, c.Finds p row ∧ ¬ excused row := by
  cases c with
  | appUninstalled uid =>
    obtain ⟨row, member, user, deleted, bad⟩ := unfounded
    exact ⟨row, member, ⟨user, mem_uninstalledApps deleted⟩, bad⟩
  | normalExpired uid =>
    obtain ⟨-, row, member, selected, bad⟩ := unfounded
    exact ⟨row, member, selected, bad⟩
  | bundleUninstalled | appReinstalled | userDeleted | userStopped | temporaryExpired => cases unfounded

/-- Whatever fails, nothing is deleted unfoundedly unless it is found. -/
theorem Founded.not_unfounded (tidy : ∀ c ∈ cleanUps, c.Tidies) (founded : Founded p excused cleanUps s.stored) :
    ¬ Unfounded db p excused cleanUps s := by
  induction cleanUps generalizing s with
  | nil => exact id
  | cons c cleanUps ih =>
    have within := ((tidy c List.mem_cons_self).sheds db p s).subset
    rintro (first | later)
    · obtain ⟨row, member, finds, bad⟩ := first.finds
      exact bad (founded row member ⟨c, List.mem_cons_self, finds⟩)
    · refine ih (fun c member => tidy c (List.mem_cons_of_mem _ member)) (fun row member => ?_) later
      rintro ⟨c', among, finds⟩
      exact founded row (within row member) ⟨c', List.mem_cons_of_mem _ among, finds⟩

/-- On a store that does not fail nothing that is found is left. -/
theorem runAll_finds (ok : db.Succeeds) (quiet : s.Quiet) {row : Row}
    (kept : row ∈ (runAll db p cleanUps s).stored) :
    row ∈ s.stored ∧ ∀ c ∈ cleanUps, ¬ c.Finds p row := by
  induction cleanUps generalizing s with
  | nil => exact ⟨kept, nofun⟩
  | cons c cleanUps ih =>
    have leaves := @CleanUp.run_leaves db s p ok quiet c
    obtain ⟨there, rest⟩ := ih leaves.quiet kept
    rw [leaves.quiet.stored, leaves.rows_eq, ← quiet.stored] at there
    obtain ⟨member, unselected⟩ := List.mem_filter.1 there
    refine ⟨member, fun c' among finds => ?_⟩
    rcases List.mem_cons.1 among with rfl | among
    · rw [finds.selects] at unselected
      cases unselected
    · exact rest c' among finds

theorem founded_of_lost (ok : db.Succeeds) (quiet : s.Quiet)
    (all : ∀ row ∈ s.stored, row ∉ (runAll db p cleanUps s).stored → excused row) :
    Founded p excused cleanUps s.stored := by
  rintro row member ⟨c, among, finds⟩
  exact all row member fun kept => (runAll_finds ok quiet kept).2 c among finds

end Founded

/-! ## Tidying up -/

/-- The row is expired, or there is a reason to delete it. -/
def MayGo (p : Platform) (answer : Int32 → String → ApplicationAnswer) (rows : List Row) (row : Row) : Prop :=
  Expired (p.clock 0).getCurrentTimestamp row ∨ Reason p answer rows row

def TidyUpDeletesGone (db : UsbRightDataBase) (p : Platform) (answer : Int32 → String → ApplicationAnswer)
    (s : Store Row) (choose : UInt32) : Prop :=
  ∀ row ∈ s.stored, row ∉ (tidyUpRight db (p.answering answer) choose s).2.stored → MayGo p answer s.stored row

/-- A temporary right expires when its device is removed. -/
def IsTemporary (deviceName : String) (row : Row) : Prop :=
  row.validPeriod = usbRightValidPeriodMin ∧ row.deviceName = deviceName

def RemoveDeviceDeletesGone (db : UsbRightDataBase) (p : Platform) (answer : Int32 → String → ApplicationAnswer)
    (s : Store Row) (deviceName : String) : Prop :=
  ∀ row ∈ s.stored, row ∉ (removeDeviceAllRight db (p.answering answer) deviceName s).2.stored →
    IsTemporary deviceName row ∨ MayGo p answer s.stored row

section TidyUp

variable {p : Platform} {answer : Int32 → String → ApplicationAnswer} {s : Store Row}

theorem tidyUpDeletesGone_iff {db : UsbRightDataBase} (choose : UInt32) :
    TidyUpDeletesGone db p answer s choose ↔
      ¬ Unfounded db (p.answering answer) (MayGo p answer s.stored) (tidyUps (p.answering answer) choose) s := by
  unfold TidyUpDeletesGone
  rw [tidyUpRight_eq]
  exact (runAll_lost_iff (tidyUps_tidies choose) (fun _ member => member) fun row => .inr).2

theorem removeDeviceAllRight_eq (db : UsbRightDataBase) (p : Platform) (deviceName : String) (s : Store Row) :
    (removeDeviceAllRight db p deviceName s).2 =
      runAll db p (.temporaryExpired deviceName :: tidyUps p tightUpUsbRightRecordAll) s :=
  tidyUpRight_eq tightUpUsbRightRecordAll

theorem temporaryExpired_sheds (db : UsbRightDataBase) (deviceName : String) (s : Store Row) :
    Sheds (IsTemporary deviceName) s (cleanUpRightTemporaryExpired db deviceName s).2 :=
  (deleteAndNoOtherOperation_sheds db s _).mono fun row _ selected =>
    of_decide_eq_true (p := row.validPeriod = usbRightValidPeriodMin ∧ row.deviceName = deviceName) selected

theorem removeDeviceDeletesGone_iff {db : UsbRightDataBase} (deviceName : String) :
    RemoveDeviceDeletesGone db p answer s deviceName ↔
      ¬ Unfounded db (p.answering answer) (fun row => IsTemporary deviceName row ∨ MayGo p answer s.stored row)
        (tidyUps (p.answering answer) tightUpUsbRightRecordAll) (cleanUpRightTemporaryExpired db deviceName s).2 := by
  have first := temporaryExpired_sheds db deviceName s
  obtain ⟨second, rest⟩ := @runAll_lost_iff db _ _ _ _ _ _ (tidyUps_tidies tightUpUsbRightRecordAll)
    (fun row member => first.subset row member)
    fun row reason => (.inr (.inr reason) : IsTemporary deviceName row ∨ MayGo p answer s.stored row)
  unfold RemoveDeviceDeletesGone
  rw [removeDeviceAllRight_eq]
  refine (first.lost_iff second).trans ?_
  rw [rest]
  exact ⟨And.right, fun founded => ⟨fun row member gone => .inl (first.lost row member gone), founded⟩⟩

/-- While the bundle manager answers, a row that a grant has made is found only if it may go. -/
theorem CleanUp.Finds.mayGo {rows : List Row} {row : Row} {c : CleanUp} (finds : c.Finds (p.answering answer) row)
    (answered : answer row.uid row.bundleName = .absent ∨ answer row.uid row.bundleName = .installed)
    (period : row.validPeriod = usbRightValidPeriodSet.toInt64) (requested : 0 ≤ row.requestTime) :
    MayGo p answer rows row := by
  cases c with
  | appUninstalled uid =>
    obtain ⟨rfl, missing⟩ := finds
    exact .inr (.absent (answered.resolve_right (of_decide_eq_false missing)))
  | normalExpired uid =>
    have user : row.uid = uid := (of_decide_eq_true finds).1
    subst user
    exact .inl ⟨finds, isRecordExpired_of_normalExpired period requested finds⟩
  | bundleUninstalled | appReinstalled | userDeleted | userStopped | temporaryExpired => cases finds

/-- While the bundle manager answers, only what is gone is deleted of a table that grants have made. -/
theorem tidyUp_deletes_gone
    (answered : ∀ row ∈ s.stored, answer row.uid row.bundleName = .absent ∨ answer row.uid row.bundleName = .installed)
    (made : ∀ row ∈ s.stored, row.validPeriod = usbRightValidPeriodSet.toInt64 ∧ 0 ≤ row.requestTime)
    (db : UsbRightDataBase) (p : Platform) (choose : UInt32) : TidyUpDeletesGone db p answer s choose := by
  refine (tidyUpDeletesGone_iff choose).2 (Founded.not_unfounded (tidyUps_tidies choose) ?_)
  rintro row member ⟨c, -, finds⟩
  obtain ⟨period, requested⟩ := made row member
  exact finds.mayGo (answered row member) period requested

end TidyUp

/-- Only what is gone is deleted, exactly if neither the clean-up of uninstalled applications nor that of expired rights
finds a row that may not go. On a store that fails this is enough, and exact for the deletions that are committed. -/
theorem tidyUp_deletes_gone_iff (db : UsbRightDataBase) (p : Platform) (answer : Int32 → String → ApplicationAnswer)
    (s : Store Row) :
    (∀ choose,
      let tidied := tidyUps (p.answering answer) choose
      let founded := Founded (p.answering answer) (MayGo p answer s.stored) tidied s.stored
      (TidyUpDeletesGone db p answer s choose ↔
        ¬ Unfounded db (p.answering answer) (MayGo p answer s.stored) tidied s) ∧
      (founded → TidyUpDeletesGone db p answer s choose) ∧
      (db.Succeeds → s.Quiet → (TidyUpDeletesGone db p answer s choose ↔ founded))) ∧
    ∀ deviceName,
      let tidied := tidyUps (p.answering answer) tightUpUsbRightRecordAll
      let mayGo := fun row => IsTemporary deviceName row ∨ MayGo p answer s.stored row
      let founded := Founded (p.answering answer) mayGo tidied s.stored
      (RemoveDeviceDeletesGone db p answer s deviceName ↔
        ¬ Unfounded db (p.answering answer) mayGo tidied (cleanUpRightTemporaryExpired db deviceName s).2) ∧
      (founded → RemoveDeviceDeletesGone db p answer s deviceName) ∧
      (db.Succeeds → s.Quiet → (RemoveDeviceDeletesGone db p answer s deviceName ↔ founded)) := by
  constructor
  · intro choose tidied founded
    have enough : founded → TidyUpDeletesGone db p answer s choose :=
      fun founded => (tidyUpDeletesGone_iff choose).2 (founded.not_unfounded (tidyUps_tidies choose))
    refine ⟨tidyUpDeletesGone_iff choose, enough, fun ok quiet => ⟨fun deletes => ?_, enough⟩⟩
    unfold TidyUpDeletesGone at deletes
    rw [tidyUpRight_eq] at deletes
    exact founded_of_lost ok quiet deletes
  · intro deviceName tidied mayGo founded
    have within := (temporaryExpired_sheds db deviceName s).subset
    have enough : founded → RemoveDeviceDeletesGone db p answer s deviceName := fun founded =>
      (removeDeviceDeletesGone_iff deviceName).2 (Founded.not_unfounded (tidyUps_tidies tightUpUsbRightRecordAll)
        fun row member => founded row (within row member))
    refine ⟨removeDeviceDeletesGone_iff deviceName, enough, fun ok quiet => ⟨fun deletes => ?_, enough⟩⟩
    unfold RemoveDeviceDeletesGone at deletes
    rw [removeDeviceAllRight_eq] at deletes
    rintro row member ⟨c, among, finds⟩
    exact founded_of_lost ok quiet deletes row member ⟨c, List.mem_cons_of_mem _ among, finds⟩

/-- A row of user 100, requested just now, with the install time that `samplePlatform` reports. -/
def presentRow : Row :=
  ⟨1, 100, 1600000000, 1600000000, 1700000000, 268435455, "4817-4258-A1", "com.example.scanner", some "537"⟩

/-- The application is installed, and its rights stay. -/
theorem tidyUp_deletes_gone_iff_installed :
    TidyUpDeletesGone sampleDataBase (samplePlatform true) (fun _ _ => .installed) { rows := [presentRow] }
        tightUpUsbRightRecordAll ∧
      (tidyUpRight sampleDataBase ((samplePlatform true).answering fun _ _ => .installed) tightUpUsbRightRecordAll
        { rows := [presentRow] }).2.rows = [presentRow] := by
  have exactly := tidyUp_deletes_gone_iff sampleDataBase (samplePlatform true) (fun _ _ => .installed)
    { rows := [presentRow] }
  refine ⟨((exactly.1 tightUpUsbRightRecordAll).2.2 sampleDataBase_succeeds rfl).2 ?_, by decide +kernel⟩
  rintro row member ⟨c, -, finds⟩
  obtain rfl := List.mem_singleton.1 member
  exact finds.mayGo (.inr rfl) (by decide +kernel) (by decide +kernel)

/-- The rights of an application are deleted because there is no bundle manager. -/
theorem tidyUp_deletes_present :
    ¬ TidyUpDeletesGone sampleDataBase { samplePlatform true with bundleInfo := fun _ _ => none }
      (fun _ _ => .noBundleMgr) { rows := [presentRow] } tightUpUsbRightRecordAll := by
  intro deletes
  obtain expired | reason := deletes presentRow (by decide +kernel) (by decide +kernel)
  · exact absurd expired.2 (by decide +kernel)
  · cases reason with
    | absent gone => cases gone
    | reinstalled old =>
      obtain ⟨times, reported, -⟩ := old
      cases reported
    | userDeleted gone => exact absurd gone (by decide)

end UsbManager.Right
