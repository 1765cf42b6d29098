import UsbManager.Right.Atomic
import UsbManager.Right.StoreCorrect

/-!
# One record for each key

The schema does not ask for it, but the table never has two rows for one application and device: a
grant looks for the record of its key inside its transaction. This holds for every order in which
the calls of the helper follow each other and whatever fails in them, as long as a `RollBack` does
not. An operation of the manager is a sequence of such calls.
-/

namespace UsbManager.Right

open Rdb

variable {db : UsbRightDataBase} {s s0 : Store Row} {rows : List Row} {k : Key}

/-! ### Rows -/

/-- The columns that tell one record from the others. -/
def Row.key (row : Row) : Int32 × String × String × Option String :=
  (row.uid, row.deviceName, row.bundleName, row.tokenId)

def Unique (rows : List Row) : Prop := (rows.map Row.key).Nodup

instance (rows : List Row) : Decidable (Unique rows) := inferInstanceAs (Decidable (List.Nodup _))

theorem isRecordOf_iff_key {uid : Int32} {deviceName bundleName tokenId : String} {row : Row} :
    isRecordOf uid deviceName bundleName tokenId row = true ↔
      row.key = (uid, deviceName, bundleName, some tokenId) := by
  simp [isRecordOf, Row.key]

theorem Unique.filter (unique : Unique rows) (keep : Row → Bool) : Unique (rows.filter keep) :=
  List.Nodup.sublist (List.filter_sublist.map _) unique

/-- A record that is overwritten keeps its key. -/
theorem keys_overwrite (uid : Int32) (deviceName bundleName tokenId : String) (info : UsbRightAppInfo)
    (same : info.uid = uid) :
    (overwrite (isRecordOf uid deviceName bundleName tokenId) (rowOf deviceName bundleName tokenId info) rows).map
      Row.key = rows.map Row.key := by
  rw [overwrite, List.map_map]
  apply List.map_congr_left
  intro row _
  dsimp only [Function.comp]
  split_ifs with record
  · rw [isRecordOf_iff_key.1 record, Row.key, rowOf, same]
  · rfl

theorem Unique.granted (unique : Unique rows) {uid : Int32} (deviceName bundleName tokenId : String)
    {info : UsbRightAppInfo} (same : info.uid = uid) (id : Int64) :
    Unique (Right.granted uid deviceName bundleName tokenId info id rows) := by
  unfold Right.granted
  split_ifs with found
  · rw [Unique, same, keys_overwrite uid deviceName bundleName tokenId info same]
    exact unique
  · rw [Unique, List.map_append]
    refine List.nodup_append'.2 ⟨unique, List.nodup_singleton _, ?_⟩
    intro key old new
    obtain ⟨row, member, rfl⟩ := List.mem_map.1 old
    refine found (List.length_pos_of_mem (List.mem_filter.2 ⟨member, isRecordOf_iff_key.2 ?_⟩))
    rw [List.mem_singleton.1 new, ← same]
    rfl

/-- The calls that the rights manager makes. -/
def Mutation.OfManager : Mutation → Prop
  | .addOrUpdateRightRecord uid _ _ _ info => info.uid = uid
  | .addRightRecord .. | .updateRightRecord .. => False
  | .deleteRightRecord .. | .deleteDeviceRightRecord .. | .deleteAppRightRecord .. | .deleteAppsRightRecord ..
  | .deleteUidRightRecord .. | .deleteNormalExpiredRightRecord .. | .deleteValidPeriodRightRecord .. => True

def HelperCall.OfManager : HelperCall → Prop
  | .mutation m => m.OfManager
  | .query _ => True

theorem Mutation.effect_unique {m : Mutation} (ofManager : m.OfManager) (id : Int64) (unique : Unique rows) :
    Unique (m.effect id rows) := by
  cases m with
  | addRightRecord _ _ _ => exact ofManager.elim
  | updateRightRecord _ _ _ _ => exact ofManager.elim
  | addOrUpdateRightRecord uid deviceName bundleName tokenId info =>
    exact unique.granted deviceName bundleName tokenId ofManager id
  | deleteRightRecord _ _ _ _ => exact unique.filter _
  | deleteDeviceRightRecord _ _ => exact unique.filter _
  | deleteAppRightRecord _ _ => exact unique.filter _
  | deleteAppsRightRecord _ _ => exact unique.filter _
  | deleteUidRightRecord _ => exact unique.filter _
  | deleteNormalExpiredRightRecord _ _ => exact unique.filter _
  | deleteValidPeriodRightRecord _ _ => exact unique.filter _

theorem HelperCall.exec_unique {call : HelperCall} (ofManager : call.OfManager) (quiet : s.Quiet)
    (unique : Unique s.rows) (rollsBack : (call.exec db s).RollsBack) :
    (call.exec db s).Quiet ∧ Unique (call.exec db s).rows := by
  obtain ended | ⟨m, id, rfl, ended⟩ := call.exec_ended db quiet rollsBack
  · exact ⟨ended.quiet, ended.rows_eq ▸ unique⟩
  · exact ⟨ended.quiet, ended.rows_eq ▸ Mutation.effect_unique ofManager id unique⟩

theorem HelperCall.execAll_unique {calls : List HelperCall} (ofManager : ∀ call ∈ calls, call.OfManager)
    (quiet : s.Quiet) (unique : Unique s.rows) (rollsBack : (execAll db calls s).RollsBack) :
    (execAll db calls s).Quiet ∧ Unique (execAll db calls s).rows := by
  induction calls generalizing s with
  | nil => exact ⟨quiet, unique⟩
  | cons call calls ih =>
    have here : (call.exec db s).RollsBack := by
      by_contra failed
      exact execAll_failed db calls failed rollsBack
    obtain ⟨quiet, unique⟩ := exec_unique (ofManager call (List.mem_cons_self ..)) quiet unique here
    exact ih (fun other member => ofManager other (List.mem_cons_of_mem _ member)) quiet unique rollsBack

/-! ### Operations of the manager -/

/-- Calls that the manager makes lead from `s0` to this store. -/
def HelperRun (db : UsbRightDataBase) (s0 s : Store Row) : Prop :=
  ∃ calls : List HelperCall, (∀ call ∈ calls, call.OfManager) ∧ s = HelperCall.execAll db calls s0

section Manager

theorem HelperRun.extend (run : HelperRun db s0 s) (call : HelperCall) (ofManager : call.OfManager) :
    HelperRun db s0 (call.exec db s) := by
  obtain ⟨calls, all, rfl⟩ := run
  refine ⟨calls ++ [call], ?_, ?_⟩
  · intro other member
    obtain before | last := List.mem_append.1 member
    · exact all other before
    · exact List.mem_singleton.1 last ▸ ofManager
  · rw [HelperCall.execAll, HelperCall.execAll, List.foldl_append]
    rfl

theorem keeps_mutation (m : Mutation) (ofManager : m.OfManager) : Keeps (HelperRun db s0) (m.run db) :=
  fun _ run => run.extend (.mutation m) ofManager

theorem keeps_query (predicates : Row → Bool) : Keeps (HelperRun db s0) (queryInTransaction db predicates) :=
  fun _ run => run.extend (.query predicates) trivial

theorem keeps_queryAndGetResult (predicates : Row → Bool) :
    Keeps (HelperRun db s0) (queryAndGetResult db predicates) := by
  refine .bind (keeps_query predicates) fun result => ?_
  cases result with
  | error ret => exact .pure _
  | ok resultSet => exact .pure _

theorem keeps_queryAndGetResultColumnValues {α : Type} [DecidableEq α] (predicates : Row → Bool) (column : Row → α) :
    Keeps (HelperRun db s0) (queryAndGetResultColumnValues db predicates column) := by
  refine .bind (keeps_query predicates) fun result => ?_
  cases result with
  | error ret => exact .pure _
  | ok resultSet =>
    refine .ite (fun _ => .pure _) fun _ => ?_
    cases readColumn resultSet.2 0 (resultSet.1.map column).dedup with
    | none => exact .pure _
    | some columnValues => exact .pure _

theorem keeps_addDeviceRight (p : Platform) (deviceName bundleName tokenId : String) (userId : Int32) :
    Keeps (HelperRun db s0) (addDeviceRight db p deviceName bundleName tokenId userId) :=
  .ite (fun _ => .pure _) fun _ =>
    .bind (keeps_mutation (.addOrUpdateRightRecord userId deviceName bundleName tokenId (p.grantInfo userId bundleName))
      rfl) fun _ => .pure _

theorem keeps_addDeviceRightOfToken (p : Platform) (deviceName tokenIdStr : String) :
    Keeps (HelperRun db s0) (addDeviceRightOfToken db p deviceName tokenIdStr) := by
  refine .ite (fun _ => .pure _) fun _ => .ite (fun _ => .pure _) fun _ => ?_
  cases p.hapTokenInfo (UInt32.ofNat (decimalValue tokenIdStr)) with
  | none => exact .pure _
  | some info =>
    obtain ⟨bundleName, uid⟩ := info
    exact .ite (fun _ => .pure _) fun _ =>
      .bind (keeps_mutation (.addOrUpdateRightRecord uid deviceName bundleName tokenIdStr (p.grantInfo uid bundleName))
        rfl) fun _ => .pure _

theorem keeps_removeDeviceRight (deviceName bundleName tokenId : String) (userId : Int32) :
    Keeps (HelperRun db s0) (removeDeviceRight db deviceName bundleName tokenId userId) :=
  .ite (fun _ => .pure _) fun _ =>
    .bind (keeps_mutation (.deleteRightRecord userId deviceName bundleName tokenId) trivial) fun _ => .pure _

theorem keeps_cancelDeviceRight (deviceName bundleName tokenId : String) (userId : Int32) :
    Keeps (HelperRun db s0) (cancelDeviceRight db deviceName bundleName tokenId userId) :=
  .ite (fun _ => .pure _) fun _ =>
    .bind (keeps_mutation (.deleteRightRecord userId deviceName bundleName tokenId) trivial) fun _ => .pure _

theorem keeps_uninstallApps (p : Platform) (uid : Int32) (apps : List String) (ret : Int) (deleteApps : Nat) :
    Keeps (HelperRun db s0) (uninstallApps db p uid apps ret deleteApps) := by
  induction apps generalizing ret deleteApps with
  | nil => exact .pure _
  | cons app apps ih =>
    refine .ite (fun _ => ih ret deleteApps) fun _ => ?_
    exact .bind (keeps_mutation (.deleteAppRightRecord uid app) trivial) fun ret => ih ret _

theorem keeps_deleteUsers (p : Platform) (uids : List Int32) (deleted : Nat) :
    Keeps (HelperRun db s0) (deleteUsers db p uids deleted) := by
  induction uids generalizing deleted with
  | nil => exact .pure _
  | cons uid uids ih =>
    refine .ite (fun _ => ?_) fun _ => ih deleted
    exact .bind (keeps_mutation (.deleteUidRightRecord uid) trivial) fun _ => ih (deleted + 1)

theorem keeps_reinstalledBundles (p : Platform) (uid : Int32) (apps : List String) :
    Keeps (HelperRun db s0) (reinstalledBundles db p uid apps) := by
  induction apps with
  | nil => exact .pure _
  | cons app apps ih =>
    refine .bind (keeps_queryAndGetResult _) fun result => .ite (fun _ => .pure _) fun _ => ?_
    cases p.getBundleInstallAndUpdateTime uid app with
    | none => exact .pure _
    | some times => exact .bind ih fun _ => .pure _

theorem keeps_cleanUp (p : Platform) (c : CleanUp) : Keeps (HelperRun db s0) (c.run db p) := by
  cases c with
  | appUninstalled uid =>
    refine .bind (.bind (keeps_queryAndGetResultColumnValues _ _) fun result => ?_) fun _ => .pure _
    exact .ite (fun _ => .pure _) fun _ => .bind (keeps_uninstallApps p uid _ _ _) fun _ => .pure _
  | bundleUninstalled uid bundleName =>
    refine .bind (keeps_queryAndGetResultColumnValues _ _) fun result => .ite (fun _ => .pure _) fun _ => ?_
    exact .ite (fun _ => .pure _) fun _ => keeps_mutation (.deleteAppRightRecord uid bundleName) trivial
  | appReinstalled uid =>
    refine .bind (.bind (keeps_queryAndGetResultColumnValues _ _) fun result => ?_) fun _ => .pure _
    refine .ite (fun _ => .pure _) fun _ => .bind (keeps_reinstalledBundles p uid _) fun bundleNames => ?_
    cases bundleNames with
    | none => exact .pure _
    | some bundleNames =>
      exact .bind (keeps_mutation (.deleteAppsRightRecord uid (stringVectorSortAndUniq bundleNames)) trivial)
        fun _ => .pure _
  | userDeleted =>
    refine .bind (.bind (keeps_queryAndGetResultColumnValues _ _) fun result => ?_) fun _ => .pure _
    exact .ite (fun _ => .pure _) fun _ => .bind (keeps_deleteUsers p _ 0) fun _ => .pure _
  | userStopped uid => exact keeps_mutation (.deleteUidRightRecord uid) trivial
  | temporaryExpired deviceName =>
    exact keeps_mutation (.deleteValidPeriodRightRecord usbRightValidPeriodMin deviceName) trivial
  | normalExpired uid =>
    exact keeps_mutation (.deleteNormalExpiredRightRecord uid (p.clock 0).getCurrentTimestamp) trivial

theorem HelperRun.runAll (run : HelperRun db s0 s) (p : Platform) (cleanUps : List CleanUp) :
    HelperRun db s0 (Right.runAll db p cleanUps s) := by
  induction cleanUps generalizing s with
  | nil => exact run
  | cons c cleanUps ih => exact ih (keeps_cleanUp p c s run)

/-- An operation of the manager is a sequence of calls of the helper. -/
theorem HelperRun.exec (run : HelperRun db s0 s) (op : Op) : HelperRun db s0 (op.exec db s) := by
  cases cleanUps : op.cleanUps with
  | some made =>
    obtain ⟨p, cleanUps'⟩ := made
    rw [cleanUps_exec cleanUps]
    exact run.runAll p cleanUps'
  | none =>
    cases op with
    | addDeviceRight p k => exact keeps_addDeviceRight p _ _ _ _ s run
    | addDeviceRightOfToken p deviceName tokenIdStr => exact keeps_addDeviceRightOfToken p _ _ s run
    | removeDeviceRight k => exact keeps_removeDeviceRight _ _ _ _ s run
    | cancelDeviceRight k => exact keeps_cancelDeviceRight _ _ _ _ s run
    | removeDeviceAllRight _ _ => cases cleanUps
    | cleanUpRightExpired _ _ => cases cleanUps
    | tidyUpRight _ _ => cases cleanUps
    | cleanUp _ _ => cases cleanUps

/-- Operations of the manager one after another. -/
def runOps (db : UsbRightDataBase) (ops : List Op) (s : Store Row) : Store Row :=
  ops.foldl (fun s op => op.exec db s) s

theorem HelperRun.runOps (run : HelperRun db s0 s) (ops : List Op) : HelperRun db s0 (Right.runOps db ops s) := by
  induction ops generalizing s with
  | nil => exact run
  | cons op ops ih => exact ih (run.exec op)

end Manager

/-! ### Repeated grants -/

/-- A grant that succeeds in a transaction of its own. -/
theorem addOrUpdate_replaces {p : Platform} (quiet : s.Quiet)
    (nonneg : 0 ≤ (addOrUpdateRightRecord db k.uid k.deviceName k.bundleName k.tokenId
      (p.grantInfo k.uid k.bundleName) s).1) {row : Row} (member : row ∈ s.rows) (record : k.isRecord row = true) :
    (addOrUpdateRightRecord db k.uid k.deviceName k.bundleName k.tokenId (p.grantInfo k.uid k.bundleName) s).2.rows =
      overwrite k.isRecord (grantRow p k) s.rows := by
  obtain ⟨id, outcome⟩ := addOrUpdateRightRecord_outcome db quiet k.uid k.deviceName k.bundleName k.tokenId
    (p.grantInfo k.uid k.bundleName)
  generalize addOrUpdateRightRecord db k.uid k.deviceName k.bundleName k.tokenId (p.grantInfo k.uid k.bundleName) s =
    out at outcome nonneg
  cases outcome with
  | failed negative givenUp => exact absurd negative (Int.not_lt.2 nonneg)
  | done _ ended =>
    have found : 0 < (s.rows.filter (isRecordOf k.uid k.deviceName k.bundleName k.tokenId)).length :=
      List.length_pos_of_mem (List.mem_filter.2 ⟨member, record⟩)
    rw [ended.rows_eq, granted, if_pos found]
    rfl

/-- The application has no second record. -/
theorem Unique.ofKey (unique : Unique rows) {row : Row} (member : row ∈ rows) (record : k.isRecord row = true) :
    Right.ofKey k rows = [row] := by
  have only : ∀ other ∈ Right.ofKey k rows, other = row := by
    intro other own
    obtain ⟨listed, record'⟩ := mem_ofKey.1 own
    exact List.inj_on_of_nodup_map unique listed member
      ((isRecordOf_iff_key.1 record').trans (isRecordOf_iff_key.1 record).symm)
  have nodup : (Right.ofKey k rows).Nodup := (List.Nodup.of_map _ unique).filter _
  have present : row ∈ Right.ofKey k rows := mem_ofKey.2 ⟨member, record⟩
  rcases shape : Right.ofKey k rows with _ | ⟨first, _ | ⟨second, rest⟩⟩
  · rw [shape] at present
    cases present
  · rw [only first (shape ▸ List.mem_singleton_self _)]
  · rw [shape] at only nodup
    refine absurd ?_ (List.nodup_cons.1 nodup).1
    rw [only first (List.mem_cons_self ..), only second (List.mem_cons_of_mem _ (List.mem_cons_self ..))]
    exact List.mem_cons_self ..

/-- A grant of the key succeeds. -/
def Op.Regrants (db : UsbRightDataBase) (s : Store Row) (k : Key) (p : Platform) : Op → Prop
  | .addDeviceRight p' key =>
    p' = p ∧ key = k ∧ (Right.addDeviceRight db p k.deviceName k.bundleName k.tokenId k.uid s).1 = true
  | .addDeviceRightOfToken p' deviceName tokenIdStr =>
    p' = p ∧ deviceName = k.deviceName ∧ tokenIdStr = k.tokenId ∧
      p.hapTokenInfo (UInt32.ofNat (decimalValue tokenIdStr)) = some (k.bundleName, k.uid) ∧
      (Right.addDeviceRightOfToken db p deviceName tokenIdStr s).1 = true
  | .removeDeviceRight _ | .cancelDeviceRight _ | .removeDeviceAllRight _ _ | .cleanUpRightExpired _ _
  | .tidyUpRight _ _ | .cleanUp _ _ => False

theorem Op.Regrants.replaces {op : Op} {p : Platform} (regrants : op.Regrants db s k p)
    (user : k.uid ≠ usbRightUseridConsole) (quiet : s.Quiet) {row : Row} (member : row ∈ s.rows)
    (record : k.isRecord row = true) :
    (op.exec db s).rows = overwrite k.isRecord (grantRow p k) s.rows := by
  cases op with
  | addDeviceRight p' key =>
    obtain ⟨rfl, rfl, granted⟩ := regrants
    have eq := @addDeviceRight_eq db s key p' user
    rw [eq, decide_eq_true_eq] at granted
    rw [Op.exec, eq]
    exact addOrUpdate_replaces quiet granted member record
  | addDeviceRightOfToken p' deviceName tokenIdStr =>
    obtain ⟨rfl, rfl, rfl, hap, granted⟩ := regrants
    obtain refused | ⟨bundleName, console, -⟩ | ⟨bundleName, uid, hap', eq⟩ :=
      addDeviceRightOfToken_cases db p' k.deviceName k.tokenId s
    · rw [refused] at granted
      cases granted
    · rw [hap] at console
      exact absurd (congrArg Prod.snd (Option.some.inj console)) user
    · rw [hap] at hap'
      obtain ⟨rfl, rfl⟩ := Prod.mk.inj (Option.some.inj hap')
      rw [eq, decide_eq_true_eq] at granted
      rw [Op.exec, eq]
      exact addOrUpdate_replaces quiet granted member record
  | removeDeviceRight _ => exact regrants.elim
  | cancelDeviceRight _ => exact regrants.elim
  | removeDeviceAllRight _ _ => exact regrants.elim
  | cleanUpRightExpired _ _ => exact regrants.elim
  | tidyUpRight _ _ => exact regrants.elim
  | cleanUp _ _ => exact regrants.elim

/-- No two records have one key: whatever calls the manager makes in whatever order, or operation after operation.
A grant that finds the record of its key and succeeds gives it the times of the grant and leaves the others alone. -/
theorem rights_rows_unique (db : UsbRightDataBase) (s0 : Store Row) (quiet : s0.Quiet) (unique : Unique s0.rows) :
    (∀ calls : List HelperCall, (∀ call ∈ calls, call.OfManager) → (HelperCall.execAll db calls s0).RollsBack →
      Unique (HelperCall.execAll db calls s0).rows) ∧
    (∀ ops : List Op, (runOps db ops s0).RollsBack → Unique (runOps db ops s0).rows) ∧
    ∀ s, HelperRun db s0 s → s.RollsBack → ∀ (op : Op) (k : Key) (p : Platform), k.uid ≠ usbRightUseridConsole →
      op.Regrants db s k p → ∀ row ∈ s.rows, k.isRecord row = true →
        (op.exec db s).rows = overwrite k.isRecord (grantRow p k) s.rows ∧ ofKey k s.rows = [row] ∧
          ofKey k (op.exec db s).rows = [grantRow p k row.id] := by
  have reached : ∀ s, HelperRun db s0 s → s.RollsBack → s.Quiet ∧ Unique s.rows := by
    rintro s ⟨calls, ofManager, rfl⟩ rollsBack
    exact HelperCall.execAll_unique ofManager quiet unique rollsBack
  have start : HelperRun db s0 s0 := ⟨[], fun _ member => absurd member List.not_mem_nil, rfl⟩
  refine ⟨?_, ?_, ?_⟩
  · exact fun calls ofManager rollsBack => (reached _ ⟨calls, ofManager, rfl⟩ rollsBack).2
  · exact fun ops rollsBack => (reached _ (start.runOps ops) rollsBack).2
  · intro s run rollsBack op k p user regrants row member record
    obtain ⟨quiet, unique⟩ := reached s run rollsBack
    have rows := regrants.replaces user quiet member record
    have one := unique.ofKey member record
    refine ⟨rows, one, ?_⟩
    rw [rows, ofKey_overwrite_self (grantRow_isRecord p k), one]
    rfl

/-- The eighth call fails: the `Commit` of a second grant. -/
def failsEighth : UsbRightDataBase := { sampleDataBase with answers := fun n => n ≠ 7 }

def sampleGrant : Op := .addDeviceRight (samplePlatform true) sampleKey

/-- A right is granted, a second grant fails and a third one replaces the record of the first. -/
theorem rights_rows_unique_regranted :
    Unique (runOps failsEighth [sampleGrant, sampleGrant, sampleGrant] {}).rows ∧
      ∃ row, ofKey sampleKey (runOps failsEighth [sampleGrant, sampleGrant] {}).rows = [row] ∧
        ofKey sampleKey (sampleGrant.exec failsEighth (runOps failsEighth [sampleGrant, sampleGrant] {})).rows =
          [grantRow (samplePlatform true) sampleKey row.id] := by
  obtain ⟨-, unique, regrant⟩ := rights_rows_unique failsEighth {} rfl List.nodup_nil
  have run : HelperRun failsEighth {} (runOps failsEighth [sampleGrant, sampleGrant] {}) :=
    HelperRun.runOps ⟨[], fun _ member => absurd member List.not_mem_nil, rfl⟩ _
  refine ⟨unique _ (by decide +kernel), grantRow (samplePlatform true) sampleKey 3, ?_⟩
  exact (regrant _ run (by decide +kernel) sampleGrant sampleKey (samplePlatform true) (by decide)
    ⟨rfl, rfl, by decide +kernel⟩ _ (by decide +kernel) (by decide +kernel)).2

end UsbManager.Right
