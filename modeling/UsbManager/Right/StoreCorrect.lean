import Mathlib.Data.List.Induction
import UsbManager.Right.History

/-!
# The rights store over whole runs

After any run of the rights manager from the empty table, on a store that does not fail, the check
for a key answers from its last grant. Operations elsewhere do not change the answer, and neither
does an expiry clean-up from its time on. `RemoveDeviceAllRight` is not only about its device: it
tidies up the rights of the caller's user on every device.
-/

namespace UsbManager.Right

open Rdb

/-- The clean-up is about another user or bundle than the key's. No grant is temporary, so the
clean-up of temporary rights is about none. -/
def CleanUp.Elsewhere (p : Platform) (k : Key) : CleanUp → Prop
  | .appUninstalled uid | .appReinstalled uid | .userStopped uid | .normalExpired uid => uid ≠ k.uid
  | .bundleUninstalled uid bundleName => uid ≠ k.uid ∨ bundleName ≠ k.bundleName
  | .userDeleted => p.osAccountExists k.uid ≠ some false
  | .temporaryExpired _ => True

/-- The operation is about another key, or about another user or bundle than the key's. -/
def Op.Elsewhere (k : Key) : Op → Prop
  | .addDeviceRight _ key | .removeDeviceRight key | .cancelDeviceRight key => key ≠ k
  | .addDeviceRightOfToken p deviceName tokenIdStr =>
    deviceName ≠ k.deviceName ∨ tokenIdStr ≠ k.tokenId ∨
      p.hapTokenInfo (UInt32.ofNat (decimalValue tokenIdStr)) ≠ some (k.bundleName, k.uid)
  | .removeDeviceAllRight p _ | .tidyUpRight p _ =>
    p.getCurrentUserId ≠ k.uid ∧ p.osAccountExists k.uid ≠ some false
  | .cleanUpRightExpired p _ => p.getCurrentUserId ≠ k.uid
  | .cleanUp p c => c.Elsewhere p k

section Runs

variable {db : UsbRightDataBase} {p : Platform} {s : Store Row} {k : Key}

theorem CleanUp.Elsewhere.selects {c : CleanUp} (elsewhere : c.Elsewhere p k) (kept : Kept s) {row : Row}
    (member : row ∈ ofKey k s.rows) : c.selects p s.rows row = false := by
  obtain ⟨present, record⟩ := mem_ofKey.1 member
  obtain ⟨uid, -, bundle, -⟩ := isRecord_iff.1 record
  cases c with
  | appUninstalled other | appReinstalled other | userStopped other =>
    have different : row.uid ≠ other := fun same => elsewhere (same.symm.trans uid)
    simp [CleanUp.selects, different]
  | normalExpired other =>
    have different : row.uid ≠ other := fun same => elsewhere (same.symm.trans uid)
    simp [CleanUp.selects, isNormalExpired, different]
  | bundleUninstalled other bundleName =>
    simp only [CleanUp.selects, decide_eq_false_iff_not]
    rintro ⟨rfl, rfl⟩
    rcases elsewhere with user | app
    · exact user uid
    · exact app bundle
  | userDeleted =>
    have alive : p.osAccountExists row.uid ≠ some false := uid ▸ elsewhere
    simp [CleanUp.selects, alive]
  | temporaryExpired deviceName =>
    have permanent : row.validPeriod ≠ usbRightValidPeriodMin := by
      rw [kept.period row present]
      decide
    simp [CleanUp.selects, permanent]

/-- What all the clean-ups require of a record of the key that they delete is true of one it has. -/
theorem CleanUpsAffect.exists_row (ok : db.Succeeds) {cleanUps : List CleanUp} {P : Row → Prop}
    (requires : ∀ c ∈ cleanUps, ∀ s, Kept s → ∀ row ∈ ofKey k s.rows, c.selects p s.rows row = true → P row)
    (kept : Kept s) (affected : CleanUpsAffect db p k cleanUps s) : ∃ row ∈ ofKey k s.rows, P row := by
  induction cleanUps generalizing s with
  | nil => cases affected
  | cons c cleanUps ih =>
    rcases affected with ⟨row, member, selected⟩ | later
    · exact ⟨row, member, requires c List.mem_cons_self s kept row member selected⟩
    · have leaves := CleanUp.run_leaves (p := p) ok kept.quiet c
      obtain ⟨row, member, holds⟩ :=
        ih (fun other inside => requires other (List.mem_cons_of_mem _ inside)) (kept.filter leaves) later
      rw [leaves.rows_eq, ofKey_filter] at member
      exact ⟨row, List.mem_of_mem_filter member, holds⟩

theorem not_cleanUpsAffect (ok : db.Succeeds) {cleanUps : List CleanUp} (elsewhere : ∀ c ∈ cleanUps, c.Elsewhere p k)
    (kept : Kept s) : ¬ CleanUpsAffect db p k cleanUps s := by
  intro affected
  obtain ⟨row, -, never⟩ := affected.exists_row (P := fun _ => False) ok (fun c inside s kept row member selected => by
    rw [(elsewhere c inside).selects kept member] at selected
    cases selected) kept
  exact never

theorem tidyUps_elsewhere (user : p.getCurrentUserId ≠ k.uid) (alive : p.osAccountExists k.uid ≠ some false)
    (choose : UInt32) : ∀ c ∈ tidyUps p choose, c.Elsewhere p k := by
  intro c member
  unfold tidyUps at member
  split_ifs at member <;> simp at member <;> grind [CleanUp.Elsewhere]

theorem not_affects_of_elsewhere {op : Op} (ok : db.Succeeds) (kept : Kept s) (elsewhere : op.Elsewhere k) :
    ¬ op.Affects db s k := by
  rintro (⟨t0, granted⟩ | removed | ⟨p, cleanUps, made, affected⟩)
  · cases op with
    | addDeviceRight p key => exact elsewhere granted.1
    | addDeviceRightOfToken p deviceName tokenIdStr =>
      obtain ⟨device, token, hap, -⟩ := granted
      rcases elsewhere with other | other | other
      · exact other device
      · exact other token
      · exact other hap
    | _ => cases granted
  · cases op with
    | removeDeviceRight key | cancelDeviceRight key => exact elsewhere removed
    | _ => cases removed
  · refine not_cleanUpsAffect ok (fun c member => ?_) kept affected
    cases op with
    | removeDeviceAllRight p deviceName =>
      cases made
      rcases List.mem_cons.1 member with rfl | member
      · trivial
      · exact tidyUps_elsewhere elsewhere.1 elsewhere.2 _ c member
    | cleanUpRightExpired p devices =>
      cases made
      rcases List.mem_append.1 member with temporary | normal
      · obtain ⟨device, -, rfl⟩ := List.mem_map.1 temporary
        trivial
      · rw [List.mem_singleton.1 normal]
        exact elsewhere
    | tidyUpRight p choose =>
      cases made
      exact tidyUps_elsewhere elsewhere.1 elsewhere.2 _ c member
    | cleanUp p c' =>
      cases made
      rw [List.mem_singleton.1 member]
      exact elsewhere
    | _ => cases made

theorem kept_empty : Kept {} := ⟨rfl, fun _ => Nat.zero_le _, nofun, nofun⟩

/-- The table after a run records of a key its last grant. -/
theorem run_held (ok : db.Succeeds) (user : k.uid ≠ usbRightUseridConsole) (ops : List Op) :
    Kept (run db ops) ∧ ∀ t0, Held k t0 (run db ops).rows ↔ LastGrant db k t0 ops := by
  induction ops using List.reverseRecOn with
  | nil =>
    refine ⟨kept_empty, fun t0 => ⟨?_, fun last => absurd last not_lastGrant_nil⟩⟩
    rintro ⟨row, one, -⟩
    cases one
  | append_singleton ops op ih =>
    rw [run_append_singleton]
    refine ⟨(exec_effect ok ih.1 user op).1, fun t0 => ?_⟩
    rw [held_exec ok ih.1 user, lastGrant_append, ih.2]

theorem hasRight_iff_held (ok : db.Succeeds) (kept : Kept s) (user : k.uid ≠ usbRightUseridConsole)
    (now : ClockReading) :
    k.hasRight db now s = true ↔ ∃ t0, Held k t0 s.rows ∧ Valid t0 now.getCurrentTimestamp := by
  rw [hasRight_iff ok kept user]
  constructor
  · rintro ⟨row, one, valid⟩
    exact ⟨_, ⟨row, one, rfl⟩, valid⟩
  · rintro ⟨t0, ⟨row, one, rfl⟩, valid⟩
    exact ⟨row, one, valid⟩

/-! ### Expiry -/

theorem relativeExpiredTime_toNat (expiredTime : UInt64) :
    (relativeExpiredTime expiredTime).toNat = expiredTime.toNat - usbRightValidPeriodSet.toNat := by
  unfold relativeExpiredTime
  split_ifs with early
  · have early := UInt64.le_iff_toNat_le.1 early
    change 0 = _
    omega
  · have late : usbRightValidPeriodSet ≤ expiredTime := UInt64.le_of_lt (UInt64.not_le.1 early)
    rw [UInt64.toNat_sub_of_le _ _ late]

/-- A record that the expiry clean-up deletes is out of its window from then on. -/
theorem not_valid_of_normalExpired {row : Row} {uid : Int32} {expiredTime now : UInt64}
    (requested : 0 ≤ row.requestTime)
    (selected : isNormalExpired uid expiredTime row = true) (late : expiredTime.toNat ≤ now.toNat) :
    ¬ Valid row.info.requestTime now := by
  have time : row.requestTime.toInt = row.info.requestTime.toNat := by
    rw [← Int64.cast_toNatClampNeg _ requested, ← Int64.toNat_toUInt64_of_le requested]
    rfl
  simp only [isNormalExpired, decide_eq_true_eq] at selected
  have before := selected.2.1
  rw [time, relativeExpiredTime_toNat] at before
  intro valid
  have within := valid.2
  omega

/-- The operation only cleans up what has expired, at this time. -/
def Op.expiresAt : Op → Option ClockReading
  | .cleanUpRightExpired p _ => some (p.clock 0)
  | .tidyUpRight p choose => if choose = tightUpUsbRightRecordExpired then some (p.clock 0) else none
  | .cleanUp p (.normalExpired _) => some (p.clock 0)
  | _ => none

theorem tidyUps_expired {c : CleanUp} (inside : c ∈ tidyUps p tightUpUsbRightRecordExpired) :
    c = .normalExpired p.getCurrentUserId := by
  unfold tidyUps at inside
  rw [if_neg (by decide), if_neg (by decide)] at inside
  by_cases console : p.getCurrentUserId = usbRightUseridConsole
  · rw [if_pos console] at inside
    cases inside
  · rw [if_neg console, if_neg (by decide), if_neg (by decide), if_pos (by decide), if_neg (by decide)] at inside
    simpa using inside

/-- An expiry clean-up is made of clean-ups of temporary and of expired rights. -/
theorem Op.expiresAt_cleanUps {op : Op} {t1 : ClockReading} (expires : op.expiresAt = some t1) :
    ∃ p cleanUps, op.cleanUps = some (p, cleanUps) ∧ t1 = p.clock 0 ∧
      ∀ c ∈ cleanUps, (∃ deviceName, c = .temporaryExpired deviceName) ∨ ∃ uid, c = .normalExpired uid := by
  cases op with
  | cleanUpRightExpired p devices =>
    refine ⟨p, _, rfl, (Option.some.inj expires).symm, fun c inside => ?_⟩
    rcases List.mem_append.1 inside with temporary | normal
    · obtain ⟨device, -, rfl⟩ := List.mem_map.1 temporary
      exact .inl ⟨device, rfl⟩
    · exact .inr ⟨_, List.mem_singleton.1 normal⟩
  | tidyUpRight p choose =>
    simp only [Op.expiresAt, Option.ite_none_right_eq_some, Option.some.injEq] at expires
    obtain ⟨rfl, rfl⟩ := expires
    exact ⟨p, _, rfl, rfl, fun c inside => .inr ⟨_, tidyUps_expired inside⟩⟩
  | cleanUp p c =>
    cases c with
    | normalExpired uid =>
      refine ⟨p, _, rfl, (Option.some.inj expires).symm, fun c inside => ?_⟩
      exact .inr ⟨uid, List.mem_singleton.1 inside⟩
    | _ => cases expires
  | _ => cases expires

theorem expiry_hasRight (ok : db.Succeeds) (kept : Kept s) (user : k.uid ≠ usbRightUseridConsole) {op : Op}
    {t1 : ClockReading} (expires : op.expiresAt = some t1) (now : ClockReading)
    (late : t1.getCurrentTimestamp.toNat ≤ now.getCurrentTimestamp.toNat) :
    k.hasRight db now (op.exec db s) = k.hasRight db now s := by
  obtain ⟨p, cleanUps, made, rfl, kinds⟩ := Op.expiresAt_cleanUps expires
  obtain ⟨kept', effect⟩ := runAll_effect (p := p) (k := k) ok kept cleanUps
  rw [cleanUps_exec made]
  rcases effect with ⟨affected, empty⟩ | ⟨-, same⟩
  · -- no clean-up of temporary rights selects a record, so one of expired rights did
    have expired : ∃ row ∈ ofKey k s.rows, ¬ Valid row.info.requestTime now.getCurrentTimestamp := by
      refine affected.exists_row ok (fun c inside s kept row member selected => ?_) kept
      rcases kinds c inside with ⟨device, rfl⟩ | ⟨uid, rfl⟩
      · have elsewhere : (CleanUp.temporaryExpired device).Elsewhere p k := trivial
        rw [elsewhere.selects kept member] at selected
        cases selected
      · exact not_valid_of_normalExpired (kept.requested row (mem_ofKey.1 member).1) selected late
    obtain ⟨row, member, outside⟩ := expired
    have before : k.hasRight db now s = false := by
      rw [Bool.eq_false_iff, Ne, hasRight_iff ok kept user]
      rintro ⟨only, one, valid⟩
      rw [one, List.mem_singleton] at member
      exact outside (member ▸ valid)
    rw [before, hasRight_eq ok kept'.quiet user, empty]
    rfl
  · exact hasRight_congr ok kept.quiet kept'.quiet user same now

end Runs

/-- After any run, the check for a key holds exactly within the window of the grant that was the last
operation to affect the key; operations elsewhere never change the answer, and an expiry clean-up
does not change it from the time of the clean-up on. -/
theorem rights_store_correct {db : UsbRightDataBase} (ok : db.Succeeds) {k : Key}
    (user : k.uid ≠ usbRightUseridConsole) (ops : List Op) :
    (∀ now, k.hasRight db now (run db ops) = true ↔
      ∃ t0, LastGrant db k t0 ops ∧ Valid t0 now.getCurrentTimestamp) ∧
    (∀ op : Op, op.Elsewhere k → ∀ now, k.hasRight db now (run db (ops ++ [op])) = k.hasRight db now (run db ops)) ∧
    (∀ (op : Op) t1, op.expiresAt = some t1 → ∀ now : ClockReading,
      t1.getCurrentTimestamp.toNat ≤ now.getCurrentTimestamp.toNat →
        k.hasRight db now (run db (ops ++ [op])) = k.hasRight db now (run db ops)) := by
  obtain ⟨kept, held⟩ := run_held ok user ops
  refine ⟨fun now => ?_, fun op elsewhere now => ?_, fun op t1 expires now late => ?_⟩
  · rw [hasRight_iff_held ok kept user]
    simp only [held]
  · rw [run_append_singleton]
    obtain ⟨kept', effect⟩ := exec_effect ok kept user op
    have free := not_affects_of_elsewhere ok kept elsewhere
    cases effect with
    | granted granted => exact absurd (.inl ⟨_, granted⟩) free
    | revoked affected => exact absurd affected free
    | unaffected _ same => exact hasRight_congr ok kept.quiet kept'.quiet user same now
  · rw [run_append_singleton]
    exact expiry_hasRight ok kept user expires now late

/-- A store that does not fail and numbers its rows. -/
def sampleDataBase : UsbRightDataBase where
  store := true
  answers _ := true
  rowIds n := Int64.ofNat (n + 1)
  cursors _ := ⟨true, fun _ => true, fun _ => true⟩

theorem sampleDataBase_succeeds : sampleDataBase.Succeeds :=
  ⟨rfl, fun _ => rfl, fun _ => rfl, fun _ _ => rfl, fun _ _ => rfl⟩

def sampleReading : ClockReading := ⟨1700000000, by decide⟩

/-- User 100 calls, and the bundle manager knows the applications iff `installed`. -/
def samplePlatform (installed : Bool) : Platform where
  clock _ := sampleReading
  hapTokenInfo _ := none
  bundleInfo _ _ := if installed then some (1600000000, 1600000000) else none
  applicationInfo _ _ := installed
  osAccountExists _ := some true
  callingUserId := some 100

def sampleKey : Key := ⟨100, "4817-4258-A1", "com.example.scanner", "537"⟩

/-- The same application and another device. -/
def otherKey : Key := { sampleKey with deviceName := "1111-2222-B2" }

/-- A right is granted, removed and granted again, and a right for another device is granted between. -/
def sampleGrants : List Op :=
  [.addDeviceRight (samplePlatform true) sampleKey, .removeDeviceRight sampleKey,
    .addDeviceRight (samplePlatform true) otherKey, .addDeviceRight (samplePlatform true) sampleKey]

/-- The last grant counts, and the removal of the right for the other device changes nothing. -/
theorem rights_store_correct_grant :
    sampleKey.hasRight sampleDataBase sampleReading (run sampleDataBase sampleGrants) = true ∧
      sampleKey.hasRight sampleDataBase sampleReading
        (run sampleDataBase (sampleGrants ++ [.removeDeviceRight otherKey])) = true := by
  obtain ⟨exactly, elsewhere, -⟩ :=
    rights_store_correct sampleDataBase_succeeds (k := sampleKey) (by decide) sampleGrants
  have granted : sampleKey.hasRight sampleDataBase sampleReading (run sampleDataBase sampleGrants) = true := by
    refine (exactly sampleReading).2 ⟨sampleReading.getCurrentTimestamp, ?_, by decide, by decide⟩
    exact @LastGrant.here _ _ _ (sampleGrants.take 3) _ ⟨rfl, by decide +kernel, rfl⟩
  have other : otherKey ≠ sampleKey := by decide
  exact ⟨granted, (elsewhere (.removeDeviceRight otherKey) other sampleReading).trans granted⟩

/-- The detach of another device revokes the right of an application that is no longer installed. -/
theorem removeDeviceAllRight_revokes_elsewhere :
    ¬ ∀ (db : UsbRightDataBase) (k : Key) (ops : List Op) (p : Platform) (deviceName : String) (now : ClockReading),
      db.Succeeds → k.uid ≠ usbRightUseridConsole → deviceName ≠ k.deviceName →
        k.hasRight db now (run db (ops ++ [.removeDeviceAllRight p deviceName])) = k.hasRight db now (run db ops) := by
  intro unchanged
  have same := unchanged sampleDataBase sampleKey [.addDeviceRight (samplePlatform true) sampleKey]
    (samplePlatform false) "1111-2222-B2" sampleReading sampleDataBase_succeeds (by decide) (by decide)
  exact absurd same (by decide +kernel)

end UsbManager.Right
