import UsbManager.Right.Records

/-!
# The effect of an operation on one key

What a grant, a removal and a clean-up do to the records of a key on a store that does not fail, and
what the check answers from them.
-/

namespace UsbManager.Right

open Rdb

variable {db : UsbRightDataBase} {s : Store Row} {p : Platform} {k : Key}

/-- The validity window of a right granted at `t0`. -/
def Valid (t0 now : UInt64) : Prop := t0.toNat ≤ now.toNat ∧ now.toNat < t0.toNat + usbRightValidPeriodSet.toNat

theorem isRecordExpired_eq_false {info : UsbRightAppInfo} {now : UInt64}
    (period : info.validPeriod = usbRightValidPeriodSet) :
    info.isRecordExpired now = false ↔ Valid info.requestTime now := by
  have notMin : usbRightValidPeriodSet ≠ usbRightValidPeriodMin.toUInt64 := by decide
  have notMax : usbRightValidPeriodSet ≠ usbRightValidPeriodMax.toUInt64 := by decide
  unfold UsbRightAppInfo.isRecordExpired Valid
  rw [period, if_neg notMin, if_neg notMax]
  split_ifs with early within
  · have early : now.toNat < info.requestTime.toNat := UInt64.lt_iff_toNat_lt.1 early
    simp only [false_iff]
    omega
  · have late : info.requestTime ≤ now := UInt64.not_lt.1 early
    have within := UInt64.lt_iff_toNat_lt.1 within
    rw [UInt64.toNat_sub_of_le _ _ late] at within
    have late := UInt64.le_iff_toNat_le.1 late
    simp only [true_iff]
    omega
  · have late : info.requestTime ≤ now := UInt64.not_lt.1 early
    have outside := UInt64.le_iff_toNat_le.1 (UInt64.not_lt.1 within)
    rw [UInt64.toNat_sub_of_le _ _ late] at outside
    simp only [false_iff]
    omega

/-- What `HasRight` answers for a key. -/
def Key.hasRight (k : Key) (db : UsbRightDataBase) (now : ClockReading) (s : Store Row) : Bool :=
  (Right.hasRight db now k.deviceName k.bundleName k.tokenId k.uid s).1

theorem isRecordExpired_ok (ok : db.Succeeds) (quiet : s.Quiet) (k : Key) (now : UInt64) :
    isRecordExpired db k.uid k.deviceName k.bundleName k.tokenId now s =
      ((ofKey k s.rows).all fun row => row.info.isRecordExpired now,
        s.succeeded [.commit, .query, .beginTransaction]) := by
  simp only [isRecordExpired, queryRightRecord, stateM_bind, queryAndGetResult_ok ok quiet]
  split_ifs with none
  · have none : ((ofKey k s.rows).length : Int) ≤ 0 := none
    have empty : ofKey k s.rows = [] := List.eq_nil_of_length_eq_zero (by omega)
    rw [empty]
    rfl
  · rw [List.all_map]
    rfl

theorem hasRight_eq (ok : db.Succeeds) (quiet : s.Quiet) (user : k.uid ≠ usbRightUseridConsole) (now : ClockReading) :
    k.hasRight db now s =
      (ofKey k s.rows).any fun row => !row.info.isRecordExpired now.getCurrentTimestamp := by
  simp only [Key.hasRight, Right.hasRight, if_neg user, stateM_bind, isRecordExpired_ok ok quiet]
  exact List.not_all_eq_any_not ..

theorem Row.info_validPeriod {row : Row} (period : row.validPeriod = usbRightValidPeriodSet.toInt64) :
    row.info.validPeriod = usbRightValidPeriodSet := by
  simp [Row.info, period]

/-- The check answers from the one record of the key. -/
theorem hasRight_iff (ok : db.Succeeds) (kept : Kept s) (user : k.uid ≠ usbRightUseridConsole) (now : ClockReading) :
    k.hasRight db now s = true ↔
      ∃ row, ofKey k s.rows = [row] ∧ Valid row.info.requestTime now.getCurrentTimestamp := by
  rw [hasRight_eq ok kept.quiet user]
  rcases kept.cases k with none | ⟨row, one⟩
  · simp [none]
  · have member : row ∈ ofKey k s.rows := by simp [one]
    have period := Row.info_validPeriod (kept.period row (mem_ofKey.1 member).1)
    simp [one, isRecordExpired_eq_false period]

/-- The check depends on nothing but the records of its key. -/
theorem hasRight_congr {s' : Store Row} (ok : db.Succeeds) (quiet : s.Quiet) (quiet' : s'.Quiet)
    (user : k.uid ≠ usbRightUseridConsole) (same : ofKey k s'.rows = ofKey k s.rows) (now : ClockReading) :
    k.hasRight db now s' = k.hasRight db now s := by
  rw [hasRight_eq ok quiet user, hasRight_eq ok quiet' user, same]

/-! ### Grants -/

theorem Kept.append {row : Row} (kept : Kept s) (record : k.isRecord row = true) (new : ofKey k s.rows = [])
    (period : row.validPeriod = usbRightValidPeriodSet.toInt64) (requested : 0 ≤ row.requestTime) {calls : Nat}
    {log : List (Statement × Bool)} : Kept { rows := s.rows ++ [row], saved := none, calls := calls, log := log } := by
  refine ⟨rfl, fun other => ?_, fun r member => ?_, fun r member => ?_⟩
  · by_cases same : other = k
    · rw [same, ofKey_append_self record new]
      exact Nat.le_refl 1
    · rw [ofKey_append_other record same]
      exact kept.single other
  · rcases List.mem_append.1 member with old | added
    · exact kept.period r old
    · rwa [List.mem_singleton.1 added]
  · rcases List.mem_append.1 member with old | added
    · exact kept.requested r old
    · rwa [List.mem_singleton.1 added]

theorem mem_overwrite {clause : Row → Bool} {new : Int64 → Row} {rows : List Row} {row : Row}
    (member : row ∈ overwrite clause new rows) : row ∈ rows ∨ ∃ id, row = new id := by
  obtain ⟨old, present, rfl⟩ := List.mem_map.1 member
  split_ifs
  · exact .inr ⟨old.id, rfl⟩
  · exact .inl present

theorem Kept.overwrite {new : Int64 → Row} (kept : Kept s) (record : ∀ id, k.isRecord (new id) = true)
    (period : ∀ id, (new id).validPeriod = usbRightValidPeriodSet.toInt64)
    (requested : ∀ id, 0 ≤ (new id).requestTime) {calls : Nat} {log : List (Statement × Bool)} :
    Kept { rows := Right.overwrite k.isRecord new s.rows, saved := none, calls := calls, log := log } := by
  refine ⟨rfl, fun other => ?_, fun r member => ?_, fun r member => ?_⟩
  · by_cases same : other = k
    · rw [same, ofKey_overwrite_self record, List.length_map]
      exact kept.single k
    · rw [ofKey_overwrite_other record same]
      exact kept.single other
  · rcases mem_overwrite member with old | ⟨id, rfl⟩
    · exact kept.period r old
    · exact period id
  · rcases mem_overwrite member with old | ⟨id, rfl⟩
    · exact kept.requested r old
    · exact requested id

/-- The record a grant makes. -/
def grantRow (p : Platform) (k : Key) (id : Int64) : Row :=
  rowOf k.deviceName k.bundleName k.tokenId (p.grantInfo k.uid k.bundleName) id

theorem grantRow_isRecord (p : Platform) (k : Key) (id : Int64) : k.isRecord (grantRow p k id) = true :=
  rowOf_isRecord k (p.grantInfo k.uid k.bundleName) rfl id

theorem grantRow_requestTime (p : Platform) (k : Key) (id : Int64) :
    (grantRow p k id).info.requestTime = (p.clock 2).getCurrentTimestamp := by
  simp [grantRow, rowOf, Row.info, Platform.grantInfo]

theorem grantRow_requested (p : Platform) (k : Key) (id : Int64) : 0 ≤ (grantRow p k id).requestTime := by
  have nonneg := (p.clock 2).nonneg
  simpa [grantRow, rowOf, Platform.grantInfo, ClockReading.getCurrentTimestamp] using nonneg

/-- After a grant the key has the one record of this grant and no other key is touched; a grant that
fails changes nothing. -/
theorem grant_effect (ok : db.Succeeds) (kept : Kept s) (p : Platform) (k : Key) :
    let out := addOrUpdateRightRecord db k.uid k.deviceName k.bundleName k.tokenId (p.grantInfo k.uid k.bundleName) s
    Kept out.2 ∧
      ((0 ≤ out.1 ∧ (∃ id, ofKey k out.2.rows = [grantRow p k id]) ∧
          ∀ other, other ≠ k → ofKey other out.2.rows = ofKey other s.rows) ∨
        (out.1 < 0 ∧ out.2.rows = s.rows)) := by
  have effect := addOrUpdateRightRecord_ok ok kept.quiet k.deviceName k.bundleName k.tokenId
    (p.grantInfo k.uid k.bundleName)
  have uid : (p.grantInfo k.uid k.bundleName).uid = k.uid := rfl
  rw [uid] at effect
  dsimp only
  rw [effect]
  split_ifs with found negative
  · have found : 0 < (ofKey k s.rows).length := found
    refine ⟨kept.overwrite (grantRow_isRecord p k) (fun _ => rfl) (grantRow_requested p k),
      .inl ⟨Int.le_refl _, ?_, ?_⟩⟩
    · rcases kept.cases k with none | ⟨row, one⟩
      · simp [none] at found
      · refine ⟨row.id, (ofKey_overwrite_self (grantRow_isRecord p k)).trans ?_⟩
        rw [one]
        rfl
    · exact fun other different => ofKey_overwrite_other (grantRow_isRecord p k) different
  · exact ⟨⟨kept.quiet, kept.single, kept.period, kept.requested⟩, .inr ⟨negative, rfl⟩⟩
  · have new : ofKey k s.rows = [] := List.eq_nil_of_length_eq_zero (Nat.eq_zero_of_not_pos found)
    refine ⟨kept.append (grantRow_isRecord p k _) new rfl (grantRow_requested p k _), .inl ⟨Int.le_refl _, ?_, ?_⟩⟩
    · exact ⟨_, ofKey_append_self (grantRow_isRecord p k _) new⟩
    · exact fun other different => ofKey_append_other (grantRow_isRecord p k _) different

end UsbManager.Right
