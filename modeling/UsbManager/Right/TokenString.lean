import UsbManager.Lib.Separator
import UsbManager.Right.Answers
import UsbManager.Right.StoreCorrect

/-!
# Grants by the text of a token

`AddDeviceRight(deviceName, tokenIdStr)` reads the text as a number, cuts the number to 32 bits to ask the
token service, and stores the text itself. A check looks for the decimal numeral of a 32-bit token. Text with
leading zeros and text of a number that has been cut is therefore stored under a name that no check asks for.
-/

namespace UsbManager.Right

open Rdb
open Separator (toString_inj)

/-! ## Numerals -/

theorem decimalValue_toString (n : Nat) : decimalValue (toString n) = n := by
  have digits : (toString n).toList = Nat.toDigits 10 n := by simp
  have value := @Nat.ofDigitChars_ten_toDigits n
  rw [Nat.ofDigitChars_eq_foldl] at value
  rw [decimalValue, digits]
  exact value

/-- The text is the decimal representation of a 32-bit number, perhaps with leading zeros. -/
structure DenotesTokenId (tokenIdStr : String) : Prop where
  nonempty : tokenIdStr.isEmpty = false
  digits : isAllDigits tokenIdStr = true
  range : decimalValue tokenIdStr < 2 ^ 32

/-- What the function checks of the text. -/
def Passes (tokenIdStr : String) : Prop := isAllDigits tokenIdStr = true ∧ isWithinUint64Range tokenIdStr = true

theorem Passes.nonempty {tokenIdStr : String} (passes : Passes tokenIdStr) : tokenIdStr.isEmpty = false := by
  have range := passes.2
  unfold isWithinUint64Range at range
  split at range
  next => cases range
  next some => exact Bool.eq_false_iff.2 some

/-! ## The statement -/

/-- The store takes the record of a key: it answers the four calls, the table info can be read, and the id of a new row
is no negative `int32_t`. -/
structure Accepts (db : UsbRightDataBase) (s : Store Row) (k : Key) : Prop where
  quiet : s.saved = none
  store : db.store = true
  begun : db.answers s.calls = true
  queried : db.answers (s.calls + 1) = true
  tableInfo : (db.cursors (s.calls + 1)).tableInfo = true
  written : db.answers (s.calls + 2) = true
  rowId : ofKey k s.rows = [] → usbRightOk ≤ narrow (db.rowIds (s.calls + 2)).toInt
  committed : db.answers (s.calls + 3) = true

section Statement

variable {db : UsbRightDataBase} {s : Store Row} {k : Key} {info : UsbRightAppInfo}

/-- The statement fails before it writes. -/
theorem addOrUpdateRightRecord_unchecked (saved : s.saved = none) (store : db.store = true)
    (unchecked : ¬ (db.answers s.calls = true ∧ db.answers (s.calls + 1) = true ∧
      (db.cursors (s.calls + 1)).tableInfo = true)) :
    (addOrUpdateRightRecord db k.uid k.deviceName k.bundleName k.tokenId info s).1 = usbRightRdbExecuteFailture := by
  unfold addOrUpdateRightRecord checkIfNeedUpdateEx UsbRightDataBase.beginTransaction UsbRightDataBase.query
    UsbRightDataBase.rollBack
  cases begun : db.answers s.calls with
  | false =>
    simp [stateM_bind, execute_eq store, Rdb.beginTransaction, call, saved, begun, executeFailture_neg, stateM_pure]
  | true =>
    cases queried : db.answers (s.calls + 1) with
    | false =>
      simp [stateM_bind, execute_eq store, store, Rdb.beginTransaction, Rdb.query, call, saved, begun, queried,
        executeFailture_neg, stateM_map, stateM_pure, stateM_get]
    | true =>
      have tableInfo : (db.cursors (s.calls + 1)).tableInfo = false := by simpa [begun, queried] using unchecked
      simp [stateM_bind, execute_eq store, store, Rdb.beginTransaction, Rdb.query, call, saved, begun, queried,
        tableInfo, executeFailture_neg, stateM_map, stateM_pure, stateM_get]

theorem update_code (store : db.store = true) (clause : Row → Bool) (values : Row → Row) (s : Store Row) :
    (db.update clause values s).1.1 = (if db.answers s.calls then usbRightOk else usbRightRdbExecuteFailture) ∧
      (db.update clause values s).2.calls = s.calls + 1 := by
  unfold UsbRightDataBase.update Rdb.update
  rw [if_neg (Bool.not_eq_false _ ▸ store)]
  simp only [stateM_bind, stateM_get, stateM_pure, call_answer, true_and]
  apply call_calls
  exact fun _ => rfl

theorem insert_code (store : db.store = true) (row : Row) (s : Store Row) :
    narrow (db.insert row s).1 =
        (if db.answers s.calls then narrow (db.rowIds s.calls).toInt else usbRightRdbExecuteFailture) ∧
      (db.insert row s).2.calls = s.calls + 1 := by
  unfold UsbRightDataBase.insert Rdb.insert
  simp only [stateM_bind, stateM_get, stateM_pure, execute_eq store, call_answer]
  constructor
  · cases db.answers s.calls with
    | false => exact (by decide : narrow usbRightRdbExecuteFailture = usbRightRdbExecuteFailture)
    | true => rfl
  · apply call_calls
    exact fun _ => rfl

/-- The code of the write, which makes one call if it succeeds. -/
theorem addOrUpdateRightRecordEx_code (store : db.store = true) (isUpdate : Bool)
    (deviceName bundleName tokenId : String) (s : Store Row) :
    let out := addOrUpdateRightRecordEx db isUpdate deviceName bundleName tokenId info s
    (out.1 = if db.answers s.calls then if isUpdate then usbRightOk else narrow (db.rowIds s.calls).toInt
      else usbRightRdbExecuteFailture) ∧ (usbRightOk ≤ out.1 → out.2.calls = s.calls + 1) := by
  dsimp only
  unfold addOrUpdateRightRecordEx
  have last (ret : Int) (s' : Store Row) (calls : s'.calls = s.calls + 1) :
      let out := (do
        if ret < usbRightOk then
          let _ ← db.rollBack
        return ret : Session Row Int) s'
      out.1 = ret ∧ (usbRightOk ≤ out.1 → out.2.calls = s.calls + 1) := by
    dsimp only
    split_ifs with negative
    · exact ⟨rfl, fun nonneg => absurd negative (Int.not_lt.2 nonneg)⟩
    · exact ⟨rfl, fun _ => calls⟩
  cases isUpdate with
  | true =>
    obtain ⟨code, calls⟩ := update_code store (isRecordOf info.uid deviceName bundleName tokenId)
      (fun row => rowOf deviceName bundleName tokenId info row.id) s
    simp only [if_true, stateM_bind]
    rw [← code]
    exact last _ _ calls
  | false =>
    obtain ⟨code, calls⟩ := insert_code store (rowOf deviceName bundleName tokenId info 0) s
    simp only [Bool.false_eq_true, if_false, stateM_bind]
    rw [← code]
    exact last _ _ calls

theorem checkIfNeedUpdateEx_answered (store : db.store = true) (queried : db.answers s.calls = true)
    (tableInfo : (db.cursors s.calls).tableInfo = true) (k : Key) :
    checkIfNeedUpdateEx db k.uid k.deviceName k.bundleName k.tokenId s =
      ((usbRightOk, decide (0 < (ofKey k s.rows).length)), s.succeeded [.query]) := by
  unfold checkIfNeedUpdateEx
  rw [stateM_bind, query_answered store queried]
  dsimp only
  rw [tableInfo, if_neg Bool.false_ne_true.symm]
  rfl

/-- The code of the last lines of most statements. -/
theorem committed_code (store : db.store = true) (s : Store Row) :
    ((do
      let ret ← db.commit
      if ret < usbRightOk then
        let _ ← db.rollBack
      return ret : Session Row Int) s).1 =
      if db.answers s.calls then usbRightOk else usbRightRdbExecuteFailture := by
  have code : (db.commit s).1 = if db.answers s.calls then usbRightOk else usbRightRdbExecuteFailture := by
    rw [UsbRightDataBase.commit, execute_eq store, Rdb.commit, call_answer]
  rw [stateM_bind, ← code]
  split_ifs <;> rfl

/-- The code of the write and its `Commit`. -/
theorem write_code (store : db.store = true) (isUpdate : Bool) (deviceName bundleName tokenId : String)
    (s : Store Row) :
    ((do
      let ret ← addOrUpdateRightRecordEx db isUpdate deviceName bundleName tokenId info
      if ret < usbRightOk then return ret
      let ret ← db.commit
      if ret < usbRightOk then
        let _ ← db.rollBack
      return ret : Session Row Int) s).1 =
      if db.answers s.calls = false then usbRightRdbExecuteFailture
      else if isUpdate = false ∧ narrow (db.rowIds s.calls).toInt < usbRightOk then narrow (db.rowIds s.calls).toInt
      else if db.answers (s.calls + 1) then usbRightOk else usbRightRdbExecuteFailture := by
  obtain ⟨code, calls⟩ :=
    @addOrUpdateRightRecordEx_code db info store isUpdate deviceName bundleName tokenId s
  rw [stateM_bind]
  generalize addOrUpdateRightRecordEx db isUpdate deviceName bundleName tokenId info s = out at code calls
  obtain ⟨ret, s'⟩ := out
  dsimp only at code calls ⊢
  cases written : db.answers s.calls with
  | false =>
    rw [written, if_neg Bool.false_ne_true] at code
    rw [code, if_pos executeFailture_neg, if_pos rfl]
    rfl
  | true =>
    rw [written, if_pos rfl] at code
    rw [if_neg Bool.false_ne_true.symm]
    have here : ret < usbRightOk ↔ isUpdate = false ∧ narrow (db.rowIds s.calls).toInt < usbRightOk := by
      cases isUpdate <;> simp [code]
    split_ifs with negative refused committed refused committed
    · rw [code, if_neg (Bool.not_eq_true _ ▸ refused.1)]
      rfl
    · exact absurd (here.1 negative) refused
    · exact absurd (here.1 negative) refused
    · exact absurd (here.2 refused) negative
    all_goals rw [committed_code store, calls (Int.not_lt.1 negative)]
    · exact if_pos committed
    · exact if_neg committed

/-- The code after the check, which has found the record or has not. -/
theorem addOrUpdateRightRecord_checked (saved : s.saved = none) (store : db.store = true)
    (begun : db.answers s.calls = true) (queried : db.answers (s.calls + 1) = true)
    (tableInfo : (db.cursors (s.calls + 1)).tableInfo = true) :
    (addOrUpdateRightRecord db k.uid k.deviceName k.bundleName k.tokenId info s).1 =
      if db.answers (s.calls + 2) = false then usbRightRdbExecuteFailture
      else if ofKey k s.rows = [] ∧ narrow (db.rowIds (s.calls + 2)).toInt < usbRightOk then
        narrow (db.rowIds (s.calls + 2)).toInt
      else if db.answers (s.calls + 3) then usbRightOk else usbRightRdbExecuteFailture := by
  unfold addOrUpdateRightRecord
  rw [stateM_bind, beginTransaction_answered saved store begun]
  dsimp only
  rw [if_neg (Int.lt_irrefl _), stateM_bind, checkIfNeedUpdateEx_answered store queried tableInfo]
  dsimp only
  rw [if_neg (Int.lt_irrefl _)]
  refine (write_code store ..).trans ?_
  simp only [Store.succeeded_rows, decide_eq_false_iff_not, Nat.pos_iff_ne_zero, ne_eq, not_not,
    List.length_eq_zero_iff]
  rfl

theorem addOrUpdateRightRecord_accepts (db : UsbRightDataBase) (s : Store Row) (k : Key) (info : UsbRightAppInfo) :
    usbRightOk ≤ (addOrUpdateRightRecord db k.uid k.deviceName k.bundleName k.tokenId info s).1 ↔ Accepts db s k := by
  have refused {code : Int} (negative : code < usbRightOk) : ¬ usbRightOk ≤ code := Int.not_le.2 negative
  obtain quiet | busy := quiet_or_busy s
  · have saved : s.saved = none := quiet
    cases store : db.store with
    | false =>
      have left :
          addOrUpdateRightRecord db k.uid k.deviceName k.bundleName k.tokenId info s = (usbRightRdbNoInit, s) := by
        unfold addOrUpdateRightRecord UsbRightDataBase.beginTransaction UsbRightDataBase.execute
        rw [if_pos store, stateM_bind, stateM_pure, if_pos noInit_neg]
        rfl
      rw [left]
      exact ⟨fun done => absurd done (refused noInit_neg), fun accepts => by simp [accepts.store] at store⟩
    | true =>
      by_cases checked : db.answers s.calls = true ∧ db.answers (s.calls + 1) = true ∧
        (db.cursors (s.calls + 1)).tableInfo = true
      · obtain ⟨begun, queried, tableInfo⟩ := checked
        rw [addOrUpdateRightRecord_checked saved store begun queried tableInfo]
        split_ifs with unwritten negative committed
        · refine ⟨fun done => absurd done (refused executeFailture_neg), fun accepts => ?_⟩
          simp [accepts.written] at unwritten
        · refine ⟨fun done => absurd done (refused negative.2), fun accepts => ?_⟩
          exact absurd (accepts.rowId negative.1) (refused negative.2)
        · refine ⟨fun _ => ?_, fun _ => Int.le_refl _⟩
          have rowId (new : ofKey k s.rows = []) : usbRightOk ≤ narrow (db.rowIds (s.calls + 2)).toInt :=
            Int.not_lt.1 fun below => negative ⟨new, below⟩
          exact ⟨saved, store, begun, queried, tableInfo, by simpa using unwritten, rowId, committed⟩
        · refine ⟨fun done => absurd done (refused executeFailture_neg), fun accepts => ?_⟩
          exact absurd accepts.committed committed
      · rw [addOrUpdateRightRecord_unchecked saved store checked]
        exact ⟨fun done => absurd done (refused executeFailture_neg),
          fun accepts => absurd ⟨accepts.begun, accepts.queried, accepts.tableInfo⟩ checked⟩
  · obtain ⟨negative, -⟩ := beginTransaction_busy db busy
    unfold addOrUpdateRightRecord
    rw [stateM_bind, if_pos negative]
    refine ⟨fun done => absurd done (refused negative), fun accepts => ?_⟩
    rw [accepts.quiet] at busy
    cases busy

/-- A record that the store does not take changes nothing that is stored; one that it takes is there for every key but
its own as before. -/
theorem addOrUpdateRightRecord_taken (db : UsbRightDataBase) (s : Store Row) (k : Key) (info : UsbRightAppInfo) :
    let out := (addOrUpdateRightRecord db k.uid k.deviceName k.bundleName k.tokenId info s).2
    (¬ Accepts db s k ∧ out.stored = s.stored) ∨
      (Accepts db s k ∧ ∃ id, Ended s (granted k.uid k.deviceName k.bundleName k.tokenId info id s.rows) out) := by
  dsimp only
  have accepts := addOrUpdateRightRecord_accepts db s k info
  obtain quiet | busy := quiet_or_busy s
  · obtain ⟨id, outcome⟩ := addOrUpdateRightRecord_outcome db quiet k.uid k.deviceName k.bundleName k.tokenId info
    generalize addOrUpdateRightRecord db k.uid k.deviceName k.bundleName k.tokenId info s = out at outcome accepts
    cases outcome with
    | failed negative givenUp =>
      refine .inl ⟨fun taken => ?_, givenUp.stored quiet⟩
      exact absurd negative (Int.not_lt.2 (accepts.2 taken))
    | done nonneg ended => exact .inr ⟨accepts.1 nonneg, id, ended⟩
  · obtain ⟨negative, -⟩ := beginTransaction_busy db busy
    have left : (addOrUpdateRightRecord db k.uid k.deviceName k.bundleName k.tokenId info s).2 =
        (db.beginTransaction s).2 := by
      unfold addOrUpdateRightRecord
      rw [stateM_bind, if_pos negative]
      rfl
    refine .inl ⟨fun taken => ?_, left ▸ beginTransaction_stored db busy⟩
    rw [taken.quiet] at busy
    cases busy

end Statement

/-! ## The grant -/

/-- The key under which the rights of the application of a token are looked up. -/
def keyOfToken (uid : Int32) (deviceName bundleName : String) (tokenId : UInt32) : Key :=
  ⟨uid, deviceName, bundleName, toString tokenId.toNat⟩

/-- What a grant by the text of a token is for. -/
structure GrantReaches (db : UsbRightDataBase) (p : Platform) (s : Store Row) (deviceName tokenIdStr : String) :
    Prop where
  /-- The application of the token has the right from then on. -/
  reached : (addDeviceRightOfToken db p deviceName tokenIdStr s).1 = true →
    ∀ tokenId : UInt32, tokenId.toNat = decimalValue tokenIdStr →
      ∀ bundleName uid, p.hapTokenInfo tokenId = some (bundleName, uid) → uid ≠ usbRightUseridConsole →
        ∀ (later : UsbRightDataBase) (now : ClockReading), later.Succeeds →
          Valid (p.clock 2).getCurrentTimestamp now.getCurrentTimestamp →
            (keyOfToken uid deviceName bundleName tokenId).hasRight later now
              (addDeviceRightOfToken db p deviceName tokenIdStr s).2 = true
  /-- The records of every other token stay as they are. -/
  others : ∀ tokenId : UInt32, tokenId.toNat ≠ decimalValue tokenIdStr →
    ∀ k : Key, k.tokenId = toString tokenId.toNat →
      ofKey k (addDeviceRightOfToken db p deviceName tokenIdStr s).2.stored = ofKey k s.stored
  rejected : ¬ DenotesTokenId tokenIdStr → (addDeviceRightOfToken db p deviceName tokenIdStr s).1 = false

/-- The grant is refused, or the text is the numeral of a 32-bit token, or the application has the right without it. -/
def ReachesWhen (db : UsbRightDataBase) (p : Platform) (s : Store Row) (deviceName tokenIdStr : String) : Prop :=
  Passes tokenIdStr → ∀ bundleName uid,
    p.hapTokenInfo (UInt32.ofNat (decimalValue tokenIdStr)) = some (bundleName, uid) →
      (uid = usbRightUseridConsole ∨ Accepts db s ⟨uid, deviceName, bundleName, tokenIdStr⟩) →
        decimalValue tokenIdStr < 2 ^ 32 ∧
          (uid = usbRightUseridConsole ∨ tokenIdStr = toString (decimalValue tokenIdStr) ∨
            ∀ now : ClockReading, Valid (p.clock 2).getCurrentTimestamp now.getCurrentTimestamp →
              (ofKey ⟨uid, deviceName, bundleName, toString (decimalValue tokenIdStr)⟩ s.rows).any
                (fun row => !row.info.isRecordExpired now.getCurrentTimestamp) = true)

section Grant

variable {db later : UsbRightDataBase} {p : Platform} {s s' : Store Row} {k : Key} {now : ClockReading} {id : Int64}
  {deviceName tokenIdStr bundleName : String} {uid : Int32}

/-- The rows after a grant, as a list of the records of its key. -/
theorem ofKey_granted_self (p : Platform) (k : Key) (id : Int64) (rows : List Row) :
    ∃ row ∈ ofKey k (granted k.uid k.deviceName k.bundleName k.tokenId (p.grantInfo k.uid k.bundleName) id rows),
      ∃ id', row = grantRow p k id' := by
  unfold granted
  split_ifs with found
  · obtain ⟨row, rest, shape⟩ := List.exists_cons_of_length_pos found
    have self : ofKey k (overwrite k.isRecord (grantRow p k) rows) =
        (ofKey k rows).map fun row => grantRow p k row.id := ofKey_overwrite_self (grantRow_isRecord p k)
    have own : ofKey k rows = row :: rest := shape
    rw [own, List.map_cons] at self
    exact ⟨grantRow p k row.id, self.symm ▸ List.mem_cons_self, row.id, rfl⟩
  · have new : ofKey k rows = [] := List.eq_nil_of_length_eq_zero (Nat.eq_zero_of_not_pos found)
    have self : ofKey k (rows ++ [grantRow p k id]) = [grantRow p k id] :=
      ofKey_append_self (grantRow_isRecord p k id) new
    exact ⟨grantRow p k id, self.symm ▸ List.mem_cons_self, id, rfl⟩

theorem ofKey_granted_other (other : k ≠ ⟨uid, deviceName, bundleName, tokenIdStr⟩) (rows : List Row) :
    ofKey k (granted uid deviceName bundleName tokenIdStr (p.grantInfo uid bundleName) id rows) = ofKey k rows := by
  unfold granted
  split_ifs
  · exact @ofKey_overwrite_other k ⟨uid, deviceName, bundleName, tokenIdStr⟩ rows _
      (grantRow_isRecord p ⟨uid, deviceName, bundleName, tokenIdStr⟩) other
  · exact ofKey_append_other (grantRow_isRecord p ⟨uid, deviceName, bundleName, tokenIdStr⟩ id) other

/-- A grant's key has the right in the window of the grant. -/
theorem hasRight_granted (user : k.uid ≠ usbRightUseridConsole)
    (ended : Ended s (granted k.uid k.deviceName k.bundleName k.tokenId (p.grantInfo k.uid k.bundleName) id s.rows) s')
    (ok : later.Succeeds) (valid : Valid (p.clock 2).getCurrentTimestamp now.getCurrentTimestamp) :
    k.hasRight later now s' = true := by
  obtain ⟨row, member, id', rfl⟩ := ofKey_granted_self p k id s.rows
  rw [hasRight_eq ok ended.quiet user, ended.rows_eq, List.any_eq_true]
  refine ⟨_, member, ?_⟩
  have period : (grantRow p k id').info.validPeriod = usbRightValidPeriodSet := Row.info_validPeriod rfl
  have fresh : (grantRow p k id').info.isRecordExpired now.getCurrentTimestamp = false := by
    rw [isRecordExpired_eq_false period, grantRow_requestTime]
    exact valid
  rw [fresh]
  rfl

theorem addDeviceRightOfToken_granted (passes : Passes tokenIdStr)
    (hap : p.hapTokenInfo (UInt32.ofNat (decimalValue tokenIdStr)) = some (bundleName, uid))
    (user : uid ≠ usbRightUseridConsole) :
    addDeviceRightOfToken db p deviceName tokenIdStr s =
      (decide (0 ≤ (addOrUpdateRightRecord db uid deviceName bundleName tokenIdStr (p.grantInfo uid bundleName) s).1),
        (addOrUpdateRightRecord db uid deviceName bundleName tokenIdStr (p.grantInfo uid bundleName) s).2) := by
  unfold addDeviceRightOfToken
  rw [passes.1, passes.2, if_neg Bool.false_ne_true.symm, if_neg Bool.false_ne_true.symm, hap]
  dsimp only
  rw [if_neg user]
  rfl

/-- When the grant reports success. -/
theorem addDeviceRightOfToken_succeeds (db : UsbRightDataBase) (p : Platform) (s : Store Row)
    (deviceName tokenIdStr : String) :
    (addDeviceRightOfToken db p deviceName tokenIdStr s).1 = true ↔
      Passes tokenIdStr ∧ ∃ bundleName uid,
        p.hapTokenInfo (UInt32.ofNat (decimalValue tokenIdStr)) = some (bundleName, uid) ∧
          (uid = usbRightUseridConsole ∨ Accepts db s ⟨uid, deviceName, bundleName, tokenIdStr⟩) := by
  by_cases passes : Passes tokenIdStr
  · cases hap : p.hapTokenInfo (UInt32.ofNat (decimalValue tokenIdStr)) with
    | none =>
      unfold addDeviceRightOfToken
      rw [passes.1, passes.2, if_neg Bool.false_ne_true.symm, if_neg Bool.false_ne_true.symm, hap]
      exact ⟨nofun, fun ⟨_, _, _, found, _⟩ => nomatch found⟩
    | some info =>
      obtain ⟨bundleName, uid⟩ := info
      by_cases console : uid = usbRightUseridConsole
      · unfold addDeviceRightOfToken
        rw [passes.1, passes.2, if_neg Bool.false_ne_true.symm, if_neg Bool.false_ne_true.symm, hap]
        dsimp only
        rw [if_pos console]
        exact ⟨fun _ => ⟨passes, bundleName, uid, rfl, .inl console⟩, fun _ => rfl⟩
      · have accepts := addOrUpdateRightRecord_accepts db s ⟨uid, deviceName, bundleName, tokenIdStr⟩
          (p.grantInfo uid bundleName)
        rw [addDeviceRightOfToken_granted passes hap console, decide_eq_true_iff]
        refine accepts.trans ⟨fun taken => ⟨passes, bundleName, uid, rfl, .inr taken⟩, ?_⟩
        rintro ⟨-, bundleName', uid', same, console' | taken⟩
        · cases same
          exact absurd console' console
        · cases same
          exact taken
  · have refused : (addDeviceRightOfToken db p deviceName tokenIdStr s).1 = false := by
      unfold addDeviceRightOfToken
      split_ifs with digits range
      · rfl
      · rfl
      · exact absurd ⟨Bool.not_eq_false _ ▸ digits, Bool.not_eq_false _ ▸ range⟩ passes
    rw [refused]
    exact ⟨nofun, fun done => absurd done.1 passes⟩

/-- The text is stored as it is, so that it is the name of no other token. -/
theorem addDeviceRightOfToken_others (db : UsbRightDataBase) (p : Platform) (s : Store Row)
    (deviceName : String) {tokenId : UInt32} (other : tokenId.toNat ≠ decimalValue tokenIdStr)
    (named : k.tokenId = toString tokenId.toNat) :
    ofKey k (addDeviceRightOfToken db p deviceName tokenIdStr s).2.stored = ofKey k s.stored := by
  obtain left | ⟨_, -, left⟩ | ⟨bundleName, uid, -, left⟩ :=
    addDeviceRightOfToken_cases db p deviceName tokenIdStr s
  · rw [left]
  · rw [left]
  · have different : k ≠ ⟨uid, deviceName, bundleName, tokenIdStr⟩ := by
      rintro rfl
      have named : tokenIdStr = toString tokenId.toNat := named
      rw [named, decimalValue_toString] at other
      exact other rfl
    rw [left]
    obtain ⟨-, stored⟩ | ⟨taken, id, ended⟩ :=
      addOrUpdateRightRecord_taken db s ⟨uid, deviceName, bundleName, tokenIdStr⟩ (p.grantInfo uid bundleName)
    · exact congrArg (ofKey k) stored
    · dsimp only
      rw [Store.Quiet.stored taken.quiet, Store.Quiet.stored ended.quiet, ended.rows_eq]
      exact ofKey_granted_other different s.rows

/-- A grant under another text leaves what the check of the numeral finds. -/
theorem hasRight_granted_other (user : k.uid ≠ usbRightUseridConsole)
    (ended : Ended s (granted uid deviceName bundleName tokenIdStr (p.grantInfo uid bundleName) id s.rows) s')
    (other : k ≠ ⟨uid, deviceName, bundleName, tokenIdStr⟩) (ok : later.Succeeds) :
    k.hasRight later now s' =
      (ofKey k s.rows).any fun row => !row.info.isRecordExpired now.getCurrentTimestamp := by
  rw [hasRight_eq ok ended.quiet user, ended.rows_eq, ofKey_granted_other other]

/-- After a grant that the store takes, the application of the token has the right by the grant or without it. -/
theorem hasRight_numeral_iff (passes : Passes tokenIdStr) {tokenId : UInt32}
    (value : tokenId.toNat = decimalValue tokenIdStr) (hap : p.hapTokenInfo tokenId = some (bundleName, uid))
    (user : uid ≠ usbRightUseridConsole) (taken : Accepts db s ⟨uid, deviceName, bundleName, tokenIdStr⟩)
    (ok : later.Succeeds) (valid : Valid (p.clock 2).getCurrentTimestamp now.getCurrentTimestamp) :
    (keyOfToken uid deviceName bundleName tokenId).hasRight later now
        (addDeviceRightOfToken db p deviceName tokenIdStr s).2 = true ↔
      tokenIdStr = toString (decimalValue tokenIdStr) ∨
        (ofKey ⟨uid, deviceName, bundleName, toString (decimalValue tokenIdStr)⟩ s.rows).any
          (fun row => !row.info.isRecordExpired now.getCurrentTimestamp) = true := by
  have token : tokenId = UInt32.ofNat (decimalValue tokenIdStr) := by rw [← value, UInt32.ofNat_toNat]
  rw [addDeviceRightOfToken_granted passes (token ▸ hap) user, keyOfToken, value]
  obtain ⟨refused, -⟩ | ⟨-, id, ended⟩ :=
    addOrUpdateRightRecord_taken db s ⟨uid, deviceName, bundleName, tokenIdStr⟩ (p.grantInfo uid bundleName)
  · exact absurd taken refused
  by_cases canonical : tokenIdStr = toString (decimalValue tokenIdStr)
  · rw [← canonical]
    have granted := hasRight_granted (k := ⟨uid, deviceName, bundleName, tokenIdStr⟩) user ended ok valid
    exact ⟨fun _ => .inl rfl, fun _ => granted⟩
  · have other : (⟨uid, deviceName, bundleName, toString (decimalValue tokenIdStr)⟩ : Key) ≠
        ⟨uid, deviceName, bundleName, tokenIdStr⟩ := fun same => canonical (congrArg Key.tokenId same).symm
    rw [hasRight_granted_other (k := ⟨_, _, _, _⟩) user ended other ok]
    exact (or_iff_right canonical).symm

end Grant

/-- A grant by the text of a token reaches the application of this token, and no other, exactly if the text is its
numeral without leading zeros and below 2^32, wherever the grant is not refused and adds to what the application has. -/
theorem addDeviceRightOfToken_reaches_iff (db : UsbRightDataBase) (p : Platform) (s : Store Row)
    (deviceName tokenIdStr : String) :
    GrantReaches db p s deviceName tokenIdStr ↔ ReachesWhen db p s deviceName tokenIdStr := by
  have succeeds := addDeviceRightOfToken_succeeds db p s deviceName tokenIdStr
  constructor
  · intro reaches passes bundleName uid hap granted
    have done := succeeds.2 ⟨passes, bundleName, uid, hap, granted⟩
    have denotes : DenotesTokenId tokenIdStr := by
      by_contra strange
      rw [reaches.rejected strange] at done
      cases done
    refine ⟨denotes.range, ?_⟩
    by_cases console : uid = usbRightUseridConsole
    · exact .inl console
    by_cases canonical : tokenIdStr = toString (decimalValue tokenIdStr)
    · exact .inr (.inl canonical)
    refine .inr (.inr fun now valid => ?_)
    have value : (UInt32.ofNat (decimalValue tokenIdStr)).toNat = decimalValue tokenIdStr :=
      UInt32.toNat_ofNat_of_lt' denotes.range
    have reached := reaches.reached done _ value bundleName uid hap console sampleDataBase now
      sampleDataBase_succeeds valid
    have numeral := hasRight_numeral_iff passes value hap console (granted.resolve_left console)
      sampleDataBase_succeeds valid
    exact (numeral.1 reached).resolve_left canonical
  · intro reaches
    constructor
    case reached =>
      intro done tokenId value bundleName uid hap user later now ok valid
      obtain ⟨passes, bundleName', uid', hap', granted⟩ := succeeds.1 done
      have token : UInt32.ofNat (decimalValue tokenIdStr) = tokenId := by
        rw [← value, UInt32.ofNat_toNat]
      have same : some (bundleName', uid') = some (bundleName, uid) := by rw [← hap', ← hap, token]
      cases same
      obtain ⟨-, covered⟩ := reaches passes bundleName uid hap' granted
      refine (hasRight_numeral_iff passes value hap user (granted.resolve_left user) ok valid).2 ?_
      exact (covered.resolve_left user).imp_right fun before => before now valid
    case others =>
      intro tokenId other k named
      exact addDeviceRightOfToken_others db p s deviceName other named
    case rejected =>
      intro strange
      by_contra done
      obtain ⟨passes, bundleName, uid, hap, granted⟩ := succeeds.1 (Bool.not_eq_false _ ▸ done)
      exact strange ⟨passes.nonempty, passes.1, (reaches passes bundleName uid hap granted).1⟩

/-- Every token is that of one application of user 100. -/
def tokenPlatform : Platform :=
  { samplePlatform true with hapTokenInfo := fun _ => some ("com.example.scanner", 100) }

/-- A grant by the numeral with a leading zero reports success, and the application does not have the right; a grant by
the numeral of 2^32 + 537 reports success for the application of token 537. -/
theorem addDeviceRightOfToken_misses :
    (addDeviceRightOfToken sampleDataBase tokenPlatform "4817-4258-A1" "0537" {}).1 = true ∧
      ¬ GrantReaches sampleDataBase tokenPlatform {} "4817-4258-A1" "0537" ∧
      (addDeviceRightOfToken sampleDataBase tokenPlatform "4817-4258-A1" "4294967833" {}).1 = true ∧
      ¬ GrantReaches sampleDataBase tokenPlatform {} "4817-4258-A1" "4294967833" := by
  refine ⟨by decide +kernel, fun reaches => ?_, by decide +kernel, fun reaches => ?_⟩
  · have has := reaches.reached (by decide +kernel) 537 (by decide +kernel) "com.example.scanner" 100 rfl (by decide)
      sampleDataBase sampleReading sampleDataBase_succeeds ⟨by decide, by decide⟩
    exact absurd has (by decide +kernel)
  · have refused := reaches.rejected fun denotes => absurd denotes.range (by decide +kernel)
    exact absurd refused (by decide +kernel)

end UsbManager.Right
