import UsbManager.Right.DataBase

/-!
# The rights records

`UsbRightDbHelper`: the statements over the table, each in a transaction of its own. All of them
hold `databaseMutex_` throughout, and counts and sizes of results are below the range of `int32_t`.
-/

namespace UsbManager.Right

open Rdb

def usbRightValidPeriodMin : Int64 := 0
def usbRightValidPeriodMax : Int64 := 0xFFFFFFFF
def usbRightValidPeriodSet : UInt64 := 0x0FFFFFFF

/-- `UsbRightAppInfo` without the primary key, which is only read. -/
structure UsbRightAppInfo where
  uid : Int32
  installTime : UInt64
  updateTime : UInt64
  requestTime : UInt64
  validPeriod : UInt64
  deriving DecidableEq, Repr

/-- `IsRecordExpired` of one record. -/
def UsbRightAppInfo.isRecordExpired (info : UsbRightAppInfo) (expiredTime : UInt64) : Bool :=
  if expiredTime < info.requestTime then true
  else if info.validPeriod = usbRightValidPeriodMin.toUInt64 then false
  else if info.validPeriod = usbRightValidPeriodMax.toUInt64 then false
  else if expiredTime - info.requestTime < info.validPeriod then false
  else true

/-- The columns of one row, as `GetResultRightRecordEx` reads them. -/
def Row.info (row : Row) : UsbRightAppInfo where
  uid := row.uid
  installTime := row.installTime.toUInt64
  updateTime := row.updateTime.toUInt64
  requestTime := row.requestTime.toUInt64
  validPeriod := row.validPeriod.toUInt64

/-- The loop of `GetResultRightRecordEx` from row `i` on: it ends at a row it cannot go to, and
leaves out a row whose columns it cannot read. -/
def readInfos (cursor : Cursor) : Nat → List Row → List UsbRightAppInfo
  | _, [] => []
  | i, row :: rows =>
    if cursor.goToRow i = false then []
    else if cursor.columns i then row.info :: readInfos cursor (i + 1) rows
    else readInfos cursor (i + 1) rows

/-- `GetResultRightRecordEx`. -/
def getResultRightRecordEx (cursor : Cursor) (rows : List Row) : Int × List UsbRightAppInfo :=
  if cursor.tableInfo = false then (usbRightRdbExecuteFailture, [])
  else
    let infos := readInfos cursor 0 rows
    (infos.length, infos)

/-- The loop of `QueryAndGetResultColumnValues` from value `i` on; here a row it cannot go to fails
the whole query. -/
def readColumn {α : Type} (cursor : Cursor) : Nat → List α → Option (List α)
  | _, [] => some []
  | i, value :: values =>
    if cursor.goToRow i = false then none
    else (readColumn cursor (i + 1) values).map fun rest => if cursor.columns i then value :: rest else rest

section Statements

variable (db : UsbRightDataBase)

/-- A query in its transaction. -/
def queryInTransaction (predicates : Row → Bool) : Session Row (Except Int (List Row × Cursor)) := do
  let ret ← db.beginTransaction
  if ret < usbRightOk then return .error ret
  match ← db.query predicates with
  | none =>
    let _ ← db.rollBack
    return .error usbRightRdbExecuteFailture
  | some resultSet =>
    let ret ← db.commit
    if ret < usbRightOk then
      let _ ← db.rollBack
      return .error ret
    return .ok resultSet

def queryAndGetResult (predicates : Row → Bool) : Session Row (Int × List UsbRightAppInfo) := do
  match ← queryInTransaction db predicates with
  | .error ret => return (ret, [])
  | .ok (rows, cursor) => return getResultRightRecordEx cursor rows

/-- The distinct values of one column. A `uid` is read as text and converted back by the caller. -/
def queryAndGetResultColumnValues {α : Type} [DecidableEq α] (predicates : Row → Bool) (column : Row → α) :
    Session Row (Int × List α) := do
  match ← queryInTransaction db predicates with
  | .error ret => return (ret, [])
  | .ok (rows, cursor) =>
    if cursor.tableInfo = false then return (usbRightRdbExecuteFailture, [])
    match readColumn cursor 0 (rows.map column).dedup with
    | none => return (usbRightRdbExecuteFailture, [])
    | some columnValues => return (columnValues.length, columnValues)

/-- `uid = ? AND deviceName = ? AND bundleName = ? AND tokenId = ?`. -/
def isRecordOf (uid : Int32) (deviceName bundleName tokenId : String) (row : Row) : Bool :=
  row.uid = uid ∧ row.deviceName = deviceName ∧ row.bundleName = bundleName ∧ row.tokenId = some tokenId

def queryRightRecord (uid : Int32) (deviceName bundleName tokenId : String) :
    Session Row (Int × List UsbRightAppInfo) :=
  queryAndGetResult db (isRecordOf uid deviceName bundleName tokenId)

def queryAppRightRecord (uid : Int32) (bundleName : String) : Session Row (Int × List UsbRightAppInfo) :=
  queryAndGetResult db fun row => row.uid = uid ∧ row.bundleName = bundleName

def queryRightRecordUids : Session Row (Int × List Int32) :=
  queryAndGetResultColumnValues db (fun _ => true) (·.uid)

def queryRightRecordApps (uid : Int32) : Session Row (Int × List String) :=
  queryAndGetResultColumnValues db (fun row => row.uid = uid) (·.bundleName)

/-- `IsRecordExpired` of a key: whether none of its records is valid. -/
def isRecordExpired (uid : Int32) (deviceName bundleName tokenId : String) (expiredTime : UInt64) :
    Session Row Bool := do
  let (ret, infos) ← queryRightRecord db uid deviceName bundleName tokenId
  if ret ≤ 0 then return true
  return infos.all fun info => info.isRecordExpired expiredTime

/-- `DeleteAndNoOtherOperation` with a clause: it reports whether rows changed. -/
def deleteAndNoOtherOperation (whereClause : Row → Bool) : Session Row Int := do
  let ret ← db.beginTransaction
  if ret < usbRightOk then return ret
  let (ret, changedRows) ← db.delete whereClause
  if ret < usbRightOk then
    let _ ← db.rollBack
    return ret
  let ret ← db.commit
  if ret < usbRightOk then
    let _ ← db.rollBack
  if changedRows ≤ 0 then return usbRightRdbEmpty
  return ret

/-- `DeleteAndNoOtherOperation` with predicates. -/
def deletePredicates (predicates : Row → Bool) : Session Row Int := do
  let ret ← db.beginTransaction
  if ret < usbRightOk then return ret
  let (ret, _) ← db.delete predicates
  if ret < usbRightOk then
    let _ ← db.rollBack
    return ret
  let ret ← db.commit
  if ret < usbRightOk then
    let _ ← db.rollBack
  return ret

def deleteRightRecord (uid : Int32) (deviceName bundleName tokenId : String) : Session Row Int :=
  deleteAndNoOtherOperation db (isRecordOf uid deviceName bundleName tokenId)

def deleteDeviceRightRecord (uid : Int32) (deviceName : String) : Session Row Int :=
  deleteAndNoOtherOperation db fun row => row.uid = uid ∧ row.deviceName = deviceName

def deleteAppRightRecord (uid : Int32) (bundleName : String) : Session Row Int :=
  deleteAndNoOtherOperation db fun row => row.uid = uid ∧ row.bundleName = bundleName

/-- `In` over an empty list selects no row. -/
def deleteAppsRightRecord (uid : Int32) (bundleNames : List String) : Session Row Int :=
  deletePredicates db fun row => row.uid = uid ∧ row.bundleName ∈ bundleNames

def deleteUidRightRecord (uid : Int32) : Session Row Int :=
  deleteAndNoOtherOperation db fun row => row.uid = uid

def relativeExpiredTime (expiredTime : UInt64) : UInt64 :=
  if expiredTime ≤ usbRightValidPeriodSet then 0 else expiredTime - usbRightValidPeriodSet

/-- `uid = ? AND requestTime < ? AND validPeriod NOT IN (?, ?)`; the bound is compared as a number with
the stored time. -/
def isNormalExpired (uid : Int32) (expiredTime : UInt64) (row : Row) : Bool :=
  row.uid = uid ∧ row.requestTime.toInt < (relativeExpiredTime expiredTime).toNat ∧
    row.validPeriod ≠ usbRightValidPeriodMin ∧ row.validPeriod ≠ usbRightValidPeriodMax

def deleteNormalExpiredRightRecord (uid : Int32) (expiredTime : UInt64) : Session Row Int :=
  deleteAndNoOtherOperation db (isNormalExpired uid expiredTime)

def deleteValidPeriodRightRecord (validPeriod : Int64) (deviceName : String) : Session Row Int :=
  deleteAndNoOtherOperation db fun row => row.validPeriod = validPeriod ∧ row.deviceName = deviceName

/-- `CheckIfNeedUpdateEx`: its code and `isUpdate`. -/
def checkIfNeedUpdateEx (uid : Int32) (deviceName bundleName tokenId : String) : Session Row (Int × Bool) := do
  match ← db.query (isRecordOf uid deviceName bundleName tokenId) with
  | none =>
    let _ ← db.rollBack
    return (usbRightRdbExecuteFailture, false)
  | some (rows, cursor) =>
    if cursor.tableInfo = false then
      let _ ← db.rollBack
      return (usbRightRdbExecuteFailture, false)
    return (usbRightOk, 0 < rows.length)

/-- The row of the values that `AddOrUpdateRightRecordEx` puts, all but the id. -/
def rowOf (deviceName bundleName tokenId : String) (info : UsbRightAppInfo) (id : Int64) : Row where
  id := id
  uid := info.uid
  installTime := info.installTime.toInt64
  updateTime := info.updateTime.toInt64
  requestTime := info.requestTime.toInt64
  validPeriod := info.validPeriod.toInt64
  deviceName := deviceName
  bundleName := bundleName
  tokenId := some tokenId

/-- An `int64_t` result stored in an `int32_t`. -/
def narrow (ret : Int) : Int := (Int32.ofInt ret).toInt

/-- The values of `AddRightRecord` and `UpdateRightRecord`, which put no token id. -/
def rowWithoutToken (deviceName bundleName : String) (info : UsbRightAppInfo) (id : Int64) (tokenId : Option String) :
    Row :=
  { rowOf deviceName bundleName "" info id with tokenId := tokenId }

def addRightRecord (deviceName bundleName : String) (info : UsbRightAppInfo) : Session Row Int := do
  let ret ← db.beginTransaction
  if ret < usbRightOk then return ret
  let ret := narrow (← db.insert (rowWithoutToken deviceName bundleName info 0 none))
  if ret < usbRightOk then
    let _ ← db.rollBack
    return ret
  let ret ← db.commit
  if ret < usbRightOk then
    let _ ← db.rollBack
  return ret

/-- `UpdateRightRecord`; it selects the rows by the user in `info`. -/
def updateRightRecord (_uid : Int32) (deviceName bundleName : String) (info : UsbRightAppInfo) : Session Row Int := do
  let ret ← db.beginTransaction
  if ret < usbRightOk then return ret
  let (ret, _) ← db.update (fun row => row.uid = info.uid ∧ row.deviceName = deviceName ∧ row.bundleName = bundleName)
    fun row => rowWithoutToken deviceName bundleName info row.id row.tokenId
  if ret < usbRightOk then
    let _ ← db.rollBack
    return ret
  let ret ← db.commit
  if ret < usbRightOk then
    let _ ← db.rollBack
  return ret

/-- `AddOrUpdateRightRecordEx`; the row id that `Insert` returns is narrowed to the `int32_t` result. -/
def addOrUpdateRightRecordEx (isUpdate : Bool) (deviceName bundleName tokenId : String) (info : UsbRightAppInfo) :
    Session Row Int := do
  let mut ret := 0
  if isUpdate then
    let (updated, _) ← db.update (isRecordOf info.uid deviceName bundleName tokenId)
      fun row => rowOf deviceName bundleName tokenId info row.id
    ret := updated
  else
    ret := narrow (← db.insert (rowOf deviceName bundleName tokenId info 0))
  if ret < usbRightOk then
    let _ ← db.rollBack
  return ret

def addOrUpdateRightRecord (uid : Int32) (deviceName bundleName tokenId : String) (info : UsbRightAppInfo) :
    Session Row Int := do
  let ret ← db.beginTransaction
  if ret < usbRightOk then return ret
  let (ret, isUpdate) ← checkIfNeedUpdateEx db uid deviceName bundleName tokenId
  if ret < usbRightOk then return ret
  let ret ← addOrUpdateRightRecordEx db isUpdate deviceName bundleName tokenId info
  if ret < usbRightOk then return ret
  let ret ← db.commit
  if ret < usbRightOk then
    let _ ← db.rollBack
  return ret

end Statements

end UsbManager.Right
