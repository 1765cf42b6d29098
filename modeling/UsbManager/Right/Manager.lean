import Mathlib.Algebra.Group.Nat.Defs
import UsbManager.Right.Helper
import UsbManager.Service.ErrCode

/-!
# The rights manager

`UsbRightManager`: the check, the grants and removals of one application's right to one device, and
the clean-ups. The clock, the bundle manager, the account service and the token service answer as
they like.
-/

namespace UsbManager.Right

open Rdb

def usbRightUseridDefault : Int32 := 100
def usbRightUseridConsole : Int32 := 0

/-- A reading of the system clock in seconds since the epoch; the clock is never set to before the epoch. -/
structure ClockReading where
  seconds : Int64
  nonneg : 0 ≤ seconds

def ClockReading.getCurrentTimestamp (reading : ClockReading) : UInt64 := reading.seconds.toUInt64

/-- What the system answers during one call: the successive readings of the clock, the bundle name
and user of a token, the install and update times of a bundle, whether an application is there for a
user, whether an account exists, and the user of the caller. `none` is a failed request. -/
structure Platform where
  clock : Nat → ClockReading
  hapTokenInfo : UInt32 → Option (String × Int32)
  bundleInfo : Int32 → String → Option (Int64 × Int64)
  applicationInfo : Int32 → String → Bool
  osAccountExists : Int32 → Option Bool
  callingUserId : Option Int32

namespace Platform

variable (p : Platform)

def isAppInstalled (uid : Int32) (bundleName : String) : Bool := p.applicationInfo uid bundleName

def getBundleInstallAndUpdateTime (uid : Int32) (bundleName : String) : Option (UInt64 × UInt64) :=
  (p.bundleInfo uid bundleName).map fun times => (times.1.toUInt64, times.2.toUInt64)

def getCurrentUserId : Int32 := p.callingUserId.getD usbRightUseridDefault

/-- The record of a right granted now; without install and update times of the bundle it has the
times of the call. -/
def grantInfo (uid : Int32) (bundleName : String) : UsbRightAppInfo :=
  let times := (p.getBundleInstallAndUpdateTime uid bundleName).getD
    ((p.clock 0).getCurrentTimestamp, (p.clock 1).getCurrentTimestamp)
  { uid := uid
    installTime := times.1
    updateTime := times.2
    requestTime := (p.clock 2).getCurrentTimestamp
    validPeriod := usbRightValidPeriodSet }

end Platform

def isAllDigits (s : String) : Bool := s.toList.all Char.isDigit

/-- The value of a string of digits, as `strtoull` and `stoul` read it before any range check. -/
def decimalValue (digits : String) : Nat := digits.toList.foldl (fun n c => 10 * n + (c.toNat - '0'.toNat)) 0

def isWithinUint64Range (numberStr : String) : Bool :=
  if numberStr.isEmpty then false else decimalValue numberStr < 2 ^ 64

section Rights

variable (db : UsbRightDataBase)

/-- `UsbRightManager::HasRight`. -/
def hasRight (now : ClockReading) (deviceName bundleName tokenId : String) (userId : Int32) : Session Row Bool := do
  if userId = usbRightUseridConsole then return true
  return !(← isRecordExpired db userId deviceName bundleName tokenId now.getCurrentTimestamp)

/-- `UsbRightManager::RequestRight`, which asks for an accessory and a port in the same way. `dialog` gives the rights
when the dialog is closed; it has no value if the dialog cannot be shown. -/
def requestRight (now : ClockReading) (dialog : Store Row → Option (Store Row))
    (deviceName bundleName tokenId : String) (userId : Int32) : Session Row Bool := do
  if ← hasRight db now deviceName bundleName tokenId userId then return true
  match dialog (← get) with
  | none => return false
  | some rights =>
    set rights
    hasRight db now deviceName bundleName tokenId userId

/-- `UsbRightManager::AddDeviceRight`. -/
def addDeviceRight (p : Platform) (deviceName bundleName tokenId : String) (userId : Int32) : Session Row Bool := do
  if userId = usbRightUseridConsole then return true
  let info := p.grantInfo userId bundleName
  let ret ← addOrUpdateRightRecord db userId deviceName bundleName tokenId info
  return 0 ≤ ret

/-- `UsbRightManager::AddDeviceRight` for the application of a token. -/
def addDeviceRightOfToken (p : Platform) (deviceName tokenIdStr : String) : Session Row Bool := do
  if isAllDigits tokenIdStr = false then return false
  if isWithinUint64Range tokenIdStr = false then return false
  match p.hapTokenInfo (UInt32.ofNat (decimalValue tokenIdStr)) with
  | none => return false
  | some (bundleName, uid) =>
    if uid = usbRightUseridConsole then return true
    let info := p.grantInfo uid bundleName
    let ret ← addOrUpdateRightRecord db uid deviceName bundleName tokenIdStr info
    return 0 ≤ ret

/-- `UsbRightManager::RemoveDeviceRight`. -/
def removeDeviceRight (deviceName bundleName tokenId : String) (userId : Int32) : Session Row Bool := do
  if userId = usbRightUseridConsole then return true
  let ret ← deleteRightRecord db userId deviceName bundleName tokenId
  return 0 ≤ ret

/-- `UsbRightManager::CancelDeviceRight`: it reports success also if nothing was deleted. -/
def cancelDeviceRight (deviceName bundleName tokenId : String) (userId : Int32) : Session Row UsbErrCode := do
  if userId = usbRightUseridConsole then return .uecServiceInvalidValue
  let _ ← deleteRightRecord db userId deviceName bundleName tokenId
  return .uecOk

/-! ### Clean-ups -/

def cleanUpRightTemporaryExpired (deviceName : String) : Session Row Int :=
  deleteValidPeriodRightRecord db usbRightValidPeriodMin deviceName

def cleanUpRightNormalExpired (p : Platform) (uid : Int32) : Session Row Int :=
  deleteNormalExpiredRightRecord db uid (p.clock 0).getCurrentTimestamp

def cleanUpRightExpired (p : Platform) (devices : List String) : Session Row Int := do
  for dev in devices do
    let _ ← cleanUpRightTemporaryExpired db dev
  cleanUpRightNormalExpired db p p.getCurrentUserId

/-- The result of a clean-up with its two counters. -/
structure Cleaned where
  ret : Int
  total : Nat := 0
  deleted : Nat := 0

/-- The loop of `CleanUpRightAppUninstalled` over the applications of a user. -/
def uninstallApps (p : Platform) (uid : Int32) : List String → Int → Nat → Session Row (Int × Nat)
  | [], ret, deleteApps => return (ret, deleteApps)
  | app :: apps, ret, deleteApps => do
    if p.isAppInstalled uid app then uninstallApps p uid apps ret deleteApps
    else
      let ret ← deleteAppRightRecord db uid app
      uninstallApps p uid apps ret (if ret ≠ usbRightOk then deleteApps else deleteApps + 1)

/-- `CleanUpRightAppUninstalled` for all applications of a user. -/
def cleanUpRightAppUninstalled (p : Platform) (uid : Int32) : Session Row Cleaned := do
  let (ret, apps) ← queryRightRecordApps db uid
  if ret ≤ 0 then return { ret := usbRightNop }
  let (ret, deleteApps) ← uninstallApps db p uid apps ret 0
  return { ret := ret, total := apps.length, deleted := deleteApps }

/-- `CleanUpRightAppUninstalled` for one bundle. -/
def cleanUpRightBundleUninstalled (uid : Int32) (bundleName : String) : Session Row Int := do
  let (ret, apps) ← queryRightRecordApps db uid
  if ret ≤ 0 then return usbRightNop
  if bundleName ∉ apps then return usbRightNop
  deleteAppRightRecord db uid bundleName

/-- `std::unique`. -/
def unique : List String → List String
  | [] => []
  | [s] => [s]
  | s :: t :: rest => if s = t then unique (t :: rest) else s :: unique (t :: rest)

def stringVectorSortAndUniq (strings : List String) : List String :=
  unique (strings.mergeSort fun s t => decide (s ≤ t))

/-- The loop of `CleanUpRightAppReinstalled`: the bundles to delete, or `none` if a query or the
install time of a bundle fails. -/
def reinstalledBundles (p : Platform) (uid : Int32) : List String → Session Row (Option (List String))
  | [] => return some []
  | bundleName :: apps => do
    let (ret, infos) ← queryAppRightRecord db uid bundleName
    if ret < 0 then return none
    match p.getBundleInstallAndUpdateTime uid bundleName with
    | none => return none
    | some (installTime, _) =>
      let rest ← reinstalledBundles p uid apps
      return rest.map fun bundleNames =>
        if infos.any fun info => info.installTime ≠ installTime then bundleName :: bundleNames else bundleNames

def cleanUpRightAppReinstalled (p : Platform) (uid : Int32) : Session Row Cleaned := do
  let (ret, apps) ← queryRightRecordApps db uid
  if ret ≤ 0 then return { ret := usbRightNop }
  let apps := stringVectorSortAndUniq apps
  match ← reinstalledBundles db p uid apps with
  | none => return { ret := usbRightFailure, total := apps.length }
  | some bundleNames =>
    let deleteBundleNames := stringVectorSortAndUniq bundleNames
    let ret ← deleteAppsRightRecord db uid deleteBundleNames
    return { ret := ret, total := apps.length, deleted := if ret ≠ usbRightOk then 0 else deleteBundleNames.length }

/-- The loop of `CleanUpRightUserDeleted`; a user is counted whether its records are deleted or not. -/
def deleteUsers (p : Platform) : List Int32 → Nat → Session Row Nat
  | [], deleted => return deleted
  | uid :: uids, deleted => do
    if p.osAccountExists uid = some false then
      let _ ← deleteUidRightRecord db uid
      deleteUsers p uids (deleted + 1)
    else deleteUsers p uids deleted

def cleanUpRightUserDeleted (p : Platform) : Session Row Cleaned := do
  let (ret, uids) ← queryRightRecordUids db
  if ret ≤ 0 then return { ret := usbRightNop }
  let deleted ← deleteUsers db p uids 0
  return { ret := usbRightOk, total := uids.length, deleted := deleted }

def cleanUpRightUserStopped (uid : Int32) : Session Row Int := deleteUidRightRecord db uid

def tightUpUsbRightRecordNone : UInt32 := 0
def tightUpUsbRightRecordAppUninstalled : UInt32 := 1
def tightUpUsbRightRecordUserDeleted : UInt32 := 2
def tightUpUsbRightRecordExpired : UInt32 := 4
def tightUpUsbRightRecordAppReinstalled : UInt32 := 8

def tightUpUsbRightRecordAll : UInt32 :=
  tightUpUsbRightRecordAppUninstalled ||| tightUpUsbRightRecordUserDeleted ||| tightUpUsbRightRecordExpired |||
    tightUpUsbRightRecordAppReinstalled

/-- One clean-up of `TidyUpRight`, run if its bit is chosen; else `ret` keeps the result before it. -/
def chosen (choose bit : UInt32) (cleanUp : Session Row Int) (ret : Int) : Session Row Int :=
  if choose &&& bit ≠ 0 then cleanUp else return ret

/-- `UsbRightManager::TidyUpRight`. -/
def tidyUpRight (p : Platform) (choose : UInt32) : Session Row (Except UsbErrCode Int) := do
  if choose = tightUpUsbRightRecordNone then return .ok usbRightNop
  if choose ||| tightUpUsbRightRecordAll ≠ tightUpUsbRightRecordAll then return .error .uecServiceInvalidValue
  let uid := p.getCurrentUserId
  if uid = usbRightUseridConsole then return .ok 1
  let ret ← chosen choose tightUpUsbRightRecordAppUninstalled (return (← cleanUpRightAppUninstalled db p uid).ret) 0
  let ret ← chosen choose tightUpUsbRightRecordUserDeleted (return (← cleanUpRightUserDeleted db p).ret) ret
  let ret ← chosen choose tightUpUsbRightRecordExpired (cleanUpRightNormalExpired db p uid) ret
  let ret ← chosen choose tightUpUsbRightRecordAppReinstalled (return (← cleanUpRightAppReinstalled db p uid).ret) ret
  return .ok ret

/-- `UsbRightManager::RemoveDeviceAllRight`. -/
def removeDeviceAllRight (p : Platform) (deviceName : String) : Session Row Bool := do
  let _ ← cleanUpRightTemporaryExpired db deviceName
  let _ ← tidyUpRight db p tightUpUsbRightRecordAll
  return true

end Rights

end UsbManager.Right
