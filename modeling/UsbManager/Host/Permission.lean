import UsbManager.Claim.Operations
import UsbManager.Host.Devices
import UsbManager.Right.History
import UsbManager.Transfer.Entry

/-!
# Device permissions

`UsbService` keeps two views of the attached devices: the device objects in `devices_` of the host
manager, and in `deviceVidPidMap_` the identity under which rights are granted and checked. Both are
maps from the name of an address. The second is filled by `std::map::insert`, which leaves an entry
that is there already.
-/

namespace UsbManager.Host

open Std (ExtTreeMap)
open Rdb

/-- The name under which the rights of a device are kept. -/
def uniqueName (dev : UsbDevice) : String := toString dev.vendorId ++ "-" ++ toString dev.productId ++ "-" ++ dev.serial

/-- What `GetDeviceInfo` reads from a device. -/
structure DeviceReading where
  idVendor : UInt16
  idProduct : UInt16
  serial : String
  configs : List USBConfig := []

/-- `GetDeviceInfo`; `none` is a failure. -/
def getDeviceInfo (busNum devAddr : UInt8) (reading : Option DeviceReading) : Option UsbDevice :=
  reading.map fun reading =>
    { busNum := busNum
      devAddr := devAddr
      name := deviceName busNum devAddr
      vendorId := reading.idVendor.toNat
      productId := reading.idProduct.toNat
      serial := reading.serial
      configs := reading.configs }

/-- A call of `UsbDeviceAuthorize` by a policy, with the driver's answer. -/
structure Authorization where
  busNum : UInt8
  devAddr : UInt8
  authorized : Bool
  ret : Option UsbErrCode

def Devices.authorize (h : Devices) (calls : List Authorization) : Devices :=
  calls.foldl (fun h call => (h.usbDeviceAuthorize call.busNum call.devAddr call.authorized call.ret).2) h

/-- `UsbHostManager::AddDevice`; `strategy` are the calls that `ExecuteStrategy` makes. -/
def Devices.addDevice (h : Devices) (dev : UsbDevice) (strategy : List Authorization) : Devices :=
  ((h.insertDevice dev).authorize strategy).announce (deviceName dev.busNum dev.devAddr)

/-- The part of the service that permissions depend on; a manager that is null is `none`. -/
structure UsbService where
  usbHostManager : Option Devices
  usbRightManager : Option (Store Right.Row)
  deviceVidPidMap : ExtTreeMap String String := ∅

/-- What the token service says of a caller. -/
structure Caller where
  token : UInt32
  isSystemAppOrSa : Bool
  hapTokenInfo : Option (String × Int32)

/-- `UsbService::GetCallingInfo`: bundle, token and user. -/
def Caller.getCallingInfo (caller : Caller) : Option (String × String × Int32) :=
  caller.hapTokenInfo.map fun info => (info.1, toString caller.token.toNat, info.2)

namespace UsbService

variable (db : Right.UsbRightDataBase) (s : UsbService)

/-- The service after its start, with or without its managers. -/
def started (hostManager rightManager : Bool) : UsbService where
  usbHostManager := if hostManager then some {} else none
  usbRightManager := if rightManager then some {} else none

/-- The device stored in `devices_` under a name. -/
def deviceAt (name : String) : Option UsbDevice :=
  s.usbHostManager.bind fun h => (h.devices[name]?).map h.heap

/-- `GetDeviceVidPidSerialNumber` with its default. -/
def getDeviceVidPidSerialNumber (deviceName : String) : String := (s.deviceVidPidMap[deviceName]?).getD "test"

/-- `UsbService::AddDevice`. -/
def addDevice (busNum devAddr : UInt8) (reading : Option DeviceReading) (strategy : List Authorization) :
    Bool × UsbService :=
  match s.usbHostManager with
  | none => (false, s)
  | some h =>
    match getDeviceInfo busNum devAddr reading with
    | none => (false, s)
    | some devInfo =>
      (true,
        { s with
          deviceVidPidMap := s.deviceVidPidMap.insertIfNew (deviceName busNum devAddr) (uniqueName devInfo)
          usbHostManager := some (h.addDevice devInfo strategy) })

/-- `UsbService::DelDevice`, without the connections and claims of the device, which it drops first. -/
def delDevice (busNum devAddr : UInt8) (p : Right.Platform) : Bool × UsbService :=
  match s.usbHostManager, s.usbRightManager with
  | some h, some rights =>
    let name := deviceName busNum devAddr
    let (removed, h) := h.delDevice busNum devAddr
    (removed,
      { usbHostManager := some h
        usbRightManager := some (Right.removeDeviceAllRight db p (s.getDeviceVidPidSerialNumber name) rights).2
        deviceVidPidMap := s.deviceVidPidMap.erase name })
  | _, _ => (false, s)

/-- `UsbService::HasRight`. -/
def hasRight (now : Right.ClockReading) (caller : Caller) (deviceName : String) : Bool :=
  match s.usbRightManager with
  | none => false
  | some rights =>
    match s.deviceVidPidMap[deviceName]? with
    | none => false
    | some deviceVidPidSerialNum =>
      if caller.isSystemAppOrSa then true
      else
        match caller.getCallingInfo with
        | none => false
        | some (bundleName, tokenId, userId) =>
          (Right.hasRight db now deviceVidPidSerialNum bundleName tokenId userId rights).1

/-- `UsbService::RequestRight`; `dialog` is what becomes of the rights while the user is asked. -/
def requestRight (now : Right.ClockReading) (dialog : Store Right.Row → Option (Store Right.Row)) (caller : Caller)
    (deviceName : String) : UsbErrCode × UsbService :=
  match s.usbRightManager with
  | none => (.uecServiceInnerErr, s)
  | some rights =>
    match s.deviceVidPidMap[deviceName]? with
    | none => (.uecInterfaceInvalidValue, s)
    | some deviceVidPidSerialNum =>
      if caller.isSystemAppOrSa then (.uecOk, s)
      else
        match caller.getCallingInfo with
        -- `return false`, which is `UEC_OK`
        | none => (.uecOk, s)
        | some (bundleName, tokenId, userId) =>
          let asked := Right.requestRight db now dialog deviceVidPidSerialNum bundleName tokenId userId rights
          (if asked.1 then .uecOk else .uecServicePermissionDenied, { s with usbRightManager := some asked.2 })

/-- `UsbService::RemoveRight`. -/
def removeRight (caller : Caller) (deviceName : String) : UsbErrCode × UsbService :=
  match s.usbRightManager with
  | none => (.uecServiceInvalidValue, s)
  | some rights =>
    match s.deviceVidPidMap[deviceName]? with
    | none => (.uecInterfaceInvalidValue, s)
    | some deviceVidPidSerialNum =>
      if caller.isSystemAppOrSa then (.uecOk, s)
      else
        match caller.getCallingInfo with
        -- `return false` here too
        | none => (.uecOk, s)
        | some (bundleName, tokenId, userId) =>
          let removed := Right.removeDeviceRight db deviceVidPidSerialNum bundleName tokenId userId rights
          (if removed.1 then .uecOk else .uecServicePermissionDenied, { s with usbRightManager := some removed.2 })

/-- `UsbService::CheckDevicePermission`. -/
def checkDevicePermission (now : Right.ClockReading) (caller : Caller) (busNum devAddr : UInt8) : Bool :=
  s.hasRight db now caller (deviceName busNum devAddr)

end UsbService

/-! ### Accesses -/

/-- `UsbService::OpenDevice`: its result, and the request if it reached the driver. -/
def openDevice (permitted : Bool) (host : HostManager (UInt8 × UInt8)) (busNum devAddr : UInt8) :
    UsbErrCode × List (UInt8 × UInt8) :=
  if permitted = false then (.uecServicePermissionDenied, [])
  else if host.isNull then (.uecServiceInvalidValue, [])
  else host.call (busNum, devAddr)

/-- An access to a device, with what else it finds. -/
inductive Access where
  | openDevice (host : HostManager (UInt8 × UInt8))
  | claimInterface (tokenId : Claim.TokenId) (i force : UInt8) (env : Claim.Env) (table : Claim.ClaimTable)
  | claimInterfaceExclusive (tokenId : Claim.TokenId) (i force : UInt8) (cb : Option Claim.Callback) (env : Claim.Env)
      (table : Claim.ClaimTable)
  | transfer (tokenId : Claim.TokenId) (call : Transfer.Call) (env : Transfer.Env) (table : Claim.ClaimTable)

/-- The access to the device at `b`, `d` sends something to the driver; `permitted` is the answer of
`CheckDevicePermission`. -/
def Access.ReachesDriver (permitted : Bool) (b d : UInt8) : Access → Prop
  | .openDevice host => (Host.openDevice permitted host b d).2 ≠ []
  | .claimInterface tokenId i force env table =>
    (Claim.claimInterface tokenId b d i force { env with permitted := permitted } table).effects ≠ []
  | .claimInterfaceExclusive tokenId i force cb env table =>
    (Claim.claimInterfaceExclusive tokenId b d i force cb { env with permitted := permitted } table).effects ≠ []
  | .transfer tokenId call env table => (call.exec tokenId b d { env with permitted := permitted } table).calls ≠ []

/-! ### Runs of the service -/

inductive ServiceEvent where
  | attach (busNum devAddr : UInt8) (reading : Option DeviceReading) (strategy : List Authorization)
  | detach (busNum devAddr : UInt8) (p : Right.Platform)
  /-- A policy operation. -/
  | authorize (calls : List Authorization)
  /-- An operation on rights. -/
  | right (op : Right.Op)

namespace UsbService

variable (db : Right.UsbRightDataBase) (s : UsbService)

def step : ServiceEvent → UsbService
  | .attach busNum devAddr reading strategy => (s.addDevice busNum devAddr reading strategy).2
  | .detach busNum devAddr p => (s.delDevice db busNum devAddr p).2
  | .authorize calls => { s with usbHostManager := s.usbHostManager.map (·.authorize calls) }
  | .right op => { s with usbRightManager := s.usbRightManager.map (op.exec db) }

def run (events : List ServiceEvent) : UsbService := events.foldl (step db) s

/-- The operation on rights that an event makes. -/
def rightOp : ServiceEvent → Option Right.Op
  | .detach busNum devAddr p =>
    if s.usbHostManager.isSome ∧ s.usbRightManager.isSome then
      some (.removeDeviceAllRight p (s.getDeviceVidPidSerialNumber (deviceName busNum devAddr)))
    else none
  | .right op => some op
  | _ => none

/-- The operations on rights of a run. -/
def rightOps : UsbService → List ServiceEvent → List Right.Op
  | _, [] => []
  | s, event :: events => (s.rightOp event).toList ++ rightOps (s.step db event) events

end UsbService

end UsbManager.Host
