import UsbManager.Host.Permission
import UsbManager.Serial.Manager

/-!
# The serial part of the service

`UsbService` keeps for each port the name and the identity of the device behind it in
`serialVidPidMap_`. The rights to a port are the rights to that identity: the functions below look it up
and pass it to the rights manager.
-/

namespace UsbManager.Serial

open Std (ExtTreeMap)
open Host (Caller deviceName)
open Rdb

/-- The identity under which the rights to a device are kept. -/
def DeviceInfo.vidPidSerialNum (info : DeviceInfo) : String :=
  toString info.vid ++ "-" ++ toString info.pid ++ "-" ++ info.serialNum

/-- The host manager has the serial manager of the service. A manager that is null is `none`. -/
structure UsbService where
  usbSerialManager : Option SerialManager
  usbRightManager : Option (Store Right.Row)
  serialVidPidMap : ExtTreeMap Int (String × String) := ∅

/-- What the calls below meet beside the state. -/
structure Env where
  caller : Caller
  now : Right.ClockReading
  platform : Right.Platform
  /-- `UsbRightDbHelper::GetInstance() != nullptr`. -/
  dbHelper : Bool := true
  checkSysApiPermission : UsbErrCode := .uecOk

namespace UsbService

variable (db : Right.UsbRightDataBase) (s : UsbService) (env : Env) (portId : Int)

/-- The service after its start. The serial manager may have no driver. -/
def started (serialManager : Option Bool) (rightManager : Bool) : UsbService where
  usbSerialManager := serialManager.map fun serial => { serial := serial }
  usbRightManager := if rightManager then some {} else none

/-! ## Ports -/

def isPortIdExist : Bool :=
  match s.usbSerialManager with
  | none => false
  | some m => m.isPortIdExist portId

def validateUsbSerialManagerAndPort : UsbErrCode :=
  match s.usbSerialManager with
  | none => .uecServiceInvalidValue
  | some m => if m.isPortIdExist portId then .uecOk else .uecSerialPortNotExist

/-- The device name and the identity. -/
def getDeviceVidPidSerialNumber : Except UsbErrCode (String × String) :=
  match s.serialVidPidMap[portId]? with
  | none => .error .uecInterfaceInvalidValue
  | some entry => .ok entry

/-- `std::map::insert` leaves an entry that is there already. -/
def updateDeviceVidPidMap (serialPortList : List SerialPort) : UsbService :=
  { s with
    serialVidPidMap := serialPortList.foldl (fun map port =>
      map.insertIfNew port.portId
        (deviceName port.deviceInfo.busNum port.deviceInfo.devAddr, port.deviceInfo.vidPidSerialNum)) ∅ }

/-- `SerialGetPortList` once there is a serial manager. -/
def refresh (m : SerialManager) (list : Except UsbErrCode (List SerialPort)) :
    Except UsbErrCode (List SerialPort) × UsbService :=
  match m.serialGetPortList list with
  | (.error ret, m) => (.error ret, { s with usbSerialManager := some m })
  | (.ok serialPortList, m) =>
    (.ok serialPortList, { s with usbSerialManager := some m }.updateDeviceVidPidMap serialPortList)

/-- A manager that is missing is made if there is a serial device. `serial` tells whether it gets a driver. -/
def serialGetPortList (checkForTtyUSB serial : Bool) (list : Except UsbErrCode (List SerialPort)) :
    Except UsbErrCode (List SerialPort) × UsbService :=
  match s.usbSerialManager with
  | some m => s.refresh m list
  | none => if checkForTtyUSB then s.refresh { serial := serial } list else (.ok [], s)

/-- What `UsbHostManager::AddUsbSerialDevice` does to the serial manager. -/
def addUsbSerialDevice (list : Except UsbErrCode (List SerialPort)) : UsbService :=
  match s.usbSerialManager with
  | none => s
  | some m => { s with usbSerialManager := some (m.serialGetPortList list).2 }

/-! ## Rights -/

def checkDbAbility : UsbErrCode := if env.dbHelper then .uecOk else .uecSerialDatebaseError

/-- How `HasSerialRight`, `RequestSerialRight` and `CancelSerialRight` find the device. -/
def portDevice : Except UsbErrCode (String × String) :=
  if s.validateUsbSerialManagerAndPort portId ≠ .uecOk then .error (s.validateUsbSerialManagerAndPort portId)
  else if checkDbAbility env ≠ .uecOk then .error (checkDbAbility env)
  else s.getDeviceVidPidSerialNumber portId

/-- Its result is the code and `hasRight`. -/
def hasSerialRight : UsbErrCode × Bool :=
  match s.usbRightManager with
  | none => (.uecServiceInvalidValue, false)
  | some rights =>
    match s.portDevice env portId with
    | .error ret => (ret, false)
    | .ok (_, identity) =>
      if env.caller.isSystemAppOrSa then (.uecOk, true)
      else
        match env.caller.getCallingInfo with
        | none => (.uecServiceInvalidValue, false)
        | some (bundleName, tokenId, userId) =>
          (.uecOk, (Right.hasRight db env.now identity bundleName tokenId userId rights).1)

/-- `RequestSerialRight`; `dialog` are the rights when the dialog is closed, if it was shown. -/
def requestSerialRight (dialog : Option (Store Right.Row)) : UsbErrCode × Bool :=
  match s.usbRightManager with
  | none => (.uecServiceInvalidValue, false)
  | some rights =>
    match s.portDevice env portId with
    | .error ret => (ret, false)
    | .ok (_, identity) =>
      if env.caller.isSystemAppOrSa then (.uecOk, true)
      else
        match env.caller.getCallingInfo with
        | none => (.uecServiceInvalidValue, false)
        | some (bundleName, tokenId, userId) =>
          let asked (rights : Store Right.Row) :=
            (Right.hasRight db env.now identity bundleName tokenId userId rights).1
          (.uecOk, asked rights || dialog.any asked)

/-- `RequestSerialRight` with the service that it leaves; `dialog` is what becomes of the rights while the user is
asked. -/
def requestSerialRightDialog (dialog : Store Right.Row → Option (Store Right.Row)) : (UsbErrCode × Bool) × UsbService :=
  match s.usbRightManager with
  | none => ((.uecServiceInvalidValue, false), s)
  | some rights =>
    match s.portDevice env portId with
    | .error ret => ((ret, false), s)
    | .ok (_, identity) =>
      if env.caller.isSystemAppOrSa then ((.uecOk, true), s)
      else
        match env.caller.getCallingInfo with
        | none => ((.uecServiceInvalidValue, false), s)
        | some (bundleName, tokenId, userId) =>
          let asked := Right.requestRight db env.now dialog identity bundleName tokenId userId rights
          ((.uecOk, asked.1), { s with usbRightManager := some asked.2 })

/-- The code, and the operation on the rights if there is one. -/
def addSerialRight (tokenId : UInt32) : UsbErrCode × Option Right.Op × UsbService :=
  match s.usbRightManager with
  | none => (.uecServiceInvalidValue, none, s)
  | some rights =>
    if env.checkSysApiPermission ≠ .uecOk then (env.checkSysApiPermission, none, s)
    else if checkDbAbility env ≠ .uecOk then (checkDbAbility env, none, s)
    else if s.validateUsbSerialManagerAndPort portId ≠ .uecOk then
      (s.validateUsbSerialManagerAndPort portId, none, s)
    else
      match s.getDeviceVidPidSerialNumber portId with
      | .error ret => (ret, none, s)
      | .ok (_, identity) =>
        let added := Right.addDeviceRightOfToken db env.platform identity (toString tokenId.toNat) rights
        (if added.1 then .uecOk else .uecSerialDatebaseError,
          some (.addDeviceRightOfToken env.platform identity (toString tokenId.toNat)),
          { s with usbRightManager := some added.2 })

/-- The right goes and the port is closed; `closeRet` is the driver's answer to the close. -/
def cancelSerialRight (closeRet : Int) : UsbErrCode × Option Right.Op × UsbService :=
  match s.usbRightManager with
  | none => (.uecServiceInvalidValue, none, s)
  | some rights =>
    match s.portDevice env portId with
    | .error ret => (ret, none, s)
    | .ok (_, identity) =>
      if env.caller.isSystemAppOrSa then (.uecOk, none, s)
      else
        match env.caller.getCallingInfo with
        | none => (.uecServiceInvalidValue, none, s)
        | some (bundleName, tokenId, userId) =>
          let removed := Right.removeDeviceRight db identity bundleName tokenId userId rights
          let op : Right.Op := .removeDeviceRight ⟨userId, identity, bundleName, tokenId⟩
          if removed.1 then
            (.uecOk, some op,
              { s with
                usbRightManager := some removed.2
                usbSerialManager := s.usbSerialManager.map fun m =>
                  (m.serialClose env.caller.token portId closeRet).2.2 })
          else (.uecServicePermissionDenied, some op, { s with usbRightManager := some removed.2 })

end UsbService

end UsbManager.Serial
