import UsbManager.Lib.Separator
import UsbManager.Service.ErrCode

/-!
# The serial manager

`SerialManager` lets one token at a time have a serial port: `portTokenMap_` has the token that opened
it. `serialPortMap_` keeps the ports that the driver has ever listed.

The calls to the driver are logged with their caller; the driver's answers are arbitrary.
-/

namespace UsbManager.Serial

open Std (ExtTreeMap)

/-- The device behind a port, as the driver describes it. -/
structure DeviceInfo where
  busNum : UInt8
  devAddr : UInt8
  vid : Int
  pid : Int
  serialNum : String
  deriving DecidableEq, Repr

structure SerialPort where
  portId : Int
  deviceInfo : DeviceInfo
  deriving DecidableEq, Repr

def errCodeIoexception : Int := -1
def errCodeDevicenotopen : Int := -6
def errCodeTimeout : Int := -7
def errCodeErrorOverflow : Int := -8
def errCodeErrorDeviceBusy : Int := -16

def errorCodeWrap (errorCode : Int) : UsbErrCode :=
  if errorCode = errCodeIoexception || errorCode = errCodeErrorOverflow then .uecSerialIoException
  else if errorCode = errCodeDevicenotopen then .uecSerialDevicenotopen
  else if errorCode = errCodeTimeout then .uecInterfaceTimedOut
  else if errorCode = errCodeErrorDeviceBusy then .uecSerialPortRepeatOpen
  else .uecSerialOtherError

/-- What a client does with a port that it has open. -/
inductive Operation where
  | serialClose
  | serialRead
  | serialWrite
  | serialGetAttribute
  | serialSetAttribute
  deriving DecidableEq, Repr

/-- The driver's answers that an operation takes for a failure: a read and a write answer with a size. -/
def Operation.fails (operation : Operation) (ret : Int) : Bool :=
  match operation with
  | serialRead | serialWrite => ret < 0
  | serialClose | serialGetAttribute | serialSetAttribute => ret ≠ 0

/-- A call to the driver, for the token `tokenId`. -/
inductive HdiCall where
  | serialOpen (tokenId : UInt32) (portId : Int)
  | operation (operation : Operation) (tokenId : UInt32) (portId : Int)
  deriving DecidableEq, Repr

structure SerialManager where
  /-- `serial_ != nullptr`. -/
  serial : Bool := true
  portTokenMap : ExtTreeMap Int UInt32 := ∅
  serialPortMap : ExtTreeMap Int SerialPort := ∅

namespace SerialManager

variable (m : SerialManager) (tokenId : UInt32) (portId : Int)

/-- `CheckTokenIdValidity` for the caller `tokenId`. -/
def checkTokenIdValidity : Bool := m.portTokenMap[portId]? = some tokenId

def checkPortAndTokenId : UsbErrCode :=
  if m.serial = false then .uecServiceInvalidValue
  else if m.checkTokenIdValidity tokenId portId then .uecOk
  else .uecSerialPortNotOpen

/-- What comes before the driver is asked to open. -/
def checkPortIsFree : UsbErrCode :=
  if m.serial = false then .uecServiceInvalidValue
  else if m.portTokenMap.contains portId then .uecSerialPortRepeatOpen
  else .uecOk

def own : SerialManager := { m with portTokenMap := m.portTokenMap.insert portId tokenId }

def disown : SerialManager := { m with portTokenMap := m.portTokenMap.erase portId }

/-- The result, the calls to the driver and the manager after a call of the caller `tokenId` which the driver
answers with `ret`. -/
def serialOpen (ret : Int) : UsbErrCode × List HdiCall × SerialManager :=
  match m.checkPortIsFree portId with
  | .uecOk =>
    if ret ≠ 0 then (errorCodeWrap ret, [.serialOpen tokenId portId], m)
    else (.uecOk, [.serialOpen tokenId portId], m.own tokenId portId)
  | refused => (refused, [], m)

/-- What `SerialClose`, `SerialRead`, `SerialWrite` and the attribute calls share. -/
def operate (operation : Operation) (ret : Int) : UsbErrCode × List HdiCall × SerialManager :=
  match m.checkPortAndTokenId tokenId portId with
  | .uecOk =>
    if operation.fails ret then (errorCodeWrap ret, [.operation operation tokenId portId], m)
    else (.uecOk, [.operation operation tokenId portId],
      if operation = .serialClose then m.disown portId else m)
  | refused => (refused, [], m)

def serialClose := m.operate tokenId portId .serialClose

def serialGetAttribute := m.operate tokenId portId .serialGetAttribute

def serialSetAttribute := m.operate tokenId portId .serialSetAttribute

/-- With the size in the driver's answer. -/
def serialRead (ret : Int) : Except UsbErrCode Nat × List HdiCall × SerialManager :=
  let (code, calls, m) := m.operate tokenId portId .serialRead ret
  (if code = .uecOk then .ok ret.toNat else .error code, calls, m)

def serialWrite (dataSize size : Nat) (ret : Int) : Except UsbErrCode Nat × List HdiCall × SerialManager :=
  if size > dataSize then (.error .uecServiceInvalidValue, [], m)
  else
    let (code, calls, m) := m.operate tokenId portId .serialWrite ret
    (if code = .uecOk then .ok ret.toNat else .error code, calls, m)

/-- The driver's answer to the close is not looked at. -/
def freeTokenId : List HdiCall × SerialManager :=
  if m.portTokenMap[portId]? = some tokenId then
    (if m.serial then [.operation .serialClose tokenId portId] else [], m.disown portId)
  else ([], m)

/-! ## Ports -/

/-- `UpdateSerialPortMap`: ports are added or replaced. -/
def updateSerialPortMap (serialPortList : List SerialPort) : SerialManager :=
  { m with serialPortMap := serialPortList.foldl (fun map port => map.insert port.portId port) m.serialPortMap }

/-- `SerialGetPortList`; `list` is the driver's list, or its error. -/
def serialGetPortList (list : Except UsbErrCode (List SerialPort)) :
    Except UsbErrCode (List SerialPort) × SerialManager :=
  if m.serial = false then (.error .uecServiceInvalidValue, m)
  else
    match list with
    | .error ret => (.error ret, m)
    | .ok serialPortList => (.ok serialPortList, m.updateSerialPortMap serialPortList)

def isPortIdExist : Bool := m.serialPortMap.contains portId

end SerialManager

end UsbManager.Serial
