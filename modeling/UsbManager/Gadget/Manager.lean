import UsbManager.Lib.Timer
import UsbManager.Service.ErrCode

/-!
# The device-side manager

`UsbDeviceManager` follows the events of the port in which the device is the gadget: it keeps the
mask of its USB functions, announces the connection and shows the notifications. Plug events take
effect after a delay, through a task of the timer wrapper that the next event may cancel.

Masks are the 32 bits of `currentFunctions_`, which the source casts between `int32_t` and
`uint32_t`. The driver is the mask that it holds, with arbitrary answers; a call that fails leaves
the mask alone. `notices` are the calls to the event service, the window and the notifier, the last
one first.
-/

namespace UsbManager.Gadget

open Timer

/-! ## Events, functions, notices -/

/-- `UsbdDeviceAction`, and the values that have no name in it. -/
inductive Status where
  | actDevUp
  | actDevDown
  | actUpDevice
  | actDownDevice
  | actAccessoryUp
  | actAccessoryDown
  | actAccessorySend
  | actCustomControlRequest
  | unknown (value : Int)
  deriving DecidableEq, Repr

def usbFunctionHdc : UInt32 := (1 : UInt32) <<< 2
def usbFunctionMtp : UInt32 := (1 : UInt32) <<< 3
def usbFunctionPtp : UInt32 := (1 : UInt32) <<< 4
def usbFunctionStorage : UInt32 := (1 : UInt32) <<< 9
def usbFunctionDevmodeAuth : UInt32 := (1 : UInt32) <<< 12

def delayConnectInterval : Nat := 1000
def delayDisconnInterval : Nat := 1400

/-- What `UsbConnectionNotifier::SendNotification` is asked to show. -/
inductive NotifierFunction where
  | usbFuncMtp
  | usbFuncPtp
  | usbFuncReverseCharge
  | usbFuncCharge
  deriving DecidableEq, Repr

inductive Notice where
  /-- The sticky `COMMON_EVENT_USB_STATE`. -/
  | usbState (connected : Bool) (currentFunc : UInt32)
  | popUpFunctionSwitchWindow
  | dismissFunctionSwitchWindow
  | sendNotification (function : NotifierFunction)
  | cancelNotification
  | sendHdcNotification
  | cancelHdcNotification
  deriving DecidableEq, Repr

/-! ## The driver -/

/-- The driver's answers to the calls of one operation; `left` is what a `GetCurrentFunctions` that
fails leaves in its argument, if it writes it. -/
structure Answers where
  getRet : UsbErrCode := .uecOk
  left : Option UInt32 := none
  setRet : UsbErrCode := .uecOk
  deriving DecidableEq, Repr

structure Driver where
  functions : UInt32 := usbFunctionHdc
  deriving DecidableEq, Repr

namespace Driver

variable (d : Driver) (a : Answers)

def getCurrentFunctions (funcs : UInt32) : UsbErrCode × UInt32 :=
  if a.getRet = .uecOk then (.uecOk, d.functions) else (a.getRet, a.left.getD funcs)

def setCurrentFunctions (funcs : UInt32) : UsbErrCode × Driver :=
  if a.setRet = .uecOk then (.uecOk, { functions := funcs }) else (a.setRet, d)

end Driver

/-! ## The manager -/

/-- The delayed tasks of `HandleEvent`. -/
inductive Task where
  | connect
  | disconnect
  deriving DecidableEq, Repr

structure UsbDeviceManager where
  /-- `usbDeviceInterface_ != nullptr`. -/
  usbDeviceInterface : Bool := false
  driver : Driver := {}
  currentFunctions : UInt32 := usbFunctionHdc
  connected : Bool := false
  isReverseCharge : Bool := false
  hasHdcNotifier : Bool := false
  gadgetConnected : Bool := false
  isDisableDialog : Bool := false
  phyConnect : Bool := false
  delayDisconnTimerId : Option Nat := none
  timers : Timers Task := {}
  notices : List Notice := []
  deriving DecidableEq, Repr

namespace UsbDeviceManager

variable (m : UsbDeviceManager)

def notify (notice : Notice) : UsbDeviceManager := { m with notices := notice :: m.notices }

def broadcastFuncChange (connected : Bool) (currentFunc : UInt32) : UsbDeviceManager :=
  m.notify (.usbState connected currentFunc)

def processFunctionSwitchWindow (connected : Bool) : UsbDeviceManager :=
  m.notify (if connected then .popUpFunctionSwitchWindow else .dismissFunctionSwitchWindow)

/-- The notification of a connection with the functions `func`. -/
def notifierFunction (func : UInt32) : NotifierFunction :=
  if func &&& usbFunctionMtp ≠ 0 then .usbFuncMtp
  else if func &&& usbFunctionPtp ≠ 0 then .usbFuncPtp
  else if m.isReverseCharge then .usbFuncReverseCharge
  else .usbFuncCharge

def sendHdcNotification : UsbDeviceManager := { m.notify .sendHdcNotification with hasHdcNotifier := true }

def cancelHdcNotification : UsbDeviceManager := { m.notify .cancelHdcNotification with hasHdcNotifier := false }

def processFunctionNotifier (connected : Bool) (func : UInt32) : UsbDeviceManager :=
  if connected then
    let shown := m.notify (.sendNotification (m.notifierFunction func))
    let sent :=
      if func &&& usbFunctionHdc ≠ 0 && !shown.hasHdcNotifier then shown.sendHdcNotification else shown
    if func &&& usbFunctionHdc = 0 && sent.hasHdcNotifier then sent.cancelHdcNotification else sent
  else
    let hidden := m.notify .cancelNotification
    if hidden.hasHdcNotifier then hidden.cancelHdcNotification else hidden

def processFuncChange (connected : Bool) (currentFunc : UInt32) : UsbDeviceManager :=
  let announced := m.broadcastFuncChange connected currentFunc
  let shown :=
    if announced.isDisableDialog then announced else announced.processFunctionSwitchWindow connected
  shown.processFunctionNotifier connected currentFunc

/-! ## The functions -/

def updateFunctions (func : UInt32) : UsbDeviceManager :=
  if func = m.currentFunctions then m
  else
    let updated := { m with currentFunctions := func }
    let announced :=
      -- the connect task that is still to come announces these functions
      if !updated.connected && updated.gadgetConnected then updated
      else updated.broadcastFuncChange updated.connected updated.currentFunctions
    announced.processFunctionNotifier announced.connected func

/-- `GetCurrentFunctions(int32_t &)`: its result and the value of its argument. -/
def getCurrentFunctions (a : Answers) (funcs : UInt32) : UsbErrCode × UInt32 :=
  if m.usbDeviceInterface then m.driver.getCurrentFunctions a funcs else (.uecServiceInvalidValue, funcs)

def setCurrentFunctions (a : Answers) (funcs : UInt32) : UsbErrCode × UsbDeviceManager :=
  if m.usbDeviceInterface then
    let (got, lastFunc) := m.driver.getCurrentFunctions a 0
    if got ≠ .uecOk then (.uecServiceInvalidValue, m)
    else if lastFunc = funcs then (.uecOk, m)
    else
      let (ret, driver) := m.driver.setCurrentFunctions a funcs
      if ret ≠ .uecOk then
        (if ret = .hdfErrNotSupport then .uecServiceFunctionNotSupport else ret, m)
      else (.uecOk, { m with driver := driver }.updateFunctions funcs)
  else (.uecServiceInvalidValue, m)

/-- `currentFunctions_` names a media function. -/
def hasMedia : Bool :=
  m.currentFunctions &&& usbFunctionMtp ≠ 0 || m.currentFunctions &&& usbFunctionPtp ≠ 0

/-- The functions without the media ones; the storage function stands in for an empty mask. -/
def withoutMedia : UInt32 :=
  let func := m.currentFunctions &&& ~~~usbFunctionMtp &&& ~~~usbFunctionPtp
  if func = 0 then usbFunctionStorage else func

def userChangeProcess (a : Answers) : UsbErrCode × UsbDeviceManager :=
  let (ret, changed) :=
    if m.hasMedia then
      let funcs := m.withoutMedia
      let (ret, driver) := m.driver.setCurrentFunctions a funcs
      let asked := { m with driver := driver }
      if ret = .uecOk && funcs ≠ asked.currentFunctions then
        let changed := { asked with currentFunctions := funcs }
        (ret, changed.broadcastFuncChange changed.connected changed.currentFunctions)
      else (ret, asked)
    else (.hdfFailure, m)
  (ret, changed.processFunctionNotifier changed.connected changed.currentFunctions)

def setPhyConnectState (phyConnect : Bool) : UsbDeviceManager := { m with phyConnect := phyConnect }

def setChargeFlag (isReverseCharge : Bool) : UsbDeviceManager := { m with isReverseCharge := isReverseCharge }

/-! ## Events and their tasks -/

/-- `ProcessStatus`: `curConnect` keeps its value unless the event is a plug event. -/
def processStatus (status : Status) (curConnect : Bool) : Bool × UsbDeviceManager :=
  match status with
  | .actUpDevice => (true, { m with gadgetConnected := true })
  | .actDownDevice => (false, { m with gadgetConnected := false })
  | .actAccessoryUp | .actAccessoryDown | .actAccessorySend | .actCustomControlRequest =>
    (curConnect, { m with isDisableDialog := true }.processFunctionSwitchWindow false)
  | .actDevUp | .actDevDown | .unknown _ => (curConnect, m)

def registerTask (task : Task) (interval : Nat) : UsbDeviceManager :=
  let (id, timers) := m.timers.register task interval
  { m with timers := timers, delayDisconnTimerId := some id }

def handleEvent (status : Status) : UsbDeviceManager :=
  if m.usbDeviceInterface then
    let (curConnect, processed) := m.processStatus status false
    let cancelled := { processed with timers := processed.timers.unregister processed.delayDisconnTimerId }
    if curConnect && cancelled.connected ≠ curConnect then
      cancelled.registerTask .connect delayConnectInterval
    else if !curConnect && cancelled.connected ≠ curConnect then
      cancelled.registerTask .disconnect
        (if cancelled.phyConnect then delayDisconnInterval + delayDisconnInterval else delayDisconnInterval)
    else cancelled
  else m

def connectTask (a : Answers) : UsbDeviceManager :=
  let connected := { m with connected := true }
  let read := { connected with
    currentFunctions := (connected.getCurrentFunctions a connected.currentFunctions).2 }
  read.processFuncChange read.connected read.currentFunctions

def disconnectTask (a : Answers) : UsbDeviceManager :=
  let disconnected := { m with connected := false, isDisableDialog := false }
  let reset :=
    -- the answer to `SetCurrentFunctions` is not looked at
    if disconnected.hasMedia then
      let funcs := disconnected.withoutMedia
      { disconnected with
        currentFunctions := funcs, driver := (disconnected.driver.setCurrentFunctions a funcs).2 }
    else if disconnected.currentFunctions &&& usbFunctionDevmodeAuth ≠ 0 then
      { disconnected with
        currentFunctions := usbFunctionStorage
        driver := (disconnected.driver.setCurrentFunctions a usbFunctionStorage).2 }
    else disconnected
  reset.processFuncChange reset.connected reset.currentFunctions

def runTask (a : Answers) : Task → UsbDeviceManager
  | .connect => m.connectTask a
  | .disconnect => m.disconnectTask a

end UsbDeviceManager

end UsbManager.Gadget
