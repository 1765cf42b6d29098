import UsbManager.Gadget.Manager
import UsbManager.Lib.Transition

/-!
# The accessory manager

`UsbAccessoryManager` takes the gadget into accessory mode when the host asks for it, announces the
accessory, and gives the gadget its functions back. Plug events take effect after an anti-shake delay;
a switch to accessory mode that is not finished in time is undone by the restore task.

The driver is the mask of its functions, with arbitrary answers. Other parts of the system may give it
other functions at any time. `notices` are the broadcasts and the calls that set the functions, the
last one first.
-/

namespace UsbManager.Accessory

open Timer
open Gadget (Status)

/-- The accessory that the driver names; strings, with no meaning of their own. -/
structure USBAccessory where
  manufacturer : String := ""
  product : String := ""
  description : String := ""
  version : String := ""
  serialNumber : String := ""
  deriving DecidableEq, Repr

namespace USBAccessory

/-- A list that is too short changes nothing. -/
def setAccessory (accessory : USBAccessory) : List String → USBAccessory
  | manufacturer :: product :: description :: version :: serialNumber :: _ =>
    { manufacturer, product, description, version, serialNumber }
  | _ => accessory

def setSerialNumber (accessory : USBAccessory) (serialNumber : String) : USBAccessory :=
  { accessory with serialNumber := serialNumber }

end USBAccessory

inductive AccessoryMode where
  | accNone
  | accConfiguring
  | accStart
  | accStop
  | accSend
  deriving DecidableEq, Repr

def funAccessory : UInt32 := (1 : UInt32) <<< 11

def delayAccInterval : Nat := 10 * 1000
def antiShakeInterval : Nat := 1 * 1000

/-- The text of `SerialValueHash`: a hash in 16 hexadecimal digits. -/
def serialValueHash (hashValue : UInt32) : String :=
  let digits := Nat.toDigits 16 hashValue.toNat
  .ofList (List.replicate (16 - digits.length) '0' ++ digits)

/-- What the driver and the system answer during one operation. -/
structure Answers where
  getRet : UsbErrCode := .uecOk
  setRet : UsbErrCode := .uecOk
  /-- `GetAccessoryInfo`. -/
  accessorys : List String := []
  /-- The hash of the serial number and the time. -/
  hashValue : UInt32 := 0
  /-- `cJSON_PrintUnformatted` finds the memory it needs. -/
  printed : Bool := true
  deriving DecidableEq, Repr

inductive Notice where
  /-- `COMMON_EVENT_USB_ACCESSORY_ATTACHED` of `ProcessAccessoryStart`. -/
  | attached (accessory : USBAccessory)
  /-- `COMMON_EVENT_USB_ACCESSORY_DETACHED`. -/
  | detached (accessory : USBAccessory)
  /-- `COMMON_EVENT_USB_ACCESSORY_ATTACHED` of `ProcessAccessorySend`, with what it decodes. -/
  | sent (extraEcode : Option String)
  /-- A call to the driver. -/
  | setCurrentFunctions (funcs : UInt32)
  deriving DecidableEq, Repr

inductive Task where
  | antiShake
  | restore
  deriving DecidableEq, Repr

structure UsbAccessoryManager where
  /-- `usbDeviceInterface_ != nullptr`. -/
  usbDeviceInterface : Bool := false
  /-- The functions that the driver has. -/
  functions : UInt32 := 0
  accessory : USBAccessory := {}
  accStatus : AccessoryMode := .accNone
  eventStatus : Status := .actDevUp
  curDeviceFunc : UInt32 := 0
  lastDeviceFunc : UInt32 := 0
  accDelayTimerId : Option Nat := none
  antiShakeDelayTimerId : Option Nat := none
  timers : Timers Task := {}
  notices : List Notice := []
  deriving DecidableEq, Repr

namespace UsbAccessoryManager

variable (m : UsbAccessoryManager) (a : Answers)

def notify (notice : Notice) : UsbAccessoryManager := { m with notices := notice :: m.notices }

def setCurrentFunctions (funcs : UInt32) : UsbErrCode × UsbAccessoryManager :=
  if m.usbDeviceInterface then
    let asked := m.notify (.setCurrentFunctions funcs)
    if a.setRet = .uecOk then (.uecOk, { asked with functions := funcs }) else (a.setRet, asked)
  else (.uecServiceInvalidValue, m)

def getCurrentFunctions : UsbErrCode × UInt32 :=
  if m.usbDeviceInterface then
    if a.getRet = .uecOk then (.uecOk, m.functions) else (a.getRet, 0)
  else (.uecServiceInvalidValue, 0)

/-! ## Start, stop, send -/

/-- `ProcessAccessoryStart` when the driver is in accessory mode: the accessory is announced. -/
def announce : UsbAccessoryManager :=
  let accessory := (m.accessory.setAccessory a.accessorys).setSerialNumber (serialValueHash a.hashValue)
  { m with accStatus := .accStart, accessory := accessory }.notify (.attached accessory)

/-- `ProcessAccessoryStart` when the driver has changed to accessory mode: the restore task waits. -/
def configure (curFunc : UInt32) : UsbAccessoryManager :=
  let (id, timers) := m.timers.register .restore delayAccInterval
  { m with lastDeviceFunc := curFunc, timers := timers, accDelayTimerId := some id, accStatus := .accConfiguring }

/-- Its result is only logged. -/
def processAccessoryStart (curFunc : UInt32) (curAccStatus : AccessoryMode) : UsbAccessoryManager :=
  if curFunc &&& funAccessory ≠ 0 && m.accStatus ≠ .accStart then m.announce a
  else if curFunc &&& funAccessory = 0 && curAccStatus = .accConfiguring then
    let (ret, asked) := m.setCurrentFunctions a funAccessory
    if ret ≠ .uecOk then asked else asked.configure curFunc
  else m

def processAccessoryStop (curFunc : UInt32) : UsbAccessoryManager :=
  if curFunc &&& funAccessory ≠ 0 && m.accStatus = .accStart then
    -- the answer of the driver is only logged
    let asked := ({ m with accStatus := .accStop }.setCurrentFunctions a m.lastDeviceFunc).2
    { asked with curDeviceFunc := asked.lastDeviceFunc }.notify (.detached asked.accessory)
  else m

/-- The sixth string of the driver, if there is one. -/
def extraEcode (accessorys : List String) : Option String :=
  match accessorys[5]? with
  | some extra => if extra = "" then none else some extra
  | none => none

def processAccessorySend : UsbAccessoryManager :=
  let sending := { m with accStatus := .accSend, accessory := m.accessory.setAccessory a.accessorys }
  match extraEcode a.accessorys with
  | some extra => if a.printed then sending.notify (.sent (some extra)) else sending
  | none => sending.notify (.sent none)

/-! ## Events and tasks -/

def cancelled : UsbAccessoryManager := { m with timers := m.timers.unregister m.accDelayTimerId }

def processHandle (curAccStatus : AccessoryMode) : UsbAccessoryManager :=
  if curAccStatus = .accConfiguring || curAccStatus = .accStart then
    let (ret, curFunc) := m.cancelled.getCurrentFunctions a
    if ret ≠ .uecOk then m.cancelled
    else { m.cancelled with curDeviceFunc := curFunc }.processAccessoryStart a curFunc curAccStatus
  else if curAccStatus = .accStop && m.accStatus ≠ .accConfiguring then m.processAccessoryStop a m.curDeviceFunc
  else if curAccStatus = .accSend then m.processAccessorySend a
  else m

/-- What an event asks for. -/
def requested (status : Status) : AccessoryMode :=
  match status with
  | .actUpDevice => if m.accStatus = .accConfiguring then .accStart else .accNone
  | .actAccessoryUp => .accConfiguring
  | .actDownDevice | .actAccessoryDown => .accStop
  | .actAccessorySend => .accSend
  | .actDevUp | .actDevDown | .actCustomControlRequest | .unknown _ => .accNone

/-- Plug events wait for the anti-shake timer. -/
def delays (status : Status) (delayProcess : Bool) : Bool :=
  (status = .actUpDevice || status = .actDownDevice) && delayProcess

def handleEvent (status : Status) (delayProcess : Bool) : UsbAccessoryManager :=
  if m.usbDeviceInterface then
    let noted := { m with eventStatus := status }
    let settled :=
      if delayProcess then { noted with timers := noted.timers.unregister noted.antiShakeDelayTimerId } else noted
    if delays status delayProcess then
      let (id, timers) := settled.timers.register .antiShake antiShakeInterval
      { settled with timers := timers, antiShakeDelayTimerId := some id }
    else settled.processHandle a (settled.requested status)
  else m

def restoreTask : UsbAccessoryManager :=
  ({ m with accStatus := .accStop }.setCurrentFunctions a m.lastDeviceFunc).2

/-- The anti-shake task handles the event that came last. -/
def runTask : Task → UsbAccessoryManager
  | .antiShake => m.handleEvent a m.eventStatus false
  | .restore => m.restoreTask a

end UsbAccessoryManager

/-! ## What an event can do

`Handled` lists the outcomes of `ProcessHandle` with what decides between them. -/

namespace UsbAccessoryManager

variable (m : UsbAccessoryManager) (a : Answers)

/-- The restore task is cancelled and the functions of the driver are known. -/
def read : UsbAccessoryManager := { m.cancelled with curDeviceFunc := m.functions }

/-- The functions of the driver after a call that asks for `funcs`. -/
def functionsAfter (funcs : UInt32) : UInt32 := if a.setRet = .uecOk then funcs else m.functions

def stopped : UsbAccessoryManager :=
  { m with
    accStatus := .accStop
    functions := m.functionsAfter a m.lastDeviceFunc
    curDeviceFunc := m.lastDeviceFunc
    notices := .detached m.accessory :: .setCurrentFunctions m.lastDeviceFunc :: m.notices }

def restored : UsbAccessoryManager :=
  { m with
    accStatus := .accStop
    functions := m.functionsAfter a m.lastDeviceFunc
    notices := .setCurrentFunctions m.lastDeviceFunc :: m.notices }

inductive Handled : AccessoryMode → UsbAccessoryManager → Prop where
  | none : Handled .accNone m
  | ignored (status : m.accStatus = .accConfiguring ∨ m.curDeviceFunc &&& funAccessory = 0 ∨ m.accStatus ≠ .accStart) :
      Handled .accStop m
  | unread {mode : AccessoryMode} (asks : mode = .accConfiguring ∨ mode = .accStart) (failed : a.getRet ≠ .uecOk) :
      Handled mode m.cancelled
  | announced {mode : AccessoryMode} (asks : mode = .accConfiguring ∨ mode = .accStart) (got : a.getRet = .uecOk)
      (inside : m.functions &&& funAccessory ≠ 0) (out : m.accStatus ≠ .accStart) : Handled mode (m.read.announce a)
  | again {mode : AccessoryMode} (asks : mode = .accConfiguring ∨ mode = .accStart) (got : a.getRet = .uecOk)
      (inside : m.functions &&& funAccessory ≠ 0) (started : m.accStatus = .accStart) : Handled mode m.read
  | early (got : a.getRet = .uecOk) (outside : m.functions &&& funAccessory = 0) : Handled .accStart m.read
  | refused (got : a.getRet = .uecOk) (outside : m.functions &&& funAccessory = 0) (failed : a.setRet ≠ .uecOk) :
      Handled .accConfiguring (m.read.notify (.setCurrentFunctions funAccessory))
  | configured (got : a.getRet = .uecOk) (outside : m.functions &&& funAccessory = 0) (ok : a.setRet = .uecOk) :
      Handled .accConfiguring
        ({ m.read.notify (.setCurrentFunctions funAccessory) with functions := funAccessory }.configure m.functions)
  | stopped (inside : m.curDeviceFunc &&& funAccessory ≠ 0) (started : m.accStatus = .accStart) :
      Handled .accStop (m.stopped a)
  | sent : Handled .accSend (m.processAccessorySend a)

variable {m}

theorem setCurrentFunctions_present (present : m.usbDeviceInterface = true) (funcs : UInt32) :
    m.setCurrentFunctions a funcs = (if a.setRet = .uecOk then .uecOk else a.setRet,
      { m.notify (.setCurrentFunctions funcs) with functions := m.functionsAfter a funcs }) := by
  unfold setCurrentFunctions functionsAfter
  rw [if_pos present]
  split <;> rfl

theorem runTask_restore (present : m.usbDeviceInterface = true) : m.runTask a .restore = m.restored a := by
  rw [runTask, restoreTask, setCurrentFunctions_present (m := { m with accStatus := .accStop }) a present]
  rfl

theorem processAccessoryStop_eq (present : m.usbDeviceInterface = true)
    (inside : m.curDeviceFunc &&& funAccessory ≠ 0) (started : m.accStatus = .accStart) :
    m.processAccessoryStop a m.curDeviceFunc = m.stopped a := by
  rw [processAccessoryStop, if_pos (by simp [inside, started])]
  dsimp only
  rw [setCurrentFunctions_present (m := { m with accStatus := .accStop }) a present]
  rfl

theorem getCurrentFunctions_present (present : m.usbDeviceInterface = true) :
    m.getCurrentFunctions a = if a.getRet = .uecOk then (.uecOk, m.functions) else (a.getRet, 0) := if_pos present

/-- The driver answers, and the start of the accessory is processed. -/
theorem handled_read (present : m.usbDeviceInterface = true) {mode : AccessoryMode}
    (asks : mode = .accConfiguring ∨ mode = .accStart) (got : a.getRet = .uecOk) :
    m.Handled a mode (m.read.processAccessoryStart a m.functions mode) := by
  unfold processAccessoryStart
  by_cases inside : m.functions &&& funAccessory = 0
  · rw [if_neg (by simp [inside])]
    rcases asks with rfl | rfl
    · rw [if_pos (by simp [inside]), setCurrentFunctions_present (m := m.read) a present]
      by_cases ok : a.setRet = .uecOk
      · simp only [ok, if_true, ne_eq, not_true_eq_false, if_false, functionsAfter]
        exact .configured got inside ok
      · simp only [ok, if_false, ne_eq, not_false_eq_true, if_true, functionsAfter]
        exact .refused got inside ok
    · rw [if_neg (by simp)]
      exact .early got inside
  · by_cases started : m.accStatus = .accStart
    · rw [if_neg (by simp [read, cancelled, started]), if_neg (by simp [inside])]
      exact .again asks got inside started
    · rw [if_pos (by simp [read, cancelled, started, inside])]
      exact .announced asks got inside started

theorem handled_start (present : m.usbDeviceInterface = true) {mode : AccessoryMode}
    (asks : mode = .accConfiguring ∨ mode = .accStart) : m.Handled a mode (m.processHandle a mode) := by
  unfold processHandle
  rw [if_pos (by rcases asks with rfl | rfl <;> rfl)]
  dsimp only
  rw [getCurrentFunctions_present a (show m.cancelled.usbDeviceInterface = true from present)]
  by_cases got : a.getRet = .uecOk
  · rw [if_pos got, if_neg (by simp)]
    exact handled_read a present asks got
  · rw [if_neg got, if_pos got]
    exact .unread asks got

/-- Every event ends in one of the outcomes. -/
theorem handled (present : m.usbDeviceInterface = true) (mode : AccessoryMode) :
    m.Handled a mode (m.processHandle a mode) := by
  cases mode with
  | accConfiguring => exact handled_start a present (.inl rfl)
  | accStart => exact handled_start a present (.inr rfl)
  | accNone => exact .none
  | accSend => exact .sent
  | accStop =>
    unfold processHandle
    rw [if_neg (by decide)]
    by_cases configuring : m.accStatus = .accConfiguring
    · rw [if_neg (by simp [configuring]), if_neg (by decide)]
      exact .ignored (.inl configuring)
    · rw [if_pos (by simp [configuring])]
      by_cases inside : m.curDeviceFunc &&& funAccessory = 0
      · rw [processAccessoryStop, if_neg (by simp [inside])]
        exact .ignored (.inr (.inl inside))
      · by_cases started : m.accStatus = .accStart
        · rw [processAccessoryStop_eq a present inside started]
          exact .stopped inside started
        · rw [processAccessoryStop, if_neg (by simp [started])]
          exact .ignored (.inr (.inr started))

end UsbAccessoryManager

/-! ## Runs -/

inductive Action where
  | handleEvent (status : Status) (delayProcess : Bool) (a : Answers)
  /-- A pending timer fires; its task meets the answers. -/
  | fire (timer : Nat) (a : Answers)
  /-- Others give the driver new functions. -/
  | others (functions : UInt32)

namespace UsbAccessoryManager

/-- The manager as it starts, with a driver that has any functions. -/
def start (functions : UInt32) : UsbAccessoryManager where
  usbDeviceInterface := true
  functions := functions

def step (m : UsbAccessoryManager) : Action → Option UsbAccessoryManager
  | .handleEvent status delayProcess a => some (m.handleEvent a status delayProcess)
  | .fire timer a => (m.timers.fire timer).map fun (task, timers) => { m with timers := timers }.runTask a task
  | .others functions => some { m with functions := functions }

/-- What a step of a manager with a driver comes to. -/
inductive Stepped (m : UsbAccessoryManager) : Action → UsbAccessoryManager → Prop where
  | handled {status : Status} {delayProcess : Bool} {a : Answers} :
      Stepped m (.handleEvent status delayProcess a) (m.handleEvent a status delayProcess)
  | shaken {timer : Nat} {a : Answers} {timers : Timers Task}
      (fired : m.timers.fire timer = some (.antiShake, timers)) :
      Stepped m (.fire timer a) ({ m with timers := timers }.handleEvent a m.eventStatus false)
  | restored {timer : Nat} {a : Answers} {timers : Timers Task}
      (fired : m.timers.fire timer = some (.restore, timers)) :
      Stepped m (.fire timer a) ({ m with timers := timers }.restored a)
  | others {functions : UInt32} : Stepped m (.others functions) { m with functions := functions }

theorem stepped {m m' : UsbAccessoryManager} (present : m.usbDeviceInterface = true) {action : Action}
    (taken : m.step action = some m') : m.Stepped action m' := by
  cases action with
  | handleEvent status delayProcess a =>
    obtain rfl := Option.some.inj taken
    exact .handled
  | fire timer a =>
    obtain ⟨⟨task, timers⟩, fired, rfl⟩ := Option.map_eq_some_iff.1 taken
    cases task with
    | antiShake => exact .shaken fired
    | restore =>
      show m.Stepped _ ({ m with timers := timers }.runTask a .restore)
      rw [runTask_restore a (m := { m with timers := timers }) present]
      exact .restored fired
  | others functions =>
    obtain rfl := Option.some.inj taken
    exact .others

end UsbAccessoryManager

end UsbManager.Accessory
