import UsbManager.Gadget.HdcNotice
import UsbManager.Host.Devices
import UsbManager.Policy.Types

/-!
# The notification of the connection

`UsbConnectionNotifier` shows one notification, `lastFunc_`, for three callers: the gadget manager tells its
functions, the host manager and the port manager that power is given. `CancelNotification` leaves it alone if it
takes it for that of the other side: the notification of reverse charging is the host's, all others are the
gadget's. But the gadget sends that of reverse charging as well.

The calls are recorded with their callers, the last one first.
-/

namespace UsbManager.Gadget

open Transition

/-! ## The notifier -/

inductive NotifierCall where
  | sendNotification (func : NotifierFunction)
  | cancelNotification (isHost : Bool)
  deriving DecidableEq, Repr

inductive NotifierCaller where
  | gadget
  | host
  | port
  deriving DecidableEq, Repr

/-- `supported` is `GetSupportedFunctions() > 0`; the functions are those of a constant parameter. -/
structure UsbConnectionNotifier where
  supported : Bool := true
  lastFunc : Option NotifierFunction := none
  deriving DecidableEq, Repr

namespace UsbConnectionNotifier

variable (n : UsbConnectionNotifier)

def sendNotification (func : NotifierFunction) : UsbConnectionNotifier :=
  if n.supported then { n with lastFunc := some func } else n

def cancelNotification (isHost : Bool) : UsbConnectionNotifier :=
  if (isHost && n.lastFunc ≠ some .usbFuncReverseCharge) || (!isHost && n.lastFunc = some .usbFuncReverseCharge) then n
  else { n with lastFunc := none }

def call : NotifierCall → UsbConnectionNotifier
  | .sendNotification func => n.sendNotification func
  | .cancelNotification isHost => n.cancelNotification isHost

end UsbConnectionNotifier

/-! ## The callers -/

def baseClassAudio : Int := 1

def isAudioDevice (dev : UsbDevice) : Bool :=
  dev.configs.any fun config => config.interfaces.any fun intf => intf.klass = baseClassAudio

/-- What `UsbHostManager::PublishCommonEvent` asks the notifier for. -/
def publishCall (event : Host.DeviceEvent) (dev : UsbDevice) : List NotifierCall :=
  if dev.baseClass = Policy.baseClassHub then []
  else if !isAudioDevice dev then
    [if event = .detached then .cancelNotification true else .sendNotification .usbFuncReverseCharge]
  else []

/-- What `UsbPortManager::SetPortRole` asks the notifier for; `powerRole` is that of port 1, if it is known. -/
def setPortRoleCall (ret : UsbErrCode) (powerRole : Option Int) : List NotifierCall :=
  if ret ≠ .uecOk then []
  else [.sendNotification (if powerRole = some 1 then .usbFuncReverseCharge else .usbFuncCharge)]

def Notice.call : Notice → Option NotifierCall
  | .sendNotification func => some (.sendNotification func)
  | .cancelNotification => some (.cancelNotification false)
  | _ => none

/-- The calls of the gadget manager, the last one first. -/
def UsbDeviceManager.calls (m : UsbDeviceManager) : List NotifierCall := m.notices.filterMap Notice.call

structure Board where
  manager : UsbDeviceManager
  notifier : UsbConnectionNotifier := {}
  log : List (NotifierCaller × NotifierCall) := []
  deriving DecidableEq, Repr

namespace Board

variable (b : Board)

def tell (caller : NotifierCaller) (call : NotifierCall) : Board :=
  { b with notifier := b.notifier.call call, log := (caller, call) :: b.log }

inductive Action where
  /-- The calls of one operation follow each other, since it holds `deviceMutex_`. -/
  | gadget (operation : Driver × Gadget.Action)
  | publishCommonEvent (event : Host.DeviceEvent) (dev : UsbDevice)
  | setPortRole (ret : UsbErrCode) (powerRole : Option Int)

def step (b : Board) : Action → Option Board
  | .gadget operation =>
    (b.manager.operate operation).map fun manager =>
      (manager.calls.take (manager.calls.length - b.manager.calls.length)).foldr (fun call b => b.tell .gadget call)
        { b with manager := manager }
  | .publishCommonEvent event dev => some ((publishCall event dev).foldr (fun call b => b.tell .host call) b)
  | .setPortRole ret powerRole => some ((setPortRoleCall ret powerRole).foldr (fun call b => b.tell .port call) b)

end Board

/-! ## What an operation of the gadget tells -/

namespace UsbDeviceManager

variable {m m' : UsbDeviceManager}

/-- An operation tells the notifier the connection that it leaves, or leaves it as it was. -/
inductive Tells (m m' : UsbDeviceManager) : Prop where
  | nothing (connected : m'.connected = m.connected) (calls : m'.calls = m.calls)
  | sends (func : NotifierFunction) (connected : m'.connected = true)
      (calls : m'.calls = .sendNotification func :: m.calls)
  | cancels (connected : m'.connected = false) (calls : m'.calls = .cancelNotification false :: m.calls)

theorem calls_notify (notice : Notice) : (m.notify notice).calls = notice.call.toList ++ m.calls := by
  unfold calls notify
  rw [List.filterMap_cons]
  cases notice.call <;> rfl

theorem calls_broadcastFuncChange (connected : Bool) (func : UInt32) :
    (m.broadcastFuncChange connected func).calls = m.calls := calls_notify _

theorem calls_processFunctionSwitchWindow (connected : Bool) :
    (m.processFunctionSwitchWindow connected).calls = m.calls := by
  unfold processFunctionSwitchWindow
  rw [calls_notify]
  cases connected <;> rfl

theorem calls_processFunctionNotifier (connected : Bool) (func : UInt32) :
    (m.processFunctionNotifier connected func).calls =
      (if connected then .sendNotification (m.notifierFunction func) else .cancelNotification false) :: m.calls := by
  unfold processFunctionNotifier
  dsimp only
  split
  · split <;> split <;> rfl
  · split <;> rfl

/-- Every section ends with the notifier. -/
theorem tells_processFunctionNotifier {p : UsbDeviceManager} (calls : p.calls = m.calls) (func : UInt32) :
    m.Tells (p.processFunctionNotifier p.connected func) := by
  have told := calls_processFunctionNotifier (m := p) p.connected func
  have connected : (p.processFunctionNotifier p.connected func).connected = p.connected :=
    congrArg Link.connected (link_processFunctionNotifier p p.connected func)
  rw [calls] at told
  cases now : p.connected with
  | true =>
    rw [now] at told connected
    exact .sends _ connected told
  | false =>
    rw [now] at told connected
    exact .cancels connected told

theorem tells_processFuncChange {p : UsbDeviceManager} (calls : p.calls = m.calls) :
    m.Tells (p.processFuncChange p.connected p.currentFunctions) := by
  unfold processFuncChange
  dsimp only
  split
  · exact tells_processFunctionNotifier (p := p.broadcastFuncChange p.connected p.currentFunctions)
      ((calls_broadcastFuncChange _ _).trans calls) _
  · exact tells_processFunctionNotifier
      (p := (p.broadcastFuncChange p.connected p.currentFunctions).processFunctionSwitchWindow p.connected)
      ((calls_processFunctionSwitchWindow _).trans ((calls_broadcastFuncChange _ _).trans calls)) _

theorem tells_updateFunctions {p : UsbDeviceManager} (connected : p.connected = m.connected) (calls : p.calls = m.calls)
    (func : UInt32) : m.Tells (p.updateFunctions func) := by
  unfold updateFunctions
  split
  · exact .nothing connected calls
  · dsimp only
    split
    · exact tells_processFunctionNotifier (p := { p with currentFunctions := func }) calls func
    · exact tells_processFunctionNotifier (p := broadcastFuncChange { p with currentFunctions := func } _ _)
        ((calls_broadcastFuncChange _ _).trans calls) func

theorem tells_handleEvent (status : Status) : m.Tells (m.handleEvent status) := by
  have link := link_handleEvent m status
  have connected : (m.handleEvent status).connected = m.connected := by
    refine (congrArg Link.connected link).trans ?_
    unfold Link.event Link.request Link.await Link.cancel
    split
    · split <;> (split <;> [skip; split]) <;> rfl
    · rfl
  refine .nothing connected ?_
  unfold handleEvent processStatus
  split
  · cases status <;> dsimp only <;> split <;> (try split) <;> rfl
  · rfl

theorem tells_step {action : Gadget.Action} (taken : m.step action = some m') : m.Tells m' := by
  cases action with
  | handleEvent status =>
    obtain rfl := Option.some.inj taken
    exact tells_handleEvent status
  | fire timer a =>
    obtain ⟨⟨task, timers⟩, -, rfl⟩ := Option.map_eq_some_iff.1 taken
    cases task with
    | connect => exact tells_processFuncChange (p := { m with timers := timers, connected := true, currentFunctions := _ }) rfl
    | disconnect =>
      unfold runTask disconnectTask
      refine tells_processFuncChange ?_
      split
      · rfl
      · split <;> rfl
  | setCurrentFunctions funcs a =>
    obtain rfl := Option.some.inj taken
    unfold setCurrentFunctions
    dsimp only
    repeat' split
    all_goals first
      | exact .nothing rfl rfl
      | exact tells_updateFunctions (m := m) (p := { m with driver := (m.driver.setCurrentFunctions a funcs).2 }) rfl rfl funcs
  | userChangeProcess a =>
    obtain rfl := Option.some.inj taken
    unfold userChangeProcess
    dsimp only
    refine tells_processFunctionNotifier ?_ _
    split
    · split
      · exact calls_broadcastFuncChange _ _
      · rfl
    · rfl
  | setPhyConnectState phyConnect =>
    obtain rfl := Option.some.inj taken
    exact .nothing rfl rfl
  | setChargeFlag isReverseCharge =>
    obtain rfl := Option.some.inj taken
    exact .nothing rfl rfl

theorem tells_operate {operation : Driver × Gadget.Action} (taken : m.operate operation = some m') : m.Tells m' := by
  have told : ({ m with driver := operation.1 } : UsbDeviceManager).Tells m' := tells_step taken
  cases told with
  | nothing connected calls => exact .nothing connected calls
  | sends func connected calls => exact .sends func connected calls
  | cancels connected calls => exact .cancels connected calls

end UsbDeviceManager

/-! ## The record of the calls -/

/-- The function sent last, and by whom. -/
def lastSend : List (NotifierCaller × NotifierCall) → Option (NotifierCaller × NotifierFunction)
  | [] => none
  | (caller, .sendNotification func) :: _ => some (caller, func)
  | (_, .cancelNotification _) :: log => lastSend log

/-- The cancellations after it. -/
def sinceSend : List (NotifierCaller × NotifierCall) → List (NotifierCaller × Bool)
  | [] => []
  | (_, .sendNotification _) :: _ => []
  | (caller, .cancelNotification isHost) :: log => (caller, isHost) :: sinceSend log

/-- The last call of the gadget. -/
def lastOfGadget : List (NotifierCaller × NotifierCall) → Option NotifierCall
  | [] => none
  | (.gadget, call) :: _ => some call
  | (.host, _) :: log | (.port, _) :: log => lastOfGadget log

/-- The notification of `func` is withdrawn by a cancellation of its side. -/
def withdraws (func : NotifierFunction) (isHost : Bool) : Bool := isHost == decide (func = .usbFuncReverseCharge)

def withdrawn (func : NotifierFunction) (log : List (NotifierCaller × NotifierCall)) : Bool :=
  (sinceSend log).any fun cancel => withdraws func cancel.2

/-- What the notifier shows, from the record. -/
def standing (log : List (NotifierCaller × NotifierCall)) : Option NotifierFunction :=
  (lastSend log).bind fun last => if withdrawn last.2 log then none else some last.2

variable {log : List (NotifierCaller × NotifierCall)}

theorem standing_tell {n : UsbConnectionNotifier} (supported : n.supported = true) (shown : n.lastFunc = standing log)
    (caller : NotifierCaller) (call : NotifierCall) : (n.call call).lastFunc = standing ((caller, call) :: log) := by
  cases call with
  | sendNotification func =>
    rw [UsbConnectionNotifier.call, UsbConnectionNotifier.sendNotification, if_pos supported]
    rfl
  | cancelNotification isHost =>
    have more : ∀ func, withdrawn func ((caller, .cancelNotification isHost) :: log) =
        (withdraws func isHost || withdrawn func log) := fun _ => rfl
    unfold standing at shown ⊢
    simp only [UsbConnectionNotifier.call, UsbConnectionNotifier.cancelNotification, lastSend, more]
    cases sent : lastSend log with
    | none =>
      rw [sent] at shown
      cases isHost <;> simp [shown]
    | some last =>
      obtain ⟨_, func⟩ := last
      rw [sent] at shown
      cases gone : withdrawn func log with
      | true =>
        simp only [Option.bind_some, gone, if_true] at shown
        cases isHost <;> simp [shown, gone]
      | false =>
        simp only [Option.bind_some, gone, Bool.false_eq_true, if_false] at shown
        cases isHost <;> cases func <;> simp [shown, gone, withdraws]

/-- After the gadget's own send, its last call is this one or a cancellation. -/
theorem lastOfGadget_eq {func : NotifierFunction} (sent : lastSend log = some (.gadget, func)) :
    lastOfGadget log = some (.sendNotification func) ∧ (∀ isHost, (.gadget, isHost) ∉ sinceSend log) ∨
      ∃ isHost, lastOfGadget log = some (.cancelNotification isHost) ∧ (.gadget, isHost) ∈ sinceSend log := by
  induction log with
  | nil => cases sent
  | cons entry log ih =>
    obtain ⟨caller, call⟩ := entry
    cases call with
    | sendNotification func' =>
      obtain ⟨rfl, rfl⟩ := Prod.mk.inj (Option.some.inj sent)
      exact .inl ⟨rfl, fun _ => List.not_mem_nil⟩
    | cancelNotification isHost =>
      cases caller with
      | gadget => exact .inr ⟨isHost, rfl, List.mem_cons_self ..⟩
      | host | port =>
        rcases ih sent with ⟨last, none⟩ | ⟨isHost', last, member⟩
        · exact .inl ⟨last, fun other => by simpa [sinceSend] using none other⟩
        · exact .inr ⟨isHost', last, List.mem_cons_of_mem _ member⟩

theorem mem_log_of_since {caller : NotifierCaller} {isHost : Bool} (member : (caller, isHost) ∈ sinceSend log) :
    (caller, NotifierCall.cancelNotification isHost) ∈ log := by
  induction log with
  | nil => cases member
  | cons entry log ih =>
    obtain ⟨other, call⟩ := entry
    cases call with
    | sendNotification => cases member
    | cancelNotification isHost' =>
      rcases List.mem_cons.1 member with same | old
      · obtain ⟨rfl, rfl⟩ := Prod.mk.inj same
        exact List.mem_cons_self ..
      · exact List.mem_cons_of_mem _ (ih old)

/-! ## Runs -/

namespace Board

variable {b b' : Board}

/-- The record and the notifier agree, and the gadget has told its connection. -/
structure Kept (b : Board) : Prop where
  supported : b.notifier.supported = true
  shown : b.notifier.lastFunc = standing b.log
  gadgetOnly : ∀ caller, (caller, .cancelNotification false) ∈ b.log → caller = .gadget
  connected : b.manager.connected = true → ∃ func, lastOfGadget b.log = some (.sendNotification func)
  disconnected : b.manager.connected = false → lastOfGadget b.log = none ∨
    lastOfGadget b.log = some (.cancelNotification false)

theorem supported_call {n : UsbConnectionNotifier} (call : NotifierCall) : (n.call call).supported = n.supported := by
  cases call with
  | sendNotification func =>
    unfold UsbConnectionNotifier.call UsbConnectionNotifier.sendNotification
    dsimp only
    split <;> rfl
  | cancelNotification isHost =>
    unfold UsbConnectionNotifier.call UsbConnectionNotifier.cancelNotification
    dsimp only
    split <;> rfl

/-- A call of another manager does not speak for the gadget. -/
theorem Kept.tell (kept : b.Kept) {caller : NotifierCaller} (other : caller ≠ .gadget) {call : NotifierCall}
    (own : call ≠ .cancelNotification false) : (b.tell caller call).Kept := by
  have last : lastOfGadget ((caller, call) :: b.log) = lastOfGadget b.log := by
    cases caller with
    | gadget => exact absurd rfl other
    | host | port => rfl
  constructor
  case supported => exact (supported_call call).trans kept.supported
  case shown => exact standing_tell kept.supported kept.shown caller call
  case gadgetOnly =>
    intro caller' member
    rcases List.mem_cons.1 member with same | old
    · exact absurd (Prod.mk.inj same).2.symm own
    · exact kept.gadgetOnly caller' old
  case connected => exact fun now => by simpa [Board.tell, last] using kept.connected now
  case disconnected => exact fun now => by simpa [Board.tell, last] using kept.disconnected now

theorem Kept.gadget (kept : b.Kept) {m : UsbDeviceManager} (tells : b.manager.Tells m) :
    ((m.calls.take (m.calls.length - b.manager.calls.length)).foldr (fun call (b : Board) => b.tell .gadget call)
      { b with manager := m }).Kept := by
  have told (call : NotifierCall) (calls : m.calls = call :: b.manager.calls) :
      m.calls.take (m.calls.length - b.manager.calls.length) = [call] := by
    rw [calls, List.length_cons, Nat.add_sub_cancel_left]
    rfl
  cases tells with
  | nothing connected calls =>
    rw [calls, Nat.sub_self, List.take_zero]
    exact ⟨kept.supported, kept.shown, kept.gadgetOnly, fun now => kept.connected (connected.symm.trans now),
      fun now => kept.disconnected (connected.symm.trans now)⟩
  | sends func connected calls =>
    rw [told _ calls]
    constructor
    case supported => exact (supported_call _).trans kept.supported
    case shown => exact standing_tell kept.supported kept.shown .gadget _
    case gadgetOnly =>
      intro caller member
      rcases List.mem_cons.1 member with same | old
      · cases same
      · exact kept.gadgetOnly caller old
    case connected => exact fun _ => ⟨func, rfl⟩
    case disconnected => exact fun now => absurd (connected.symm.trans now) (by simp)
  | cancels connected calls =>
    rw [told _ calls]
    constructor
    case supported => exact (supported_call _).trans kept.supported
    case shown => exact standing_tell kept.supported kept.shown .gadget _
    case gadgetOnly =>
      intro caller member
      rcases List.mem_cons.1 member with same | old
      · exact (Prod.mk.inj same).1
      · exact kept.gadgetOnly caller old
    case connected => exact fun now => absurd (connected.symm.trans now) (by simp)
    case disconnected => exact fun _ => .inr rfl

theorem Kept.step (kept : b.Kept) {action : Action} (taken : b.step action = some b') : b'.Kept := by
  cases action with
  | gadget operation =>
    obtain ⟨m, moved, rfl⟩ := Option.map_eq_some_iff.1 taken
    exact kept.gadget (UsbDeviceManager.tells_operate moved)
  | publishCommonEvent event dev =>
    obtain rfl := Option.some.inj taken
    unfold publishCall
    split
    · exact kept
    · split
      · exact kept.tell (by simp) (by split <;> simp)
      · exact kept
  | setPortRole ret powerRole =>
    obtain rfl := Option.some.inj taken
    unfold setPortRoleCall
    split
    · exact kept
    · exact kept.tell (by simp) (by simp)

end Board

/-- Whatever the host and port managers do in between, a notification that the gadget has sent last is shown exactly
while the gadget is connected, unless it is that of reverse charging: this one outlasts the connection, and is
withdrawn exactly by a device that leaves the host. -/
theorem gadget_notification_shown_iff {m : UsbDeviceManager} (start : m.connected = false) {b : Board}
    (run : Reach Board.step anyStep { manager := m } b) {func : NotifierFunction}
    (sent : lastSend b.log = some (.gadget, func)) :
    b.notifier.lastFunc = some func ↔
      if func = .usbFuncReverseCharge then ∀ caller, (caller, true) ∉ sinceSend b.log
      else b.manager.connected = true := by
  have kept : b.Kept := by
    refine run.invariant Board.Kept ?_ fun b action b' kept _ taken => kept.step taken
    refine ⟨rfl, rfl, fun _ member => ?_, fun now => ?_, fun _ => .inl rfl⟩
    · cases member
    · exact absurd (start.symm.trans now) (by simp)
  have shown : b.notifier.lastFunc = some func ↔ ∀ entry ∈ sinceSend b.log, withdraws func entry.2 = false := by
    have stays : (∀ entry ∈ sinceSend b.log, withdraws func entry.2 = false) ↔ withdrawn func b.log = false := by
      simp [withdrawn]
    rw [kept.shown, standing, sent, Option.bind_some, stays]
    cases withdrawn func b.log <;> simp
  rw [shown]
  split
  next reverse =>
    subst reverse
    constructor
    · intro stays caller member
      cases stays _ member
    · rintro absent ⟨caller, isHost⟩ member
      cases isHost with
      | true => exact absurd member (absent caller)
      | false => rfl
  next other =>
    rcases lastOfGadget_eq sent with ⟨last, none⟩ | ⟨isHost, last, member⟩
    · have connected : b.manager.connected = true := by
        cases now : b.manager.connected with
        | true => rfl
        | false => rcases kept.disconnected now with absent | cancelled <;> simp_all
      simp only [connected, iff_true]
      rintro ⟨caller, isHost⟩ member
      cases isHost with
      | true => simp [withdraws, other]
      | false =>
        obtain rfl := kept.gadgetOnly caller (mem_log_of_since member)
        exact absurd member (none false)
    · have disconnected : b.manager.connected = false := Bool.eq_false_iff.2 fun now => by
        obtain ⟨_, sends⟩ := kept.connected now
        simp [last] at sends
      have withdrawn : isHost = false := by
        rcases kept.disconnected disconnected with absent | cancelled
        · simp [last] at absent
        · exact NotifierCall.cancelNotification.inj (Option.some.inj (last.symm.trans cancelled))
      subst withdrawn
      simp only [disconnected, Bool.false_eq_true, iff_false, not_forall]
      exact ⟨_, member, by simp [withdraws, other]⟩

/-- Plugged in while it gives power, and unplugged. -/
def unpluggedRun : Option Board :=
  runFrom Board.step { manager := { usbDeviceInterface := true } }
    [.gadget ({}, .setChargeFlag true), .gadget ({}, .handleEvent .actUpDevice), .gadget ({}, .fire 0 {}),
      .gadget ({}, .handleEvent .actDownDevice), .gadget ({}, .fire 1 {})]

/-- The notification stays. -/
theorem gadget_notification_shown_iff_unplugged :
    ∃ b, Reach Board.step anyStep { manager := { usbDeviceInterface := true } } b ∧ b.manager.connected = false ∧
      b.notifier.lastFunc = some .usbFuncReverseCharge := by
  have seen : unpluggedRun.map (fun b => (b.manager.connected, lastSend b.log, sinceSend b.log)) =
      some (false, some (.gadget, .usbFuncReverseCharge), [(.gadget, false)]) := by decide +kernel
  obtain ⟨b, ended, same⟩ := Option.map_eq_some_iff.1 seen
  obtain ⟨connected, same⟩ := Prod.mk.inj same
  obtain ⟨sent, since⟩ := Prod.mk.inj same
  have run : Reach Board.step anyStep { manager := { usbDeviceInterface := true } } b :=
    reach_of_runFrom _ (fun _ _ _ => trivial) .init ended
  refine ⟨b, run, connected, (gadget_notification_shown_iff rfl run sent).2 ?_⟩
  rw [if_pos rfl, since]
  simp

end UsbManager.Gadget
