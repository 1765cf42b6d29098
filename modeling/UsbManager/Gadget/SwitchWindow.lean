import Mathlib.Data.List.Infix
import UsbManager.Gadget.HdcNotice

/-!
# The function switch window

`UsbFunctionSwitchWindow` lets the user choose the functions of the gadget. The gadget manager pops it up and
dismisses it; the boot event and the check for the dialog's package show it later if it could not be shown at once.
The dialog belongs to another process: `ConnectAbility` asks for it, and the ability manager answers through a
connection object, in its own threads and in its own time. A connection object that the window has given up may still
be answered, so the objects live on a heap.

The completion of a connection takes two steps: it reads `isAbortDialog_`, and then sends its request. The check of the
package takes two steps as well, since it holds no lock.
-/

namespace UsbManager.Gadget

open Transition

/-! ## The window -/

inductive UsbFunctionSwitchWindowAction where
  | default
  | show
  | dismiss
  | forbid
  deriving DecidableEq, Repr

/-- A remote object of the dialog's process. -/
abbrev DialogRemote := Nat

structure UsbFuncAbilityConn where
  isAbortDialog : Bool := false
  remoteObject : Option DialogRemote := none
  deriving DecidableEq, Repr

/-- What the window asks of the ability manager and of the dialog. -/
inductive WindowCall where
  | connectAbility (conn : Nat)
  | disconnectAbility (conn : Nat)
  /-- Request 1, which shows the dialog. -/
  | showDialog (remote : DialogRemote)
  /-- Request 3, which aborts it. -/
  | closeDialog (remote : DialogRemote)
  deriving DecidableEq, Repr

/-- The parameters that the window reads. -/
structure Parameters where
  gadgetConnPrompt : Bool := true
  /-- The temporary one, which is set back when it is read. -/
  tempConnPrompt : Bool := true
  supportedFunctions : String := "charge,mtp,ptp"
  bootCompleted : Bool := true
  deriving DecidableEq, Repr

def contains (text part : String) : Bool := decide (part.toList <:+: text.toList)

/-- `GetSupportedFunctions`. -/
def Parameters.getSupportedFunctions (p : Parameters) : Int :=
  if contains p.supportedFunctions "none" then -1
  else (if contains p.supportedFunctions "mtp" then 8 else 0) + (if contains p.supportedFunctions "ptp" then 16 else 0)

/-- What the ability manager answers; without it `abilityManager` is false. -/
structure AbilityAnswers where
  abilityManager : Bool := true
  sceneboard : Bool := true
  systemui : Bool := true
  deriving DecidableEq, Repr

structure UsbFunctionSwitchWindow where
  parameters : Parameters := {}
  windowAction : UsbFunctionSwitchWindowAction := .default
  isDialogInstalled : Bool := false
  usbFuncAbilityConn : Option Nat := none
  conns : List UsbFuncAbilityConn := []
  /-- The last one first. -/
  calls : List WindowCall := []
  deriving DecidableEq, Repr

namespace UsbFunctionSwitchWindow

variable (w : UsbFunctionSwitchWindow)

def call (call : WindowCall) : UsbFunctionSwitchWindow := { w with calls := call :: w.calls }

def setConn (conn : Nat) (object : UsbFuncAbilityConn) : UsbFunctionSwitchWindow :=
  { w with conns := w.conns.set conn object }

/-- The connection object, made if there is none. -/
def ensureConn : Nat × UsbFunctionSwitchWindow :=
  match w.usbFuncAbilityConn with
  | some conn => (conn, w)
  | none => (w.conns.length, { w with usbFuncAbilityConn := some w.conns.length, conns := w.conns ++ [{}] })

/-- `UsbFuncAbilityConn::ReopenDialog`. -/
def reopenDialog (conn : Nat) : UsbFunctionSwitchWindow :=
  match w.conns[conn]? with
  | some object => w.setConn conn { object with isAbortDialog := false }
  | none => w

/-- `UsbFuncAbilityConn::CloseDialog`. -/
def closeDialog (conn : Nat) : UsbFunctionSwitchWindow :=
  match w.conns[conn]? with
  | some object =>
    let aborted := w.setConn conn { object with isAbortDialog := true }
    match object.remoteObject with
    | some remote => aborted.call (.closeDialog remote)
    | none => aborted
  | none => w

/-- `ShowFunctionSwitchWindow`. -/
def showFunctionSwitchWindow (a : AbilityAnswers) : Bool × UsbFunctionSwitchWindow :=
  if w.isDialogInstalled then
    let (conn, ensured) := w.ensureConn
    let reopened := ensured.reopenDialog conn
    if a.abilityManager then
      if a.sceneboard || a.systemui then (true, reopened.call (.connectAbility conn))
      else (false, { reopened with usbFuncAbilityConn := none })
    else (false, reopened)
  else (false, w)

/-- `UnShowFunctionSwitchWindow`; `disconnected` is the result of `DisconnectAbility`. -/
def unShowFunctionSwitchWindow (a : AbilityAnswers) (disconnected : Bool) : Bool × UsbFunctionSwitchWindow :=
  match w.usbFuncAbilityConn with
  | none => (true, w)
  | some conn =>
    if a.abilityManager then (disconnected, (w.closeDialog conn).call (.disconnectAbility conn)) else (false, w)

/-- `PopUpFunctionSwitchWindow`. That the boot is watched needs no state: `ShowWindowIfConnected` looks at
`windowAction_` again. -/
def popUpFunctionSwitchWindow (a : AbilityAnswers) : Bool × UsbFunctionSwitchWindow :=
  if w.parameters.gadgetConnPrompt then
    if w.parameters.tempConnPrompt then
      if w.parameters.getSupportedFunctions < 0 then (false, w)
      else if w.windowAction = .forbid then (false, w)
      else
        let wanted := { w with windowAction := .show }
        -- `ShouldRejectShowWindow` is asked next, but only for the log
        if w.parameters.bootCompleted then wanted.showFunctionSwitchWindow a else (false, wanted)
    else (false, { w with parameters := { w.parameters with tempConnPrompt := true } })
  else (false, w)

/-- `DismissFunctionSwitchWindow`. -/
def dismissFunctionSwitchWindow (a : AbilityAnswers) (disconnected : Bool) : Bool × UsbFunctionSwitchWindow :=
  if w.windowAction = .forbid then (false, w)
  else { w with windowAction := .dismiss }.unShowFunctionSwitchWindow a disconnected

/-- `ShowWindowIfConnected`. -/
def showWindowIfConnected (a : AbilityAnswers) : Bool × UsbFunctionSwitchWindow :=
  if w.windowAction = .show then w.showFunctionSwitchWindow a else (false, w)

/-- `BootCompletedEventCallback`. -/
def bootCompletedEventCallback (a : AbilityAnswers) : UsbFunctionSwitchWindow :=
  if w.parameters.bootCompleted then (w.showWindowIfConnected a).2 else w

/-- A round of `CheckDialogInstallStatus` up to its decision to show the window. -/
def checkDialogInstallStatus (installed : Bool) : Bool × UsbFunctionSwitchWindow :=
  let checked := { w with isDialogInstalled := installed }
  (installed && decide (w.windowAction = .show) && w.parameters.bootCompleted, checked)

/-- What `OnAbilityConnectDone` does next. -/
inductive Completion where
  /-- The remote object is null. -/
  | ignored
  /-- It goes on to show the dialog. -/
  | shows
  /-- It aborts the dialog whose remote object it holds. -/
  | aborts (held : DialogRemote)
  /-- It calls through `remoteObject_`, which is null. -/
  | crashes
  deriving DecidableEq, Repr

/-- `OnAbilityConnectDone` up to its first request. -/
def onAbilityConnectDone (object : UsbFuncAbilityConn) (remoteObject : Option DialogRemote) : Completion :=
  match remoteObject with
  | none => .ignored
  | some _ =>
    if object.isAbortDialog then
      match object.remoteObject with
      | some held => .aborts held
      | none => .crashes
    else .shows

/-- The rest of `OnAbilityConnectDone` of a dialog that is to be shown. -/
def showDialog (conn : Nat) (remoteObject : DialogRemote) (shown : Bool) : UsbFunctionSwitchWindow :=
  let asked := w.call (.showDialog remoteObject)
  match asked.conns[conn]? with
  | some object => if shown then asked.setConn conn { object with remoteObject := some remoteObject } else asked
  | none => asked

/-- `OnAbilityDisconnectDone`. -/
def onAbilityDisconnectDone (conn : Nat) : UsbFunctionSwitchWindow :=
  match w.conns[conn]? with
  | some object => w.setConn conn { object with remoteObject := none }
  | none => w

end UsbFunctionSwitchWindow

/-! ## The gadget and its window -/

def Notice.window : Notice → Option Bool
  | .popUpFunctionSwitchWindow => some true
  | .dismissFunctionSwitchWindow => some false
  | _ => none

/-- What the gadget manager has asked of the window, the last one first; `true` is to pop up. -/
def UsbDeviceManager.windowCalls (m : UsbDeviceManager) : List Bool := m.notices.filterMap Notice.window

/-- The gadget is connected and no accessory has disabled the dialog. -/
def UsbDeviceManager.wantsWindow (m : UsbDeviceManager) : Bool := m.connected && !m.isDisableDialog

structure Desk where
  manager : UsbDeviceManager
  window : UsbFunctionSwitchWindow := {}
  /-- The connections that the ability manager has accepted and not answered. -/
  connecting : List Nat := []
  /-- The completions that go on to show the dialog. -/
  showing : List (Nat × DialogRemote) := []
  /-- The checks of the package that go on to show the window. -/
  checking : Nat := 0
  crashed : Bool := false

namespace Desk

variable (k : Desk)

/-- The window after a call; a connection that is accepted is answered later. -/
def withWindow (window : UsbFunctionSwitchWindow) : Desk :=
  { k with
    window := window
    connecting := k.connecting ++
      (window.calls.take (window.calls.length - k.window.calls.length)).filterMap fun
        | .connectAbility conn => some conn
        | _ => none }

/-- `ProcessFunctionSwitchWindow`, at the window. -/
def ask (a : AbilityAnswers) (disconnected : Bool) (connected : Bool) : Desk :=
  k.withWindow
    (if connected then (k.window.popUpFunctionSwitchWindow a).2
      else (k.window.dismissFunctionSwitchWindow a disconnected).2)

inductive Action where
  /-- An operation of the gadget manager; the window is asked inside it, under `deviceMutex_`. -/
  | gadget (operation : Driver × Gadget.Action) (a : AbilityAnswers) (disconnected : Bool)
  | setParameters (parameters : Parameters)
  | bootCompleted (a : AbilityAnswers)
  | check (installed : Bool)
  /-- A check goes on to show the window. -/
  | checked (a : AbilityAnswers)
  | connectDone (conn : Nat) (remoteObject : Option DialogRemote)
  /-- A completion sends its request to show the dialog. -/
  | showDialog (conn : Nat) (remoteObject : DialogRemote) (shown : Bool)
  | disconnectDone (conn : Nat)

/-- A connection that is answered. -/
def complete (conn : Nat) (object : UsbFuncAbilityConn) (remoteObject : Option DialogRemote) : Desk :=
  let answered := { k with connecting := k.connecting.erase conn }
  match UsbFunctionSwitchWindow.onAbilityConnectDone object remoteObject with
  | .ignored => answered
  | .shows => { answered with showing := answered.showing ++ (remoteObject.map (conn, ·)).toList }
  | .aborts held => { answered with window := answered.window.call (.closeDialog held) }
  | .crashes => { answered with crashed := true }

/-- A step of a service that has not crashed. -/
def act (k : Desk) : Action → Option Desk
  | .gadget operation a disconnected =>
    (k.manager.operate operation).map fun manager =>
      (manager.windowCalls.take (manager.windowCalls.length - k.manager.windowCalls.length)).foldr
        (fun connected k => k.ask a disconnected connected) { k with manager := manager }
  | .setParameters parameters => some { k with window := { k.window with parameters := parameters } }
  | .bootCompleted a => some (k.withWindow (k.window.bootCompletedEventCallback a))
  | .check installed =>
    let (goesOn, window) := k.window.checkDialogInstallStatus installed
    some { k with window := window, checking := if goesOn then k.checking + 1 else k.checking }
  | .checked a =>
    if k.checking = 0 then none
    else some ({ k with checking := k.checking - 1 }.withWindow (k.window.showFunctionSwitchWindow a).2)
  | .connectDone conn remoteObject =>
    if conn ∈ k.connecting then (k.window.conns[conn]?).map fun object => k.complete conn object remoteObject else none
  | .showDialog conn remoteObject shown =>
    if (conn, remoteObject) ∈ k.showing then
      some { k with window := k.window.showDialog conn remoteObject shown, showing := k.showing.erase (conn, remoteObject) }
    else none
  | .disconnectDone conn => some { k with window := k.window.onAbilityDisconnectDone conn }

def step (k : Desk) (action : Action) : Option Desk := if k.crashed then none else k.act action

end Desk

/-! ## What an operation of the gadget asks -/

namespace UsbDeviceManager

variable {m m' : UsbDeviceManager}

/-- What has been asked of the window, and whether it is wanted. -/
def switch (m : UsbDeviceManager) : List Bool × Bool := (m.windowCalls, m.wantsWindow)

/-- An operation asks for the window that it leaves wanted or not, or it changes nothing for the window. -/
inductive Asks (m m' : UsbDeviceManager) : Prop where
  | nothing (same : m'.switch = m.switch)
  | asks (connected : Bool) (switch : m'.switch = (connected :: m.windowCalls, connected))

theorem switch_notify (notice : Notice) :
    (m.notify notice).switch = (notice.window.toList ++ m.windowCalls, m.wantsWindow) := by
  unfold switch windowCalls notify
  rw [List.filterMap_cons]
  cases notice.window <;> rfl

/-- Other notices are no matter of the window. -/
theorem switch_notify_other {notice : Notice} (other : notice.window = none) : (m.notify notice).switch = m.switch := by
  rw [switch_notify, other]
  rfl

theorem switch_sendHdcNotification : m.sendHdcNotification.switch = m.switch :=
  @switch_notify_other m .sendHdcNotification rfl

theorem switch_cancelHdcNotification : m.cancelHdcNotification.switch = m.switch :=
  @switch_notify_other m .cancelHdcNotification rfl

theorem switch_processFunctionNotifier (connected : Bool) (func : UInt32) :
    (m.processFunctionNotifier connected func).switch = m.switch := by
  unfold processFunctionNotifier
  dsimp only
  split
  · have shown : (m.notify (.sendNotification (m.notifierFunction func))).switch = m.switch := switch_notify_other rfl
    split <;> split <;> simp only [switch_sendHdcNotification, switch_cancelHdcNotification, shown]
  · have hidden : (m.notify .cancelNotification).switch = m.switch := switch_notify_other rfl
    split <;> simp only [switch_cancelHdcNotification, hidden]

theorem switch_broadcastFuncChange (connected : Bool) (func : UInt32) :
    (m.broadcastFuncChange connected func).switch = m.switch := switch_notify_other rfl

theorem switch_processFuncChange (connected : Bool) (func : UInt32) :
    (m.processFuncChange connected func).switch =
      if m.isDisableDialog then m.switch else (connected :: m.windowCalls, m.wantsWindow) := by
  unfold processFuncChange
  dsimp only
  have disabled : (m.broadcastFuncChange connected func).isDisableDialog = m.isDisableDialog := rfl
  rw [switch_processFunctionNotifier, disabled]
  split
  · exact switch_broadcastFuncChange connected func
  · unfold processFunctionSwitchWindow
    rw [switch_notify]
    cases connected <;> rfl

theorem switch_updateFunctions (func : UInt32) : (m.updateFunctions func).switch = m.switch := by
  unfold updateFunctions
  split
  · rfl
  · dsimp only
    rw [switch_processFunctionNotifier]
    split
    · rfl
    · exact switch_broadcastFuncChange _ _

theorem asks_handleEvent (status : Status) : m.Asks (m.handleEvent status) := by
  unfold handleEvent processStatus
  split
  · cases status with
    | actAccessoryUp | actAccessoryDown | actAccessorySend | actCustomControlRequest =>
      refine .asks false ?_
      have disabled : ({ m with isDisableDialog := true } : UsbDeviceManager).wantsWindow = false := by simp [wantsWindow]
      have asked : ({ m with isDisableDialog := true }.processFunctionSwitchWindow false).switch =
          (false :: m.windowCalls, false) := by
        rw [processFunctionSwitchWindow, switch_notify, disabled]
        rfl
      dsimp only
      split <;> (try split) <;> exact asked
    | _ => exact .nothing (by dsimp only; split <;> (try split) <;> rfl)
  · exact .nothing rfl

theorem asks_connectTask (a : Answers) : m.Asks (m.connectTask a) := by
  unfold connectTask
  dsimp only
  generalize (getCurrentFunctions { m with connected := true } a m.currentFunctions).2 = functions
  have changed := switch_processFuncChange (m := { m with connected := true, currentFunctions := functions }) true functions
  dsimp only at changed
  split at changed
  · next disabled =>
    -- the dialog is disabled before and after
    exact .nothing (changed.trans (by simp [switch, windowCalls, wantsWindow, disabled]))
  · next enabled => exact .asks true (changed.trans (by simp [windowCalls, wantsWindow, enabled]))

theorem asks_disconnectTask (a : Answers) : m.Asks (m.disconnectTask a) := by
  refine .asks false ?_
  unfold disconnectTask
  dsimp only
  rw [switch_processFuncChange]
  split_ifs <;> first | rfl | contradiction

theorem asks_step {action : Gadget.Action} (taken : m.step action = some m') : m.Asks m' := by
  cases action with
  | handleEvent status =>
    obtain rfl := Option.some.inj taken
    exact asks_handleEvent status
  | fire timer a =>
    obtain ⟨⟨task, timers⟩, -, rfl⟩ := Option.map_eq_some_iff.1 taken
    have asked : ({ m with timers := timers } : UsbDeviceManager).Asks ({ m with timers := timers }.runTask a task) := by
      cases task with
      | connect => exact asks_connectTask a
      | disconnect => exact asks_disconnectTask a
    cases asked with
    | nothing same => exact .nothing same
    | asks connected switch => exact .asks connected switch
  | setCurrentFunctions funcs a =>
    obtain rfl := Option.some.inj taken
    refine .nothing ?_
    unfold setCurrentFunctions
    dsimp only
    repeat' split
    all_goals first
      | rfl
      | exact switch_updateFunctions (m := { m with driver := (m.driver.setCurrentFunctions a funcs).2 }) funcs
  | userChangeProcess a =>
    obtain rfl := Option.some.inj taken
    refine .nothing ?_
    unfold userChangeProcess
    dsimp only
    rw [switch_processFunctionNotifier]
    split
    · split
      · exact switch_broadcastFuncChange _ _
      · rfl
    · rfl
  | setPhyConnectState phyConnect =>
    obtain rfl := Option.some.inj taken
    exact .nothing rfl
  | setChargeFlag isReverseCharge =>
    obtain rfl := Option.some.inj taken
    exact .nothing rfl

theorem asks_operate {operation : Driver × Gadget.Action} (taken : m.operate operation = some m') : m.Asks m' := by
  have asked : ({ m with driver := operation.1 } : UsbDeviceManager).Asks m' := asks_step taken
  cases asked with
  | nothing same => exact .nothing same
  | asks connected switch => exact .asks connected switch

end UsbDeviceManager

/-! ## What the window does -/

/-- The parameters let the window pop up. -/
def Parameters.Allow (p : Parameters) : Prop :=
  p.gadgetConnPrompt = true ∧ p.tempConnPrompt = true ∧ 0 ≤ p.getSupportedFunctions

namespace UsbFunctionSwitchWindow

variable {w : UsbFunctionSwitchWindow} {a : AbilityAnswers}

@[simp]
theorem setConn_windowAction (conn : Nat) (object : UsbFuncAbilityConn) :
    (w.setConn conn object).windowAction = w.windowAction := rfl

@[simp]
theorem call_windowAction (call : WindowCall) : (w.call call).windowAction = w.windowAction := rfl

@[simp]
theorem ensureConn_windowAction : w.ensureConn.2.windowAction = w.windowAction := by
  unfold ensureConn
  split <;> rfl

@[simp]
theorem reopenDialog_windowAction (conn : Nat) : (w.reopenDialog conn).windowAction = w.windowAction := by
  unfold reopenDialog
  split <;> rfl

@[simp]
theorem closeDialog_windowAction (conn : Nat) : (w.closeDialog conn).windowAction = w.windowAction := by
  unfold closeDialog
  split
  · dsimp only
    split <;> rfl
  · rfl

@[simp]
theorem showFunctionSwitchWindow_windowAction : (w.showFunctionSwitchWindow a).2.windowAction = w.windowAction := by
  unfold showFunctionSwitchWindow
  dsimp only
  split_ifs <;> simp

@[simp]
theorem unShowFunctionSwitchWindow_windowAction (disconnected : Bool) :
    (w.unShowFunctionSwitchWindow a disconnected).2.windowAction = w.windowAction := by
  unfold unShowFunctionSwitchWindow
  split
  · rfl
  · split <;> simp

theorem bootCompletedEventCallback_windowAction : (w.bootCompletedEventCallback a).windowAction = w.windowAction := by
  unfold bootCompletedEventCallback showWindowIfConnected
  split_ifs <;> simp

theorem showDialog_windowAction (conn : Nat) (remoteObject : DialogRemote) (shown : Bool) :
    (w.showDialog conn remoteObject shown).windowAction = w.windowAction := by
  unfold showDialog
  dsimp only
  split
  · split <;> rfl
  · rfl

theorem onAbilityDisconnectDone_windowAction (conn : Nat) :
    (w.onAbilityDisconnectDone conn).windowAction = w.windowAction := by
  unfold onAbilityDisconnectDone
  split <;> rfl

/-- A pop up wants the window or is refused by the parameters. -/
theorem popUpFunctionSwitchWindow_windowAction (free : w.windowAction ≠ .forbid) :
    (w.popUpFunctionSwitchWindow a).2.windowAction = .show ∨
      ¬ w.parameters.Allow ∧ (w.popUpFunctionSwitchWindow a).2.windowAction = w.windowAction := by
  unfold popUpFunctionSwitchWindow Parameters.Allow
  dsimp only
  split_ifs <;> simp_all

theorem dismissFunctionSwitchWindow_windowAction (free : w.windowAction ≠ .forbid) (disconnected : Bool) :
    (w.dismissFunctionSwitchWindow a disconnected).2.windowAction = .dismiss := by
  unfold dismissFunctionSwitchWindow
  rw [if_neg free, unShowFunctionSwitchWindow_windowAction]

end UsbFunctionSwitchWindow

/-! ## Runs -/

namespace Desk

variable {k k' : Desk}

theorem Action.gadget_or_other (action : Action) :
    (∃ operation a disconnected, action = .gadget operation a disconnected) ∨
      ∀ operation a disconnected, action ≠ .gadget operation a disconnected := by
  by_cases gadget : ∃ operation a disconnected, action = .gadget operation a disconnected
  · exact .inl gadget
  · exact .inr fun operation a disconnected same => gadget ⟨operation, a, disconnected, same⟩

/-- The steps of the gadget manager: the window is asked at most once, for what the manager then wants. -/
theorem gadget_cases {operation : Driver × Gadget.Action} {a : AbilityAnswers} {disconnected : Bool}
    (taken : k.act (.gadget operation a disconnected) = some k') :
    ∃ m, k.manager.operate operation = some m ∧
      (m.wantsWindow = k.manager.wantsWindow ∧ k' = { k with manager := m } ∨
        k' = { k with manager := m }.ask a disconnected m.wantsWindow) := by
  obtain ⟨m, moved, rfl⟩ := Option.map_eq_some_iff.1 taken
  refine ⟨m, moved, ?_⟩
  cases UsbDeviceManager.asks_operate moved with
  | nothing same =>
    obtain ⟨calls, wants⟩ := Prod.mk.inj same
    refine .inl ⟨wants, ?_⟩
    rw [calls, Nat.sub_self, List.take_zero]
    rfl
  | asks connected switch =>
    obtain ⟨calls, wants⟩ := Prod.mk.inj switch
    refine .inr ?_
    rw [calls, List.length_cons, Nat.add_sub_cancel_left, wants]
    rfl

/-- The window is wanted only by the gadget. -/
structure Wanted (k : Desk) : Prop where
  free : k.window.windowAction ≠ .forbid
  wanted : k.window.windowAction = .show → k.manager.wantsWindow = true

theorem Wanted.start (m : UsbDeviceManager) : ({ manager := m } : Desk).Wanted where
  free forbidden := by cases forbidden
  wanted shown := by cases shown

theorem Wanted.same (kept : k.Wanted) (action : k'.window.windowAction = k.window.windowAction)
    (manager : k'.manager.wantsWindow = k.manager.wantsWindow) : k'.Wanted where
  free := action ▸ kept.free
  wanted show' := manager ▸ kept.wanted (action ▸ show')

theorem Wanted.ask (kept : k.Wanted) (m : UsbDeviceManager) (a : AbilityAnswers) (disconnected : Bool) :
    ({ k with manager := m }.ask a disconnected m.wantsWindow).Wanted := by
  cases wants : m.wantsWindow with
  | true =>
    refine ⟨?_, fun _ => wants⟩
    rcases UsbFunctionSwitchWindow.popUpFunctionSwitchWindow_windowAction kept.free (a := a) with shown | ⟨-, same⟩
    · exact fun forbidden => by cases shown.symm.trans forbidden
    · exact fun forbidden => kept.free (same.symm.trans forbidden)
  | false =>
    have dismissed := UsbFunctionSwitchWindow.dismissFunctionSwitchWindow_windowAction kept.free disconnected (a := a)
    refine ⟨fun forbidden => ?_, fun shown => ?_⟩
    · cases dismissed.symm.trans forbidden
    · cases dismissed.symm.trans shown

/-- The steps that leave the manager alone leave the action of the window alone. -/
theorem act_windowAction {action : Action} (taken : k.act action = some k')
    (other : ∀ operation a disconnected, action ≠ .gadget operation a disconnected) :
    k'.manager = k.manager ∧ k'.window.windowAction = k.window.windowAction := by
  cases action with
  | gadget operation a disconnected => exact absurd rfl (other operation a disconnected)
  | setParameters | check =>
    obtain rfl := Option.some.inj taken
    exact ⟨rfl, rfl⟩
  | bootCompleted a =>
    obtain rfl := Option.some.inj taken
    exact ⟨rfl, UsbFunctionSwitchWindow.bootCompletedEventCallback_windowAction⟩
  | checked a =>
    simp only [act] at taken
    split at taken
    · cases taken
    · obtain rfl := Option.some.inj taken
      exact ⟨rfl, UsbFunctionSwitchWindow.showFunctionSwitchWindow_windowAction⟩
  | connectDone conn remoteObject =>
    simp only [act] at taken
    split at taken
    · obtain ⟨object, -, rfl⟩ := Option.map_eq_some_iff.1 taken
      unfold complete
      dsimp only
      split <;> exact ⟨rfl, rfl⟩
    · cases taken
  | showDialog conn remoteObject shown =>
    simp only [act] at taken
    split at taken
    · obtain rfl := Option.some.inj taken
      exact ⟨rfl, UsbFunctionSwitchWindow.showDialog_windowAction conn remoteObject shown⟩
    · cases taken
  | disconnectDone conn =>
    obtain rfl := Option.some.inj taken
    exact ⟨rfl, UsbFunctionSwitchWindow.onAbilityDisconnectDone_windowAction conn⟩

theorem act_of_step {action : Action} (taken : k.step action = some k') : k.act action = some k' := by
  unfold step at taken
  split at taken
  · cases taken
  · exact taken

theorem Wanted.step (kept : k.Wanted) {action : Action} (taken : k.step action = some k') : k'.Wanted := by
  have acted := act_of_step taken
  rcases action.gadget_or_other with ⟨operation, a, disconnected, rfl⟩ | other
  · obtain ⟨m, -, ⟨wants, rfl⟩ | rfl⟩ := gadget_cases acted
    · exact kept.same rfl wants
    · exact kept.ask m a disconnected
  · obtain ⟨manager, action⟩ := act_windowAction acted other
    exact kept.same action (by rw [manager])

/-- Where the parameters let it pop up, the window follows the gadget. -/
theorem Wanted.follows (kept : k.Wanted) (allow : k.window.parameters.Allow) {operation : Driver × Gadget.Action}
    {a : AbilityAnswers} {disconnected : Bool} (taken : k.act (.gadget operation a disconnected) = some k')
    (follows : k.manager.wantsWindow = true → k.window.windowAction = .show) (wants : k'.manager.wantsWindow = true) :
    k'.window.windowAction = .show := by
  obtain ⟨m, -, ⟨same, rfl⟩ | rfl⟩ := gadget_cases taken
  · exact follows (same.symm.trans wants)
  · have now : m.wantsWindow = true := wants
    rw [now]
    rcases UsbFunctionSwitchWindow.popUpFunctionSwitchWindow_windowAction kept.free (a := a) with shown | ⟨refused, -⟩
    · exact shown
    · exact absurd allow refused

end Desk

/-- In every run, the window is wanted only while the gadget is connected and no accessory has disabled the dialog;
if the parameters allow the window whenever the gadget manager works, it is wanted throughout that time. -/
theorem window_wanted {m : UsbDeviceManager} (start : m.connected = false) {guard : Desk → Desk.Action → Prop} {k : Desk}
    (run : Reach Desk.step guard { manager := m } k) :
    (k.window.windowAction = .show → k.manager.connected = true ∧ k.manager.isDisableDialog = false) ∧
      ((∀ k operation a disconnected, guard k (.gadget operation a disconnected) → k.window.parameters.Allow) →
        k.manager.connected = true → k.manager.isDisableDialog = false → k.window.windowAction = .show) := by
  have wants (m : UsbDeviceManager) : m.wantsWindow = true ↔ m.connected = true ∧ m.isDisableDialog = false := by
    simp [UsbDeviceManager.wantsWindow]
  have kept : k.Wanted := run.invariant Desk.Wanted (.start m) fun k action k' kept _ taken => kept.step taken
  refine ⟨fun shown => (wants _).1 (kept.wanted shown), fun allows connected enabled => ?_⟩
  have follows : k.Wanted ∧ (k.manager.wantsWindow = true → k.window.windowAction = .show) := by
    refine run.invariant (fun k => k.Wanted ∧ (k.manager.wantsWindow = true → k.window.windowAction = .show)) ?_ ?_
    · exact ⟨.start m, fun wanted => absurd ((wants m).1 wanted).1 (by simp [start])⟩
    · rintro k action k' ⟨kept, follows⟩ allowed taken
      refine ⟨kept.step taken, ?_⟩
      have acted := Desk.act_of_step taken
      rcases action.gadget_or_other with ⟨operation, a, disconnected, rfl⟩ | other
      · exact kept.follows (allows k operation a disconnected allowed) acted follows
      · obtain ⟨manager, action⟩ := Desk.act_windowAction acted other
        rw [manager, action]
        exact follows
  exact follows.2 ((wants _).2 ⟨connected, enabled⟩)

instance (p : Parameters) : Decidable p.Allow := inferInstanceAs (Decidable (_ ∧ _))

/-- Plugged in; the window is shown once the check has found the dialog's package. -/
def plugged : Option Desk :=
  runFrom (guarded Desk.step fun k _ => k.window.parameters.Allow) { manager := { usbDeviceInterface := true } }
    [.gadget ({}, .handleEvent .actUpDevice) {} true, .gadget ({}, .fire 0 {}) {} true, .check true, .checked {}]

theorem window_wanted_plugged :
    ∃ k, Reach Desk.step (fun k _ => k.window.parameters.Allow) { manager := { usbDeviceInterface := true } } k ∧
      k.manager.connected = true ∧ k.window.windowAction = .show ∧ k.window.calls = [.connectAbility 0] := by
  have seen : plugged.map (fun k => (k.manager.connected, k.manager.isDisableDialog, k.window.calls)) =
      some (true, false, [.connectAbility 0]) := by decide +kernel
  obtain ⟨k, ended, same⟩ := Option.map_eq_some_iff.1 seen
  obtain ⟨connected, same⟩ := Prod.mk.inj same
  obtain ⟨enabled, calls⟩ := Prod.mk.inj same
  have run := reach_of_guarded _ .init ended
  have wanted := (window_wanted rfl run).2 (fun _ _ _ _ allow => allow) connected enabled
  exact ⟨k, run, connected, wanted, calls⟩

/-! ## The connection object -/

/-- The ability manager accepts the connection, for one dialog or the other. -/
def AbilityAnswers.Accepts (a : AbilityAnswers) : Prop := a.abilityManager = true ∧ (a.sceneboard || a.systemui) = true

namespace UsbFunctionSwitchWindow

/-- There is one connection object at most, and `Aborts` says of its flag what is known. -/
inductive Tracks (Aborts : Bool → Prop) (w : UsbFunctionSwitchWindow) : Prop where
  | unmade (current : w.usbFuncAbilityConn = none) (conns : w.conns = [])
  | made (object : UsbFuncAbilityConn) (current : w.usbFuncAbilityConn = some 0) (conns : w.conns = [object])
      (flag : Aborts object.isAbortDialog)

variable {Aborts : Bool → Prop} {w : UsbFunctionSwitchWindow} {a : AbilityAnswers}

theorem Tracks.mono {Fewer : Bool → Prop} (tracks : w.Tracks Aborts) (fewer : ∀ flag, Aborts flag → Fewer flag) :
    w.Tracks Fewer := by
  cases tracks with
  | unmade current conns => exact .unmade current conns
  | made object current conns flag => exact .made object current conns (fewer _ flag)

/-- A window that is shown reopens the object, or makes it. -/
theorem Tracks.show (tracks : w.Tracks Aborts) (installed : w.isDialogInstalled = true) (accepts : a.Accepts) :
    (w.showFunctionSwitchWindow a).2.Tracks (· = false) := by
  obtain ⟨abilityManager, element⟩ := accepts
  cases tracks with
  | unmade current conns =>
    refine .made {} ?_ ?_ rfl <;>
      simp [showFunctionSwitchWindow, ensureConn, reopenDialog, setConn, call, installed, abilityManager, element, current,
        conns]
  | made object current conns =>
    refine .made { object with isAbortDialog := false } ?_ ?_ rfl <;>
      simp [showFunctionSwitchWindow, ensureConn, reopenDialog, setConn, call, installed, abilityManager, element, current,
        conns]

/-- A window that is hidden closes it. -/
theorem Tracks.unShow (tracks : w.Tracks Aborts) (accepts : a.Accepts) (disconnected : Bool) :
    (w.unShowFunctionSwitchWindow a disconnected).2.Tracks (· = true) := by
  obtain ⟨abilityManager, -⟩ := accepts
  cases tracks with
  | unmade current conns => exact .unmade (by simp [unShowFunctionSwitchWindow, current]) (by
      simp [unShowFunctionSwitchWindow, current, conns])
  | made object current conns =>
    cases held : object.remoteObject <;>
      exact .made { object with isAbortDialog := true }
        (by simp [unShowFunctionSwitchWindow, closeDialog, setConn, call, abilityManager, current, conns, held])
        (by simp [unShowFunctionSwitchWindow, closeDialog, setConn, call, abilityManager, current, conns, held]) rfl

/-- An object that is there is the only one. -/
theorem Tracks.made_of_getElem? (tracks : w.Tracks Aborts) {conn : Nat} {object : UsbFuncAbilityConn}
    (there : w.conns[conn]? = some object) :
    conn = 0 ∧ w.usbFuncAbilityConn = some 0 ∧ w.conns = [object] ∧ Aborts object.isAbortDialog := by
  cases tracks with
  | unmade current conns =>
    rw [conns] at there
    cases there
  | made only current conns flag =>
    rw [conns, List.getElem?_singleton] at there
    split at there
    · next same =>
      obtain rfl := Option.some.inj there
      exact ⟨same, current, conns, flag⟩
    · cases there

/-- The object is changed apart from its flag. -/
theorem Tracks.setConn (tracks : w.Tracks Aborts) {conn : Nat} {object object' : UsbFuncAbilityConn}
    (there : w.conns[conn]? = some object) (same : object'.isAbortDialog = object.isAbortDialog) :
    (w.setConn conn object').Tracks Aborts := by
  obtain ⟨rfl, current, conns, flag⟩ := tracks.made_of_getElem? there
  exact .made object' current (by simp [UsbFunctionSwitchWindow.setConn, conns]) (same ▸ flag)

theorem Tracks.call (tracks : w.Tracks Aborts) (call : WindowCall) : (w.call call).Tracks Aborts := by
  cases tracks with
  | unmade current conns => exact .unmade current conns
  | made object current conns flag => exact .made object current conns flag

/-- The other fields do not matter. -/
theorem Tracks.same {w' : UsbFunctionSwitchWindow} (tracks : w.Tracks Aborts)
    (current : w'.usbFuncAbilityConn = w.usbFuncAbilityConn) (conns : w'.conns = w.conns) : w'.Tracks Aborts := by
  cases tracks with
  | unmade current' conns' => exact .unmade (current.trans current') (conns.trans conns')
  | made object current' conns' flag => exact .made object (current.trans current') (conns.trans conns') flag

/-- A window that is shown while it is wanted, whether the dialog is there or not. -/
theorem Tracks.show_wanted (tracks : w.Tracks (· = false)) (accepts : a.Accepts) :
    (w.showFunctionSwitchWindow a).2.Tracks (· = false) := by
  by_cases installed : w.isDialogInstalled = true
  · exact tracks.show installed accepts
  · rw [showFunctionSwitchWindow, if_neg installed]
    exact tracks

theorem Tracks.popUp (tracks : w.Tracks Aborts) (free : w.windowAction ≠ .forbid) (allow : w.parameters.Allow)
    (booted : w.parameters.bootCompleted = true) (installed : w.isDialogInstalled = true) (accepts : a.Accepts) :
    (w.popUpFunctionSwitchWindow a).2.Tracks (· = false) := by
  obtain ⟨prompt, temp, supported⟩ := allow
  have wanted : ({ w with windowAction := .show } : UsbFunctionSwitchWindow).Tracks Aborts := tracks.same rfl rfl
  rw [popUpFunctionSwitchWindow, if_pos prompt, if_pos temp, if_neg (Int.not_lt.2 supported), if_neg free, if_pos booted]
  exact wanted.show installed accepts

theorem Tracks.dismiss (tracks : w.Tracks Aborts) (free : w.windowAction ≠ .forbid) (accepts : a.Accepts)
    (disconnected : Bool) : (w.dismissFunctionSwitchWindow a disconnected).2.Tracks (· = true) := by
  have dismissed : ({ w with windowAction := .dismiss } : UsbFunctionSwitchWindow).Tracks Aborts := tracks.same rfl rfl
  rw [dismissFunctionSwitchWindow, if_neg free]
  exact dismissed.unShow accepts disconnected

theorem Tracks.bootCompleted (tracks : w.Tracks Aborts)
    (wanted : w.windowAction = .show → ∀ flag, Aborts flag ↔ flag = false)
    (accepts : a.Accepts) : (w.bootCompletedEventCallback a).Tracks Aborts := by
  unfold bootCompletedEventCallback showWindowIfConnected
  split
  · split
    · next shown =>
      have reopened : w.Tracks (· = false) := tracks.mono fun flag => (wanted shown flag).1
      exact (reopened.show_wanted accepts).mono fun flag => (wanted shown flag).2
    · exact tracks
  · exact tracks

theorem Tracks.onAbilityDisconnectDone (tracks : w.Tracks Aborts) (conn : Nat) :
    (w.onAbilityDisconnectDone conn).Tracks Aborts := by
  unfold UsbFunctionSwitchWindow.onAbilityDisconnectDone
  split
  · next object there => exact tracks.setConn there rfl
  · exact tracks

theorem Tracks.showDialog (tracks : w.Tracks Aborts) (conn : Nat) (remoteObject : DialogRemote) (shown : Bool) :
    (w.showDialog conn remoteObject shown).Tracks Aborts := by
  have asked := tracks.call (.showDialog remoteObject)
  unfold UsbFunctionSwitchWindow.showDialog
  dsimp only
  split
  · next object there =>
    split
    · exact asked.setConn there rfl
    · exact asked
  · exact asked

end UsbFunctionSwitchWindow

/-! ## Completions -/

namespace Desk

variable {k k' : Desk}

/-- Everything that the dialog needs is there when the gadget manager works, and no check is on its way then. -/
def Settled (k : Desk) : Action → Prop
  | .gadget _ a _ =>
    k.window.parameters.Allow ∧ k.window.parameters.bootCompleted = true ∧ k.window.isDialogInstalled = true ∧
      a.Accepts ∧ k.checking = 0
  | .bootCompleted a | .checked a => a.Accepts
  | _ => True

/-- The flag of the connection object is that of the window, which follows the gadget. -/
structure Synced (k : Desk) : Prop where
  wanted : k.Wanted
  follows : k.manager.wantsWindow = true → k.window.windowAction = .show
  tracks : k.window.Tracks (· = !k.manager.wantsWindow)
  checking : k.checking ≠ 0 → k.manager.wantsWindow = true

theorem Synced.gadget (synced : k.Synced) {operation : Driver × Gadget.Action} {a : AbilityAnswers} {disconnected : Bool}
    (settled : k.Settled (.gadget operation a disconnected)) (taken : k.act (.gadget operation a disconnected) = some k') :
    k'.window.Tracks (· = !k'.manager.wantsWindow) ∧ k'.checking = 0 := by
  obtain ⟨allow, booted, installed, accepts, checking⟩ := settled
  obtain ⟨m, -, ⟨wants, rfl⟩ | rfl⟩ := gadget_cases taken
  · refine ⟨?_, checking⟩
    dsimp only
    rw [wants]
    exact synced.tracks
  · refine ⟨?_, checking⟩
    change ((if m.wantsWindow then (k.window.popUpFunctionSwitchWindow a).2
      else (k.window.dismissFunctionSwitchWindow a disconnected).2).Tracks (· = !m.wantsWindow))
    cases m.wantsWindow with
    | true => exact synced.tracks.popUp synced.wanted.free allow booted installed accepts
    | false => exact synced.tracks.dismiss synced.wanted.free accepts disconnected

theorem Synced.other (synced : k.Synced) {action : Action} (settled : k.Settled action) (taken : k.act action = some k')
    (manager : k'.manager = k.manager) (other : ∀ operation a disconnected, action ≠ .gadget operation a disconnected) :
    k'.window.Tracks (· = !k'.manager.wantsWindow) ∧ (k'.checking ≠ 0 → k'.manager.wantsWindow = true) := by
  rw [manager]
  cases action with
  | gadget operation a disconnected => exact absurd rfl (other operation a disconnected)
  | setParameters parameters =>
    obtain rfl := Option.some.inj taken
    exact ⟨synced.tracks.same rfl rfl, synced.checking⟩
  | bootCompleted a =>
    obtain rfl := Option.some.inj taken
    refine ⟨synced.tracks.bootCompleted (fun shown flag => ?_) settled, synced.checking⟩
    rw [synced.wanted.wanted shown]
    rfl
  | check installed =>
    obtain rfl := Option.some.inj taken
    refine ⟨synced.tracks.same rfl rfl, fun checking => ?_⟩
    dsimp only at checking
    split at checking
    · next goesOn =>
      simp only [Bool.and_eq_true, decide_eq_true_eq] at goesOn
      exact synced.wanted.wanted goesOn.1.2
    · exact synced.checking checking
  | checked a =>
    simp only [act] at taken
    split at taken
    · cases taken
    · next checking =>
      obtain rfl := Option.some.inj taken
      have wants := synced.checking checking
      have tracks := synced.tracks
      rw [wants] at tracks ⊢
      exact ⟨tracks.show_wanted settled, fun _ => rfl⟩
  | connectDone conn remoteObject =>
    simp only [act] at taken
    split at taken
    · obtain ⟨object, -, rfl⟩ := Option.map_eq_some_iff.1 taken
      unfold complete
      dsimp only
      split
      · exact ⟨synced.tracks, synced.checking⟩
      · exact ⟨synced.tracks, synced.checking⟩
      · exact ⟨synced.tracks.call _, synced.checking⟩
      · exact ⟨synced.tracks, synced.checking⟩
    · cases taken
  | showDialog conn remoteObject shown =>
    simp only [act] at taken
    split at taken
    · obtain rfl := Option.some.inj taken
      exact ⟨synced.tracks.showDialog conn remoteObject shown, synced.checking⟩
    · cases taken
  | disconnectDone conn =>
    obtain rfl := Option.some.inj taken
    exact ⟨synced.tracks.onAbilityDisconnectDone conn, synced.checking⟩

theorem Synced.step (synced : k.Synced) {action : Action} (settled : k.Settled action) (taken : k.step action = some k') :
    k'.Synced := by
  have acted := act_of_step taken
  rcases action.gadget_or_other with ⟨operation, a, disconnected, rfl⟩ | other
  · obtain ⟨tracks, checking⟩ := synced.gadget settled acted
    exact ⟨synced.wanted.step taken, synced.wanted.follows settled.1 acted synced.follows, tracks,
      fun some => absurd checking some⟩
  · obtain ⟨manager, kept⟩ := act_windowAction acted other
    obtain ⟨tracks, checking⟩ := synced.other settled acted manager other
    refine ⟨synced.wanted.step taken, ?_, tracks, checking⟩
    rw [manager, kept]
    exact synced.follows

end Desk

instance (a : AbilityAnswers) : Decidable a.Accepts := inferInstanceAs (Decidable (_ ∧ _))

instance : ∀ (k : Desk) (action : Desk.Action), Decidable (k.Settled action)
  | _, .gadget .. => inferInstanceAs (Decidable (_ ∧ _))
  | _, .bootCompleted a | _, .checked a => inferInstanceAs (Decidable a.Accepts)
  | _, .setParameters _ | _, .check _ | _, .connectDone .. | _, .showDialog .. | _, .disconnectDone _ =>
    inferInstanceAs (Decidable True)

end UsbManager.Gadget
