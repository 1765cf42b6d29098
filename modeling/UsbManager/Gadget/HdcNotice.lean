import UsbManager.Gadget.Functions
import UsbManager.Lib.Toggle

/-!
# The notification of HDC debugging

`hasHdcNotifier_` stands for the notification that debugging is possible. `ProcessFunctionNotifier` sets it
by the connection and the functions that it is called with, and every section that writes `connected_` or
`currentFunctions_` calls it with both before it gives `deviceMutex_` back. An early return of
`UpdateFunctions` comes before the write, and the branches of `ProcessFuncChange` meet again at the notifier.
-/

namespace UsbManager.Gadget

open Timer Transition

namespace UsbDeviceManager

variable (m : UsbDeviceManager)

/-! ## The notification as a toggle -/

/-- The calls of `SendHdcNotification` and `CancelHdcNotification`, the first one first. -/
def hdcCalls : List Notice :=
  m.notices.reverse.filter fun notice => notice = .sendHdcNotification ∨ notice = .cancelHdcNotification

def hdcNotification : Toggle where
  isOn := m.hasHdcNotifier
  turns := m.hdcCalls.map fun notice => notice = .sendHdcNotification

def hasHdc (func : UInt32) : Bool := func &&& usbFunctionHdc ≠ 0

/-- Debugging is possible over the connection. -/
def debugging : Bool := m.connected && hasHdc m.currentFunctions

theorem hdcCalls_notify (notice : Notice) :
    (m.notify notice).hdcCalls =
      if notice = .sendHdcNotification ∨ notice = .cancelHdcNotification then m.hdcCalls ++ [notice]
      else m.hdcCalls := by
  simp only [hdcCalls, notify, List.reverse_cons, List.filter_append, List.filter_singleton]
  split_ifs with own
  · rcases own with rfl | rfl <;> rfl
  · obtain ⟨send, cancel⟩ := not_or.1 own
    simp [send, cancel]

/-- Other notices do not turn it. -/
theorem hdcNotification_notify {notice : Notice}
    (other : ¬ (notice = .sendHdcNotification ∨ notice = .cancelHdcNotification)) :
    (m.notify notice).hdcNotification = m.hdcNotification := by
  unfold hdcNotification
  rw [hdcCalls_notify, if_neg other]
  rfl

/-- It is shown unless it is there already. -/
theorem hdcNotification_send :
    (if !m.hasHdcNotifier then m.sendHdcNotification else m).hdcNotification = m.hdcNotification.set true := by
  have calls : m.sendHdcNotification.hdcCalls = m.hdcCalls ++ [.sendHdcNotification] :=
    (hdcCalls_notify m .sendHdcNotification).trans (if_pos (.inl rfl))
  unfold hdcNotification Toggle.set
  cases shown : m.hasHdcNotifier with
  | true => simp [shown]
  | false =>
    simp only [Bool.not_false, if_true, Bool.false_eq_true, if_false, calls]
    simp [sendHdcNotification]

theorem hdcNotification_cancel :
    (if m.hasHdcNotifier then m.cancelHdcNotification else m).hdcNotification = m.hdcNotification.set false := by
  have calls : m.cancelHdcNotification.hdcCalls = m.hdcCalls ++ [.cancelHdcNotification] :=
    (hdcCalls_notify m .cancelHdcNotification).trans (if_pos (.inr rfl))
  unfold hdcNotification Toggle.set
  cases shown : m.hasHdcNotifier with
  | false => simp [shown]
  | true =>
    simp only [if_true, Bool.true_eq_false, if_false, calls]
    simp [cancelHdcNotification]

/-! ## The sections -/

/-- The notifier sets the notification, whatever it was. -/
theorem hdcNotification_processFunctionNotifier (connected : Bool) (func : UInt32) :
    (m.processFunctionNotifier connected func).hdcNotification =
      m.hdcNotification.set (connected && hasHdc func) := by
  unfold processFunctionNotifier
  dsimp only
  cases connected with
  | false =>
    have hidden : (m.notify .cancelNotification).hdcNotification = m.hdcNotification :=
      hdcNotification_notify m (by simp)
    rw [if_neg Bool.false_ne_true, Bool.false_and, ← hidden]
    exact hdcNotification_cancel _
  | true =>
    have shown : (m.notify (.sendNotification (m.notifierFunction func))).hdcNotification = m.hdcNotification :=
      hdcNotification_notify m (by simp)
    rw [if_pos rfl, Bool.true_and, ← shown, hasHdc]
    by_cases hdc : func &&& usbFunctionHdc = 0
    · simp only [hdc, ne_eq, not_true_eq_false, decide_false, decide_true, Bool.false_and, Bool.true_and,
        Bool.false_eq_true, if_false]
      exact hdcNotification_cancel _
    · simp only [hdc, ne_eq, not_false_eq_true, decide_false, decide_true, Bool.false_and, Bool.true_and,
        Bool.false_eq_true, if_false]
      exact hdcNotification_send _

/-- The notification follows the connection and the functions. -/
structure HdcShown : Prop where
  sound : m.hdcNotification.Sound
  isOn : m.hasHdcNotifier = m.debugging

variable {m}

/-- The notifier brings the notification up to date, however far behind it was. -/
theorem hdcShown_processFunctionNotifier (sound : m.hdcNotification.Sound) :
    (m.processFunctionNotifier m.connected m.currentFunctions).HdcShown := by
  have turned := hdcNotification_processFunctionNotifier m m.connected m.currentFunctions
  have connected : (m.processFunctionNotifier m.connected m.currentFunctions).connected = m.connected :=
    congrArg Link.connected (link_processFunctionNotifier m m.connected m.currentFunctions)
  have functions : (m.processFunctionNotifier m.connected m.currentFunctions).currentFunctions = m.currentFunctions :=
    congrArg Prod.fst (masks_processFunctionNotifier m m.connected m.currentFunctions)
  constructor
  case sound =>
    rw [turned]
    exact sound.set _
  case isOn =>
    rw [debugging, connected, functions]
    exact (congrArg Toggle.isOn turned).trans (Toggle.set_isOn _)

theorem hdcShown_processFuncChange (sound : m.hdcNotification.Sound) :
    (m.processFuncChange m.connected m.currentFunctions).HdcShown := by
  have announced : (m.broadcastFuncChange m.connected m.currentFunctions).hdcNotification = m.hdcNotification :=
    hdcNotification_notify m (by simp)
  unfold processFuncChange
  dsimp only
  split
  · refine hdcShown_processFunctionNotifier ?_
    rw [announced]
    exact sound
  · refine @hdcShown_processFunctionNotifier (processFunctionSwitchWindow _ _) ?_
    rw [processFunctionSwitchWindow, hdcNotification_notify _ (by split <;> simp), announced]
    exact sound

theorem hdcShown_updateFunctions (shown : m.HdcShown) (func : UInt32) : (m.updateFunctions func).HdcShown := by
  unfold updateFunctions
  split
  · exact shown
  · dsimp only
    split
    · exact @hdcShown_processFunctionNotifier { m with currentFunctions := func } shown.sound
    · refine @hdcShown_processFunctionNotifier (broadcastFuncChange { m with currentFunctions := func } _ _) ?_
      rw [broadcastFuncChange, hdcNotification_notify _ (by simp)]
      exact shown.sound

theorem hdcShown_setCurrentFunctions (shown : m.HdcShown) (a : Answers) (funcs : UInt32) :
    (m.setCurrentFunctions a funcs).2.HdcShown := by
  unfold setCurrentFunctions
  dsimp only
  split
  · split
    · exact shown
    · split
      · exact shown
      · split
        · exact shown
        · exact @hdcShown_updateFunctions { m with driver := (m.driver.setCurrentFunctions a funcs).2 }
            ⟨shown.sound, shown.isOn⟩ funcs
  · exact shown

theorem hdcShown_userChangeProcess (shown : m.HdcShown) (a : Answers) : (m.userChangeProcess a).2.HdcShown := by
  unfold userChangeProcess
  dsimp only
  refine hdcShown_processFunctionNotifier ?_
  split
  · split
    · rw [broadcastFuncChange, hdcNotification_notify _ (by simp)]
      exact shown.sound
    · exact shown.sound
  · exact shown.sound

/-- An event registers a task at most, and closes the window. -/
theorem hdcShown_handleEvent (shown : m.HdcShown) (status : Status) : (m.handleEvent status).HdcShown := by
  have processed : ∀ connect, (m.processStatus status connect).2.HdcShown := by
    intro connect
    have closed : (processFunctionSwitchWindow { m with isDisableDialog := true } false).HdcShown := by
      have turned : (processFunctionSwitchWindow { m with isDisableDialog := true } false).hdcNotification =
          m.hdcNotification := hdcNotification_notify _ (by simp)
      exact ⟨turned ▸ shown.sound, shown.isOn⟩
    cases status with
    | actUpDevice | actDownDevice => exact ⟨shown.sound, shown.isOn⟩
    | actAccessoryUp | actAccessoryDown | actAccessorySend | actCustomControlRequest => exact closed
    | actDevUp | actDevDown | unknown => exact shown
  unfold handleEvent
  split
  · have shown := processed false
    dsimp only
    split
    · exact ⟨shown.sound, shown.isOn⟩
    · split
      · exact ⟨shown.sound, shown.isOn⟩
      · exact ⟨shown.sound, shown.isOn⟩
  · exact shown

theorem hdcShown_runTask (shown : m.HdcShown) (a : Answers) (task : Task) : (m.runTask a task).HdcShown := by
  cases task with
  | connect => exact @hdcShown_processFuncChange { m with connected := true, currentFunctions := _ } shown.sound
  | disconnect =>
    unfold runTask disconnectTask
    refine hdcShown_processFuncChange ?_
    split
    · exact shown.sound
    · split
      · exact shown.sound
      · exact shown.sound

theorem hdcShown_step {m' : UsbDeviceManager} {action : Action} (shown : m.HdcShown)
    (taken : m.step action = some m') : m'.HdcShown := by
  cases action with
  | handleEvent status =>
    obtain rfl := Option.some.inj taken
    exact hdcShown_handleEvent shown status
  | fire timer a =>
    obtain ⟨⟨task, timers⟩, -, rfl⟩ := Option.map_eq_some_iff.1 taken
    exact @hdcShown_runTask { m with timers := timers } ⟨shown.sound, shown.isOn⟩ a task
  | setCurrentFunctions funcs a =>
    obtain rfl := Option.some.inj taken
    exact hdcShown_setCurrentFunctions shown a funcs
  | userChangeProcess a =>
    obtain rfl := Option.some.inj taken
    exact hdcShown_userChangeProcess shown a
  | setPhyConnectState phyConnect =>
    obtain rfl := Option.some.inj taken
    exact ⟨shown.sound, shown.isOn⟩
  | setChargeFlag isReverseCharge =>
    obtain rfl := Option.some.inj taken
    exact ⟨shown.sound, shown.isOn⟩

/-- An operation finds the driver with any mask: others may have set it since the one before. -/
def operate (m : UsbDeviceManager) : Driver × Action → Option UsbDeviceManager
  | (driver, action) => { m with driver := driver }.step action

theorem hdcShown_operate {m' : UsbDeviceManager} {operation : Driver × Action} (shown : m.HdcShown)
    (taken : m.operate operation = some m') : m'.HdcShown :=
  @hdcShown_step { m with driver := operation.1 } m' operation.2 ⟨shown.sound, shown.isOn⟩ taken

/-- What the turns say of the calls. -/
theorem HdcShown.calls (shown : m.HdcShown) {i : Nat} {notice : Notice} (found : m.hdcCalls[i]? = some notice) :
    notice = if i % 2 = 0 then .sendHdcNotification else .cancelHdcNotification := by
  have turn : m.hdcNotification.turns[i]? = some (decide (notice = .sendHdcNotification)) := by
    rw [hdcNotification, List.getElem?_map, found]
    rfl
  have own := List.mem_filter.1 (List.mem_of_getElem? found)
  have parity := decide_eq_decide.1 (shown.sound.alternate i _ turn)
  rcases of_decide_eq_true own.2 with rfl | rfl
  · rw [if_pos (parity.1 rfl)]
  · rw [if_neg fun even => by cases parity.2 even]

end UsbDeviceManager

/-- After every operation the notification of debugging is shown exactly if the gadget is connected with the function
for it, and its two calls take turns from the first one that shows it. -/
theorem hdc_notification_follows {present : Bool} {driver : Driver} {m : UsbDeviceManager}
    (run : Reach UsbDeviceManager.operate anyStep { usbDeviceInterface := present, driver := driver } m) :
    (m.hasHdcNotifier = true ↔ m.connected = true ∧ m.currentFunctions &&& usbFunctionHdc ≠ 0) ∧
      ∀ i notice, m.hdcCalls[i]? = some notice →
        notice = if i % 2 = 0 then .sendHdcNotification else .cancelHdcNotification := by
  have shown : m.HdcShown := by
    have start : UsbDeviceManager.HdcShown { usbDeviceInterface := present, driver := driver } :=
      ⟨Toggle.sound_start, rfl⟩
    refine run.invariant UsbDeviceManager.HdcShown start ?_
    intro m operation m' shown _ taken
    exact UsbDeviceManager.hdcShown_operate shown taken
  constructor
  · rw [shown.isOn, UsbDeviceManager.debugging, UsbDeviceManager.hasHdc, Bool.and_eq_true, decide_eq_true_eq]
  · intro i notice found
    exact shown.calls found

/-- Connected with debugging, changed to storage only, and back. -/
theorem hdc_notification_follows_storage :
    ∃ m, Reach UsbDeviceManager.operate anyStep { usbDeviceInterface := true } m ∧ m.hasHdcNotifier = true ∧
      m.hdcCalls = [.sendHdcNotification, .cancelHdcNotification, .sendHdcNotification] := by
  have run : Reach UsbDeviceManager.operate anyStep { usbDeviceInterface := true } _ :=
    reach_of_runFrom
      [({ functions := usbFunctionHdc }, .handleEvent .actUpDevice),
        ({ functions := usbFunctionHdc }, .fire 0 {}),
        ({ functions := usbFunctionHdc }, .setCurrentFunctions usbFunctionStorage {}),
        ({ functions := usbFunctionStorage }, .setCurrentFunctions usbFunctionHdc {})]
      (fun _ _ _ => trivial) .init rfl
  have shown := (hdc_notification_follows run).1
  exact ⟨_, run, shown.2 ⟨rfl, by decide⟩, rfl⟩

end UsbManager.Gadget
