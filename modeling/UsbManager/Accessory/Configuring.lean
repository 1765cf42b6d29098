import UsbManager.Accessory.Manager

/-!
# The switch to accessory mode

A switch that has begun is to be finished or undone: while `accStatus_` is `ACC_CONFIGURING` the restore
task is to be pending, and at no other time. `ProcessHandle` cancels the task before it asks the driver
anything and arms it again on one of its branches only. When the driver fails, or is not in accessory
mode yet when the plug event comes, the manager keeps configuring with nothing to undo it; and a send
event leaves the status without cancelling the task.
-/

namespace UsbManager.Accessory

open Timer Transition
open Gadget (Status)

/-! ## The clock of the manager -/

/-- The part of the manager that its timers depend on. -/
structure Clock where
  usbDeviceInterface : Bool
  accStatus : AccessoryMode
  accDelayTimerId : Option Nat
  antiShakeDelayTimerId : Option Nat
  timers : Timers Task

namespace Clock

variable (c : Clock)

def enter (accStatus : AccessoryMode) : Clock := { c with accStatus := accStatus }

def cancel : Clock := { c with timers := c.timers.unregister c.accDelayTimerId }

def calm : Clock := { c with timers := c.timers.unregister c.antiShakeDelayTimerId }

def arm : Clock :=
  let (id, timers) := c.timers.register .restore delayAccInterval
  { c with timers := timers, accDelayTimerId := some id, accStatus := .accConfiguring }

def shake : Clock :=
  let (id, timers) := c.timers.register .antiShake antiShakeInterval
  { c with timers := timers, antiShakeDelayTimerId := some id }

/-- Each of the two tasks is pending under its number only. -/
structure Timed : Prop where
  present : c.usbDeviceInterface = true
  fresh : c.timers.Fresh
  restore : c.timers.Owns .restore c.accDelayTimerId
  antiShake : c.timers.Owns .antiShake c.antiShakeDelayTimerId

/-- The restore task is pending exactly while the manager configures. -/
def Armed : Prop := c.accStatus = .accConfiguring ↔ c.timers.Pending .restore

variable {c}

theorem Timed.enter (timed : c.Timed) (accStatus : AccessoryMode) : (c.enter accStatus).Timed :=
  ⟨timed.present, timed.fresh, timed.restore, timed.antiShake⟩

theorem Timed.unregister (timed : c.Timed) (id : Option Nat) : { c with timers := c.timers.unregister id }.Timed :=
  ⟨timed.present, timed.fresh.unregister id, timed.restore.unregister id, timed.antiShake.unregister id⟩

theorem Timed.arm (timed : c.Timed) : c.cancel.arm.Timed where
  present := timed.present
  fresh := (timed.fresh.unregister _).register _ _
  restore := .register (timed.fresh.unregister _) timed.restore.not_pending _
  antiShake := (timed.antiShake.unregister _).register_other (show Task.restore ≠ Task.antiShake by decide) _

theorem Timed.shake (timed : c.Timed) : c.calm.shake.Timed where
  present := timed.present
  fresh := (timed.fresh.unregister _).register _ _
  restore := (timed.restore.unregister _).register_other (show Task.antiShake ≠ Task.restore by decide) _
  antiShake := .register (timed.fresh.unregister _) timed.antiShake.not_pending _

/-! Which changes keep the task and the status together. -/

/-- With the task cancelled, the manager must not configure. -/
theorem Timed.armed_cancel (timed : c.Timed) : c.cancel.Armed ↔ c.accStatus ≠ .accConfiguring := by
  have none : ¬ c.cancel.timers.Pending .restore := timed.restore.not_pending
  exact iff_false_right none

theorem Timed.armed_cancel_enter (timed : c.Timed) {accStatus : AccessoryMode} (other : accStatus ≠ .accConfiguring) :
    (c.cancel.enter accStatus).Armed := by
  have none : ¬ c.cancel.timers.Pending .restore := timed.restore.not_pending
  exact (iff_false_right none).2 other

theorem armed_arm : c.cancel.arm.Armed := by
  have pending : c.cancel.arm.timers.Pending .restore := (Timers.pending_register _).2 (.inl rfl)
  exact ⟨fun _ => pending, fun _ => rfl⟩

theorem Timed.armed_calm (timed : c.Timed) : c.calm.Armed ↔ c.Armed := by
  have same : c.calm.timers.Pending .restore ↔ c.timers.Pending .restore :=
    timed.antiShake.pending_unregister nofun
  rw [Armed, same]
  rfl

theorem armed_shake : c.shake.Armed ↔ c.Armed := by
  have same : c.shake.timers.Pending .restore ↔ c.timers.Pending .restore := by
    simp [shake, Timers.pending_register]
  rw [Armed, same]
  rfl

/-- Leaving the status without touching the task. -/
theorem armed_enter {accStatus : AccessoryMode} (armed : c.Armed) (other : accStatus ≠ .accConfiguring) :
    (c.enter accStatus).Armed ↔ c.accStatus ≠ .accConfiguring := by
  have now : c.accStatus = .accConfiguring ↔ c.timers.Pending .restore := armed
  simp [Armed, enter, other, now]

end Clock

namespace UsbAccessoryManager

variable (m : UsbAccessoryManager)

def clock : Clock where
  usbDeviceInterface := m.usbDeviceInterface
  accStatus := m.accStatus
  accDelayTimerId := m.accDelayTimerId
  antiShakeDelayTimerId := m.antiShakeDelayTimerId
  timers := m.timers

/-! ## The condition -/

/-- An event that comes while the manager configures and cancels the restore task finds the driver in
accessory mode or puts it there; and no send event comes then. -/
def FinishesEvent (a : Answers) (status : Status) : Prop :=
  m.accStatus = .accConfiguring →
    match m.requested status with
    | .accConfiguring => a.getRet = .uecOk ∧ (m.functions &&& funAccessory ≠ 0 ∨ a.setRet = .uecOk)
    | .accStart => a.getRet = .uecOk ∧ m.functions &&& funAccessory ≠ 0
    | .accSend => False
    | .accStop | .accNone => True

/-- The condition on the events that are processed, at once or after the anti-shake delay. -/
def Finishes : Action → Prop
  | .handleEvent status delayProcess a => delays status delayProcess = false → m.FinishesEvent a status
  | .fire timer a => ∀ fired ∈ m.timers.fire timer, fired.1 = .antiShake → m.FinishesEvent a m.eventStatus
  | .others _ => True

variable {m} {m' : UsbAccessoryManager} {a : Answers} {mode : AccessoryMode}

/-! ## One event -/

@[simp]
theorem clock_processAccessorySend : (m.processAccessorySend a).clock = m.clock.enter .accSend := by
  unfold processAccessorySend
  dsimp only
  split
  · split <;> rfl
  · rfl

theorem Handled.timed (handled : m.Handled a mode m') (timed : m.clock.Timed) : m'.clock.Timed := by
  cases handled with
  | none | ignored => exact timed
  | unread | again | early | refused => exact timed.unregister _
  | announced => exact (timed.unregister _).enter .accStart
  | configured => exact timed.arm
  | stopped => exact timed.enter .accStop
  | sent =>
    rw [clock_processAccessorySend]
    exact timed.enter .accSend

/-- What an event that is processed does to the restore task. -/
theorem Handled.armed_iff {status : Status} (handled : m.Handled a (m.requested status) m') (timed : m.clock.Timed)
    (armed : m.clock.Armed) : m'.clock.Armed ↔ m.FinishesEvent a status := by
  unfold FinishesEvent
  generalize m.requested status = mode at handled
  cases handled with
  | none | ignored => simp [armed]
  | unread asks failed =>
    refine timed.armed_cancel.trans ?_
    rcases asks with rfl | rfl <;> simp [failed, clock]
  | announced asks got inside out =>
    have now : (m.read.announce a).clock.Armed :=
      timed.armed_cancel_enter (show AccessoryMode.accStart ≠ .accConfiguring by decide)
    rcases asks with rfl | rfl <;> simp [now, got, inside]
  | again asks got inside started =>
    refine timed.armed_cancel.trans ?_
    rcases asks with rfl | rfl <;> simp [started, clock]
  | early got outside =>
    refine timed.armed_cancel.trans ?_
    simp [outside, clock]
  | refused got outside failed =>
    refine timed.armed_cancel.trans ?_
    simp [outside, failed, clock]
  | configured got outside ok =>
    exact ⟨fun _ _ => ⟨got, .inr ok⟩, fun _ => Clock.armed_arm (c := m.clock)⟩
  | stopped inside started =>
    have other : m.clock.accStatus ≠ .accConfiguring := by simp [clock, started]
    have now : (m.stopped a).clock.Armed :=
      (Clock.armed_enter armed (show AccessoryMode.accStop ≠ .accConfiguring by decide)).2 other
    simp [now]
  | sent =>
    rw [clock_processAccessorySend]
    refine (Clock.armed_enter armed (by decide)).trans ?_
    simp [clock]

/-! ## One step -/

theorem processed_timed (timed : m.clock.Timed) (mode : AccessoryMode) :
    (m.processHandle a mode).clock.Timed := (handled a timed.present mode).timed timed

theorem processed_armed_iff (timed : m.clock.Timed) (armed : m.clock.Armed)
    (status : Status) : (m.processHandle a (m.requested status)).clock.Armed ↔ m.FinishesEvent a status :=
  (handled a timed.present (m.requested status)).armed_iff timed armed

/-- The state in which an event is delayed or processed. -/
def noted (m : UsbAccessoryManager) (status : Status) (delayProcess : Bool) : UsbAccessoryManager :=
  { m with
    eventStatus := status
    timers := if delayProcess then m.timers.unregister m.antiShakeDelayTimerId else m.timers }

/-- The state with a new anti-shake timer. -/
def shaken (m : UsbAccessoryManager) : UsbAccessoryManager :=
  let (id, timers) := m.timers.register .antiShake antiShakeInterval
  { m with timers := timers, antiShakeDelayTimerId := some id }

theorem handleEvent_eq (present : m.usbDeviceInterface = true) (status : Status) (delayProcess : Bool) :
    (delays status delayProcess = true ∧ m.handleEvent a status delayProcess = (m.noted status true).shaken) ∨
      (delays status delayProcess = false ∧
        m.handleEvent a status delayProcess =
          (m.noted status delayProcess).processHandle a ((m.noted status delayProcess).requested status)) := by
  unfold handleEvent
  rw [if_pos present]
  dsimp only
  cases late : delays status delayProcess with
  | true =>
    have delayed : delayProcess = true := (Bool.and_eq_true_iff.1 late).2
    rw [if_pos rfl, if_pos delayed]
    exact .inl ⟨rfl, rfl⟩
  | false =>
    rw [if_neg (by simp)]
    cases delayProcess <;> exact .inr ⟨rfl, rfl⟩

/-- Taking note of an event keeps the clock in order. -/
theorem noted_timed (timed : m.clock.Timed) (status : Status) (delayProcess : Bool) :
    (m.noted status delayProcess).clock.Timed := by
  cases delayProcess with
  | false => exact ⟨timed.present, timed.fresh, timed.restore, timed.antiShake⟩
  | true => exact timed.unregister _

theorem noted_armed (timed : m.clock.Timed) (status : Status) (delayProcess : Bool) :
    (m.noted status delayProcess).clock.Armed ↔ m.clock.Armed := by
  cases delayProcess with
  | false => exact Iff.rfl
  | true => exact timed.armed_calm

theorem handleEvent_timed (timed : m.clock.Timed) (status : Status)
    (delayProcess : Bool) : (m.handleEvent a status delayProcess).clock.Timed := by
  rcases handleEvent_eq timed.present status delayProcess with ⟨-, later⟩ | ⟨-, now⟩
  · rw [later]
    exact Clock.Timed.shake (c := m.clock) timed
  · rw [now]
    exact processed_timed (m := m.noted status delayProcess) (noted_timed timed status delayProcess) _

theorem handleEvent_armed_iff (timed : m.clock.Timed) (armed : m.clock.Armed)
    (status : Status) (delayProcess : Bool) :
    (m.handleEvent a status delayProcess).clock.Armed ↔
      (delays status delayProcess = false → m.FinishesEvent a status) := by
  rcases handleEvent_eq timed.present status delayProcess with ⟨late, later⟩ | ⟨prompt, now⟩
  · rw [later, late]
    have kept : (m.noted status true).shaken.clock.Armed := Clock.armed_shake.2 (timed.armed_calm.2 armed)
    simp [kept]
  · rw [now, prompt]
    refine (processed_armed_iff (m := m.noted status delayProcess) (noted_timed timed status delayProcess)
      ((noted_armed timed status delayProcess).2 armed) status).trans ?_
    exact ⟨fun finishes _ => finishes, fun finishes => finishes rfl⟩

theorem timed_step (timed : m.clock.Timed) {action : Action} (taken : m.step action = some m') : m'.clock.Timed := by
  cases stepped timed.present taken with
  | handled => exact handleEvent_timed timed _ _
  | shaken fired =>
    obtain rfl := timed.antiShake.fire fired
    exact handleEvent_timed (m := { m with timers := _ }) (timed.unregister _) _ _
  | restored fired =>
    obtain rfl := timed.restore.fire fired
    exact (timed.unregister _).enter .accStop
  | others => exact timed

/-- A step keeps the restore task and the status together exactly if it meets the condition. -/
theorem armed_step_iff (timed : m.clock.Timed) (armed : m.clock.Armed) {action : Action}
    (taken : m.step action = some m') : m'.clock.Armed ↔ m.Finishes action := by
  have only {timer : Nat} {task : Task} {timers : Timers Task} (fired : m.timers.fire timer = some (task, timers))
      (P : Task → Prop) : (∀ other ∈ m.timers.fire timer, P other.1) ↔ P task := by
    rw [fired]
    simp
  cases stepped timed.present taken with
  | handled => exact handleEvent_armed_iff timed armed _ _
  | @shaken timer a timers fired =>
    refine Iff.trans ?_ (only fired fun task => task = .antiShake → m.FinishesEvent a m.eventStatus).symm
    obtain rfl := timed.antiShake.fire fired
    refine (handleEvent_armed_iff (m := { m with timers := _ }) (timed.unregister _) (timed.armed_calm.2 armed)
      m.eventStatus false).trans ?_
    simp only [delays, Bool.and_false, true_implies]
    exact Iff.rfl
  | @restored timer a timers fired =>
    refine Iff.trans ?_ (only fired fun task => task = .antiShake → m.FinishesEvent a m.eventStatus).symm
    obtain rfl := timed.restore.fire fired
    have now := timed.armed_cancel_enter (show AccessoryMode.accStop ≠ .accConfiguring by decide)
    exact ⟨fun _ other => (nomatch other), fun _ => now⟩
  | others => exact ⟨fun _ => trivial, fun _ => armed⟩

theorem reach_timed {guard : UsbAccessoryManager → Action → Prop} {functions : UInt32}
    (run : Reach step guard (start functions) m) : m.clock.Timed := by
  refine run.invariant (fun m => m.clock.Timed) ?_ ?_
  · exact ⟨rfl, nofun, ⟨nofun, nofun⟩, ⟨nofun, nofun⟩⟩
  · intro m action m' timed _ taken
    exact timed_step timed taken

end UsbAccessoryManager

/-- In a run whose steps meet the condition the restore task is pending exactly while the manager
configures; and a step from there keeps it so exactly if it meets the condition too. -/
theorem configuring_is_undone {functions : UInt32} {m : UsbAccessoryManager}
    (run : Reach UsbAccessoryManager.step UsbAccessoryManager.Finishes (.start functions) m) :
    (m.accStatus = .accConfiguring ↔ m.timers.Pending .restore) ∧
      ∀ action m', m.step action = some m' →
        ((m'.accStatus = .accConfiguring ↔ m'.timers.Pending .restore) ↔ m.Finishes action) := by
  have timed := UsbAccessoryManager.reach_timed run
  have armed : m.clock.Armed := by
    induction run with
    | init => exact ⟨nofun, fun ⟨r, member, _⟩ => nomatch member⟩
    | step before finishes taken ih =>
      have timed := UsbAccessoryManager.reach_timed before
      exact (UsbAccessoryManager.armed_step_iff timed (ih timed) taken).2 finishes
  exact ⟨armed, fun action m' taken => UsbAccessoryManager.armed_step_iff timed armed taken⟩

/-- The accessory starts and stops again, and the next switch to accessory mode is undone by the restore task. -/
theorem configuring_is_undone_switch :
    ∃ m m', Reach UsbAccessoryManager.step UsbAccessoryManager.Finishes (.start Gadget.usbFunctionHdc) m ∧
      m.accStatus = .accConfiguring ∧ m.timers.Pending .restore ∧
      m.step (.fire 2 {}) = some m' ∧ m'.accStatus = .accStop ∧ ¬ m'.timers.Pending .restore := by
  have switched : Reach UsbAccessoryManager.step UsbAccessoryManager.Finishes (.start Gadget.usbFunctionHdc) _ :=
    .step (a := .handleEvent .actAccessoryUp true {}) .init (fun _ configuring => nomatch configuring) rfl
  have started := switched.step (a := Action.handleEvent .actAccessoryUp true { accessorys := ["scanner"] })
    (fun _ _ => ⟨rfl, .inl (by decide)⟩) rfl
  -- the plug is pulled, and the anti-shake timer fires
  have shaken := started.step (a := Action.handleEvent .actDownDevice true {}) nofun rfl
  have stopped := shaken.step (a := Action.fire 1 {}) (fun _ _ _ configuring => nomatch configuring) rfl
  have again := stopped.step (a := Action.handleEvent .actAccessoryUp true {})
    (fun _ configuring => nomatch configuring) rfl
  have restored := again.step (a := Action.fire 2 {})
    (fun fired member antiShake => by obtain rfl := Option.some.inj member; cases antiShake) rfl
  refine ⟨_, _, again, rfl, (configuring_is_undone again).1.1 rfl, rfl, rfl, fun pending => ?_⟩
  exact nomatch (configuring_is_undone restored).1.2 pending

/-- The driver does not answer a second request: the manager configures and nothing undoes it. And a send
event leaves the restore task pending with the status `ACC_SEND`. -/
theorem configuring_stuck :
    (∃ m, Reach UsbAccessoryManager.step anyStep (.start Gadget.usbFunctionHdc) m ∧
      m.accStatus = .accConfiguring ∧ m.timers.pending = []) ∧
    ∃ m, Reach UsbAccessoryManager.step anyStep (.start Gadget.usbFunctionHdc) m ∧
      m.accStatus = .accSend ∧ m.timers.Pending .restore := by
  have unanswered : Reach UsbAccessoryManager.step anyStep (.start Gadget.usbFunctionHdc) _ := reach_of_runFrom
    [.handleEvent .actAccessoryUp true {}, .handleEvent .actAccessoryUp true { getRet := .hdfFailure }]
    (fun _ _ _ => trivial) .init rfl
  have sending : Reach UsbAccessoryManager.step anyStep (.start Gadget.usbFunctionHdc) _ := reach_of_runFrom
    [.handleEvent .actAccessoryUp true {}, .handleEvent .actAccessorySend true {}] (fun _ _ _ => trivial) .init rfl
  exact ⟨⟨_, unanswered, rfl, rfl⟩, _, sending, rfl, _, List.mem_singleton.2 rfl, rfl⟩

end UsbManager.Accessory
