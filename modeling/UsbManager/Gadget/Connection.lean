import UsbManager.Gadget.Manager
import UsbManager.Lib.Transition

/-!
# The gadget connection

A plug event reaches `connected_` through a delayed task, and every event first cancels the task
that is pending. The part of the manager that takes part in this is its `Link`. Functions and
notices never touch it, an event acts on it as `Link.event`, and a task as `Link.run`; the claim
about runs is about these three.

`HandleEvent` starts from `curConnect = false` and an event that is no plug event leaves it so. It is
then taken for a disconnection: while the cable is plugged it cancels the connect task, or starts
a disconnect task.
-/

namespace UsbManager.Gadget

open Timer Transition

/-! ## The link -/

structure Link where
  usbDeviceInterface : Bool
  connected : Bool
  gadgetConnected : Bool
  delayDisconnTimerId : Option Nat
  timers : Timers Task

/-- The events that tell whether the cable is plugged. -/
def Status.plugged : Status → Option Bool
  | .actUpDevice => some true
  | .actDownDevice => some false
  | _ => none

namespace Link

variable (l : Link)

def await (task : Task) (interval : Nat) : Link :=
  let (id, timers) := l.timers.register task interval
  { l with timers := timers, delayDisconnTimerId := some id }

def cancel : Link := { l with timers := l.timers.unregister l.delayDisconnTimerId }

/-- An event asks for the connection `curConnect` after the delay of its task. -/
def request (curConnect : Bool) (disconnDelay : Nat) : Link :=
  if l.connected = curConnect then l.cancel
  else if curConnect then l.cancel.await .connect delayConnectInterval
  else l.cancel.await .disconnect disconnDelay

def event (status : Status) (disconnDelay : Nat) : Link :=
  if l.usbDeviceInterface then
    match status.plugged with
    | some plugged => { l with gadgetConnected := plugged }.request plugged disconnDelay
    | none => l.request false disconnDelay
  else l

def run : Task → Link
  | .connect => { l with connected := true }
  | .disconnect => { l with connected := false }

end Link

namespace UsbDeviceManager

variable (m : UsbDeviceManager)

def link : Link where
  usbDeviceInterface := m.usbDeviceInterface
  connected := m.connected
  gadgetConnected := m.gadgetConnected
  delayDisconnTimerId := m.delayDisconnTimerId
  timers := m.timers

def disconnDelay : Nat :=
  if m.phyConnect then delayDisconnInterval + delayDisconnInterval else delayDisconnInterval

/-! ### What leaves the link alone -/

@[simp]
theorem link_processFunctionNotifier (connected : Bool) (func : UInt32) :
    (m.processFunctionNotifier connected func).link = m.link := by
  unfold processFunctionNotifier
  dsimp only
  split <;> split <;> (try split) <;> rfl

@[simp]
theorem link_processFuncChange (connected : Bool) (currentFunc : UInt32) :
    (m.processFuncChange connected currentFunc).link = m.link := by
  simp only [processFuncChange, link_processFunctionNotifier]
  split <;> rfl

@[simp]
theorem link_updateFunctions (func : UInt32) : (m.updateFunctions func).link = m.link := by
  unfold updateFunctions
  split
  · rfl
  · simp only [link_processFunctionNotifier]
    split <;> rfl

@[simp]
theorem link_setCurrentFunctions (a : Answers) (funcs : UInt32) :
    (m.setCurrentFunctions a funcs).2.link = m.link := by
  unfold setCurrentFunctions
  dsimp only
  repeat' split
  all_goals first
    | rfl
    | rw [link_updateFunctions]; rfl

@[simp]
theorem link_userChangeProcess (a : Answers) : (m.userChangeProcess a).2.link = m.link := by
  simp only [userChangeProcess, link_processFunctionNotifier]
  repeat' split
  all_goals rfl

/-! ### Tasks and events -/

theorem link_runTask (a : Answers) (task : Task) : (m.runTask a task).link = m.link.run task := by
  cases task with
  | connect =>
    simp only [runTask, connectTask, link_processFuncChange]
    rfl
  | disconnect =>
    simp only [runTask, disconnectTask, link_processFuncChange]
    repeat' split
    all_goals rfl

theorem link_handleEvent (status : Status) :
    (m.handleEvent status).link = m.link.event status m.disconnDelay := by
  unfold handleEvent Link.event
  cases present : m.usbDeviceInterface with
  | false => simp [link, present]
  | true =>
    cases status <;> cases plugged : m.connected <;>
      simp [link, present, plugged, processStatus, Status.plugged, Link.request, Link.cancel, Link.await,
        registerTask, disconnDelay, processFunctionSwitchWindow, notify] <;>
      exact ⟨rfl, rfl⟩

end UsbDeviceManager

/-! ## Runs -/

/-- What may happen to the manager, in any order. -/
inductive Action where
  | handleEvent (status : Status)
  /-- A pending timer fires; its task meets the driver's answers. -/
  | fire (timer : Nat) (a : Answers)
  | setCurrentFunctions (funcs : UInt32) (a : Answers)
  | userChangeProcess (a : Answers)
  | setPhyConnectState (phyConnect : Bool)
  | setChargeFlag (isReverseCharge : Bool)

def UsbDeviceManager.step (m : UsbDeviceManager) : Action → Option UsbDeviceManager
  | .handleEvent status => some (m.handleEvent status)
  | .fire timer a => (m.timers.fire timer).map fun (task, timers) => { m with timers := timers }.runTask a task
  | .setCurrentFunctions funcs a => some (m.setCurrentFunctions a funcs).2
  | .userChangeProcess a => some (m.userChangeProcess a).2
  | .setPhyConnectState phyConnect => some (m.setPhyConnectState phyConnect)
  | .setChargeFlag isReverseCharge => some (m.setChargeFlag isReverseCharge)

/-- A manager, and whether the last plug event so far was `ACT_UPDEVICE`. -/
structure Port where
  manager : UsbDeviceManager
  plugged : Bool

namespace Port

/-- After `InitUsbDeviceInterface`: the events come from the driver interface that it binds to. -/
def init : Port where
  manager := { usbDeviceInterface := true }
  plugged := false

def plugAfter (p : Port) : Action → Bool
  | .handleEvent status => status.plugged.getD p.plugged
  | _ => p.plugged

def step (p : Port) (a : Action) : Option Port :=
  (p.manager.step a).map fun manager => { manager := manager, plugged := p.plugAfter a }

/-- No connect or disconnect timer is pending. -/
def Settled (p : Port) : Prop := p.manager.timers.pending = []

def Pending (p : Port) (task : Task) : Prop := ∃ r ∈ p.manager.timers.pending, r.task = task

/-- Events other than plug events come only while `gadgetConnected_` is false. -/
def OthersUnplugged (p : Port) : Action → Prop
  | .handleEvent status => status.plugged = none → p.manager.gadgetConnected = false
  | _ => True

instance : ∀ (p : Port) (a : Action), Decidable (p.OthersUnplugged a)
  | _, .handleEvent _ => inferInstanceAs (Decidable (_ → _))
  | _, .fire .. | _, .setCurrentFunctions .. | _, .userChangeProcess _ | _, .setPhyConnectState _
  | _, .setChargeFlag _ => inferInstanceAs (Decidable True)

end Port

/-! ## The invariant -/

/-- The link is on its way to `plugged`: it is there if nothing is pending, and otherwise the task
that takes it there is the one pending. -/
structure Link.Follows (l : Link) (plugged : Bool) : Prop where
  present : l.usbDeviceInterface = true
  sole : l.timers.Sole l.delayDisconnTimerId
  gadget : l.gadgetConnected = plugged
  settled : l.timers.pending = [] → l.connected = plugged
  delayed : ∀ r, l.timers.pending = [r] → l.connected = !plugged ∧ r.task = if plugged then .connect else .disconnect

namespace Link

variable {l : Link} {plugged : Bool}

/-- A request for the state of the cable leads there, whatever was pending. -/
theorem Follows.request (present : l.usbDeviceInterface = true) (sole : l.timers.Sole l.delayDisconnTimerId)
    (gadget : l.gadgetConnected = plugged) (disconnDelay : Nat) : (l.request plugged disconnDelay).Follows plugged := by
  have cleared : l.cancel.timers.pending = [] := sole.unregister
  unfold Link.request
  split
  next connected =>
    exact ⟨present, .inl cleared, gadget, fun _ => connected, fun r single => by simp [cleared] at single⟩
  next differs =>
    have opposite : l.connected = !plugged := by cases plugged <;> simpa using differs
    -- the task registered last is alone in the table
    have awaiting (task : Task) (interval : Nat) (own : task = if plugged then .connect else .disconnect) :
        (l.cancel.await task interval).Follows plugged := by
      refine ⟨present, .register cleared task interval, gadget, fun empty => ?_, fun r single => ?_⟩
      · simp [await, Timers.register] at empty
      · simp only [await, Timers.register, cleared, List.cons.injEq, and_true] at single
        subst single
        exact ⟨opposite, own⟩
    split
    next up => exact awaiting _ _ (by simp [up])
    next down => exact awaiting _ _ (by simp [down])

theorem Follows.event (follows : l.Follows plugged) (status : Status) (disconnDelay : Nat)
    (unplugged : status.plugged = none → l.gadgetConnected = false) :
    (l.event status disconnDelay).Follows (status.plugged.getD plugged) := by
  unfold Link.event
  rw [if_pos follows.present]
  cases kind : status.plugged with
  | some up =>
    exact Follows.request (l := { l with gadgetConnected := up }) follows.present follows.sole rfl disconnDelay
  | none =>
    have out : plugged = false := by rw [← follows.gadget, unplugged kind]
    subst out
    exact .request follows.present follows.sole follows.gadget disconnDelay

/-- The sole pending task takes the link to the state of the cable. -/
theorem Follows.fire (follows : l.Follows plugged) {timer : Nat} {task : Task} {timers : Timers Task}
    (taken : l.timers.fire timer = some (task, timers)) : ({ l with timers := timers }.run task).Follows plugged := by
  obtain ⟨⟨r, single, own⟩, cleared⟩ := follows.sole.fire taken
  have target := (follows.delayed r single).2
  rw [own] at target
  subst target
  have arrived : ({ l with timers := timers }.run (if plugged then .connect else .disconnect)).connected = plugged := by
    cases plugged <;> rfl
  refine ⟨?_, .inl ?_, ?_, fun _ => arrived, fun r single => ?_⟩
  · cases plugged <;> exact follows.present
  · cases plugged <;> exact cleared
  · cases plugged <;> exact follows.gadget
  · cases plugged <;> simp [run, cleared] at single

/-- An event that is no plug event keeps what is pending exactly while the cable is unplugged. -/
theorem Follows.other_event (follows : l.Follows plugged) {status : Status} (other : status.plugged = none)
    (disconnDelay : Nat) :
    (((∃ r ∈ l.timers.pending, r.task = .connect) →
      ∃ r ∈ (l.event status disconnDelay).timers.pending, r.task = .connect) ∧
      ((∃ r ∈ (l.event status disconnDelay).timers.pending, r.task = .disconnect) →
        ∃ r ∈ l.timers.pending, r.task = .disconnect)) ↔ l.gadgetConnected = false := by
  have cleared : l.cancel.timers.pending = [] := follows.sole.unregister
  have asked : l.event status disconnDelay = l.request false disconnDelay := by
    simp [Link.event, follows.present, other]
  rw [asked, follows.gadget]
  rcases follows.sole with empty | ⟨r, single, -⟩
  · -- nothing pending: a plugged link is connected, and the request disconnects it
    have there := follows.settled empty
    cases plugged <;> simp [Link.request, there, empty, cleared, await, Timers.register]
  · obtain ⟨opposite, own⟩ := follows.delayed r single
    cases plugged <;> simp [Link.request, opposite, own, single, cleared, await, Timers.register]

end Link

theorem Port.step_follows {p p' : Port} {a : Action} (follows : p.manager.link.Follows p.plugged)
    (allowed : p.OthersUnplugged a) (taken : p.step a = some p') : p'.manager.link.Follows p'.plugged := by
  obtain ⟨manager, moved, rfl⟩ := Option.map_eq_some_iff.1 taken
  cases a with
  | handleEvent status =>
    obtain rfl := Option.some.inj moved
    rw [UsbDeviceManager.link_handleEvent]
    exact follows.event status _ allowed
  | fire timer answers =>
    obtain ⟨⟨task, timers⟩, fired, rfl⟩ := Option.map_eq_some_iff.1 moved
    rw [UsbDeviceManager.link_runTask]
    exact follows.fire fired
  | setCurrentFunctions funcs answers =>
    obtain rfl := Option.some.inj moved
    rwa [UsbDeviceManager.link_setCurrentFunctions]
  | userChangeProcess answers =>
    obtain rfl := Option.some.inj moved
    rwa [UsbDeviceManager.link_userChangeProcess]
  | setPhyConnectState phyConnect =>
    obtain rfl := Option.some.inj moved
    exact follows
  | setChargeFlag isReverseCharge =>
    obtain rfl := Option.some.inj moved
    exact follows

theorem Port.reach_follows {p : Port} (run : Reach Port.step Port.OthersUnplugged .init p) :
    p.manager.link.Follows p.plugged := by
  refine run.invariant (fun p => p.manager.link.Follows p.plugged) ?_ ?_
  · exact ⟨rfl, .inl rfl, rfl, fun _ => rfl, fun r single => by cases single⟩
  · intro p a p' follows allowed taken
    exact Port.step_follows follows allowed taken

/-- While other events come only with the cable unplugged, a manager with no task pending is
connected as the last plug event says; and an other event keeps the pending task exactly then. -/
theorem connection_follows_plug {p : Port} (run : Reach Port.step Port.OthersUnplugged .init p) :
    (p.Settled → p.manager.connected = p.manager.gadgetConnected ∧ p.manager.gadgetConnected = p.plugged) ∧
      ∀ status p', status.plugged = none → p.step (.handleEvent status) = some p' →
        (((p.Pending .connect → p'.Pending .connect) ∧ (p'.Pending .disconnect → p.Pending .disconnect)) ↔
          p.OthersUnplugged (.handleEvent status)) := by
  have follows := Port.reach_follows run
  constructor
  · intro settled
    exact ⟨(follows.settled settled).trans follows.gadget.symm, follows.gadget⟩
  · intro status p' other taken
    obtain ⟨manager, moved, rfl⟩ := Option.map_eq_some_iff.1 taken
    obtain rfl := Option.some.inj moved
    have kept := follows.other_event other p.manager.disconnDelay
    rw [← UsbDeviceManager.link_handleEvent] at kept
    refine kept.trans ⟨fun unplugged _ => unplugged, fun allowed => allowed other⟩

/-- Plugged, connected and unplugged again, with an accessory event after that. -/
theorem connection_follows_plug_unplugged :
    ∃ p, Reach Port.step Port.OthersUnplugged .init p ∧ p.Settled ∧ p.manager.connected = p.plugged := by
  have run : Reach Port.step Port.OthersUnplugged .init _ := reach_of_guarded
    [.handleEvent .actUpDevice, .fire 0 {}, .handleEvent .actDownDevice, .handleEvent .actAccessoryDown, .fire 2 {}]
    .init rfl
  have settled := (connection_follows_plug run).1 rfl
  exact ⟨_, run, rfl, settled.1.trans settled.2⟩

/-- An accessory event between the plug and its task: nothing is pending any more and the plugged
gadget stays disconnected. After the task it starts a disconnection instead. -/
theorem accessory_event_loses_connection :
    (∃ p, Reach Port.step anyStep .init p ∧ p.Settled ∧ p.plugged = true ∧ p.manager.gadgetConnected = true ∧
      p.manager.connected = false) ∧
    ∃ p p', Reach Port.step anyStep .init p ∧ p.Settled ∧ p.step (.handleEvent .actAccessoryUp) = some p' ∧
      p'.Pending .disconnect := by
  have lost : Reach Port.step anyStep .init _ :=
    reach_of_runFrom [.handleEvent .actUpDevice, .handleEvent .actAccessoryUp] (fun _ _ _ => trivial) .init rfl
  have connected : Reach Port.step anyStep .init _ :=
    reach_of_runFrom [.handleEvent .actUpDevice, .fire 0 {}] (fun _ _ _ => trivial) .init rfl
  refine ⟨⟨_, lost, rfl, rfl, rfl, rfl⟩, _, _, connected, rfl, rfl, ?_⟩
  exact ⟨_, List.mem_singleton.2 rfl, rfl⟩

end UsbManager.Gadget
