import UsbManager.Gadget.Connection
import UsbManager.Host.Broadcast

/-!
# When the service unloads itself

The service asks the system to unload it when no device is attached and the gadget is not connected. Every
driver event ends in `UnLoadSelf`, which cancels the timer under `unloadSelfTimerMutex_`, asks the two managers
one after the other, and registers the timer again if neither needs the service. The threads of other events
change the devices between these steps, and the timer fires at any time.

The start of the memory manager is none of these events. `OnAddSystemAbility` then marks the process as critical,
whether the timer is pending or not.
-/

namespace UsbManager.Unload

open Timer Transition

def unloadSaTimerInterval : Nat := 30 * 1000

/-- A thread in `DeviceEvent` that does not hold `unloadSelfTimerMutex_`. -/
inductive Call where
  /-- Before `UpdateDeviceState`. -/
  | gadgetEvent (status : Gadget.Status)
  /-- Before the device is read and inserted. -/
  | addDevice (busNum devAddr : UInt8)
  /-- In the `AddDevice` of the host manager, past the insertion. -/
  | adding (part : Host.Call)
  | delDevice (busNum devAddr : UInt8)
  /-- Before it takes the mutex in `UnLoadSelf`. -/
  | unLoadSelf
  deriving DecidableEq

/-- How far the thread is that holds `unloadSelfTimerMutex_`. -/
inductive Section where
  | unregistered
  | hostAsked (hasActiveDevices : Bool)
  | asked (hasActiveDevices isGadgetConnected : Bool)
  deriving DecidableEq

inductive Effect where
  /-- `MemMgrClient::SetCritical`. -/
  | setCritical (critical : Bool)
  | setupFailed
  /-- The timer thread starts the task. -/
  | timerFired
  | unloadSystemAbility
  deriving DecidableEq, Repr

structure UsbService where
  host : Host.World := {}
  gadget : Gadget.UsbDeviceManager := { usbDeviceInterface := true }
  unloadSelfTimer : Timers Unit := {}
  unloadSelfTimerId : Option Nat := none
  holder : Option Section := none
  /-- The first one is that of `OnStart`. -/
  calls : List Call := [.unLoadSelf]
  /-- The tasks that have been started. -/
  tasks : Nat := 0
  /-- The last one first. -/
  effects : List Effect := []

namespace UsbService

variable (s : UsbService)

/-- `UsbHostManager::hasActiveDevice`. -/
def hasActiveDevice : Bool := !s.host.host.devices.isEmpty

def isGadgetConnected : Bool := s.gadget.gadgetConnected

/-- `IsNotNeedUnload`, if nothing changes while it asks. -/
def isNotNeedUnload : Bool := s.hasActiveDevice || s.isGadgetConnected

/-- What `DeviceEvent` does first; a host event that is no arrival counts as a removal. -/
def deviceEvent (status : Gadget.Status) (busNum devAddr : UInt8) : Call :=
  match status with
  | .actUpDevice | .actDownDevice | .actAccessoryUp | .actAccessoryDown | .actAccessorySend
  | .actCustomControlRequest => .gadgetEvent status
  | .actDevUp => .addDevice busNum devAddr
  | .actDevDown | .unknown _ => .delDevice busNum devAddr

/-- The step that ends a part of the host manager's `AddDevice`. -/
def partStep : Host.Call → Host.Action
  | .addDevice name => .announce name
  | part => .advance part

/-- What follows the part, or none if the device is gone, not allowed or announced. -/
def nextPart : Host.Call → Option Host.Call
  | .addDevice name => (s.host.host.toAnnounce name).map .enabling
  | .enabling dev => some (.announcing dev)
  | _ => none

/-- The sections of the policy operations that other threads are in. -/
def isPolicy : Host.Action → Bool
  | .usbDeviceAuthorize .. | .advance (.authorizing ..) | .advance (.settling ..) => true
  | _ => false

def isEvent : Gadget.Action → Bool
  | .handleEvent _ => true
  | _ => false

/-- A call goes on as `next`. -/
def goOn (call next : Call) : UsbService := { s with calls := next :: s.calls.erase call }

def emit (effect : Effect) : UsbService := { s with effects := effect :: s.effects }

/-- The end of `UnLoadSelf`, from the answers of the managers on; `setup` is whether the timer was set up. -/
def decideUnload (isNotNeedUnload setup : Bool) : UsbService :=
  let released := { s with holder := none }
  if isNotNeedUnload then released.emit (.setCritical true)
  else
    let told := released.emit (.setCritical false)
    if setup then
      let (id, timers) := told.unloadSelfTimer.register () unloadSaTimerInterval
      { told with unloadSelfTimer := timers, unloadSelfTimerId := some id }
    else told.emit .setupFailed

inductive Action where
  | deviceEvent (status : Gadget.Status) (busNum devAddr : UInt8)
  | updateDeviceState (status : Gadget.Status)
  /-- `devInfo` is what `GetDeviceInfo` has read, if it succeeded. -/
  | addDevice (busNum devAddr : UInt8) (devInfo : Option UsbDevice)
  | advance (part : Host.Call)
  | delDevice (busNum devAddr : UInt8)
  | unLoadSelf
  | askHost
  | askGadget
  | decideUnload (setup : Bool)
  /-- The timer fires: its task is started. -/
  | fire (timer : Nat)
  /-- A task that was started finds the ability manager, or it does not. -/
  | runTask (samgr : Bool)
  | policy (action : Host.Action)
  | gadget (action : Gadget.Action)

def step (s : UsbService) : Action → Option UsbService
  | .deviceEvent status busNum devAddr => some { s with calls := deviceEvent status busNum devAddr :: s.calls }
  | .updateDeviceState status =>
    if .gadgetEvent status ∈ s.calls then
      some { s.goOn (.gadgetEvent status) .unLoadSelf with gadget := s.gadget.handleEvent status }
    else none
  | .addDevice busNum devAddr devInfo =>
    if .addDevice busNum devAddr ∈ s.calls then
      match devInfo with
      | none => some (s.goOn (.addDevice busNum devAddr) .unLoadSelf)
      | some dev =>
        (s.host.step (.addDevice { dev with busNum := busNum, devAddr := devAddr })).map fun host =>
          { s.goOn (.addDevice busNum devAddr) (.adding (.addDevice (Host.deviceName busNum devAddr))) with host := host }
    else none
  | .advance part =>
    if .adding part ∈ s.calls then
      (s.host.step (partStep part)).map fun host =>
        { s.goOn (.adding part) (((s.nextPart part).map Call.adding).getD .unLoadSelf) with host := host }
    else none
  | .delDevice busNum devAddr =>
    if .delDevice busNum devAddr ∈ s.calls then
      (s.host.step (.delDevice busNum devAddr)).map fun host =>
        { s.goOn (.delDevice busNum devAddr) .unLoadSelf with host := host }
    else none
  | .unLoadSelf =>
    if .unLoadSelf ∈ s.calls ∧ s.holder = none then
      some { s with
        calls := s.calls.erase .unLoadSelf
        holder := some .unregistered
        unloadSelfTimer := s.unloadSelfTimer.unregister s.unloadSelfTimerId }
    else none
  | .askHost =>
    if s.holder = some .unregistered then some { s with holder := some (.hostAsked s.hasActiveDevice) } else none
  | .askGadget =>
    match s.holder with
    | some (.hostAsked hasActiveDevices) => some { s with holder := some (.asked hasActiveDevices s.isGadgetConnected) }
    | _ => none
  | .decideUnload setup =>
    match s.holder with
    | some (.asked hasActiveDevices isGadgetConnected) =>
      some (s.decideUnload (hasActiveDevices || isGadgetConnected) setup)
    | _ => none
  | .fire timer =>
    (s.unloadSelfTimer.fire timer).map fun (_, timers) =>
      { s.emit .timerFired with unloadSelfTimer := timers, tasks := s.tasks + 1 }
  | .runTask samgr =>
    if s.tasks = 0 then none
    else some { (if samgr then s.emit .unloadSystemAbility else s) with tasks := s.tasks - 1 }
  | .policy action => if isPolicy action then (s.host.step action).map fun host => { s with host := host } else none
  | .gadget action =>
    if isEvent action then none else (s.gadget.step action).map fun gadget => { s with gadget := gadget }

/-! ## What is to be kept -/

/-- The devices or the gadget may have changed, and the `UnLoadSelf` after the change has not begun. -/
def Late : Prop := ∃ call ∈ s.calls, (∃ part, call = .adding part) ∨ call = .unLoadSelf

/-- What `SetCritical` was called with last. -/
def critical : Option Bool :=
  s.effects.findSome? fun effect => match effect with
    | .setCritical critical => some critical
    | _ => none

/-- The last effect but for the requests of the tasks, which may come late. -/
def last : Option Effect := s.effects.find? (· ≠ .unloadSystemAbility)

/-- What `UnLoadSelf` and the timer have come to. -/
inductive Outcome : Prop where
  | kept (needed : s.isNotNeedUnload = true) (last : s.last = some (.setCritical true))
      (none : s.unloadSelfTimer.pending = [])
  | scheduled (idle : s.isNotNeedUnload = false) (last : s.last = some (.setCritical false))
      (timer : ∃ r, s.unloadSelfTimer.pending = [r] ∧ r.interval = unloadSaTimerInterval)
  | notScheduled (idle : s.isNotNeedUnload = false) (last : s.last = some .setupFailed)
      (none : s.unloadSelfTimer.pending = [])
  | fired (idle : s.isNotNeedUnload = false) (last : s.last = some .timerFired)
      (none : s.unloadSelfTimer.pending = [])

/-- The service has done what the devices and the gadget ask for. -/
structure Settled : Prop where
  critical : s.critical = some s.isNotNeedUnload
  outcome : s.Outcome

/-- The answers that the holder of the mutex has are those of now, unless a change is still to be told. -/
structure Consistent : Prop where
  sole : s.unloadSelfTimer.Sole s.unloadSelfTimerId
  unregistered : s.holder ≠ none → s.unloadSelfTimer.pending = []
  hostAsked : ∀ active, s.holder = some (.hostAsked active) → ¬ s.Late → active = s.hasActiveDevice
  asked : ∀ active connected, s.holder = some (.asked active connected) → ¬ s.Late →
    active = s.hasActiveDevice ∧ connected = s.isGadgetConnected
  settled : s.holder = none → ¬ s.Late → s.Settled

/-! ## What a step can do -/

/-- The step has left the timer and the mutex alone. -/
structure Apart (s s' : UsbService) : Prop where
  timer : s'.unloadSelfTimer = s.unloadSelfTimer
  timerId : s'.unloadSelfTimerId = s.unloadSelfTimerId
  holder : s'.holder = s.holder

inductive Stepped (s s' : UsbService) : Prop where
  /-- A manager may have changed; the `UnLoadSelf` after it is to come. -/
  | changed (apart : s.Apart s') (late : s'.Late)
  | unchanged (apart : s.Apart s') (host : s'.hasActiveDevice = s.hasActiveDevice)
      (gadget : s'.isGadgetConnected = s.isGadgetConnected) (late : s.Late → s'.Late)
      (critical : s'.critical = s.critical) (last : s'.last = s.last)
  | unLoadSelf (free : s.holder = none) (same : s' = { s with
      calls := s.calls.erase .unLoadSelf
      holder := some .unregistered
      unloadSelfTimer := s.unloadSelfTimer.unregister s.unloadSelfTimerId })
  | askHost (held : s.holder = some .unregistered) (same : s' = { s with holder := some (.hostAsked s.hasActiveDevice) })
  | askGadget (active : Bool) (held : s.holder = some (.hostAsked active))
      (same : s' = { s with holder := some (.asked active s.isGadgetConnected) })
  | decided (active connected setup : Bool) (held : s.holder = some (.asked active connected))
      (same : s' = s.decideUnload (active || connected) setup)
  | fired (timer : Nat) (timers : Timers Unit) (taken : s.unloadSelfTimer.fire timer = some ((), timers))
      (same : s' = { s.emit .timerFired with unloadSelfTimer := timers, tasks := s.tasks + 1 })

section Step

variable {s} {s' : UsbService}

theorem late_goOn_unLoadSelf (call : Call) : (s.goOn call .unLoadSelf).Late :=
  ⟨.unLoadSelf, List.mem_cons_self .., .inr rfl⟩

theorem late_goOn_adding (call : Call) (part : Host.Call) : (s.goOn call (.adding part)).Late :=
  ⟨.adding part, List.mem_cons_self .., .inl ⟨part, rfl⟩⟩

/-- Whatever comes after a part, the `UnLoadSelf` is still to come. -/
theorem late_goOn_next (call : Call) (next : Option Host.Call) :
    (s.goOn call ((next.map Call.adding).getD .unLoadSelf)).Late := by
  cases next with
  | none => exact late_goOn_unLoadSelf call
  | some part => exact late_goOn_adding call part

/-- The policy operations change no more than the status of a device. -/
theorem policy_devices {w w' : Host.World} {action : Host.Action} (policy : isPolicy action = true)
    (taken : w.step action = some w') : w'.host.devices = w.host.devices := by
  match action, policy with
  | .usbDeviceAuthorize .., _ =>
    simp only [Host.World.step] at taken
    split at taken <;> cases taken <;> rfl
  | .advance (.authorizing dev authorized status), _ =>
    simp only [Host.World.step, Host.World.advance] at taken
    split_ifs at taken
    cases taken
    simp only [Host.Devices.publishAuthorized]
    split <;> rfl
  | .advance (.settling dev authorized), _ =>
    simp only [Host.World.step, Host.World.advance] at taken
    split_ifs at taken
    cases taken
    rfl

/-- Only a driver event tells that the gadget is plugged or unplugged. -/
theorem gadget_connected {m m' : Gadget.UsbDeviceManager} {action : Gadget.Action} (other : isEvent action = false)
    (taken : m.step action = some m') : m'.gadgetConnected = m.gadgetConnected := by
  cases action with
  | handleEvent status => cases other
  | fire timer answers =>
    obtain ⟨⟨task, timers⟩, fired, rfl⟩ := Option.map_eq_some_iff.1 taken
    have link := Gadget.UsbDeviceManager.link_runTask { m with timers := timers } answers task
    have kept := congrArg Gadget.Link.gadgetConnected link
    cases task <;> exact kept
  | setCurrentFunctions funcs answers =>
    obtain rfl := Option.some.inj taken
    exact congrArg Gadget.Link.gadgetConnected (Gadget.UsbDeviceManager.link_setCurrentFunctions m answers funcs)
  | userChangeProcess answers =>
    obtain rfl := Option.some.inj taken
    exact congrArg Gadget.Link.gadgetConnected (Gadget.UsbDeviceManager.link_userChangeProcess m answers)
  | setPhyConnectState phyConnect =>
    obtain rfl := Option.some.inj taken
    rfl
  | setChargeFlag isReverseCharge =>
    obtain rfl := Option.some.inj taken
    rfl

theorem stepped {action : Action} (taken : s.step action = some s') : s.Stepped s' := by
  cases action with
  | deviceEvent status busNum devAddr =>
    obtain rfl := Option.some.inj taken
    refine .unchanged ⟨rfl, rfl, rfl⟩ rfl rfl ?_ rfl rfl
    rintro ⟨call, member, late⟩
    exact ⟨call, List.mem_cons_of_mem _ member, late⟩
  | updateDeviceState status =>
    simp only [step] at taken
    split_ifs at taken
    obtain rfl := Option.some.inj taken
    exact .changed ⟨rfl, rfl, rfl⟩ (late_goOn_unLoadSelf (s := s) _)
  | addDevice busNum devAddr devInfo =>
    simp only [step] at taken
    split_ifs at taken
    cases devInfo with
    | none =>
      obtain rfl := Option.some.inj taken
      exact .changed ⟨rfl, rfl, rfl⟩ (late_goOn_unLoadSelf _)
    | some dev =>
      obtain ⟨host, inserted, rfl⟩ := Option.map_eq_some_iff.1 taken
      exact .changed ⟨rfl, rfl, rfl⟩ (late_goOn_adding (s := s) _ _)
  | advance part =>
    simp only [step] at taken
    split_ifs at taken
    obtain ⟨host, advanced, rfl⟩ := Option.map_eq_some_iff.1 taken
    exact .changed ⟨rfl, rfl, rfl⟩ (late_goOn_next (s := s) _ _)
  | delDevice busNum devAddr =>
    simp only [step] at taken
    split_ifs at taken
    obtain ⟨host, removed, rfl⟩ := Option.map_eq_some_iff.1 taken
    exact .changed ⟨rfl, rfl, rfl⟩ (late_goOn_unLoadSelf (s := s) _)
  | unLoadSelf =>
    simp only [step] at taken
    split_ifs at taken with enabled
    exact .unLoadSelf enabled.2 (Option.some.inj taken).symm
  | askHost =>
    simp only [step] at taken
    split_ifs at taken with held
    exact .askHost held (Option.some.inj taken).symm
  | askGadget =>
    simp only [step] at taken
    split at taken
    next active held => exact .askGadget active held (Option.some.inj taken).symm
    next => cases taken
  | decideUnload setup =>
    simp only [step] at taken
    split at taken
    next active connected held => exact .decided active connected setup held (Option.some.inj taken).symm
    next => cases taken
  | fire timer =>
    obtain ⟨⟨_, timers⟩, fired, rfl⟩ := Option.map_eq_some_iff.1 taken
    exact .fired timer timers fired rfl
  | runTask samgr =>
    simp only [step] at taken
    cases samgr <;> split at taken <;> cases taken <;> exact .unchanged ⟨rfl, rfl, rfl⟩ rfl rfl id rfl rfl
  | policy action =>
    simp only [step] at taken
    split_ifs at taken with policy
    obtain ⟨host, moved, rfl⟩ := Option.map_eq_some_iff.1 taken
    have devices := policy_devices policy moved
    refine .unchanged ⟨rfl, rfl, rfl⟩ ?_ rfl id rfl rfl
    simp only [hasActiveDevice, devices]
  | gadget action =>
    simp only [step] at taken
    split_ifs at taken with event
    obtain ⟨gadget, moved, rfl⟩ := Option.map_eq_some_iff.1 taken
    exact .unchanged ⟨rfl, rfl, rfl⟩ rfl (gadget_connected (Bool.eq_false_iff.2 event) moved) id rfl rfl

/-! ## The invariant -/

theorem isNotNeedUnload_congr (host : s'.hasActiveDevice = s.hasActiveDevice)
    (gadget : s'.isGadgetConnected = s.isGadgetConnected) : s'.isNotNeedUnload = s.isNotNeedUnload := by
  rw [isNotNeedUnload, host, gadget]
  rfl

/-- What has come out stays while the managers, the timer and the effects do. -/
theorem Settled.unchanged (settled : s.Settled) (timer : s'.unloadSelfTimer = s.unloadSelfTimer)
    (needed : s'.isNotNeedUnload = s.isNotNeedUnload) (critical : s'.critical = s.critical)
    (last : s'.last = s.last) : s'.Settled where
  critical := by rw [critical, needed, settled.critical]
  outcome := by
    cases settled.outcome with
    | kept need was none => exact .kept (needed.trans need) (last.trans was) (timer ▸ none)
    | scheduled idle was pending => exact .scheduled (needed.trans idle) (last.trans was) (timer ▸ pending)
    | notScheduled idle was none => exact .notScheduled (needed.trans idle) (last.trans was) (timer ▸ none)
    | fired idle was none => exact .fired (needed.trans idle) (last.trans was) (timer ▸ none)

/-- The end of `UnLoadSelf` settles what it was told. -/
theorem settled_decideUnload (none : s.unloadSelfTimer.pending = []) (setup : Bool) :
    (s.decideUnload s.isNotNeedUnload setup).Settled := by
  unfold decideUnload
  cases needed : s.isNotNeedUnload with
  | true => exact ⟨congrArg some needed.symm, .kept needed rfl none⟩
  | false =>
    cases setup with
    | false => exact ⟨congrArg some needed.symm, .notScheduled needed rfl none⟩
    | true =>
      have pending := congrArg (⟨s.unloadSelfTimer.nextId, (), unloadSaTimerInterval⟩ :: ·) none
      exact ⟨congrArg some needed.symm, .scheduled needed rfl ⟨_, pending, rfl⟩⟩

theorem sole_decideUnload (none : s.unloadSelfTimer.pending = []) (needed setup : Bool) :
    (s.decideUnload needed setup).unloadSelfTimer.Sole (s.decideUnload needed setup).unloadSelfTimerId := by
  unfold decideUnload
  cases needed <;> cases setup
  · exact .inl none
  · exact Timers.Sole.register none () unloadSaTimerInterval
  · exact .inl none
  · exact .inl none

/-- The timer fires only while it is scheduled, and is then no longer pending. -/
theorem Settled.fire (settled : s.Settled) {timers : Timers Unit} (armed : s.unloadSelfTimer.pending ≠ [])
    (cleared : timers.pending = []) :
    ({ s.emit .timerFired with unloadSelfTimer := timers, tasks := s.tasks + 1 } : UsbService).Settled := by
  refine ⟨settled.critical, ?_⟩
  cases settled.outcome with
  | kept need was none => exact absurd none armed
  | scheduled idle was pending => exact .fired idle rfl cleared
  | notScheduled idle was none => exact absurd none armed
  | fired idle was none => exact absurd none armed

theorem Consistent.stepped (consistent : s.Consistent) (moved : s.Stepped s') : s'.Consistent := by
  cases moved with
  | changed apart late =>
    refine ⟨?_, ?_, ?_, ?_, ?_⟩
    · rw [apart.timer, apart.timerId]
      exact consistent.sole
    · rw [apart.timer, apart.holder]
      exact consistent.unregistered
    · exact fun _ _ told => absurd late told
    · exact fun _ _ _ told => absurd late told
    · exact fun _ told => absurd late told
  | unchanged apart host gadget late critical last =>
    refine ⟨?_, ?_, ?_, ?_, ?_⟩
    · rw [apart.timer, apart.timerId]
      exact consistent.sole
    · rw [apart.timer, apart.holder]
      exact consistent.unregistered
    · rw [apart.holder, host]
      exact fun active held told => consistent.hostAsked active held (mt late told)
    · rw [apart.holder, host, gadget]
      exact fun active connected held told => consistent.asked active connected held (mt late told)
    · rw [apart.holder]
      intro free told
      exact (consistent.settled free (mt late told)).unchanged apart.timer (isNotNeedUnload_congr host gadget)
        critical last
  | unLoadSelf free same =>
    subst same
    have cleared := consistent.sole.unregister
    exact ⟨.inl cleared, fun _ => cleared, nofun, nofun, nofun⟩
  | askHost held same =>
    subst same
    have cleared := consistent.unregistered (by simp [held])
    refine ⟨consistent.sole, fun _ => cleared, ?_, nofun, nofun⟩
    intro active asked _
    cases asked
    rfl
  | askGadget active held same =>
    subst same
    have cleared := consistent.unregistered (by simp [held])
    refine ⟨consistent.sole, fun _ => cleared, nofun, ?_, nofun⟩
    intro active' connected asked told
    cases asked
    exact ⟨consistent.hostAsked active held told, rfl⟩
  | decided active connected setup held same =>
    subst same
    have cleared := consistent.unregistered (by simp [held])
    have free : (s.decideUnload (active || connected) setup).holder = none := by
      unfold decideUnload
      cases active || connected <;> cases setup <;> rfl
    have calls : (s.decideUnload (active || connected) setup).calls = s.calls := by
      unfold decideUnload
      cases active || connected <;> cases setup <;> rfl
    refine ⟨sole_decideUnload cleared _ _, fun held => absurd free held, ?_, ?_, ?_⟩
    · simp [free]
    · simp [free]
    · intro _ told
      unfold Late at told
      rw [calls] at told
      obtain ⟨rfl, rfl⟩ := consistent.asked active connected held told
      exact settled_decideUnload cleared setup
  | fired timer timers taken same =>
    subst same
    obtain ⟨⟨r, single, -⟩, cleared⟩ := consistent.sole.fire taken
    have armed : s.unloadSelfTimer.pending ≠ [] := by simp [single]
    have free : s.holder = none := Classical.byContradiction fun held => armed (consistent.unregistered held)
    refine ⟨.inl cleared, fun _ => cleared, ?_, ?_, ?_⟩
    · exact fun _ held => absurd (free.symm.trans held) (by simp)
    · exact fun _ _ held => absurd (free.symm.trans held) (by simp)
    · exact fun _ told => (consistent.settled free told).fire armed cleared

end Step

theorem consistent_of_reach {s : UsbService} (run : Reach UsbService.step anyStep {} s) : s.Consistent := by
  refine run.invariant UsbService.Consistent ?_ fun s action s' consistent _ taken =>
    consistent.stepped (UsbService.stepped taken)
  refine ⟨.inl rfl, fun _ => rfl, nofun, nofun, fun _ told => ?_⟩
  exact absurd ⟨.unLoadSelf, List.mem_singleton_self _, .inr rfl⟩ told

end UsbService

open UsbService

/-- In every run of driver events, whatever the other threads do in between: once the events that have changed
something have told `UnLoadSelf` so, the service is critical exactly while a device or the gadget needs it, and
otherwise its timer is pending, unless it could not be set up or has fired. The timer starts an unload while the
service is needed only between such a change and the `UnLoadSelf` after it. -/
theorem unload_follows_devices {s : UsbService} (run : Reach UsbService.step anyStep {} s) :
    (s.holder = none → ¬ s.Late → s.Settled) ∧
      ∀ timer s', s.step (.fire timer) = some s' → s.isNotNeedUnload = true → s.Late := by
  have consistent := consistent_of_reach run
  refine ⟨consistent.settled, fun timer s' taken needed => Classical.byContradiction fun told => ?_⟩
  obtain ⟨⟨_, timers⟩, fired, -⟩ := Option.map_eq_some_iff.1 taken
  obtain ⟨⟨r, single, -⟩, -⟩ := consistent.sole.fire fired
  have armed : s.unloadSelfTimer.pending ≠ [] := by simp [single]
  have free : s.holder = none := Classical.byContradiction fun held => armed (consistent.unregistered held)
  cases (consistent.settled free told).outcome with
  | kept need was none => exact armed none
  | scheduled idle was pending => simp [idle] at needed
  | notScheduled idle was none => exact armed none
  | fired idle was none => exact armed none

/-- The timer fires while the arriving device is still being announced. `UnLoadSelf` finds the device, and the
task that has been started asks for the unload all the same. -/
theorem unload_follows_devices_arrival :
    ∃ s, Reach UsbService.step anyStep {} s ∧ s.Settled ∧ s.isNotNeedUnload = true ∧
      s.effects = [.unloadSystemAbility, .setCritical true, .timerFired, .setCritical false] := by
  have run : Reach UsbService.step anyStep {} _ := reach_of_runFrom
    [.unLoadSelf, .askHost, .askGadget, .decideUnload true, .deviceEvent .actDevUp 1 2, .addDevice 1 2 (some {}),
      .fire 0, .advance (.addDevice (Host.deviceName 1 2)), .advance (.enabling 0), .advance (.announcing 0),
      .unLoadSelf, .askHost, .askGadget, .decideUnload true, .runTask true]
    (fun _ _ _ => trivial) .init rfl
  refine ⟨_, run, (unload_follows_devices run).1 rfl ?_, by decide +kernel, rfl⟩
  rintro ⟨call, member, -⟩
  cases member

end UsbManager.Unload
