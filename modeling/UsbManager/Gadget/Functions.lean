import UsbManager.Gadget.Connection

/-!
# The functions after a disconnection

The media functions and the developer authentication are not to outlive the connection: the disconnect
task takes them out of `currentFunctions_` and asks the driver for what is left. The two masks, the
one of the manager and the one of the driver, agree while the manager is connected, and a disconnect
task runs only then; so the task has to keep them together.

It misses two cases. With a media function in the mask it never looks at the authentication, and it
does not look at the driver's answer.
-/

namespace UsbManager.Gadget

open Timer Transition

namespace Driver

variable (d : Driver) {a : Answers}

theorem setCurrentFunctions_ok (ok : a.setRet = .uecOk) (funcs : UInt32) :
    d.setCurrentFunctions a funcs = (.uecOk, { functions := funcs }) := if_pos ok

theorem setCurrentFunctions_failed (failed : a.setRet ≠ .uecOk) (funcs : UInt32) :
    d.setCurrentFunctions a funcs = (a.setRet, d) := if_neg failed

/-- The driver comes to a new mask exactly if it answers well. -/
theorem setCurrentFunctions_eq_iff {funcs : UInt32} (other : funcs ≠ d.functions) :
    funcs = (d.setCurrentFunctions a funcs).2.functions ↔ a.setRet = .uecOk := by
  by_cases ok : a.setRet = .uecOk
  · simp [d.setCurrentFunctions_ok ok, ok]
  · simp [d.setCurrentFunctions_failed ok, ok, other]

end Driver

namespace UsbDeviceManager

variable (m : UsbDeviceManager)

/-! ## What the task takes away -/

def hasDevmodeAuth : Bool := m.currentFunctions &&& usbFunctionDevmodeAuth ≠ 0

/-- `currentFunctions_` names one of the functions that a disconnection takes away. -/
def hasSensitive : Bool := m.hasMedia || m.hasDevmodeAuth

theorem withoutMedia_and (x : UInt32) (other : usbFunctionStorage &&& x = 0) :
    m.withoutMedia &&& x = m.currentFunctions &&& (~~~usbFunctionMtp &&& ~~~usbFunctionPtp &&& x) := by
  have moved : m.currentFunctions &&& ~~~usbFunctionMtp &&& ~~~usbFunctionPtp &&& x =
      m.currentFunctions &&& (~~~usbFunctionMtp &&& ~~~usbFunctionPtp &&& x) := by
    simp only [UInt32.and_assoc]
  unfold withoutMedia
  dsimp only
  split
  next empty =>
    rw [← moved, empty, UInt32.zero_and]
    exact other
  next => exact moved

theorem withoutMedia_and_mtp : m.withoutMedia &&& usbFunctionMtp = 0 := by
  rw [withoutMedia_and m _ (by decide), show ~~~usbFunctionMtp &&& ~~~usbFunctionPtp &&& usbFunctionMtp = 0 by decide]
  exact UInt32.and_zero

theorem withoutMedia_and_ptp : m.withoutMedia &&& usbFunctionPtp = 0 := by
  rw [withoutMedia_and m _ (by decide), show ~~~usbFunctionMtp &&& ~~~usbFunctionPtp &&& usbFunctionPtp = 0 by decide]
  exact UInt32.and_zero

/-- The authentication stays where it is. -/
theorem withoutMedia_and_devmodeAuth :
    m.withoutMedia &&& usbFunctionDevmodeAuth = m.currentFunctions &&& usbFunctionDevmodeAuth := by
  rw [withoutMedia_and m _ (by decide)]
  rw [show ~~~usbFunctionMtp &&& ~~~usbFunctionPtp &&& usbFunctionDevmodeAuth = usbFunctionDevmodeAuth by decide]

theorem withoutMedia_ne_zero : m.withoutMedia ≠ 0 := by
  unfold withoutMedia
  dsimp only
  split
  · decide
  · assumption

/-! ## The two masks -/

/-- The mask of the manager and the mask of the driver. -/
def masks : UInt32 × UInt32 := (m.currentFunctions, m.driver.functions)

@[simp]
theorem masks_processFunctionNotifier (connected : Bool) (func : UInt32) :
    (m.processFunctionNotifier connected func).masks = m.masks := by
  unfold processFunctionNotifier
  dsimp only
  split <;> split <;> (try split) <;> rfl

@[simp]
theorem masks_processFuncChange (connected : Bool) (currentFunc : UInt32) :
    (m.processFuncChange connected currentFunc).masks = m.masks := by
  simp only [processFuncChange, masks_processFunctionNotifier]
  split <;> rfl

theorem masks_updateFunctions (func : UInt32) : (m.updateFunctions func).masks = (func, m.driver.functions) := by
  unfold updateFunctions
  split
  next same => rw [masks, same]
  next =>
    simp only [masks_processFunctionNotifier]
    split <;> rfl

theorem masks_handleEvent (status : Status) : (m.handleEvent status).masks = m.masks := by
  unfold handleEvent
  split
  · dsimp only
    split
    · cases status <;> rfl
    · split <;> (cases status <;> rfl)
  · rfl

/-- A new mask goes to both or to none. -/
theorem masks_setCurrentFunctions (a : Answers) (funcs : UInt32) :
    (m.setCurrentFunctions a funcs).2.masks = m.masks ∨ (m.setCurrentFunctions a funcs).2.masks = (funcs, funcs) := by
  unfold setCurrentFunctions
  dsimp only
  split
  · split
    · exact .inl rfl
    · split
      · exact .inl rfl
      · by_cases ok : a.setRet = .uecOk
        · right
          rw [Driver.setCurrentFunctions_ok _ ok]
          simp [masks_updateFunctions]
        · left
          rw [Driver.setCurrentFunctions_failed _ ok]
          simp [ok]
  · exact .inl rfl

theorem masks_userChangeProcess (a : Answers) :
    (m.userChangeProcess a).2.masks = m.masks ∨ ∃ funcs, (m.userChangeProcess a).2.masks = (funcs, funcs) := by
  simp only [userChangeProcess, masks_processFunctionNotifier]
  split
  · by_cases ok : a.setRet = .uecOk
    · right
      rw [Driver.setCurrentFunctions_ok _ ok]
      refine ⟨m.withoutMedia, ?_⟩
      by_cases same : m.withoutMedia = m.currentFunctions
      · simp [masks, same]
      · simp [masks, same, broadcastFuncChange, notify]
    · left
      rw [Driver.setCurrentFunctions_failed _ ok]
      simp [masks, ok]
  · exact .inl rfl

/-! ## Tasks -/

/-- The connect task reads the mask of the driver. -/
theorem masks_connectTask (a : Answers) :
    (m.connectTask a).masks = ((m.getCurrentFunctions a m.currentFunctions).2, m.driver.functions) := by
  simp only [connectTask, masks_processFuncChange]
  rfl

/-- The masks after the disconnect task. -/
def disconnectMasks (a : Answers) : UInt32 × UInt32 :=
  if m.hasMedia then (m.withoutMedia, (m.driver.setCurrentFunctions a m.withoutMedia).2.functions)
  else if m.hasDevmodeAuth then (usbFunctionStorage, (m.driver.setCurrentFunctions a usbFunctionStorage).2.functions)
  else m.masks

theorem masks_disconnectTask (a : Answers) : (m.disconnectTask a).masks = m.disconnectMasks a := by
  simp only [disconnectTask, masks_processFuncChange, disconnectMasks]
  split
  next media =>
    rw [if_pos (show m.hasMedia = true from media)]
    rfl
  next media =>
    rw [if_neg (show ¬ m.hasMedia = true from media)]
    split
    next auth =>
      rw [if_pos (show m.hasDevmodeAuth = true from decide_eq_true auth)]
      rfl
    next auth =>
      rw [if_neg (show ¬ m.hasDevmodeAuth = true from fun has => auth (of_decide_eq_true has))]
      rfl

/-! ## Runs -/

/-- The manager as it starts, with a driver that holds any functions. -/
def start (functions : UInt32) : UsbDeviceManager where
  usbDeviceInterface := true
  driver := { functions := functions }

/-- A connect task learns the mask of the driver. A disconnect task that has functions to take away does
not find the authentication beside a media function, and the driver does what it is asked. -/
def Answered (a : Answers) : Task → Prop
  | .connect => a.getRet = .uecOk ∨ a.left.getD m.currentFunctions = m.driver.functions
  | .disconnect =>
    (m.hasMedia = true → m.hasDevmodeAuth = false) ∧ (m.hasSensitive = true → a.setRet = .uecOk)

instance (a : Answers) : ∀ task, Decidable (m.Answered a task)
  | .connect => inferInstanceAs (Decidable (_ ∨ _))
  | .disconnect => inferInstanceAs (Decidable (_ ∧ _))

/-- The tasks of a run meet `Answered`. -/
def TasksAnswered : Action → Prop
  | .fire timer a => ∀ fired ∈ m.timers.fire timer, m.Answered a fired.1
  | _ => True

instance : ∀ action, Decidable (m.TasksAnswered action)
  | .fire timer a => inferInstanceAs (Decidable (∀ fired ∈ m.timers.fire timer, m.Answered a fired.1))
  | .handleEvent _ | .setCurrentFunctions .. | .userChangeProcess _ | .setPhyConnectState _ | .setChargeFlag _ =>
    inferInstanceAs (Decidable True)

/-- What a disconnect task that starts in `m` is to leave. -/
structure Dropped (after : UsbDeviceManager) : Prop where
  none_left : after.hasSensitive = false
  not_empty : m.hasSensitive = true → after.currentFunctions ≠ 0
  driver : after.currentFunctions = after.driver.functions
  others : m.hasSensitive = false → after.currentFunctions = m.currentFunctions

end UsbDeviceManager

/-- The pending task changes the connection. -/
structure Link.Alternates (l : Link) : Prop where
  present : l.usbDeviceInterface = true
  sole : l.timers.Sole l.delayDisconnTimerId
  task : ∀ r, l.timers.pending = [r] → r.task = if l.connected then .disconnect else .connect

namespace Link

variable {l : Link}

theorem request_connected (curConnect : Bool) (disconnDelay : Nat) :
    (l.request curConnect disconnDelay).connected = l.connected := by
  unfold Link.request
  split
  · rfl
  · split <;> rfl

theorem event_connected (status : Status) (disconnDelay : Nat) :
    (l.event status disconnDelay).connected = l.connected := by
  unfold Link.event
  split
  · split <;> rw [request_connected]
  · rfl

theorem Alternates.request (alternates : l.Alternates) (curConnect : Bool) (disconnDelay : Nat) :
    (l.request curConnect disconnDelay).Alternates := by
  have cleared : l.cancel.timers.pending = [] := alternates.sole.unregister
  unfold Link.request
  split
  · exact ⟨alternates.present, .inl cleared, fun r single => by simp [cleared] at single⟩
  next differs =>
    have awaiting (task : Task) (interval : Nat) (own : task = if l.connected then .disconnect else .connect) :
        (l.cancel.await task interval).Alternates := by
      refine ⟨alternates.present, .register cleared task interval, fun r single => ?_⟩
      simp only [await, Timers.register, cleared, List.cons.injEq, and_true] at single
      subst single
      exact own
    split
    next up => exact awaiting _ _ (by simp_all)
    next down => exact awaiting _ _ (by simp_all)

theorem Alternates.event (alternates : l.Alternates) (status : Status) (disconnDelay : Nat) :
    (l.event status disconnDelay).Alternates := by
  unfold Link.event
  rw [if_pos alternates.present]
  cases status.plugged with
  | some up =>
    exact Alternates.request (l := { l with gadgetConnected := up })
      ⟨alternates.present, alternates.sole, alternates.task⟩ up disconnDelay
  | none => exact alternates.request false disconnDelay

theorem Alternates.fire (alternates : l.Alternates) {timer : Nat} {task : Task} {timers : Timers Task}
    (taken : l.timers.fire timer = some (task, timers)) :
    ({ l with timers := timers }.run task).Alternates ∧ task = if l.connected then .disconnect else .connect := by
  obtain ⟨⟨r, single, own⟩, cleared⟩ := alternates.sole.fire taken
  constructor
  · cases task <;>
      exact ⟨alternates.present, .inl cleared, fun r single => by simp [run, cleared] at single⟩
  · rw [← own]
    exact alternates.task r single

end Link

/-- The masks agree while the manager is connected. -/
structure UsbDeviceManager.InStep (m : UsbDeviceManager) : Prop where
  link : m.link.Alternates
  masks : m.link.connected = true → m.masks.1 = m.masks.2

namespace UsbDeviceManager

variable {m m' : UsbDeviceManager}

/-- A mask that goes to both keeps them in step. -/
theorem InStep.same_mask (inStep : m.InStep) (link : m'.link = m.link)
    (masks : m'.masks = m.masks ∨ ∃ funcs, m'.masks = (funcs, funcs)) : m'.InStep := by
  refine ⟨link ▸ inStep.link, fun connected => ?_⟩
  rcases masks with same | ⟨funcs, both⟩
  · rw [same]
    exact inStep.masks (link ▸ connected)
  · rw [both]

theorem InStep.fire (inStep : m.InStep) {timer : Nat} {a : Answers} {task : Task} {timers : Timers Task}
    (fired : m.timers.fire timer = some (task, timers)) (answered : m.Answered a task) :
    ({ m with timers := timers }.runTask a task).InStep := by
  have alternates := (inStep.link.fire fired).1
  refine ⟨?_, fun connected => ?_⟩
  · rw [link_runTask]
    exact alternates
  · rw [link_runTask] at connected
    cases task with
    | disconnect => cases connected
    | connect =>
      rw [runTask, masks_connectTask]
      show (getCurrentFunctions { m with timers := timers } a m.currentFunctions).2 = m.driver.functions
      have present : m.usbDeviceInterface = true := inStep.link.present
      simp only [getCurrentFunctions, present, if_true, Driver.getCurrentFunctions]
      split
      · rfl
      next failed => exact answered.resolve_left failed

theorem InStep.step (inStep : m.InStep) {action : Action} (answered : m.TasksAnswered action)
    (taken : m.step action = some m') : m'.InStep := by
  cases action with
  | handleEvent status =>
    obtain rfl := Option.some.inj taken
    refine ⟨?_, fun connected => ?_⟩
    · rw [link_handleEvent]
      exact inStep.link.event status _
    · rw [link_handleEvent, Link.event_connected] at connected
      rw [masks_handleEvent]
      exact inStep.masks connected
  | fire timer a =>
    obtain ⟨⟨task, timers⟩, fired, rfl⟩ := Option.map_eq_some_iff.1 taken
    exact inStep.fire fired (answered _ fired)
  | setCurrentFunctions funcs a =>
    obtain rfl := Option.some.inj taken
    refine inStep.same_mask (link_setCurrentFunctions m a funcs) ?_
    exact (masks_setCurrentFunctions m a funcs).imp id fun both => ⟨funcs, both⟩
  | userChangeProcess a =>
    obtain rfl := Option.some.inj taken
    exact inStep.same_mask (link_userChangeProcess m a) (masks_userChangeProcess m a)
  | setPhyConnectState phyConnect =>
    obtain rfl := Option.some.inj taken
    exact ⟨inStep.link, inStep.masks⟩
  | setChargeFlag isReverseCharge =>
    obtain rfl := Option.some.inj taken
    exact ⟨inStep.link, inStep.masks⟩

theorem reach_inStep {functions : UInt32} (run : Reach step TasksAnswered (start functions) m) : m.InStep := by
  refine run.invariant InStep ?_ ?_
  · exact ⟨⟨rfl, .inl rfl, fun r single => by cases single⟩, fun connected => by cases connected⟩
  · intro m action m' inStep answered taken
    exact inStep.step answered taken

/-! ## The disconnect task -/

theorem hasMedia_eq_false_of {f : UInt32} (own : m.currentFunctions = f) (mtp : f &&& usbFunctionMtp = 0)
    (ptp : f &&& usbFunctionPtp = 0) : m.hasMedia = false := by
  simp [hasMedia, own, mtp, ptp]

theorem withoutMedia_ne (media : m.hasMedia = true) : m.withoutMedia ≠ m.currentFunctions := by
  intro same
  have mtp := m.withoutMedia_and_mtp
  have ptp := m.withoutMedia_and_ptp
  rw [same] at mtp ptp
  rw [hasMedia_eq_false_of rfl mtp ptp] at media
  cases media

theorem storage_ne (auth : m.hasDevmodeAuth = true) : usbFunctionStorage ≠ m.currentFunctions := by
  intro same
  rw [hasDevmodeAuth, ← same] at auth
  revert auth
  decide

section Dropped

variable {after : UsbDeviceManager} {a : Answers} (agree : m.currentFunctions = m.driver.functions)
  (masks : after.masks = m.disconnectMasks a)

include agree masks

/-- The task removes MTP and PTP. -/
theorem dropped_iff_of_media (media : m.hasMedia = true) : m.Dropped after ↔ m.Answered a .disconnect := by
  rw [disconnectMasks, if_pos media] at masks
  obtain ⟨current, driver⟩ := Prod.mk.inj masks
  have noMedia : after.hasMedia = false :=
    hasMedia_eq_false_of current m.withoutMedia_and_mtp m.withoutMedia_and_ptp
  have sameAuth : after.hasDevmodeAuth = m.hasDevmodeAuth := by
    rw [hasDevmodeAuth, current, withoutMedia_and_devmodeAuth, hasDevmodeAuth]
  have reached := m.driver.setCurrentFunctions_eq_iff (a := a) (agree ▸ m.withoutMedia_ne media)
  constructor
  · intro dropped
    refine ⟨fun _ => ?_, fun _ => reached.1 (current.symm.trans (dropped.driver.trans driver))⟩
    rw [← sameAuth]
    exact (Bool.or_eq_false_iff.1 dropped.none_left).2
  · rintro ⟨noAuth, ok⟩
    have some_taken : m.hasSensitive = true := by simp [hasSensitive, media]
    refine ⟨?_, fun _ => ?_, ?_, fun clean => ?_⟩
    · rw [hasSensitive, noMedia, sameAuth, noAuth media]
      rfl
    · rw [current]
      exact m.withoutMedia_ne_zero
    · exact current.trans ((reached.2 (ok some_taken)).trans driver.symm)
    · rw [clean] at some_taken
      cases some_taken

/-- The task finds only DEVMODE_AUTH, and sets STORAGE in its place. -/
theorem dropped_iff_of_auth (media : m.hasMedia = false) (auth : m.hasDevmodeAuth = true) :
    m.Dropped after ↔ m.Answered a .disconnect := by
  rw [disconnectMasks, if_neg (by simp [media]), if_pos auth] at masks
  obtain ⟨current, driver⟩ := Prod.mk.inj masks
  have reached := m.driver.setCurrentFunctions_eq_iff (a := a) (agree ▸ m.storage_ne auth)
  have some_taken : m.hasSensitive = true := by simp [hasSensitive, auth]
  constructor
  · intro dropped
    refine ⟨fun has => ?_, fun _ => reached.1 (current.symm.trans (dropped.driver.trans driver))⟩
    rw [media] at has
    cases has
  · rintro ⟨-, ok⟩
    refine ⟨?_, fun _ => ?_, ?_, fun clean => ?_⟩
    · rw [hasSensitive, hasMedia, hasDevmodeAuth, current]
      decide
    · rw [current]
      decide
    · exact current.trans ((reached.2 (ok some_taken)).trans driver.symm)
    · rw [clean] at some_taken
      cases some_taken

/-- The task finds none of the three. -/
theorem dropped_of_clean (media : m.hasMedia = false) (auth : m.hasDevmodeAuth = false) : m.Dropped after := by
  rw [disconnectMasks, if_neg (by simp [media]), if_neg (by simp [auth])] at masks
  obtain ⟨current, driver⟩ := Prod.mk.inj masks
  have clean : m.hasSensitive = false := by simp [hasSensitive, media, auth]
  have same : after.hasSensitive = m.hasSensitive := by
    rw [hasSensitive, hasMedia, hasDevmodeAuth, current]
    rfl
  refine ⟨same.trans clean, fun has => ?_, current.trans (agree.trans driver.symm), fun _ => current⟩
  rw [clean] at has
  cases has

/-- From masks that agree, the task leaves what it is to leave exactly if it meets its condition. -/
theorem dropped_iff : m.Dropped after ↔ m.Answered a .disconnect := by
  cases media : m.hasMedia with
  | true => exact dropped_iff_of_media agree masks media
  | false =>
    cases auth : m.hasDevmodeAuth with
    | true => exact dropped_iff_of_auth agree masks media auth
    | false =>
      refine ⟨fun _ => ⟨fun _ => auth, fun has => ?_⟩, fun _ => dropped_of_clean agree masks media auth⟩
      rw [hasSensitive, media, auth] at has
      cases has

end Dropped

end UsbDeviceManager

/-- In a run whose tasks are answered, a disconnect task takes the sensitive functions away from the
manager and the driver alike exactly if it is answered itself. -/
theorem disconnect_drops_sensitive {functions : UInt32} {m m' : UsbDeviceManager}
    (run : Reach UsbDeviceManager.step UsbDeviceManager.TasksAnswered (.start functions) m)
    {timer : Nat} {a : Answers} {timers : Timers Task} (fired : m.timers.fire timer = some (.disconnect, timers))
    (taken : m.step (.fire timer a) = some m') :
    m.Dropped m' ↔ m.TasksAnswered (.fire timer a) := by
  have inStep := UsbDeviceManager.reach_inStep run
  have connected : m.connected = true := by
    have task := (inStep.link.fire fired).2
    by_contra off
    rw [if_neg (show ¬ m.link.connected = true from off)] at task
    cases task
  obtain ⟨⟨task, rest⟩, again, rfl⟩ := Option.map_eq_some_iff.1 taken
  obtain ⟨rfl, rfl⟩ := Prod.mk.inj (Option.some.inj (fired.symm.trans again))
  have masks := UsbDeviceManager.masks_disconnectTask { m with timers } a
  refine (UsbDeviceManager.dropped_iff (inStep.masks connected) masks).trans ?_
  constructor
  · intro answered other same
    cases Option.some.inj (fired.symm.trans same)
    exact answered
  · intro answered
    exact answered _ fired

/-- A connection with the media transfer, which its end takes away. -/
theorem disconnect_drops_sensitive_mtp :
    ∃ m m', Reach UsbDeviceManager.step UsbDeviceManager.TasksAnswered (.start usbFunctionMtp) m ∧
      m.step (.fire 1 {}) = some m' ∧ m.Dropped m' := by
  have run : Reach UsbDeviceManager.step UsbDeviceManager.TasksAnswered (.start usbFunctionMtp) _ := reach_of_guarded
    [.handleEvent .actUpDevice, .fire 0 {}, .handleEvent .actDownDevice] .init rfl
  refine ⟨_, _, run, rfl, (@disconnect_drops_sensitive _ _ _ run 1 {} _ rfl rfl).2 ?_⟩
  decide

/-- The authentication survives beside a media function; and a driver that refuses keeps the media
function that the manager no longer has. -/
theorem disconnect_keeps_sensitive :
    (∃ m m', Reach UsbDeviceManager.step anyStep (.start (usbFunctionMtp ||| usbFunctionDevmodeAuth)) m ∧
      m.step (.fire 1 {}) = some m' ∧ m.timers.pending.map (·.task) = [.disconnect] ∧
      m'.currentFunctions = usbFunctionDevmodeAuth ∧ m'.driver.functions = usbFunctionDevmodeAuth) ∧
    ∃ m m', Reach UsbDeviceManager.step anyStep (.start usbFunctionMtp) m ∧
      m.step (.fire 1 { setRet := .hdfFailure }) = some m' ∧ m.timers.pending.map (·.task) = [.disconnect] ∧
      m'.currentFunctions = usbFunctionStorage ∧ m'.driver.functions = usbFunctionMtp := by
  have both : Reach UsbDeviceManager.step anyStep (.start (usbFunctionMtp ||| usbFunctionDevmodeAuth)) _ :=
    reach_of_runFrom [.handleEvent .actUpDevice, .fire 0 {}, .handleEvent .actDownDevice]
      (fun _ _ _ => trivial) .init rfl
  have media : Reach UsbDeviceManager.step anyStep (.start usbFunctionMtp) _ :=
    reach_of_runFrom [.handleEvent .actUpDevice, .fire 0 {}, .handleEvent .actDownDevice]
      (fun _ _ _ => trivial) .init rfl
  exact ⟨⟨_, _, both, rfl, rfl, by decide, by decide⟩, _, _, media, rfl, rfl, by decide, by decide⟩

end UsbManager.Gadget
