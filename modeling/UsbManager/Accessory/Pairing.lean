import UsbManager.Accessory.Configuring

/-!
# Attach and detach

`ProcessAccessoryStart` announces an accessory when the manager comes to `ACC_START`, and
`ProcessAccessoryStop` takes the announcement back and gives the gadget the functions that it had. These
are the only ways in and out, as long as no send event and no new request to configure takes the manager
out of `ACC_START` past `ProcessAccessoryStop`.

`lastDeviceFunc_` is the mask before the last switch that the manager made itself. That it is the mask
before accessory mode needs that nobody else takes the driver there.
-/

namespace UsbManager.Accessory

open Timer Transition
open Gadget (Status)

/-! ## The announcements -/

/-- The accessory that is announced and not taken back, by the notices so far (the last one first). -/
def announcedBy : List Notice → Option USBAccessory
  | [] => none
  | .attached accessory :: _ => some accessory
  | .detached _ :: _ => none
  | .sent _ :: rest | .setCurrentFunctions _ :: rest => announcedBy rest

/-- An accessory is announced when none is, and only the accessory announced is taken back. -/
def Paired : List Notice → Prop
  | [] => True
  | .attached _ :: rest => announcedBy rest = none ∧ Paired rest
  | .detached accessory :: rest => announcedBy rest = some accessory ∧ Paired rest
  | .sent _ :: rest | .setCurrentFunctions _ :: rest => Paired rest

/-! ## Sessions -/

/-- The manager, and the mask of the driver before it last came to accessory mode. -/
structure Session where
  manager : UsbAccessoryManager
  before : UInt32

namespace Session

variable (s : Session)

def start (functions : UInt32) : Session where
  manager := .start functions
  before := functions

def beforeAfter (functions : UInt32) : UInt32 :=
  if s.manager.functions &&& funAccessory = 0 ∧ functions &&& funAccessory ≠ 0 then s.manager.functions else s.before

def step (action : Action) : Option Session :=
  (s.manager.step action).map fun manager => { manager := manager, before := s.beforeAfter manager.functions }

/-- In `ACC_START` no send event comes, and no request to configure finds the driver out of accessory mode
and takes it there again. -/
def OrderlyEvent (m : UsbAccessoryManager) (a : Answers) (status : Status) : Prop :=
  m.accStatus = .accStart →
    match m.requested status with
    | .accSend => False
    | .accConfiguring => a.getRet = .uecOk → m.functions &&& funAccessory = 0 → a.setRet ≠ .uecOk
    | .accNone | .accStart | .accStop => True

/-- Events are orderly when they are processed, and others do not take the driver to accessory mode. -/
def Orderly : Action → Prop
  | .handleEvent status delayProcess a =>
    UsbAccessoryManager.delays status delayProcess = false → OrderlyEvent s.manager a status
  | .fire timer a => ∀ fired ∈ s.manager.timers.fire timer, fired.1 = .antiShake →
      OrderlyEvent s.manager a s.manager.eventStatus
  | .others functions => functions &&& funAccessory ≠ 0 → s.manager.functions &&& funAccessory ≠ 0

/-- What the manager keeps, apart from its timers. -/
structure Told : Prop where
  last : s.manager.lastDeviceFunc &&& funAccessory = 0
  before : s.manager.functions &&& funAccessory ≠ 0 ∨ s.manager.accStatus = .accStart →
    s.manager.lastDeviceFunc = s.before
  paired : Paired s.manager.notices
  announced : announcedBy s.manager.notices =
    if s.manager.accStatus = .accStart then some s.manager.accessory else none

/-- The session after an operation of the manager. -/
def after (manager : UsbAccessoryManager) : Session :=
  { manager := manager, before := s.beforeAfter manager.functions }

variable {s} {a : Answers} {mode : AccessoryMode} {m' : UsbAccessoryManager}

/-- Functions that do not take the driver to accessory mode. -/
theorem beforeAfter_eq {functions : UInt32}
    (stays : functions &&& funAccessory ≠ 0 → s.manager.functions &&& funAccessory ≠ 0) :
    s.beforeAfter functions = s.before := by
  unfold beforeAfter
  rw [if_neg fun enters => stays enters.2 enters.1]

theorem beforeAfter_same : s.beforeAfter s.manager.functions = s.before := beforeAfter_eq id

/-- The driver goes back to `lastDeviceFunc_`, or refuses. -/
theorem Told.functionsAfter (told : s.Told) (a : Answers) :
    s.beforeAfter (s.manager.functionsAfter a s.manager.lastDeviceFunc) = s.before ∧
      (s.manager.functionsAfter a s.manager.lastDeviceFunc &&& funAccessory ≠ 0 →
        s.manager.functions &&& funAccessory ≠ 0) := by
  unfold UsbAccessoryManager.functionsAfter
  split
  · exact ⟨beforeAfter_eq fun inside => absurd told.last inside, fun inside => absurd told.last inside⟩
  · exact ⟨beforeAfter_same, fun inside => inside⟩

/-- The timers take no part in it. -/
theorem Told.retimed (told : s.Told) (eventStatus : Status) (accDelay antiShake : Option Nat) (timers : Timers Task) :
    Session.Told
      { s with
        manager := { s.manager with
          eventStatus := eventStatus
          accDelayTimerId := accDelay
          antiShakeDelayTimerId := antiShake
          timers := timers } } :=
  ⟨told.last, told.before, told.paired, told.announced⟩

/-- While no accessory is announced the status is free to change. -/
theorem Told.none_announced (told : s.Told) (out : s.manager.accStatus ≠ .accStart) :
    announcedBy s.manager.notices = none := by
  rw [told.announced, if_neg out]

/-- Every outcome of an orderly event keeps the announcements paired. -/
theorem told_handled {status : Status} (handled : s.manager.Handled a (s.manager.requested status) m') (told : s.Told)
    (orderly : OrderlyEvent s.manager a status) : (s.after m').Told := by
  unfold OrderlyEvent at orderly
  generalize s.manager.requested status = mode at handled orderly
  cases handled with
  | none | ignored | unread | again | early =>
    refine ⟨told.last, fun inside => ?_, told.paired, told.announced⟩
    exact (told.before inside).trans beforeAfter_same.symm
  | announced asks got inside out =>
    refine ⟨told.last, fun _ => ?_, ⟨told.none_announced out, told.paired⟩, rfl⟩
    exact (told.before (.inl inside)).trans beforeAfter_same.symm
  | refused got outside failed =>
    refine ⟨told.last, fun inside => ?_, told.paired, told.announced⟩
    exact (told.before inside).trans beforeAfter_same.symm
  | configured got outside ok =>
    have out : s.manager.accStatus ≠ .accStart := fun started => orderly started got outside ok
    refine ⟨outside, fun _ => ?_, told.paired, told.none_announced out⟩
    show s.manager.functions = s.beforeAfter funAccessory
    unfold beforeAfter
    rw [if_pos ⟨outside, by decide⟩]
  | stopped inside started =>
    obtain ⟨same, stays⟩ := told.functionsAfter a
    have open_ : announcedBy s.manager.notices = some s.manager.accessory := by
      rw [told.announced, if_pos started]
    refine ⟨told.last, fun inside' => ?_, ⟨open_, told.paired⟩, rfl⟩
    rcases inside' with mask | never
    · exact (told.before (.inl (stays mask))).trans same.symm
    · cases never
  | sent =>
    have none := told.none_announced fun started => orderly started
    have quiet (notices : List Notice) (accessory : USBAccessory) (paired : Paired notices)
        (same : announcedBy notices = announcedBy s.manager.notices) :
        (s.after { s.manager with accStatus := .accSend, accessory := accessory, notices := notices }).Told := by
      refine ⟨told.last, fun inside => ?_, paired, same.trans none⟩
      exact (told.before (.inl (inside.resolve_right nofun))).trans beforeAfter_same.symm
    unfold UsbAccessoryManager.processAccessorySend
    dsimp only
    split
    · split
      · exact quiet _ _ told.paired rfl
      · exact quiet _ _ told.paired rfl
    · exact quiet _ _ told.paired rfl

/-- An orderly event takes the manager out of `ACC_START` through `ProcessAccessoryStop` only. -/
theorem leaves_start {status : Status} (handled : s.manager.Handled a (s.manager.requested status) m')
    (orderly : OrderlyEvent s.manager a status) (started : s.manager.accStatus = .accStart)
    (left : m'.accStatus ≠ .accStart) : m' = s.manager.stopped a := by
  have allowed := orderly started
  generalize s.manager.requested status = mode at handled allowed
  cases handled with
  | none | ignored | unread | again | early | refused => exact absurd started left
  | announced asks got inside out => exact absurd started out
  | configured got outside ok => exact absurd ok (allowed got outside)
  | stopped inside started => rfl
  | sent => exact allowed.elim

/-! ## The restore task -/

/-- No switch is undone while an accessory is announced. -/
def Calm (c : Clock) : Prop := c.accStatus = .accStart → ¬ c.timers.Pending .restore

theorem calm_handled {m : UsbAccessoryManager} (handled : m.Handled a mode m') (timed : m.clock.Timed)
    (calm : Calm m.clock) : Calm m'.clock := by
  have cancelled : ¬ m.clock.cancel.timers.Pending .restore := timed.restore.not_pending
  cases handled with
  | none | ignored => exact calm
  | unread | announced | again | early | refused => exact fun _ => cancelled
  | configured => exact nofun
  | stopped => exact nofun
  | sent =>
    rw [UsbAccessoryManager.clock_processAccessorySend]
    exact nofun

theorem calm_noted {m : UsbAccessoryManager} (calm : Calm m.clock) (timed : m.clock.Timed) (status : Status)
    (delayProcess : Bool) : Calm (m.noted status delayProcess).clock := by
  intro started
  cases delayProcess with
  | false => exact calm started
  | true => 
    exact fun pending =>
      calm started ((timed.antiShake.pending_unregister (show Task.restore ≠ Task.antiShake by decide)).1 pending)

/-! ## One step -/

/-- What a step that starts in `s` and comes to `s'` does to the announcements. -/
structure Advances (s s' : Session) : Prop where
  told : s'.Told
  calm : Calm s'.manager.clock
  /-- The way out of `ACC_START`. -/
  leaves : s.manager.accStatus = .accStart → s'.manager.accStatus ≠ .accStart →
    s'.manager.notices =
      .detached s.manager.accessory :: .setCurrentFunctions s.manager.lastDeviceFunc :: s.manager.notices

theorem advances_handleEvent (told : s.Told) (calm : Calm s.manager.clock) (timed : s.manager.clock.Timed)
    {status : Status} {delayProcess : Bool}
    (orderly : UsbAccessoryManager.delays status delayProcess = false → OrderlyEvent s.manager a status) :
    s.Advances (s.after (s.manager.handleEvent a status delayProcess)) := by
  rcases UsbAccessoryManager.handleEvent_eq (a := a) timed.present status delayProcess with ⟨-, later⟩ | ⟨prompt, now⟩
  · rw [later]
    refine ⟨⟨told.last, fun inside => ?_, told.paired, told.announced⟩, ?_, fun started left => absurd started left⟩
    · exact (told.before inside).trans beforeAfter_same.symm
    · intro started pending
      rcases (Timers.pending_register _).1 pending with shaking | old
      · cases shaking
      · exact calm_noted calm timed status true started old
  · rw [now]
    have timed' := UsbAccessoryManager.noted_timed timed status delayProcess
    have told' : Session.Told { s with manager := s.manager.noted status delayProcess } :=
      told.retimed _ _ _ _
    have handled := UsbAccessoryManager.handled a timed'.present
      ((s.manager.noted status delayProcess).requested status)
    refine ⟨told_handled (s := { s with manager := s.manager.noted status delayProcess }) handled told'
      (orderly prompt), calm_handled handled timed' (calm_noted calm timed status delayProcess), fun started left => ?_⟩
    have stopped := leaves_start (s := { s with manager := s.manager.noted status delayProcess }) handled
      (orderly prompt) started left
    show (UsbAccessoryManager.processHandle _ a _).notices = _
    rw [stopped]
    rfl

theorem advances_restore (told : s.Told) (calm : Calm s.manager.clock)
    (pending : s.manager.timers.Pending .restore) (timers : Timers Task) :
    s.Advances (s.after ({ s.manager with timers := timers }.restored a)) := by
  have out : s.manager.accStatus ≠ .accStart := fun started => calm started pending
  obtain ⟨same, stays⟩ := told.functionsAfter a
  refine ⟨⟨told.last, fun inside => ?_, told.paired, told.none_announced out⟩, nofun, fun started => absurd started out⟩
  rcases inside with mask | never
  · exact (told.before (.inl (stays mask))).trans same.symm
  · cases never

theorem advances_step (told : s.Told) (calm : Calm s.manager.clock) (timed : s.manager.clock.Timed) {action : Action}
    (orderly : s.Orderly action) {s' : Session} (taken : s.step action = some s') : s.Advances s' := by
  obtain ⟨manager, moved, rfl⟩ := Option.map_eq_some_iff.1 taken
  cases UsbAccessoryManager.stepped timed.present moved with
  | handled => exact advances_handleEvent told calm timed orderly
  | @shaken timer a timers fired =>
    obtain rfl := timed.antiShake.fire fired
    have advances := @advances_handleEvent
      { s with manager := { s.manager with timers := s.manager.timers.unregister s.manager.antiShakeDelayTimerId } } a
      (told.retimed _ _ _ _) (calm_noted calm timed s.manager.eventStatus true) (timed.unregister _)
      s.manager.eventStatus false fun _ => orderly _ fired rfl
    exact ⟨advances.told, advances.calm, advances.leaves⟩
  | restored fired =>
    obtain ⟨⟨r, member, -, own⟩, -⟩ := Timers.fire_cases fired
    exact advances_restore told calm ⟨r, member, own⟩ _
  | @others functions =>
    refine ⟨⟨told.last, fun inside => ?_, told.paired, told.announced⟩, calm, fun started left => absurd started left⟩
    have same : s.beforeAfter functions = s.before := beforeAfter_eq orderly
    rcases inside with mask | started
    · exact (told.before (.inl (orderly mask))).trans same.symm
    · exact (told.before (.inr started)).trans same.symm

/-- The manager of a session runs as it would by itself. -/
theorem timed_step {s' : Session} (timed : s.manager.clock.Timed) {action : Action} (taken : s.step action = some s') :
    s'.manager.clock.Timed := by
  obtain ⟨manager, moved, rfl⟩ := Option.map_eq_some_iff.1 taken
  exact UsbAccessoryManager.timed_step timed moved

theorem reach_told {functions : UInt32} (out : functions &&& funAccessory = 0)
    (run : Reach step Orderly (start functions) s) : s.manager.clock.Timed ∧ Calm s.manager.clock ∧ s.Told := by
  refine run.invariant (fun s => s.manager.clock.Timed ∧ Calm s.manager.clock ∧ s.Told) ?_ ?_
  · refine ⟨⟨rfl, nofun, ⟨nofun, nofun⟩, ⟨nofun, nofun⟩⟩, nofun, ⟨UInt32.zero_and, fun inside => ?_, trivial, rfl⟩⟩
    rcases inside with mask | never
    · exact absurd out mask
    · cases never
  · rintro s action s' ⟨timed, calm, told⟩ orderly taken
    have advances := advances_step told calm timed orderly taken
    exact ⟨timed_step timed taken, advances.calm, advances.told⟩

end Session

/-- In an orderly run that starts outside accessory mode the announcements are paired, `lastDeviceFunc_`
has no accessory function, and every way out of `ACC_START` takes the announcement back and asks the
driver for the mask from before accessory mode. -/
theorem accessory_announcements_paired {functions : UInt32} (out : functions &&& funAccessory = 0) {s : Session}
    (run : Reach Session.step Session.Orderly (.start functions) s) :
    Paired s.manager.notices ∧ s.manager.lastDeviceFunc &&& funAccessory = 0 ∧
      ∀ action s', s.Orderly action → s.step action = some s' →
        s.manager.accStatus = .accStart → s'.manager.accStatus ≠ .accStart →
          s'.manager.notices =
            .detached s.manager.accessory :: .setCurrentFunctions s.manager.lastDeviceFunc :: s.manager.notices ∧
          s.manager.lastDeviceFunc = s.before := by
  obtain ⟨timed, calm, told⟩ := Session.reach_told out run
  refine ⟨told.paired, told.last, fun action s' orderly taken started left => ?_⟩
  exact ⟨(Session.advances_step told calm timed orderly taken).leaves started left, told.before (.inr started)⟩

/-- An accessory comes and goes: the gadget has the functions of the start again. -/
theorem accessory_announcements_paired_once :
    ∃ s, Reach Session.step Session.Orderly (.start Gadget.usbFunctionHdc) s ∧
      s.manager.accStatus = .accStop ∧ s.manager.functions = Gadget.usbFunctionHdc ∧
      s.manager.notices.length = 4 ∧ Paired s.manager.notices := by
  have configuring : Reach Session.step Session.Orderly (.start Gadget.usbFunctionHdc) _ :=
    .step (a := .handleEvent .actAccessoryUp true {}) .init (fun _ started => nomatch started) rfl
  have started : Reach Session.step Session.Orderly (.start Gadget.usbFunctionHdc) _ :=
    .step (a := .handleEvent .actUpDevice false { accessorys := ["maker", "product", "", "1", "2"] }) configuring
      (fun _ started => nomatch started) rfl
  have stopped : Reach Session.step Session.Orderly (.start Gadget.usbFunctionHdc) _ :=
    .step (a := .handleEvent .actAccessoryDown true {}) started (fun _ _ => trivial) rfl
  exact ⟨_, stopped, rfl, rfl, rfl, (accessory_announcements_paired (by decide) stopped).1⟩

/-- A send event in `ACC_START`, and the next accessory is announced with the first one never taken back.
And a driver in accessory mode from the start is given no function at all when the accessory goes. -/
theorem accessory_announced_twice :
    (∃ s, Reach Session.step anyStep (.start Gadget.usbFunctionHdc) s ∧ ¬ Paired s.manager.notices) ∧
    ∃ s s', Reach Session.step anyStep (.start funAccessory) s ∧ s.manager.accStatus = .accStart ∧
      s.step (.handleEvent .actAccessoryDown true {}) = some s' ∧ s'.manager.accStatus = .accStop ∧
      s'.manager.functions = 0 := by
  have twice : Reach Session.step anyStep (.start Gadget.usbFunctionHdc) _ := reach_of_runFrom
    [.handleEvent .actAccessoryUp true {}, .handleEvent .actAccessoryUp true {}, .handleEvent .actAccessorySend true {},
      .handleEvent .actAccessoryUp true {}]
    (fun _ _ _ => trivial) .init rfl
  have inside : Reach Session.step anyStep (.start funAccessory) _ :=
    reach_of_runFrom [.handleEvent .actAccessoryUp true {}] (fun _ _ _ => trivial) .init rfl
  refine ⟨⟨_, twice, ?_⟩, _, _, inside, rfl, rfl, rfl, rfl⟩
  rintro ⟨none, -⟩
  cases none

end UsbManager.Accessory
