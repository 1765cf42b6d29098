import UsbManager.Host.Broadcast

/-!
# When the broadcasts are right

Two things break the alternation of attach and detach events. `AddDevice` replaces a device at its
address without announcing its end, and it announces whatever device it finds, also one that is
announced already: by a policy that disabled and enabled it meanwhile, or by another `AddDevice` of
the address. Sections on one device that overlap under the shared lock break it too. In the runs
without these, the events are right throughout.
-/

namespace UsbManager.Host

open Transition

/-! ### The events of a device -/

/-- Attach and detach take turns, and the first event is an attach. -/
def Alternates : List DeviceEvent → Prop
  | [] => True
  | [event] => event = .attached
  | event :: before :: rest => event ≠ before ∧ Alternates (before :: rest)

/-- The last event of the device is an attach. -/
def Devices.Announced (h : Devices) (dev : Nat) : Prop := (h.eventsOf dev).head? = some .attached

theorem Alternates.attach {events : List DeviceEvent} (alternates : Alternates events)
    (last : events.head? ≠ some .attached) : Alternates (.attached :: events) := by
  match events with
  | [] => rfl
  | .attached :: _ => exact absurd rfl last
  | .detached :: _ => exact ⟨by decide, alternates⟩

theorem Alternates.detach {events : List DeviceEvent} (alternates : Alternates events)
    (last : events.head? = some .attached) : Alternates (.detached :: events) := by
  match events with
  | [] => cases last
  | .attached :: _ => exact ⟨by decide, alternates⟩
  | .detached :: _ => cases last

/-! ### The condition -/

/-- No device that is announced is replaced or announced again, and a section under the shared lock
that changes a device starts only when no other one is open on it. -/
def orderly (w : World) : Action → Prop
  | .addDevice dev =>
    ∀ old, w.host.devices[deviceName dev.busNum dev.devAddr]? = some old → w.host.status old ≠ .enabled
  | .announce name =>
    ∀ dev, w.host.toAnnounce name = some dev →
      w.host.status dev ≠ .enabled ∧ ∀ call ∈ w.calls, call.device ≠ some dev
  | .usbDeviceAuthorize busNum devAddr authorized ret =>
    ∀ dev, w.authorizes busNum devAddr authorized ret = some dev → ∀ call ∈ w.calls, call.device ≠ some dev
  | _ => True

/-- What a section under the shared lock relies on. -/
def Call.Agrees (h : Devices) : Call → Prop
  | .addDevice _ => True
  | .enabling dev => ¬ h.Announced dev
  | .announcing dev => h.status dev = .enabled ∧ ¬ h.Announced dev
  | .authorizing dev authorized authorizeStatus =>
    (h.Announced dev ↔ authorizeStatus = .enabled) ∧ (authorized = true ↔ authorizeStatus = .disabled)
  | .settling dev authorized => h.Announced dev ↔ authorized = true

structure World.Sound (w : World) : Prop where
  known : w.host.Numbered
  named : ∀ (name name' : String) dev, w.host.devices[name]? = some dev → w.host.devices[name']? = some dev →
    name = name'
  unborn : ∀ dev, w.host.allocated ≤ dev → w.host.eventsOf dev = []
  present : ∀ call ∈ w.calls, ∀ dev, call.device = some dev → ∃ name : String, w.host.devices[name]? = some dev
  alone : (w.calls.filterMap Call.device).Nodup
  alternates : ∀ dev, Alternates (w.host.eventsOf dev)
  gone : ∀ dev, (∀ name : String, w.host.devices[name]? ≠ some dev) → ¬ w.host.Announced dev
  idle : ∀ (name : String) dev, w.host.devices[name]? = some dev → (∀ call ∈ w.calls, call.device ≠ some dev) →
    (w.host.Announced dev ↔ w.host.status dev = .enabled)
  busy : ∀ call ∈ w.calls, call.Agrees w.host

section Steps

variable {w w' : World}

theorem Call.Agrees.congr {h h' : Devices} {call : Call} (agrees : call.Agrees h)
    (same : ∀ dev, call.device = some dev → h'.eventsOf dev = h.eventsOf dev ∧ h'.status dev = h.status dev) :
    call.Agrees h' := by
  cases call with
  | addDevice => trivial
  | enabling dev | announcing dev | authorizing dev | settling dev =>
    obtain ⟨events, status⟩ := same dev rfl
    simp only [Call.Agrees, Devices.Announced, events, status] at agrees ⊢
    exact agrees

/-- Sections that work on different devices, and one more. -/
theorem Call.nodup_cons {call : Call} {dev : Nat} {calls : List Call} (on : call.device = some dev)
    (single : ∀ other ∈ calls, other.device ≠ some dev) (alone : (calls.filterMap Call.device).Nodup) :
    ((call :: calls).filterMap Call.device).Nodup := by
  rw [List.filterMap_cons_some on, List.nodup_cons]
  refine ⟨fun member => ?_, alone⟩
  obtain ⟨other, inside, works⟩ := List.mem_filterMap.1 member
  exact single other inside works

/-- A section starts on a device that no other one works on. -/
theorem World.Sound.start {call : Call} {dev : Nat} (sound : w.Sound) (on : call.device = some dev)
    (present : ∃ name : String, w.host.devices[name]? = some dev) (single : ∀ other ∈ w.calls, other.device ≠ some dev)
    (agrees : call.Agrees w.host) : World.Sound { w with calls := call :: w.calls } := by
  refine ⟨sound.known, sound.named, sound.unborn, List.forall_mem_cons.2 ⟨?_, sound.present⟩,
    Call.nodup_cons on single sound.alone, sound.alternates, sound.gone, ?_,
    List.forall_mem_cons.2 ⟨agrees, sound.busy⟩⟩
  · intro dev' works
    rw [on] at works
    cases works
    exact present
  · intro name dev' found unused
    exact sound.idle name dev' found fun other member => unused other (List.mem_cons_of_mem _ member)

/-- `AddDevice` between its sections works on no device, so it may end there. -/
theorem World.Sound.drop (sound : w.Sound) (name : String) :
    World.Sound { w with calls := w.calls.erase (.addDevice name) } := by
  refine ⟨sound.known, sound.named, sound.unborn, all_of_ended sound.present,
    sound.alone.sublist (List.Sublist.filterMap _ List.erase_sublist), sound.alternates, sound.gone,
    fun name' dev found unused => ?_, all_of_ended sound.busy⟩
  refine sound.idle name' dev found fun call member works => ?_
  have used : ∃ other ∈ w.calls, other.device = some dev := ⟨call, member, works⟩
  obtain ⟨other, still, works'⟩ := exists_of_ended used (show (Call.addDevice name).device ≠ some dev from nofun)
  exact unused other still works'

theorem World.Sound.others {call : Call} {dev : Nat} (sound : w.Sound) (flying : call ∈ w.calls)
    (on : call.device = some dev) :
    (∀ other ∈ w.calls.erase call, other.device ≠ some dev) ∧ ((w.calls.erase call).filterMap Call.device).Nodup := by
  have same := (List.perm_cons_erase flying).filterMap Call.device
  rw [List.filterMap_cons_some on] at same
  obtain ⟨fresh, rest⟩ := List.nodup_cons.1 (same.nodup_iff.1 sound.alone)
  exact ⟨fun other member works => fresh (List.mem_filterMap.2 ⟨other, member, works⟩), rest⟩

/-- A section takes a step on its device, and goes on there or ends. -/
theorem World.Sound.proceed {call : Call} {dev : Nat} {h' : Devices} (sound : w.Sound) (next : Option Call)
    (flying : call ∈ w.calls) (on : call.device = some dev) (devices : h'.devices = w.host.devices)
    (allocated : h'.allocated = w.host.allocated)
    (elsewhere : ∀ other, other ≠ dev → h'.eventsOf other = w.host.eventsOf other ∧
      h'.status other = w.host.status other)
    (alternates : Alternates (h'.eventsOf dev)) (goes : ∀ call' ∈ next, call'.device = some dev ∧ call'.Agrees h')
    (ends : next = none → (h'.Announced dev ↔ h'.status dev = .enabled)) :
    World.Sound { host := h', calls := next.toList ++ w.calls.erase call } := by
  obtain ⟨others, nodup⟩ := sound.others flying on
  obtain ⟨here, found⟩ := sound.present call flying dev on
  have before : dev < w.host.allocated := sound.known here dev found
  refine ⟨?_, ?_, ?_, ?_, ?_, ?_, ?_, ?_, ?_⟩
  · intro name other stored
    rw [devices] at stored
    rw [allocated]
    exact sound.known name other stored
  · rw [devices]
    exact sound.named
  · intro other unborn
    rw [allocated] at unborn
    rw [(elsewhere other (by omega)).1]
    exact sound.unborn other unborn
  · intro other member dev' works
    rw [devices]
    rcases List.mem_append.1 member with new | old
    · rw [(goes other (Option.mem_toList.1 new)).1] at works
      cases works
      exact ⟨here, found⟩
    · exact sound.present other (List.mem_of_mem_erase old) dev' works
  · cases next with
    | none => exact nodup
    | some call' => exact Call.nodup_cons (goes call' rfl).1 others nodup
  · intro other
    by_cases same : other = dev
    · rw [same]
      exact alternates
    · rw [(elsewhere other same).1]
      exact sound.alternates other
  · intro other absent
    rw [devices] at absent
    have different : other ≠ dev := by
      rintro rfl
      exact absent here found
    rw [Devices.Announced, (elsewhere other different).1]
    exact sound.gone other absent
  · intro name other stored unused
    rw [devices] at stored
    by_cases same : other = dev
    · subst same
      refine ends (Option.eq_none_iff_forall_not_mem.2 fun call' member => ?_)
      exact unused call' (List.mem_append_left _ (Option.mem_toList.2 member)) (goes call' member).1
    · rw [Devices.Announced, (elsewhere other same).1, (elsewhere other same).2]
      refine sound.idle name other stored fun call' member works => ?_
      by_cases this : call' = call
      · rw [this, on] at works
        cases works
        exact same rfl
      · exact unused call' (List.mem_append_right _ ((List.mem_erase_of_ne this).2 member)) works
  · intro other member
    rcases List.mem_append.1 member with new | old
    · exact (goes other (Option.mem_toList.1 new)).2
    · refine (sound.busy other (List.mem_of_mem_erase old)).congr fun dev' works => ?_
      apply elsewhere
      rintro rfl
      exact others other old works

/-- The broadcast of `UsbDeviceAuthorize` tells a change that has not been told, and a new device nothing. -/
theorem World.Sound.authorizing {dev : Nat} {authorized : Bool} {authorizeStatus : AuthorizeStatus}
    (sound : w.Sound) (flying : .authorizing dev authorized authorizeStatus ∈ w.calls) :
    World.Sound
      { host := w.host.publishAuthorized dev authorized authorizeStatus
        calls := .settling dev authorized :: w.calls.erase (.authorizing dev authorized authorizeStatus) } := by
  obtain ⟨announced, change⟩ := sound.busy _ flying
  by_cases arrived : authorizeStatus = .newArrived
  · have same : w.host.publishAuthorized dev authorized authorizeStatus = w.host :=
      if_neg fun published => published arrived
    rw [same]
    refine sound.proceed (some (.settling dev authorized)) flying rfl rfl rfl ?_ (sound.alternates dev) ?_ nofun
    · exact fun other different => ⟨rfl, rfl⟩
    · rintro _ ⟨⟩
      refine ⟨rfl, announced.trans ?_⟩
      rw [change, arrived]
      decide
  · have publishes : w.host.publishAuthorized dev authorized authorizeStatus =
        w.host.publishCommonEvent (if authorized then .attached else .detached) dev := if_pos arrived
    rw [publishes]
    refine sound.proceed (some (.settling dev authorized)) flying rfl rfl rfl ?_ ?_ ?_ nofun
    · exact fun other different => ⟨Devices.eventsOf_publish_other different, rfl⟩
    · rw [Devices.eventsOf_publish_self]
      cases authorized with
      | true =>
        refine (sound.alternates dev).attach fun attached => ?_
        have enabled := announced.1 attached
        rw [change.1 rfl] at enabled
        cases enabled
      | false =>
        refine (sound.alternates dev).detach (announced.2 ?_)
        cases authorizeStatus with
        | enabled => rfl
        | newArrived => exact absurd rfl arrived
        | disabled => exact absurd (change.2 rfl) (by decide)
    · rintro _ ⟨⟩
      refine ⟨rfl, ?_⟩
      rw [Call.Agrees, Devices.Announced, Devices.eventsOf_publish_self]
      cases authorized <;> simp

theorem World.Sound.advance {call : Call} (sound : w.Sound) (flying : call ∈ w.calls)
    (taken : w.advance call = some w') :
    w'.Sound := by
  have agrees := sound.busy call flying
  cases call with
  | addDevice name => cases taken
  | enabling dev =>
    cases taken
    refine sound.proceed (some (.announcing dev)) flying rfl rfl rfl ?_ (sound.alternates dev) ?_ nofun
    · exact fun other different => ⟨rfl, Devices.status_set_other different⟩
    · rintro _ ⟨⟩
      exact ⟨rfl, Devices.status_set_self, agrees⟩
  | announcing dev =>
    cases taken
    refine sound.proceed none flying rfl rfl rfl ?_ ?_ nofun fun _ => ?_
    · exact fun other different => ⟨Devices.eventsOf_publish_other different, rfl⟩
    · rw [Devices.eventsOf_publish_self]
      exact (sound.alternates dev).attach agrees.2
    · rw [Devices.Announced, Devices.eventsOf_publish_self]
      exact ⟨fun _ => agrees.1, fun _ => rfl⟩
  | authorizing dev authorized authorizeStatus =>
    cases taken
    exact sound.authorizing flying
  | settling dev authorized =>
    cases taken
    refine sound.proceed none flying rfl rfl rfl ?_ (sound.alternates dev) nofun fun _ => ?_
    · exact fun other different => ⟨rfl, Devices.status_set_other different⟩
    · rw [Devices.status_set_self]
      refine agrees.trans ?_
      cases authorized <;> decide

/-- While nobody holds the lock in shared mode, a device is announced iff it is enabled. -/
theorem World.Sound.quiet (sound : w.Sound) (free : w.free = true) {name : String} {dev : Nat}
    (found : w.host.devices[name]? = some dev) : w.host.Announced dev ↔ w.host.status dev = .enabled := by
  refine sound.idle name dev found fun call member works => ?_
  have none := List.all_eq_true.1 free call member
  rw [works] at none
  cases none

theorem World.free_device (free : w.free = true) : ∀ call ∈ w.calls, call.device = none := fun call member =>
  Option.isNone_iff_eq_none.1 (List.all_eq_true.1 free call member)

theorem Devices.status_insertDevice_other (h : Devices) (dev : UsbDevice) {object : Nat}
    (different : object ≠ h.allocated) :
    (h.insertDevice dev).status object = h.status object := by
  simp [Devices.status, Devices.insertDevice, different]

/-- What is found after the insertion is the new object, or was there. -/
theorem Devices.insertDevice_found {h : Devices} (known : h.Numbered) {dev : UsbDevice} {name : String} {object : Nat}
    (found : (h.insertDevice dev).devices[name]? = some object) :
    (name = deviceName dev.busNum dev.devAddr ∧ object = h.allocated) ∨
      (h.devices[name]? = some object ∧ object < h.allocated) := by
  rw [Devices.insertDevice_getElem?] at found
  split_ifs at found with same
  · exact .inl ⟨same, (Option.some.inj found).symm⟩
  · exact .inr ⟨found, known name object found⟩

theorem World.Sound.addDevice {dev : UsbDevice} (sound : w.Sound) (free : w.free = true)
    (guard : orderly w (.addDevice dev)) :
    World.Sound
      { host := w.host.insertDevice dev, calls := .addDevice (deviceName dev.busNum dev.devAddr) :: w.calls } := by
  have none := World.free_device free
  have all : ∀ call ∈ (.addDevice (deviceName dev.busNum dev.devAddr) :: w.calls : List Call), call.device = .none := by
    intro call member
    rcases List.mem_cons.1 member with rfl | member
    · rfl
    · exact none call member
  refine ⟨sound.known.insertDevice dev, ?_, ?_, ?_, ?_, sound.alternates, ?_, ?_, ?_⟩
  · intro name name' object found found'
    rcases Devices.insertDevice_found sound.known found with ⟨rfl, new⟩ | ⟨old, before⟩ <;>
      rcases Devices.insertDevice_found sound.known found' with ⟨rfl, new'⟩ | ⟨old', before'⟩
    · rfl
    · omega
    · omega
    · exact sound.named name name' object old old'
  · intro object unborn
    exact sound.unborn object (Nat.le_of_succ_le unborn)
  · intro call member object works
    rw [all call member] at works
    cases works
  · exact sound.alone
  · intro object absent
    by_cases before : ∃ name : String, w.host.devices[name]? = some object
    · -- the device replaced was not enabled, so its end need not be announced
      obtain ⟨name, found⟩ := before
      have missing := absent name
      rw [Devices.insertDevice_getElem?] at missing
      split_ifs at missing with same
      · subst same
        exact fun announced => guard object found ((sound.quiet free found).1 announced)
      · exact absurd found missing
    · exact sound.gone object fun name found => before ⟨name, found⟩
  · intro name object found _
    rcases Devices.insertDevice_found sound.known found with ⟨-, rfl⟩ | ⟨old, before⟩
    · have events : (w.host.insertDevice dev).eventsOf w.host.allocated = [] :=
        sound.unborn _ (Nat.le_refl _)
      have status : (w.host.insertDevice dev).status w.host.allocated = .newArrived := by
        simp [Devices.status, Devices.insertDevice]
      rw [Devices.Announced, events, status]
      decide
    · rw [Devices.status_insertDevice_other _ _ (by omega)]
      exact sound.quiet free old
  · intro call member
    rcases List.mem_cons.1 member with rfl | member
    · trivial
    · refine (sound.busy call member).congr fun object works => ?_
      rw [none call member] at works
      cases works

section Detach

variable {busNum devNum : UInt8} {devOld : Nat} {h : Devices}
  (there : h.devices[deviceName busNum devNum]? = some devOld)

include there

theorem Devices.eventsOf_delDevice_other {object : Nat} (different : object ≠ devOld) :
    (h.delDevice busNum devNum).2.eventsOf object = h.eventsOf object := by
  simp only [Devices.delDevice, there]
  split_ifs
  · exact Devices.eventsOf_publish_other different
  · rfl

/-- A device whose announcement follows its status is not announced after its detach. -/
theorem Devices.delDevice_ended (alternates : Alternates (h.eventsOf devOld))
    (quiet : h.Announced devOld ↔ h.status devOld = .enabled) :
    Alternates ((h.delDevice busNum devNum).2.eventsOf devOld) ∧ ¬ (h.delDevice busNum devNum).2.Announced devOld := by
  simp only [Devices.delDevice, there, Devices.Announced]
  split_ifs with enabled
  · have events : ({ h.publishCommonEvent .detached devOld with
        devices := h.devices.erase (deviceName busNum devNum) } : Devices).eventsOf devOld =
          .detached :: h.eventsOf devOld := Devices.eventsOf_publish_self
    rw [events]
    exact ⟨alternates.detach (quiet.2 enabled), nofun⟩
  · exact ⟨alternates, fun announced => enabled (quiet.1 announced)⟩

/-- What is found after the detach was there and is another device. -/
theorem Devices.delDevice_still
    (named : ∀ name : String, h.devices[name]? = some devOld → name = deviceName busNum devNum) {name : String}
    {object : Nat} (found : (h.delDevice busNum devNum).2.devices[name]? = some object) :
    h.devices[name]? = some object ∧ object ≠ devOld := by
  rw [Devices.delDevice_getElem?] at found
  split_ifs at found with same
  refine ⟨found, ?_⟩
  rintro rfl
  exact same (named name found)

end Detach

theorem World.Sound.delDevice {busNum devNum : UInt8} (sound : w.Sound) (free : w.free = true) :
    World.Sound { w with host := (w.host.delDevice busNum devNum).2 } := by
  have none := World.free_device free
  cases there : w.host.devices[deviceName busNum devNum]? with
  | none =>
    have same : (w.host.delDevice busNum devNum).2 = w.host := by simp [Devices.delDevice, there]
    rw [same]
    exact sound
  | some devOld =>
    have devices := w.host.delDevice_getElem? busNum devNum
    have allocated := w.host.delDevice_allocated busNum devNum
    have status : ∀ object, (w.host.delDevice busNum devNum).2.status object = w.host.status object := by
      intro object
      rw [Devices.status, Devices.delDevice_heap]
      rfl
    have others : ∀ object, object ≠ devOld →
        (w.host.delDevice busNum devNum).2.eventsOf object = w.host.eventsOf object :=
      fun _ => Devices.eventsOf_delDevice_other there
    have ended := Devices.delDevice_ended there (sound.alternates devOld) (sound.quiet free there)
    have still : ∀ (name : String) object, (w.host.delDevice busNum devNum).2.devices[name]? = some object →
        w.host.devices[name]? = some object ∧ object ≠ devOld :=
      fun _ _ => Devices.delDevice_still there fun _ found => sound.named _ _ _ found there
    refine ⟨sound.known.delDevice busNum devNum, ?_, ?_, ?_, sound.alone, ?_, ?_, ?_, ?_⟩
    · intro name name' object found found'
      exact sound.named name name' object (still name object found).1 (still name' object found').1
    · intro object unborn
      rw [allocated] at unborn
      have before := sound.known _ _ there
      rw [others object (by omega)]
      exact sound.unborn object unborn
    · intro call member object works
      rw [none call member] at works
      cases works
    · intro object
      by_cases same : object = devOld
      · rw [same]
        exact ended.1
      · rw [others object same]
        exact sound.alternates object
    · intro object absent
      by_cases same : object = devOld
      · rw [same]
        exact ended.2
      · rw [Devices.Announced, others object same]
        refine sound.gone object fun name found => absent name ?_
        rw [devices, if_neg, found]
        rintro rfl
        rw [there] at found
        cases found
        exact same rfl
    · intro name object found _
      obtain ⟨old, different⟩ := still name object found
      rw [Devices.Announced, others object different, status]
      exact sound.quiet free old
    · intro call member
      refine (sound.busy call member).congr fun object works => ?_
      rw [none call member] at works
      cases works

theorem Devices.toAnnounce_eq_some {h : Devices} {name : String} {dev : Nat} (found : h.toAnnounce name = some dev) :
    h.devices[name]? = some dev ∧ h.status dev ≠ .disabled := by
  unfold Devices.toAnnounce at found
  grind

theorem World.authorizes_eq_some {busNum devAddr : UInt8} {authorized : Bool} {ret : Option UsbErrCode} {dev : Nat}
    (found : w.authorizes busNum devAddr authorized ret = some dev) :
    w.host.devices[deviceName busNum devAddr]? = some dev ∧ (authorized = true ↔ w.host.status dev = .disabled) := by
  unfold World.authorizes Devices.needsChange at found
  grind

theorem World.Sound.step {action : Action} (sound : w.Sound) (guard : orderly w action)
    (taken : w.step action = some w') : w'.Sound := by
  cases action with
  | addDevice dev =>
    simp only [World.step, Option.ite_none_right_eq_some, Option.some.injEq] at taken
    obtain ⟨free, rfl⟩ := taken
    exact sound.addDevice free guard
  | announce name =>
    simp only [World.step, Option.ite_none_right_eq_some] at taken
    obtain ⟨-, taken⟩ := taken
    cases found : w.host.toAnnounce name with
    | none =>
      simp only [found, Option.some.injEq] at taken
      subst taken
      exact sound.drop name
    | some dev =>
      simp only [found, Option.some.injEq] at taken
      subst taken
      obtain ⟨here, -⟩ := Devices.toAnnounce_eq_some found
      obtain ⟨notYet, single⟩ := guard dev found
      refine (sound.drop name).start rfl ⟨name, here⟩ ?_ ?_
      · exact fun other member => single other (List.mem_of_mem_erase member)
      · exact fun announced => notYet ((sound.idle name dev here single).1 announced)
  | usbDeviceAuthorize busNum devAddr authorized ret =>
    simp only [World.step] at taken
    cases found : w.authorizes busNum devAddr authorized ret with
    | none =>
      simp only [found, Option.some.injEq] at taken
      exact taken ▸ sound
    | some dev =>
      simp only [found, Option.some.injEq] at taken
      subst taken
      obtain ⟨here, change⟩ := World.authorizes_eq_some found
      have single := guard dev found
      exact sound.start rfl ⟨_, here⟩ single ⟨sound.idle _ dev here single, change⟩
  | advance call =>
    simp only [World.step, Option.ite_none_right_eq_some] at taken
    exact sound.advance taken.1 taken.2
  | delDevice busNum devNum =>
    simp only [World.step, Option.ite_none_right_eq_some, Option.some.injEq] at taken
    obtain ⟨free, rfl⟩ := taken
    exact sound.delDevice free

theorem World.sound_of_reach (reached : Reach World.step orderly {} w) : w.Sound := by
  have start : World.Sound {} := by
    refine ⟨?_, ?_, fun _ _ => rfl, nofun, List.nodup_nil, fun _ => trivial, fun _ _ => nofun, ?_, nofun⟩
    · exact fun name dev found => by simp at found
    · exact fun name name' dev found => by simp at found
    · exact fun name dev found => by simp at found
  exact Reach.invariant World.Sound start (fun _ _ _ sound guard taken => sound.step guard taken) reached

end Steps

/-! ### Runs -/

/-- The events of every device alternate from an attach on; and when no call is in progress, the last
one is an attach for exactly the enabled devices, and no attach for a device that is gone. -/
structure World.BroadcastsRight (w : World) : Prop where
  alternates : ∀ dev, Alternates (w.host.eventsOf dev)
  present : w.calls = [] → ∀ (name : String) dev, w.host.devices[name]? = some dev →
    ((w.host.eventsOf dev).head? = some .attached ↔ w.host.status dev = .enabled)
  gone : w.calls = [] → ∀ dev, (∀ name : String, w.host.devices[name]? ≠ some dev) →
    w.host.eventsOf dev = [] ∨ (w.host.eventsOf dev).head? = some .detached

/-- In every run whose steps meet the condition, the broadcasts are right in every state. -/
theorem broadcasts_right {w : World} (reached : Reach World.step orderly {} w) : w.BroadcastsRight := by
  have sound := World.sound_of_reach reached
  refine ⟨sound.alternates, fun quiet name dev found => ?_, fun _ dev absent => ?_⟩
  · refine sound.idle name dev found fun call member => ?_
    rw [quiet] at member
    cases member
  · have silent := sound.gone dev absent
    rw [Devices.Announced] at silent
    match events : w.host.eventsOf dev with
    | [] => exact .inl rfl
    | .detached :: _ => exact .inr rfl
    | .attached :: _ => exact absurd (by rw [events]; rfl) silent

/-- A device at address 2 of bus 1. -/
def sampleDevice : UsbDevice := { busNum := 1, devAddr := 2, vendorId := 4817, productId := 4258, serial := "A1" }

/-- The steps of `AddDevice` for the device that gets number `object`. -/
def attachSteps (object : Nat) : List Action :=
  [.addDevice sampleDevice, .announce (deviceName 1 2), .advance (.enabling object), .advance (.announcing object)]

theorem broadcasts_right_detached :
    ∃ w : World, w.calls = [] ∧ w.host.eventsOf 0 = [.detached, .attached] ∧ w.BroadcastsRight := by
  have added : Reach World.step orderly {} _ :=
    Reach.step (a := Action.addDevice sampleDevice) .init (fun old found => by simp at found) rfl
  have started : Reach World.step orderly {} _ :=
    Reach.step (a := Action.announce (deviceName 1 2)) added
      (fun dev found => by cases found; exact ⟨by decide +kernel, by decide +kernel⟩) rfl
  have enabled : Reach World.step orderly {} _ :=
    Reach.step (a := Action.advance (.enabling 0)) started trivial rfl
  have announced : Reach World.step orderly {} _ :=
    Reach.step (a := Action.advance (.announcing 0)) enabled trivial rfl
  have removed : Reach World.step orderly {} _ :=
    Reach.step (a := Action.delDevice 1 2) announced trivial rfl
  exact ⟨_, rfl, by decide +kernel, broadcasts_right removed⟩

/-- A device that takes over the address of an enabled one ends it without a detach event. -/
theorem replaced_device_not_detached : ¬ ∀ w, Reach World.step anyStep {} w → w.BroadcastsRight := by
  intro right
  have reached : Reach World.step anyStep {} _ :=
    reach_of_runFrom (attachSteps 0 ++ attachSteps 1) (fun _ _ _ => trivial) .init rfl
  have gone := (right _ reached).gone rfl 0 fun name found => by
    change ((({} : Devices).insertDevice sampleDevice).insertDevice sampleDevice).devices[name]? = some 0 at found
    rw [Devices.insertDevice_getElem?, Devices.insertDevice_getElem?] at found
    split_ifs at found
    · cases found
    · simp at found
  exact absurd gone (by decide +kernel)

end UsbManager.Host
