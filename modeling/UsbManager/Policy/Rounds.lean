import UsbManager.Lib.Components
import UsbManager.Policy.Recorded
import UsbManager.Policy.TrustOutcome

/-!
# Rounds with a driver that agrees

When the driver agrees to everything, a round of a policy over the devices makes of each device a function
of what it was: the status is settled, or the flags of the interfaces in one configuration are set.
-/

namespace UsbManager.Policy

open Host

/-! ## Devices and events -/

/-- A device and the events published for it. -/
def shown (o : Nat) (s : State) : UsbDevice × List DeviceEvent := (s.device o, s.host.eventsOf o)

/-- What is shown after an operation on the attached devices gives the devices. -/
theorem device_of_shown {s s' : State} {after : Nat → UsbDevice × List DeviceEvent}
    (acted : ∀ o, shown o s' = if o ∈ s.objects then after o else shown o s) :
    (∀ o, s.Attached o → s'.device o = (after o).1) ∧ ∀ o, ¬ s.Attached o → s'.device o = s.device o := by
  constructor
  · intro o attached
    have same := acted o
    rw [if_pos (State.mem_objects.2 attached)] at same
    exact congrArg Prod.fst same
  · intro o away
    have same := acted o
    rw [if_neg fun member => away (State.mem_objects.1 member)] at same
    exact congrArg Prod.fst same

/-- The same devices stand at the same addresses. -/
structure Placed (s₀ s : State) : Prop where
  devices : s.host.devices = s₀.host.devices
  serialDevices : s.serialDevices = s₀.serialDevices
  busNum : ∀ o, (s.device o).busNum = (s₀.device o).busNum
  devAddr : ∀ o, (s.device o).devAddr = (s₀.device o).devAddr

/-- The status of the device is settled. -/
def authorizeShown (authorized : Bool) (d : UsbDevice × List DeviceEvent) : UsbDevice × List DeviceEvent :=
  ({ d.1 with authorizeStatus := settled authorized d.1.authorizeStatus },
    settledEvent authorized d.1.authorizeStatus ++ d.2)

/-- The interfaces of one configuration are replaced. -/
def mapInterfaces (index : Nat) (f : UsbInterface → UsbInterface) (d : UsbDevice) : UsbDevice :=
  { d with configs := d.configs.modify index fun c => { c with interfaces := c.interfaces.map f } }

def flagShown (index : Nat) (ask : UsbInterface → Option Bool) (d : UsbDevice × List DeviceEvent) :
    UsbDevice × List DeviceEvent :=
  (mapInterfaces index (answered ask) d.1, d.2)

theorem Placed.refl (s : State) : Placed s s := ⟨rfl, rfl, fun _ => rfl, fun _ => rfl⟩

theorem Placed.objects {s₀ s : State} (placed : Placed s₀ s) : s.objects = s₀.objects := by
  rw [State.objects, placed.devices, State.objects]

theorem Placed.attached {s₀ s : State} (placed : Placed s₀ s) {o : Nat} : s.Attached o ↔ s₀.Attached o := by
  rw [State.Attached, placed.devices, State.Attached]

theorem Placed.named {s₀ s : State} (placed : Placed s₀ s) (named : s₀.Named) : s.Named := by
  intro name o found
  rw [placed.busNum, placed.devAddr]
  rw [placed.devices] at found
  exact named name o found

theorem Placed.isExempt {s₀ s : State} (placed : Placed s₀ s) (env : Env) (o : Nat) :
    isExempt env s o = isExempt env s₀ o := by
  rw [Policy.isExempt, isUsbSerialDevice, placed.serialDevices, placed.busNum, placed.devAddr]
  rfl

/-- A step that keeps what is shown of every device, and the maps. -/
theorem acts_silent {s₀ : State} {α : Type} {m : Manager α} (host : ∀ s, (m s).2.host = s.host)
    (serialDevices : ∀ s, (m s).2.serialDevices = s.serialDevices) : Acts (Placed s₀) shown (fun _ d => d) m := by
  have device : ∀ s o, (m s).2.device o = s.device o := fun s o => by rw [State.device, host, State.device]
  refine ⟨fun s placed => ⟨?_, ?_, fun o => ?_, fun o => ?_⟩, fun s _ o => ?_⟩
  · rw [host]
    exact placed.devices
  · rw [serialDevices]
    exact placed.serialDevices
  · rw [device]
    exact placed.busNum o
  · rw [device]
    exact placed.devAddr o
  · rw [shown, device, host, shown]

section Steps

variable {env : Env} {s₀ : State}

theorem callUsbd_serialDevices (call : HdiCall) (s : State) :
    (callUsbd env call s).2.serialDevices = s.serialDevices := by
  unfold callUsbd
  split_ifs <;> rfl

theorem acts_callUsbd (call : HdiCall) : Acts (Placed s₀) shown (fun _ d => d) (callUsbd env call) :=
  acts_silent (callUsbd_host call) (callUsbd_serialDevices call)

theorem acts_getActiveConfig (busNum devAddr : UInt8) :
    Acts (Placed s₀) shown (fun _ d => d) (getActiveConfig env busNum devAddr) :=
  .get fun _ _ => ⟨_, .bind (acts_callUsbd _) fun _ => .pure _, fun _ => rfl⟩

theorem usbDeviceAuthorize_serialDevices (busNum devAddr : UInt8) (authorized : Bool) (s : State) :
    (usbDeviceAuthorize env busNum devAddr authorized s).2.serialDevices = s.serialDevices := by
  have kept : Keeps (fun s' : State => s'.serialDevices = s.serialDevices)
      (usbDeviceAuthorize env busNum devAddr authorized) := by
    refine usbDeviceAuthorize_keeps (fun _ _ _ => ?_) fun _ _ _ _ => ?_
    · exact .get fun _ _ => .bind (fun s' same => (callUsbd_serialDevices _ s').trans same) fun _ => .pure _
    · exact .bind (fun _ same => same) fun _ => .ite (fun _ => .pure _) fun _ =>
        .bind (.modify fun _ same => same) fun _ => .pure _
  exact kept s rfl

theorem shown_authorize (h : Devices) (object o : Nat) (authorized : Bool) :
    ((authorize h object authorized).heap o, (authorize h object authorized).eventsOf o) =
      if o = object then authorizeShown authorized (h.heap o, h.eventsOf o) else (h.heap o, h.eventsOf o) := by
  rw [authorize_heap, eventsOf_authorize]
  split_ifs <;> rfl

/-- The driver agrees, so the status of the device is settled. -/
theorem acts_usbDeviceAuthorize (succeeds : Succeeds env) (named : s₀.Named) {o : Nat} (attached : s₀.Attached o)
    (authorized : Bool) :
    Acts (Placed s₀) shown (fun p d => if p = o then authorizeShown authorized d else d)
      (usbDeviceAuthorize env (s₀.device o).busNum (s₀.device o).devAddr authorized) := by
  have host : ∀ s, Placed s₀ s →
      (usbDeviceAuthorize env (s₀.device o).busNum (s₀.device o).devAddr authorized s).2.host =
        authorize s.host o authorized := by
    intro s placed
    have found := named.found attached
    rw [← placed.devices] at found
    obtain ⟨calls, done⟩ := usbDeviceAuthorize_host env found authorized
    rw [done, if_pos ⟨succeeds.usbDeviceInterface, succeeds.answer _ _⟩]
  have acts : ∀ s, Placed s₀ s → ∀ p,
      shown p (usbDeviceAuthorize env (s₀.device o).busNum (s₀.device o).devAddr authorized s).2 =
        if p = o then authorizeShown authorized (shown p s) else shown p s := by
    intro s placed p
    rw [shown, State.device, host s placed]
    exact shown_authorize s.host o p authorized
  have address : ∀ s, Placed s₀ s → ∀ p,
      ((usbDeviceAuthorize env (s₀.device o).busNum (s₀.device o).devAddr authorized s).2.device p).busNum =
          (s.device p).busNum ∧
        ((usbDeviceAuthorize env (s₀.device o).busNum (s₀.device o).devAddr authorized s).2.device p).devAddr =
          (s.device p).devAddr := by
    intro s placed p
    have device := congrArg Prod.fst (acts s placed p)
    dsimp only [shown] at device
    rw [device]
    split_ifs <;> exact ⟨rfl, rfl⟩
  refine ⟨fun s placed => ⟨?_, ?_, fun p => ?_, fun p => ?_⟩, acts⟩
  · rw [host s placed, authorize_devices]
    exact placed.devices
  · rw [usbDeviceAuthorize_serialDevices]
    exact placed.serialDevices
  · exact (address s placed p).1.trans (placed.busNum p)
  · exact (address s placed p).2.trans (placed.devAddr p)

/-! ### Interfaces -/

theorem usbInterfaceAuthorize_frame (busNum devAddr configId interfaceId : UInt8) (authorized : Bool) (s : State) :
    (usbInterfaceAuthorize env busNum devAddr configId interfaceId authorized s).2.host = s.host ∧
      (usbInterfaceAuthorize env busNum devAddr configId interfaceId authorized s).2.serialDevices =
        s.serialDevices := by
  have kept : Keeps (fun s' : State => s'.host = s.host ∧ s'.serialDevices = s.serialDevices)
      (usbInterfaceAuthorize env busNum devAddr configId interfaceId authorized) := by
    refine .ite (fun _ => .pure _) fun _ => .bind (fun _ same => same) fun _ => .ite (fun _ => ?_) fun _ => .pure _
    rintro s' ⟨host, serialDevices⟩
    exact ⟨(callUsbd_host _ s').trans host, (callUsbd_serialDevices _ s').trans serialDevices⟩
  exact kept s ⟨rfl, rfl⟩

/-- One device has other interfaces in a configuration, and nothing else has changed. -/
structure Flagged (object index : Nat) (interfaces : List UsbInterface) (s s' : State) : Prop where
  devices : s'.host.devices = s.host.devices
  serialDevices : s'.serialDevices = s.serialDevices
  shown : ∀ p, shown p s' =
    if p = object then (withInterfaces (s.device object) index interfaces, s.host.eventsOf object) else shown p s

variable {object index : Nat}

theorem Flagged.refl {s : State} {c : USBConfig} (here : (s.device object).configs[index]? = some c) :
    Flagged object index c.interfaces s s := by
  refine ⟨rfl, rfl, fun p => ?_⟩
  split_ifs with same
  · rw [same, withInterfaces_self here]
    rfl
  · rfl

theorem Flagged.trans {first second : List UsbInterface} {s mid s' : State} (one : Flagged object index first s mid)
    (two : Flagged object index second mid s') : Flagged object index second s s' := by
  refine ⟨two.devices.trans one.devices, two.serialDevices.trans one.serialDevices, fun p => ?_⟩
  have own := one.shown object
  rw [if_pos rfl] at own
  obtain ⟨device, events⟩ := Prod.mk.inj own
  rw [two.shown p]
  split_ifs with same
  · rw [device, events, withInterfaces_twice]
  · rw [one.shown p, if_neg same]

/-- The round of one interface. -/
theorem flagged_round {s : State} {c : USBConfig} {done rest : List UsbInterface} {i : UsbInterface}
    {authorized : Bool} (here : (s.device object).configs[index]? = some c) (split : c.interfaces = done ++ i :: rest)
    (busNum devAddr configId : UInt8) :
    Flagged object index (done ++ { i with authorized } :: rest) s
      (setInterfaceAuthorized object index done.length authorized
        (usbInterfaceAuthorize env busNum devAddr configId (.ofInt i.id) authorized s).2) := by
  obtain ⟨host, serialDevices⟩ :=
    @usbInterfaceAuthorize_frame env busNum devAddr configId (.ofInt i.id) authorized s
  let asked : State := (usbInterfaceAuthorize env busNum devAddr configId (.ofInt i.id) authorized s).2
  have device : ∀ p, asked.device p = s.device p := fun p => by rw [State.device, host, State.device]
  have devices : asked.host.devices = s.host.devices := congrArg Devices.devices host
  refine ⟨devices, serialDevices, fun p => ?_⟩
  have unchanged : asked.host.eventsOf p = s.host.eventsOf p := congrArg (fun h => Devices.eventsOf h p) host
  have events : (setInterfaceAuthorized object index done.length authorized asked).host.eventsOf p =
      s.host.eventsOf p := unchanged
  split_ifs with same
  · rw [← device object] at here
    rw [shown, events, same, device_setInterfaceAuthorized here split, device]
  · have other : (setInterfaceAuthorized object index done.length authorized asked).device p = asked.device p := by
      simp only [State.device, setInterfaceAuthorized, if_neg same]
    rw [shown, events, other, device, shown]

theorem authorizeInterfaces_flagged (dev : UInt8 × UInt8) (configId : UInt8) (ask : UsbInterface → Option Bool)
    (rest done : List UsbInterface) {s : State} {c : USBConfig} (here : (s.device object).configs[index]? = some c)
    (split : c.interfaces = done ++ rest) :
    Flagged object index (done ++ rest.map (answered ask)) s
      (authorizeInterfaces env object index dev configId ask done.length rest s).2 := by
  induction rest generalizing done s c with
  | nil =>
    rw [List.append_nil] at split
    rw [List.map_nil, List.append_nil, ← split]
    exact .refl here
  | cons i rest ih =>
    have regroup : done ++ (i :: rest).map (answered ask) = (done ++ [answered ask i]) ++ rest.map (answered ask) := by
      simp
    have length : (done ++ [answered ask i]).length = done.length + 1 := by simp
    rw [regroup]
    cases asked : ask i with
    | none =>
      have same : answered ask i = i := by rw [answered, asked]
      have later := ih (done ++ [answered ask i]) here (by rw [same, split]; simp)
      rw [length] at later
      simp only [authorizeInterfaces, asked]
      exact later
    | some authorized =>
      have set : answered ask i = { i with authorized } := by rw [answered, asked]
      have first : Flagged object index (done ++ answered ask i :: rest) s
          (setInterfaceAuthorized object index done.length authorized
            (usbInterfaceAuthorize env dev.1 dev.2 configId (.ofInt i.id) authorized s).2) :=
        set ▸ flagged_round here split dev.1 dev.2 configId
      have own := first.shown object
      rw [if_pos rfl] at own
      have here' : ((setInterfaceAuthorized object index done.length authorized
          (usbInterfaceAuthorize env dev.1 dev.2 configId (.ofInt i.id) authorized s).2).device
            object).configs[index]? =
            some { c with interfaces := done ++ answered ask i :: rest } := by
        rw [(Prod.mk.inj own).1]
        exact getElem?_withInterfaces here _
      have later := ih (done ++ [answered ask i]) here' (by simp)
      rw [length] at later
      simp only [authorizeInterfaces, asked]
      exact first.trans later

theorem mapInterfaces_eq {d : UsbDevice} {c : USBConfig} (here : d.configs[index]? = some c)
    (f : UsbInterface → UsbInterface) : mapInterfaces index f d = withInterfaces d index (c.interfaces.map f) := by
  rw [mapInterfaces, withInterfaces]
  congr 1
  apply modify_congr
  intro c' found
  cases here.symm.trans found
  rfl

theorem mapInterfaces_of_none {d : UsbDevice} (none : d.configs[index]? = none) (f : UsbInterface → UsbInterface) :
    mapInterfaces index f d = d := by
  rw [mapInterfaces, List.modify_eq_self (List.getElem?_eq_none_iff.1 none)]

theorem mapInterfaces_id (index : Nat) (d : UsbDevice) : mapInterfaces index (fun i => i) d = d := by
  cases here : d.configs[index]? with
  | none => exact mapInterfaces_of_none here _
  | some c => rw [mapInterfaces_eq here, List.map_id', withInterfaces_self here]

/-- The flags are set in the configuration at the position before the value that was reported. -/
theorem acts_authorizeActiveConfig (o : Nat) (configIndex : UInt8) (ask : UsbInterface → Option Bool) :
    Acts (Placed s₀) shown (fun p d => if p = o then flagShown (configIndex - 1).toNat ask d else d)
      (authorizeActiveConfig env o configIndex ask) := by
  have flagged : ∀ s, ∃ d, d = mapInterfaces (configIndex - 1).toNat (answered ask) (s.device o) ∧
      (authorizeActiveConfig env o configIndex ask s).2.host.devices = s.host.devices ∧
      (authorizeActiveConfig env o configIndex ask s).2.serialDevices = s.serialDevices ∧
      ∀ p, shown p (authorizeActiveConfig env o configIndex ask s).2 =
        if p = o then (d, s.host.eventsOf o) else shown p s := by
    intro s
    rw [authorizeActiveConfig, stateM_bind, stateM_get]
    dsimp only
    cases here : (s.device o).configs[(configIndex - 1).toNat]? with
    | none =>
      refine ⟨_, rfl, rfl, rfl, fun p => ?_⟩
      split_ifs with same
      · rw [mapInterfaces_of_none here, same]
        rfl
      · rfl
    | some c =>
      obtain ⟨devices, serialDevices, done⟩ := @authorizeInterfaces_flagged env _ _
        ((s.device o).busNum, (s.device o).devAddr) (.ofInt c.id) ask c.interfaces [] _ _ here rfl
      rw [List.nil_append, ← mapInterfaces_eq here] at done
      exact ⟨_, rfl, devices, serialDevices, done⟩
  have acts : ∀ s, ∀ p, shown p (authorizeActiveConfig env o configIndex ask s).2 =
      if p = o then flagShown (configIndex - 1).toNat ask (shown p s) else shown p s := by
    intro s p
    obtain ⟨d, rfl, -, -, done⟩ := flagged s
    rw [done]
    split_ifs with same
    · rw [same]
      rfl
    · rfl
  have address : ∀ s p, ((authorizeActiveConfig env o configIndex ask s).2.device p).busNum = (s.device p).busNum ∧
      ((authorizeActiveConfig env o configIndex ask s).2.device p).devAddr = (s.device p).devAddr := by
    intro s p
    have device := congrArg Prod.fst (acts s p)
    dsimp only [shown] at device
    rw [device]
    split_ifs <;> exact ⟨rfl, rfl⟩
  refine ⟨fun s placed => ?_, fun s _ => acts s⟩
  obtain ⟨-, -, devices, serialDevices, -⟩ := flagged s
  exact ⟨devices.trans placed.devices, serialDevices.trans placed.serialDevices,
    fun p => (address s p).1.trans (placed.busNum p), fun p => (address s p).2.trans (placed.devAddr p)⟩

/-! ### What the driver reports -/

/-- The driver reports one active configuration for each device, counting from one. -/
structure Env.Reports (env : Env) (s₀ : State) (k : Nat → UInt8) : Prop where
  configIndex : ∀ o, s₀.Attached o → ∀ calls,
    env.configIndex calls (s₀.device o).busNum (s₀.device o).devAddr = k o
  positive : ∀ o, s₀.Attached o → 1 ≤ k o

/-- The position of the active configuration. -/
theorem Env.Reports.position {k : Nat → UInt8} (reports : env.Reports s₀ k) {o : Nat} (attached : s₀.Attached o) :
    (k o - 1).toNat = (k o).toNat - 1 := by
  rw [UInt8.toNat_sub_of_le _ _ (reports.positive o attached)]
  rfl

theorem getActiveConfig_eq (succeeds : Succeeds env) {k : Nat → UInt8} (reports : env.Reports s₀ k) {o : Nat}
    (attached : s₀.Attached o) (s : State) :
    (getActiveConfig env (s₀.device o).busNum (s₀.device o).devAddr s).1 = (.uecOk, k o) := by
  have run : (getActiveConfig env (s₀.device o).busNum (s₀.device o).devAddr s).1 =
      ((callUsbd env (.getConfig (s₀.device o).busNum (s₀.device o).devAddr) s).1,
        if env.usbd then env.configIndex s.calls (s₀.device o).busNum (s₀.device o).devAddr else 0) := rfl
  rw [run, callUsbd, if_pos succeeds.usbd, if_pos succeeds.usbd, reports.configIndex o attached]
  exact congrArg (·, k o) (succeeds.answer _ _)

end Steps

/-! ## Interfaces of a device -/

def interfaceAt (d : UsbDevice) (index position : Nat) : Option UsbInterface :=
  d.configs[index]?.bind (·.interfaces[position]?)

theorem interfaceAt_mapInterfaces (d : UsbDevice) (f : UsbInterface → UsbInterface) (changed index position : Nat) :
    interfaceAt (mapInterfaces changed f d) index position =
      if index = changed then (interfaceAt d index position).map f else interfaceAt d index position := by
  simp only [interfaceAt, mapInterfaces, List.getElem?_modify]
  cases d.configs[index]? with
  | none => simp
  | some c =>
    split_ifs with same same' same'
    · simp
    · exact absurd same.symm same'
    · exact absurd same'.symm same
    · simp

theorem mapInterfaces_mapInterfaces (index : Nat) (f g : UsbInterface → UsbInterface) (d : UsbDevice) :
    mapInterfaces index g (mapInterfaces index f d) = mapInterfaces index (fun i => g (f i)) d := by
  simp only [mapInterfaces, List.modify_modify_eq]
  congr 2
  funext c
  simp

end UsbManager.Policy
