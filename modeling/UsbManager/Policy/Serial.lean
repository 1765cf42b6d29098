import UsbManager.Lib.Transition
import UsbManager.Policy.Kept

/-!
# The serial policy

While the device manager forbids serial devices, they are disabled by `ManageUsbSerialDevice`, and the
other policies leave the addresses in `serialDevices_` alone. A world adds to the state of the manager
which device objects are serial devices.

Two paths do not follow the list: `ManageDeviceImpl` does not look at it, so that a trust list, or
`ManageDevice`, enables a serial device; and `AddDevice` replaces a device at its address without
taking the address from the list. In runs without these a serial device that is disabled stays so
until it is gone, and the list names serial devices only.
-/

namespace UsbManager.Policy

open Host Transition
open Std (ExtTreeMap)

structure World where
  state : State := {}
  serial : Nat → Bool := fun _ => false

inductive Action where
  | addDevice (dev : UsbDevice) (serial : Bool)
  | delDevice (busNum devNum : UInt8)
  | perform (operation : Operation)
  | executeStrategy

namespace World

variable (w : World)

/-- The first section of `AddDevice`, before the strategy. -/
def insert (dev : UsbDevice) (serial : Bool) : World where
  state := { w.state with host := w.state.host.insertDevice dev }
  serial := fun o => if o = w.state.host.allocated then serial else w.serial o

def step (action : Env × Action) : Option World :=
  match action.2 with
  | .addDevice dev serial =>
    some { state := (addDevice action.1 dev w.state).2, serial := (w.insert dev serial).serial }
  | .delDevice busNum devNum => some { w with state := (delDevice busNum devNum w.state).2 }
  | .perform operation => some { w with state := (operation.perform action.1 w.state).2 }
  | .executeStrategy => some { w with state := (executeStrategy action.1 w.state).2 }

/-- A serial device that is disabled. -/
structure Blocked (o : Nat) : Prop where
  attached : w.state.Attached o
  serial : w.serial o = true
  disabled : (w.state.device o).authorizeStatus = .disabled

/-- No such device is selected; hubs are not selected at all. -/
def NoneSelected (select : UsbDevice → Prop) : Prop :=
  ∀ o, w.Blocked o → (w.state.device o).baseClass ≠ baseClassHub → ¬ select (w.state.device o)

/-- The ports are those of the serial devices. -/
def PortsExact (serialList : List (UInt8 × UInt8)) : Prop :=
  ∀ busNum devAddr, (busNum, devAddr) ∈ serialList ↔
    ∃ o, w.state.host.devices[deviceName busNum devAddr]? = some o ∧ w.serial o = true

end World

/-- Serial devices are forbidden, and the serial service names them. -/
structure Forbids (w : World) (action : Env × Action) : Prop where
  forbidden : action.1.isUsbSerialDisable = true
  ports : ∀ dev serial, action.2 = .addDevice dev serial →
    ∃ serialList, action.1.serialGetPortList = some (.uecOk, serialList) ∧ (w.insert dev serial).PortsExact serialList
  disables : action.2 ≠ .perform (.manageUsbSerialDevice false)

/-- The step keeps off the two paths. -/
def KeepsOff (w : World) (env : Env) : Action → Prop
  | .addDevice dev serial =>
    (∀ o, w.state.host.devices[deviceName dev.busNum dev.devAddr]? = some o → w.serial o = true → serial = true) ∧
      ∀ trustList, env.Enforces trustList → (w.insert dev serial).NoneSelected fun d => trusted trustList d = true
  | .delDevice .. => True
  | .perform (.manageDevice vendorId productId disable) =>
    disable = true ∨ w.NoneSelected fun d => d.vendorId = vendorId ∧ d.productId = productId
  | .perform (.manageDevicePolicy trustList) => w.NoneSelected fun d => trusted trustList d = true
  | .perform _ => True
  | .executeStrategy => ∀ trustList, env.Enforces trustList → w.NoneSelected fun d => trusted trustList d = true

structure Policed (w : World) (action : Env × Action) : Prop extends Forbids w action where
  keepsOff : KeepsOff w action.1 action.2

/-! ## What a policy operation keeps -/

/-- The state after some steps of an operation on `s₀`: only statuses and flags have changed, and the devices in
`blocked` are disabled. -/
structure Guarded (s₀ : State) (blocked : Nat → Prop) (s : State) : Prop where
  devices : s.host.devices = s₀.host.devices
  allocated : s.host.allocated = s₀.host.allocated
  serialDevices : s.serialDevices = s₀.serialDevices
  static : ∀ o, s.device o =
    { s₀.device o with authorizeStatus := (s.device o).authorizeStatus, configs := (s.device o).configs }
  disabled : ∀ o, blocked o → (s.device o).authorizeStatus = .disabled

theorem World.guarded_refl (w : World) : Guarded w.state w.Blocked w.state :=
  ⟨rfl, rfl, rfl, fun _ => rfl, fun _ block => block.disabled⟩

/-- No blocked device is at the address, or it is not to be authorised. -/
def MayAuthorize (s₀ : State) (blocked : Nat → Prop) (busNum devAddr : UInt8) (authorized : Bool) : Prop :=
  authorized = true → ∀ o, s₀.host.devices[deviceName busNum devAddr]? = some o → ¬ blocked o

section Guarded

variable {env : Env} {s₀ : State} {blocked : Nat → Prop}

theorem Guarded.log {s : State} (guarded : Guarded s₀ blocked s) (calls : List (HdiCall × UsbErrCode)) :
    Guarded s₀ blocked { s with calls } :=
  ⟨guarded.devices, guarded.allocated, guarded.serialDevices, guarded.static, guarded.disabled⟩

theorem guarded_callHdi (call : HdiCall) : Keeps (Guarded s₀ blocked) (callHdi env call) :=
  fun _ guarded => guarded.log _

theorem guarded_callUsbd (call : HdiCall) : Keeps (Guarded s₀ blocked) (callUsbd env call) :=
  .ite (fun _ => guarded_callHdi call) fun _ => .pure _

theorem guarded_changeDevice {dev : Nat} {busNum devAddr : UInt8} {authorized : Bool}
    (found : s₀.host.devices[deviceName busNum devAddr]? = some dev)
    (may : MayAuthorize s₀ blocked busNum devAddr authorized) :
    Keeps (Guarded s₀ blocked) (changeDevice env dev busNum devAddr authorized) := by
  intro s guarded
  rw [changeDevice_state]
  split_ifs with ok
  · obtain ⟨devices, allocated⟩ := accepted_map dev busNum devAddr authorized s
    refine ⟨devices.trans guarded.devices, allocated.trans guarded.allocated, guarded.serialDevices, fun o => ?_,
      fun o block => ?_⟩
    · rw [device_accepted, guarded.static o]
    · rw [device_accepted]
      dsimp only
      split_ifs with same
      · cases authorized with
        | false => rfl
        | true => exact absurd block (may rfl o (same ▸ found))
      · exact guarded.disabled o block
  · exact guarded.log _

theorem guarded_usbDeviceAuthorize {busNum devAddr : UInt8} {authorized : Bool}
    (may : MayAuthorize s₀ blocked busNum devAddr authorized) :
    Keeps (Guarded s₀ blocked) (usbDeviceAuthorize env busNum devAddr authorized) := by
  refine usbDeviceAuthorize_keeps (fun _ _ _ => ?_) fun s dev here found => ?_
  · exact .get fun _ _ => .bind (guarded_callUsbd _) fun _ => .pure _
  · rw [here.devices] at found
    exact guarded_changeDevice found may

theorem guarded_setInterfaceAuthorized (object index position : Nat) (authorized : Bool) :
    Keeps (Guarded s₀ blocked) (modify (setInterfaceAuthorized object index position authorized)) := by
  refine .modify fun s guarded => ?_
  have device : ∀ o, (setInterfaceAuthorized object index position authorized s).device o =
      { s.device o with
        configs := ((setInterfaceAuthorized object index position authorized s).device o).configs } := by
    intro o
    by_cases same : o = object
    · simp only [State.device, setInterfaceAuthorized, same, if_true]
    · simp only [State.device, setInterfaceAuthorized, same, if_false]
  refine ⟨guarded.devices, guarded.allocated, guarded.serialDevices, fun o => ?_, fun o block => ?_⟩
  · rw [device o, guarded.static o]
  · rw [device o]
    exact guarded.disabled o block

theorem guarded_usbInterfaceAuthorize (busNum devAddr configId interfaceId : UInt8) (authorized : Bool) :
    Keeps (Guarded s₀ blocked) (usbInterfaceAuthorize env busNum devAddr configId interfaceId authorized) :=
  .ite (fun _ => .pure _) fun _ =>
    .bind (guarded_callHdi _) fun _ => .ite (fun _ => guarded_callUsbd _) fun _ => .pure _

theorem guarded_authorizeInterfaces (object index : Nat) (dev : UInt8 × UInt8) (configId : UInt8)
    (ask : UsbInterface → Option Bool) (interfaces : List UsbInterface) (position : Nat) :
    Keeps (Guarded s₀ blocked) (authorizeInterfaces env object index dev configId ask position interfaces) := by
  induction interfaces generalizing position with
  | nil => exact .pure _
  | cons i rest ih =>
    unfold authorizeInterfaces
    split
    · exact ih _
    · refine .bind (.discard (guarded_usbInterfaceAuthorize _ _ _ _ _)) fun _ => ?_
      exact .bind (guarded_setInterfaceAuthorized _ _ _ _) fun _ => ih _

theorem guarded_authorizeActiveConfig (object : Nat) (configIndex : UInt8) (ask : UsbInterface → Option Bool) :
    Keeps (Guarded s₀ blocked) (authorizeActiveConfig env object configIndex ask) := by
  refine .get fun s _ => ?_
  dsimp only
  split
  · exact .pure _
  · exact guarded_authorizeInterfaces _ _ _ _ _ _ _

theorem guarded_kept (env : Env) (s₀ : State) (blocked : Nat → Prop) :
    KeptBySteps env (Guarded s₀ blocked) s₀.objects (MayAuthorize s₀ blocked) where
  objects_eq s guarded := by rw [State.objects, guarded.devices, State.objects]
  may_disable _ _ authorize := by cases authorize
  callUsbd call _ := guarded_callUsbd call
  usbDeviceAuthorize _ _ _ may := guarded_usbDeviceAuthorize may
  authorizeActiveConfig object _ configIndex ask _ := guarded_authorizeActiveConfig object configIndex ask

end Guarded

/-! ## The list of serial devices -/

/-- Devices are where their names say, and `serialDevices_` has the addresses of the serial devices. -/
structure World.Sound (w : World) : Prop where
  named : w.state.Named
  numbered : w.state.host.Numbered
  nodup : w.state.serialDevices.Nodup
  listed : ∀ busNum devAddr, (busNum, devAddr) ∈ w.state.serialDevices ↔
    ∃ o, w.state.host.devices[deviceName busNum devAddr]? = some o ∧ w.serial o = true

theorem isUsbSerialDevice_iff (s : State) (o : Nat) :
    isUsbSerialDevice s o = true ↔ ((s.device o).busNum, (s.device o).devAddr) ∈ s.serialDevices := by
  simp only [isUsbSerialDevice, List.any_eq_true, Bool.and_eq_true, beq_iff_eq, Prod.exists]
  constructor
  · rintro ⟨b, a, member, rfl, rfl⟩
    exact member
  · intro member
    exact ⟨_, _, member, rfl, rfl⟩

namespace World.Sound

variable {w : World} (sound : w.Sound)

include sound

/-- A device is a serial device for the manager if it is one. -/
theorem isUsbSerialDevice_serial {o : Nat} (attached : w.state.Attached o) :
    isUsbSerialDevice w.state o = true ↔ w.serial o = true := by
  obtain ⟨name, found⟩ := attached
  have here := sound.named name o found
  rw [isUsbSerialDevice_iff, sound.listed, ← here]
  constructor
  · rintro ⟨o', found', serial⟩
    cases found.symm.trans found'
    exact serial
  · exact fun serial => ⟨o, found, serial⟩

/-- A policy operation keeps the list. -/
theorem guarded {s : State} {blocked : Nat → Prop} (guarded : Guarded w.state blocked s) :
    World.Sound { w with state := s } where
  named name o found := by
    rw [guarded.static o]
    rw [guarded.devices] at found
    exact sound.named name o found
  numbered name o found := by
    rw [guarded.devices] at found
    rw [guarded.allocated]
    exact sound.numbered name o found
  nodup := guarded.serialDevices ▸ sound.nodup
  listed busNum devAddr := by
    rw [guarded.serialDevices, guarded.devices]
    exact sound.listed busNum devAddr

theorem free {env : Env} (forbidden : env.isUsbSerialDisable = true) :
    Free env (Guarded w.state w.Blocked) w.state.objects (MayAuthorize w.state w.Blocked) := by
  intro s guarded object _ free authorized _ o found block
  rw [isExempt, forbidden, Bool.true_and] at free
  have unlisted : ((s.device object).busNum, (s.device object).devAddr) ∉ s.serialDevices := fun member => by
    rw [(isUsbSerialDevice_iff s object).2 member] at free
    cases free
  rw [guarded.serialDevices] at unlisted
  exact unlisted ((sound.listed _ _).2 ⟨o, found, block.serial⟩)

/-- No blocked device is selected, by the ids that a device keeps. -/
theorem selects {select : UsbDevice → Prop} (none : w.NoneSelected select)
    (byIds : ∀ d e : UsbDevice, d.vendorId = e.vendorId → d.productId = e.productId → select d → select e) :
    Selects (Guarded w.state w.Blocked) w.state.objects (MayAuthorize w.state w.Blocked) select true := by
  intro s guarded object member device selected _ o found block
  have static := guarded.static object
  obtain ⟨⟨name, _⟩, listed, rfl⟩ := List.mem_map.1 member
  have attached := ExtTreeMap.mem_toList_iff_getElem?_eq_some.1 listed
  rw [static] at found device
  have here := sound.named name _ attached
  rw [← here, attached] at found
  cases found
  exact none _ block device (byIds _ _ (by rw [static]) (by rw [static]) selected)

theorem guarded_executeStrategy {env : Env} (forbidden : env.isUsbSerialDisable = true)
    (none : ∀ trustList, env.Enforces trustList → w.NoneSelected fun d => trusted trustList d = true) :
    Keeps (Guarded w.state w.Blocked) (executeStrategy env) := by
  refine (guarded_kept env w.state w.Blocked).executeStrategy (sound.free forbidden) (fun s b guarded => ?_)
    fun trustList enforces => sound.selects (none trustList enforces) fun d e vendorId productId chosen => ?_
  · exact ⟨guarded.devices, guarded.allocated, guarded.serialDevices, guarded.static, guarded.disabled⟩
  · rwa [trusted, ← inTrustList_congr vendorId productId]

theorem guarded_perform {env : Env} (forbidden : env.isUsbSerialDisable = true) {operation : Operation}
    (disables : operation ≠ .manageUsbSerialDevice false) (keepsOff : KeepsOff w env (.perform operation)) :
    Keeps (Guarded w.state w.Blocked) (operation.perform env) := by
  have kept := guarded_kept env w.state w.Blocked
  have free := sound.free forbidden
  cases operation with
  | manageGlobalInterface disable => exact .discard (kept.manageGlobalInterfaceImpl free disable)
  | manageDevice vendorId productId disable =>
    refine .discard (kept.manageDeviceImpl ?_)
    cases disable with
    | true => exact fun _ _ _ _ _ _ => kept.may_disable _ _
    | false =>
      refine sound.selects (keepsOff.resolve_left (by decide)) fun d e vendor product ids => ?_
      exact ⟨vendor ▸ ids.1, product ▸ ids.2⟩
  | manageDevicePolicy trustList =>
    refine .discard (kept.executeManageDevicePolicy (sound.selects keepsOff fun d e vendorId productId chosen => ?_))
    rwa [trusted, ← inTrustList_congr vendorId productId]
  | manageInterfaceType disableType disable => exact .discard (kept.executeManageInterfaceType free disableType disable)
  | manageUsbType disableType disable => exact kept.executeManageUsbType free disableType disable
  | manageUsbSerialDevice disable =>
    cases disable with
    | false => exact absurd rfl disables
    | true =>
      have listed : Keeps (Guarded w.state w.Blocked) (manageUsbSerialDevices env true) :=
        kept.manageUsbSerialDevices fun _ _ dev _ => kept.may_disable dev.1 dev.2
      exact .discard (.bind listed fun _ => .pure _)

end World.Sound

/-! ## Attaching and detaching -/

/-- The second section of `AddDevice` enables no disabled device. -/
theorem Guarded.announce {s₀ s : State} {blocked : Nat → Prop} (guarded : Guarded s₀ blocked s) (name : String) :
    Guarded s₀ blocked { s with host := s.host.announce name } := by
  cases found : s.host.toAnnounce name with
  | none =>
    have same : s.host.announce name = s.host := by rw [Devices.announce, found]
    rw [same]
    exact guarded
  | some dev =>
    have open' : s.host.status dev ≠ .disabled := by
      unfold Devices.toAnnounce at found
      split at found
      · cases found
      · split_ifs at found with disabled
        cases found
        exact disabled
    have device : ∀ o, ({ s with host := s.host.announce name } : State).device o =
        { s.device o with authorizeStatus := if o = dev then .enabled else (s.device o).authorizeStatus } := by
      intro o
      change (s.host.announce name).heap o = _
      rw [Devices.announce, found]
      exact device_setAuthorizeStatus s.host dev o .enabled
    have map : (s.host.announce name).devices = s.host.devices ∧
        (s.host.announce name).allocated = s.host.allocated := by
      rw [Devices.announce, found]
      exact ⟨rfl, rfl⟩
    refine ⟨map.1.trans guarded.devices, map.2.trans guarded.allocated, guarded.serialDevices, fun o => ?_,
      fun o block => ?_⟩
    · rw [device o, guarded.static o]
    · have disabled := guarded.disabled o block
      have other : o ≠ dev := by
        rintro rfl
        exact open' disabled
      rw [device o]
      dsimp only
      rw [if_neg other]
      exact disabled

/-- The world after the first section of `AddDevice` and `AddUsbSerialDevice`. -/
def World.attach (w : World) (env : Env) (dev : UsbDevice) (serial : Bool) : World :=
  { w.insert dev serial with state := addUsbSerialDevice env dev (w.insert dev serial).state }

theorem addUsbSerialDevice_host (env : Env) (dev : UsbDevice) (s : State) :
    (addUsbSerialDevice env dev s).host = s.host := by
  unfold addUsbSerialDevice
  split
  · split_ifs <;> rfl
  · rfl

section Attach

variable {env : Env} {dev : UsbDevice} {serialList : List (UInt8 × UInt8)}

theorem mem_addUsbSerialDevice (ports : env.serialGetPortList = some (.uecOk, serialList)) (s : State)
    (addr : UInt8 × UInt8) : addr ∈ (addUsbSerialDevice env dev s).serialDevices ↔
      addr ∈ s.serialDevices ∨ addr = (dev.busNum, dev.devAddr) ∧ (dev.busNum, dev.devAddr) ∈ serialList := by
  unfold addUsbSerialDevice
  rw [ports]
  dsimp only
  split_ifs with new
  · rw [List.mem_append, List.mem_singleton]
    exact or_congr_right ⟨fun same => ⟨same, new.1⟩, fun both => both.1⟩
  · refine ⟨.inl, fun either => either.elim id fun both => ?_⟩
    by_contra absent
    exact new ⟨both.2, both.1 ▸ absent⟩

theorem nodup_addUsbSerialDevice (ports : env.serialGetPortList = some (.uecOk, serialList)) {s : State}
    (nodup : s.serialDevices.Nodup) : (addUsbSerialDevice env dev s).serialDevices.Nodup := by
  unfold addUsbSerialDevice
  rw [ports]
  dsimp only
  split_ifs with new
  · refine List.nodup_append.2 ⟨nodup, by simp, fun a old b single same => ?_⟩
    rw [List.mem_singleton.1 single] at same
    exact new.2 (same ▸ old)
  · exact nodup

theorem insert_device (w : World) (serial : Bool) (o : Nat) :
    (w.insert dev serial).state.device o =
      if o = w.state.host.allocated then { dev with authorizeStatus := .newArrived } else w.state.device o := rfl

theorem World.Sound.insert_named {w : World} (sound : w.Sound) (dev : UsbDevice) (serial : Bool) :
    (w.insert dev serial).state.Named := by
  intro name o found
  change (w.state.host.insertDevice dev).devices[name]? = some o at found
  rw [Devices.insertDevice_getElem?] at found
  rw [insert_device]
  split_ifs at found with here
  · rw [if_pos (Option.some.inj found).symm]
    exact here
  · have old := sound.numbered name o found
    rw [if_neg (Nat.ne_of_lt old)]
    exact sound.named name o found

/-- The new device is at its address. -/
theorem World.insert_new (w : World) (dev : UsbDevice) (serial : Bool) :
    (∃ o, (w.insert dev serial).state.host.devices[deviceName dev.busNum dev.devAddr]? = some o ∧
      (w.insert dev serial).serial o = true) ↔ serial = true := by
  have here :
      (w.insert dev serial).state.host.devices[deviceName dev.busNum dev.devAddr]? = some w.state.host.allocated :=
    (Devices.insertDevice_getElem? ..).trans (if_pos rfl)
  have is : (w.insert dev serial).serial w.state.host.allocated = serial := if_pos rfl
  constructor
  · rintro ⟨o, found, serial'⟩
    rw [← Option.some.inj (here.symm.trans found), is] at serial'
    exact serial'
  · exact fun serial' => ⟨_, here, is.trans serial'⟩

theorem World.Sound.insert_other {w : World} (sound : w.Sound) (dev : UsbDevice) (serial : Bool)
    {busNum devAddr : UInt8} (other : (busNum, devAddr) ≠ (dev.busNum, dev.devAddr)) :
    (∃ o, (w.insert dev serial).state.host.devices[deviceName busNum devAddr]? = some o ∧
      (w.insert dev serial).serial o = true) ↔
    ∃ o, w.state.host.devices[deviceName busNum devAddr]? = some o ∧ w.serial o = true := by
  have elsewhere : deviceName busNum devAddr ≠ deviceName dev.busNum dev.devAddr := fun same =>
    other (Prod.ext (deviceName_inj.1 same).1 (deviceName_inj.1 same).2)
  have map : (w.insert dev serial).state.host.devices[deviceName busNum devAddr]? =
      w.state.host.devices[deviceName busNum devAddr]? := (Devices.insertDevice_getElem? ..).trans (if_neg elsewhere)
  rw [map]
  refine exists_congr fun o => and_congr_right fun found => ?_
  have old : (w.insert dev serial).serial o = w.serial o := if_neg (Nat.ne_of_lt (sound.numbered _ o found))
  rw [old]

theorem World.Sound.attach {w : World} (sound : w.Sound) {serial : Bool}
    (ports : env.serialGetPortList = some (.uecOk, serialList)) (listed : (w.insert dev serial).PortsExact serialList)
    (replaced : ∀ o, w.state.host.devices[deviceName dev.busNum dev.devAddr]? = some o → w.serial o = true →
      serial = true) :
    (w.attach env dev serial).Sound where
  named := by
    have named := sound.insert_named dev serial
    unfold World.attach State.Named State.device
    rw [addUsbSerialDevice_host]
    exact named
  numbered := by
    unfold World.attach
    rw [addUsbSerialDevice_host]
    exact sound.numbered.insertDevice dev
  nodup := nodup_addUsbSerialDevice ports sound.nodup
  listed busNum devAddr := by
    unfold World.attach
    rw [mem_addUsbSerialDevice ports, addUsbSerialDevice_host]
    refine Iff.trans ?_ (listed busNum devAddr)
    by_cases here : (busNum, devAddr) = (dev.busNum, dev.devAddr)
    · rw [here]
      refine ⟨fun either => either.elim (fun old => ?_) fun both => both.2, fun member => .inr ⟨rfl, member⟩⟩
      obtain ⟨o, found, serial'⟩ := (sound.listed _ _).1 old
      exact (listed _ _).2 ((w.insert_new dev serial).2 (replaced o found serial'))
    · have other := sound.insert_other dev serial here
      rw [listed busNum devAddr, other, ← sound.listed busNum devAddr]
      exact or_iff_left fun both => here both.1

end Attach

/-- A detach takes the device from the map and its address from the list. -/
theorem World.Sound.delDevice_state {w : World} (sound : w.Sound) (busNum devNum : UInt8) :
    (delDevice busNum devNum w.state).2 = { w.state with
      host := (w.state.host.delDevice busNum devNum).2
      serialDevices := w.state.serialDevices.erase (busNum, devNum) } := by
  unfold Policy.delDevice
  cases gone : w.state.host.devices[deviceName busNum devNum]? with
  | none =>
    have unlisted : (busNum, devNum) ∉ w.state.serialDevices := fun member => by
      obtain ⟨o, found, _⟩ := (sound.listed _ _).1 member
      cases gone.symm.trans found
    rw [Devices.delDevice, gone, List.erase_of_not_mem unlisted]
  | some devOld =>
    have here := deviceName_inj.1 (sound.named _ devOld gone)
    dsimp only
    rw [← here.1, ← here.2]

theorem World.Sound.delDevice {w : World} (sound : w.Sound) (busNum devNum : UInt8) :
    World.Sound { w with state := (delDevice busNum devNum w.state).2 } := by
  rw [sound.delDevice_state]
  refine ⟨fun name o found => ?_, sound.numbered.delDevice busNum devNum, sound.nodup.erase _, fun b a => ?_⟩
  · dsimp only [State.device] at found ⊢
    rw [Devices.delDevice_getElem?] at found
    rw [Devices.delDevice_heap]
    split_ifs at found
    exact sound.named name o found
  · rw [sound.nodup.mem_erase_iff, sound.listed, Devices.delDevice_getElem?]
    by_cases here : (b, a) = (busNum, devNum)
    · cases here
      simp
    · have elsewhere : deviceName b a ≠ deviceName busNum devNum := fun same =>
        here (Prod.ext (deviceName_inj.1 same).1 (deviceName_inj.1 same).2)
      rw [if_neg elsewhere]
      exact and_iff_right here

/-! ## Runs -/

/-- What a step does to the devices there were. -/
structure World.Advances (w w' : World) : Prop where
  sound : w'.Sound
  allocated : w.state.host.allocated ≤ w'.state.host.allocated
  serial : ∀ o, o < w.state.host.allocated → w'.serial o = w.serial o
  attached : ∀ o, o < w.state.host.allocated → w'.state.Attached o → w.state.Attached o
  blocked : ∀ o, w.Blocked o → w'.state.Attached o → (w'.state.device o).authorizeStatus = .disabled

theorem World.Sound.old {w : World} (sound : w.Sound) {o : Nat} (attached : w.state.Attached o) :
    o < w.state.host.allocated := by
  obtain ⟨name, found⟩ := attached
  exact sound.numbered name o found

theorem World.Sound.refl {w : World} (sound : w.Sound) : w.Advances w :=
  ⟨sound, Nat.le_refl _, fun _ _ => rfl, fun _ _ attached => attached, fun _ block _ => block.disabled⟩

theorem World.Sound.trans {w w₁ w₂ : World} (sound : w.Sound) (first : w.Advances w₁) (second : w₁.Advances w₂) :
    w.Advances w₂ where
  sound := second.sound
  allocated := Nat.le_trans first.allocated second.allocated
  serial o old := (second.serial o (Nat.lt_of_lt_of_le old first.allocated)).trans (first.serial o old)
  attached o old attached := first.attached o old (second.attached o (Nat.lt_of_lt_of_le old first.allocated) attached)
  blocked o block attached := by
    have old := sound.old block.attached
    have between : w₁.state.Attached o := second.attached o (Nat.lt_of_lt_of_le old first.allocated) attached
    have disabled := first.blocked o block between
    exact second.blocked o ⟨between, (first.serial o old).trans block.serial, disabled⟩ attached

/-- A policy operation attaches and detaches nothing. -/
theorem World.Sound.advances_guarded {w : World} (sound : w.Sound) {s : State} (guarded : Guarded w.state w.Blocked s) :
    w.Advances { w with state := s } where
  sound := sound.guarded guarded
  allocated := Nat.le_of_eq guarded.allocated.symm
  serial _ _ := rfl
  attached o _ := by
    unfold State.Attached
    rw [guarded.devices]
    exact id
  blocked o block _ := guarded.disabled o block

theorem World.Sound.advances_delDevice {w : World} (sound : w.Sound) (busNum devNum : UInt8) :
    w.Advances { w with state := (Policy.delDevice busNum devNum w.state).2 } := by
  have after := sound.delDevice_state busNum devNum
  refine ⟨sound.delDevice busNum devNum, ?_, fun _ _ => rfl, fun o _ attached => ?_, fun o block _ => ?_⟩
  · rw [after]
    exact Nat.le_of_eq (w.state.host.delDevice_allocated busNum devNum).symm
  · obtain ⟨name, found⟩ := attached
    rw [after] at found
    dsimp only at found
    rw [Devices.delDevice_getElem?] at found
    split_ifs at found
    exact ⟨name, found⟩
  · rw [after]
    dsimp only [State.device]
    rw [Devices.delDevice_heap]
    exact block.disabled

theorem World.Sound.advances_attach {w : World} (sound : w.Sound) {env : Env} {dev : UsbDevice} {serial : Bool}
    (attach : (w.attach env dev serial).Sound) : w.Advances (w.attach env dev serial) := by
  have host : (w.attach env dev serial).state.host = w.state.host.insertDevice dev := addUsbSerialDevice_host ..
  refine ⟨attach, ?_, fun o old => if_neg (Nat.ne_of_lt old), fun o old attached => ?_, fun o block _ => ?_⟩
  · rw [host]
    exact Nat.le_succ _
  · obtain ⟨name, found⟩ := attached
    rw [host, Devices.insertDevice_getElem?] at found
    split_ifs at found with here
    · exact absurd (Option.some.inj found).symm (Nat.ne_of_lt old)
    · exact ⟨name, found⟩
  · rw [State.device, host]
    exact (congrArg UsbDevice.authorizeStatus (if_neg (Nat.ne_of_lt (sound.old block.attached)))).trans block.disabled

theorem World.Sound.advances_addDevice {w : World} (sound : w.Sound) {env : Env} {dev : UsbDevice} {serial : Bool}
    (policed : Policed w (env, .addDevice dev serial)) :
    w.Advances { state := (addDevice env dev w.state).2, serial := (w.insert dev serial).serial } := by
  obtain ⟨serialList, ports, named⟩ := policed.ports dev serial rfl
  have attach : (w.attach env dev serial).Sound := sound.attach ports named policed.keepsOff.1
  have host : (w.attach env dev serial).state.host = (w.insert dev serial).state.host := addUsbSerialDevice_host ..
  have none : ∀ trustList, env.Enforces trustList →
      (w.attach env dev serial).NoneSelected fun d => trusted trustList d = true := by
    intro trustList enforces o block device
    have before : (w.insert dev serial).Blocked o := by
      refine ⟨?_, block.serial, ?_⟩
      · exact Eq.mp (congrArg (fun h : Devices => ∃ name : String, h.devices[name]? = some o) host) block.attached
      · exact (congrArg (fun h : Devices => (h.heap o).authorizeStatus) host).symm.trans block.disabled
    rw [State.device, host] at device ⊢
    exact policed.keepsOff.2 trustList enforces o before device
  have strategy := attach.guarded_executeStrategy policed.forbidden none _ (w.attach env dev serial).guarded_refl
  have announced := strategy.announce (deviceName dev.busNum dev.devAddr)
  exact sound.trans (sound.advances_attach attach) (attach.advances_guarded announced)

theorem World.Sound.advances {w w' : World} (sound : w.Sound) {action : Env × Action} (policed : Policed w action)
    (taken : w.step action = some w') : w.Advances w' := by
  obtain ⟨env, action⟩ := action
  cases action with
  | addDevice dev serial =>
    cases taken
    exact sound.advances_addDevice policed
  | delDevice busNum devNum =>
    cases taken
    exact sound.advances_delDevice busNum devNum
  | perform operation =>
    cases taken
    have disables : operation ≠ .manageUsbSerialDevice false := fun same => policed.disables (congrArg _ same)
    exact sound.advances_guarded (sound.guarded_perform policed.forbidden disables policed.keepsOff _ w.guarded_refl)
  | executeStrategy =>
    cases taken
    exact sound.advances_guarded (sound.guarded_executeStrategy policed.forbidden policed.keepsOff _ w.guarded_refl)

theorem sound_of_reach {w : World} (reached : Reach World.step Policed {} w) : w.Sound := by
  refine reached.invariant World.Sound ⟨fun name o found => ?_, fun name o found => ?_, List.nodup_nil, fun b a => ?_⟩
    fun _ _ _ sound policed taken => (sound.advances policed taken).sound
  · simp at found
  · simp at found
  · simp

/-- While serial devices are forbidden and the steps keep off the two paths, a serial device that is disabled stays
disabled as long as it is attached, and no other device is treated as a serial one. -/
theorem serial_policy_prevails {w w' : World} (reached : Reach World.step Policed {} w)
    (later : Reach World.step Policed w w') :
    (∀ o, w.Blocked o → w'.state.Attached o → (w'.state.device o).authorizeStatus = .disabled) ∧
      ∀ o, w.state.Attached o → isUsbSerialDevice w.state o = true → w.serial o = true := by
  have sound : w.Sound := sound_of_reach reached
  have advances : w.Advances w' := by
    refine later.invariant w.Advances sound.refl fun _ _ _ advances policed taken => ?_
    exact sound.trans advances (advances.sound.advances policed taken)
  exact ⟨advances.blocked, fun o attached => (sound.isUsbSerialDevice_serial attached).1⟩

/-! ### A serial adapter -/

def adapter : UsbDevice := { busNum := 1, devAddr := 2, vendorId := 0x1a86, productId := 0x7523, baseClass := 0xff }

def mouse : UsbDevice := { busNum := 1, devAddr := 2, vendorId := 0x046d, productId := 0xc077, baseClass := 0 }

/-- Serial devices and human interfaces are forbidden, and the driver agrees to all. -/
def forbidding (serialList : List (UInt8 × UInt8)) : Env where
  answer _ _ := .uecOk
  usbSerialDisable := true
  firstAttempt := ({ sendRequest := fun
    | .usbDeviceAccessPolicy =>
      (.uecOk, [.bits32 0, .bits32 1, .bits32 3, .bits32 0, .bits32 0, .bits32 0, .bits32 0])
    | _ => (.uecOk, [.bits32 0, .bits32 0]) }, 0)
  serialGetPortList := some (.uecOk, serialList)

theorem forbidding_types (serialList : List (UInt8 × UInt8)) (trustList : List UsbDeviceId) :
    ¬ (forbidding serialList).Enforces trustList := by
  rintro ⟨b, ret, p, read, _, _, types, _, _⟩
  have typed : ∀ b, (getUsbPolicy [(forbidding []).firstAttempt] { isPermTypePolicy := b }).map (·.2.disableType) =
      some [{ baseClass := 3, subClass := 0, protocol := 0 }] := by decide +kernel
  have same := (congrArg (Option.map (·.2.disableType)) read).symm.trans (typed b)
  rw [Option.map_some, types] at same
  cases same

def attachAdapter : Env × Action := (forbidding [(1, 2)], .addDevice adapter true)

def adapterAttached : World where
  state := (addDevice (forbidding [(1, 2)]) adapter {}).2
  serial := (World.insert {} adapter true).serial

theorem attachAdapter_policed : Policed {} attachAdapter := by
  refine ⟨⟨rfl, fun dev serial add => ?_, fun other => by cases other⟩, fun o found => ?_,
    fun trustList enforces => absurd enforces (forbidding_types _ _)⟩
  · cases add
    refine ⟨[(1, 2)], rfl, fun b a => ?_⟩
    rw [List.mem_singleton]
    constructor
    · rintro here
      cases here
      exact (World.insert_new {} adapter true).2 rfl
    · rintro ⟨o, found, _⟩
      have found := (Devices.insertDevice_getElem? {} adapter _).symm.trans found
      split_ifs at found with here
      · exact Prod.ext (deviceName_inj.1 here).1 (deviceName_inj.1 here).2
      · simp at found
  · simp at found

theorem adapterAttached_reached : Reach World.step Policed {} adapterAttached :=
  .step (a := attachAdapter) .init attachAdapter_policed rfl

theorem adapterAttached_blocked : adapterAttached.Blocked 0 :=
  ⟨⟨deviceName 1 2, by decide +kernel⟩, rfl, by decide +kernel⟩

/-- The world after an operation with the adapter. -/
def adapterAfter (operation : Operation) : World :=
  { adapterAttached with state := (operation.perform (forbidding [(1, 2)]) adapterAttached.state).2 }

theorem adapterAfter_forbids {operation : Operation} (disables : operation ≠ .manageUsbSerialDevice false) :
    Forbids adapterAttached (forbidding [(1, 2)], .perform operation) := by
  refine ⟨rfl, fun _ _ other => ?_, fun same => ?_⟩
  · cases other
  · exact disables (Action.perform.inj same)

/-- All devices are enabled again, and the adapter is not. -/
theorem serial_policy_prevails_adapter :
    Reach World.step Policed adapterAttached (adapterAfter (.manageGlobalInterface false)) ∧
      adapterAttached.Blocked 0 ∧ (adapterAfter (.manageGlobalInterface false)).state.Attached 0 ∧
      ((adapterAfter (.manageGlobalInterface false)).state.device 0).authorizeStatus = .disabled := by
  have later : Reach World.step Policed adapterAttached (adapterAfter (.manageGlobalInterface false)) :=
    .step (a := (forbidding [(1, 2)], .perform (.manageGlobalInterface false))) .init
      ⟨adapterAfter_forbids (by simp), trivial⟩ rfl
  have attached : (adapterAfter (.manageGlobalInterface false)).state.Attached 0 := ⟨deviceName 1 2, by decide +kernel⟩
  have prevails := serial_policy_prevails adapterAttached_reached later
  exact ⟨later, adapterAttached_blocked, attached, prevails.1 0 adapterAttached_blocked attached⟩

def attachMouse : Env × Action := (forbidding [], .addDevice mouse false)

theorem attachMouse_forbids : Forbids adapterAttached attachMouse := by
  refine ⟨rfl, fun dev serial add => ?_, fun other => by cases other⟩
  cases add
  refine ⟨[], rfl, fun b a => iff_of_false List.not_mem_nil ?_⟩
  have sound := sound_of_reach adapterAttached_reached
  have list : adapterAttached.state.serialDevices = [(1, 2)] := by decide +kernel
  by_cases here : (b, a) = (mouse.busNum, mouse.devAddr)
  · cases here
    rw [World.insert_new adapterAttached mouse false]
    decide
  · rw [sound.insert_other mouse false here, ← sound.listed, list, List.mem_singleton]
    exact here

/-- `ManageDevice` enables the adapter, and a mouse that is attached in its place is treated as a serial device. -/
theorem serial_policy_undone :
    Reach World.step Forbids {} adapterAttached ∧ adapterAttached.Blocked 0 ∧
      Reach World.step Forbids adapterAttached (adapterAfter (.manageDevice 0x1a86 0x7523 false)) ∧
      (adapterAfter (.manageDevice 0x1a86 0x7523 false)).state.Attached 0 ∧
      ((adapterAfter (.manageDevice 0x1a86 0x7523 false)).state.device 0).authorizeStatus = .enabled ∧
      ∃ w, Reach World.step Forbids adapterAttached w ∧ w.state.Attached 1 ∧ isUsbSerialDevice w.state 1 = true ∧
        w.serial 1 = false := by
  have reached : Reach World.step Forbids {} adapterAttached :=
    .step (a := attachAdapter) .init attachAdapter_policed.toForbids rfl
  have enabled : Reach World.step Forbids adapterAttached (adapterAfter (.manageDevice 0x1a86 0x7523 false)) :=
    .step (a := (forbidding [(1, 2)], .perform (.manageDevice 0x1a86 0x7523 false))) .init
      (adapterAfter_forbids (by simp)) rfl
  have replaced := Reach.step .init attachMouse_forbids (rfl : adapterAttached.step attachMouse = _)
  exact ⟨reached, adapterAttached_blocked, enabled, ⟨deviceName 1 2, by decide +kernel⟩, by decide +kernel, _, replaced,
    ⟨deviceName 1 2, by decide +kernel⟩, by decide +kernel, by decide +kernel⟩

end UsbManager.Policy
