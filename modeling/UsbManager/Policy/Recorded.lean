import UsbManager.Lib.Transition
import UsbManager.Policy.Kept

/-!
# Recorded and applied authorisation

A device records whether it is disabled, and an interface whether it is authorised. The driver's side is
the last call for the device or the interface that it accepted.

For devices both sides agree in every run. The flag of an interface is written whatever the driver
answered, so the sides agree as long as the driver refuses nothing new: a call that it refuses asks for
the value that it accepted last.
-/

namespace UsbManager.Policy

open Host Transition
open Std (ExtTreeMap)

/-! ## The driver's side -/

/-- What an interface is for the driver. -/
structure InterfaceAddr where
  busNum : UInt8
  devAddr : UInt8
  configId : UInt8
  interfaceId : UInt8
  deriving DecidableEq

def interfaceAddr (d : UsbDevice) (c : USBConfig) (i : UsbInterface) : InterfaceAddr :=
  ⟨d.busNum, d.devAddr, .ofInt c.id, .ofInt i.id⟩

/-- The value that a call asks for an interface. -/
def HdiCall.asks (addr : InterfaceAddr) : HdiCall → Option Bool
  | .usbInterfaceAuthorize busNum devAddr configId interfaceId authorized =>
    if InterfaceAddr.mk busNum devAddr configId interfaceId = addr then some authorized else none
  | _ => none

/-- The value that a call asks for a device. -/
def HdiCall.asksDevice (busNum devAddr : UInt8) : HdiCall → Option Bool
  | .usbDeviceAuthorize b a authorized => if b = busNum ∧ a = devAddr then some authorized else none
  | _ => none

/-- The last call for the interface that succeeded; before the first one it is authorised. -/
def lastAccepted (calls : Calls) (addr : InterfaceAddr) : Bool :=
  (calls.findSome? fun entry => if entry.2 = .uecOk then entry.1.asks addr else none).getD true

/-- The last call for the device that succeeded. -/
def lastDevice (calls : Calls) (busNum devAddr : UInt8) : Bool :=
  (calls.findSome? fun entry => if entry.2 = .uecOk then entry.1.asksDevice busNum devAddr else none).getD true

/-- The two sides agree on all devices and interfaces. -/
structure Recorded (s : State) : Prop where
  status : ∀ o, s.Attached o →
    ((s.device o).authorizeStatus = .disabled ↔ lastDevice s.calls (s.device o).busNum (s.device o).devAddr = false)
  flags : ∀ o, s.Attached o → ∀ c ∈ (s.device o).configs, ∀ i ∈ c.interfaces,
    i.authorized = lastAccepted s.calls (interfaceAddr (s.device o) c i)

/-! ## Runs of operations -/

def perform (s : State) (action : Env × Operation) : Option State := some (action.2.perform action.1 s).2

/-! ## Configurations as the driver sees them -/

/-- The driver tells the configurations of the device apart, and interfaces that it does not tell apart are of
one type. -/
structure Coherent (d : UsbDevice) : Prop where
  configs : (d.configs.map fun c => UInt8.ofInt c.id).Nodup
  interfaces : ∀ c ∈ d.configs, ∀ i ∈ c.interfaces, ∀ j ∈ c.interfaces, UInt8.ofInt i.id = .ofInt j.id →
    i.klass = j.klass ∧ i.subClass = j.subClass ∧ i.protocol = j.protocol

/-! ## Calls -/

section Calls

variable (call : HdiCall) (ret : UsbErrCode) (calls : Calls)

theorem lastAccepted_cons (addr : InterfaceAddr) :
    lastAccepted ((call, ret) :: calls) addr =
      if ret = .uecOk then (call.asks addr).getD (lastAccepted calls addr) else lastAccepted calls addr := by
  simp only [lastAccepted, List.findSome?_cons]
  split_ifs
  · cases call.asks addr <;> rfl
  · rfl

theorem lastDevice_cons (busNum devAddr : UInt8) :
    lastDevice ((call, ret) :: calls) busNum devAddr =
      if ret = .uecOk then (call.asksDevice busNum devAddr).getD (lastDevice calls busNum devAddr)
      else lastDevice calls busNum devAddr := by
  simp only [lastDevice, List.findSome?_cons]
  split_ifs
  · cases call.asksDevice busNum devAddr <;> rfl
  · rfl

end Calls

theorem HdiCall.Neutral.asks {call : HdiCall} (neutral : call.Neutral) (addr : InterfaceAddr) :
    call.asks addr = none := by
  cases call with
  | usbInterfaceAuthorize => exact neutral.elim
  | _ => rfl

theorem HdiCall.Neutral.asksDevice {call : HdiCall} (neutral : call.Neutral) (busNum devAddr : UInt8) :
    call.asksDevice busNum devAddr = none := by
  cases call with
  | usbDeviceAuthorize => exact neutral.elim
  | _ => rfl

/-! ## The invariant -/

/-- What the operations keep. -/
structure Tracked (D : ExtTreeMap String Nat) (s : State) : Prop where
  devices : s.host.devices = D
  named : ∀ (name : String) o, D[name]? = some o → name = deviceName (s.device o).busNum (s.device o).devAddr
  coherent : ∀ (name : String) o, D[name]? = some o → Coherent (s.device o)
  status : ∀ (name : String) o, D[name]? = some o →
    ((s.device o).authorizeStatus = .disabled ↔ lastDevice s.calls (s.device o).busNum (s.device o).devAddr = false)
  flags : ∀ (name : String) o, D[name]? = some o → ∀ c ∈ (s.device o).configs, ∀ i ∈ c.interfaces,
    i.authorized = lastAccepted s.calls (interfaceAddr (s.device o) c i)

section Kept

variable {D : ExtTreeMap String Nat} {env : Env}

/-- Devices at one address are the same. -/
theorem Tracked.same {s : State} (tracked : Tracked D s) {name name' : String} {o o' : Nat} (here : D[name]? = some o)
    (there : D[name']? = some o') (busNum : (s.device o).busNum = (s.device o').busNum)
    (devAddr : (s.device o).devAddr = (s.device o').devAddr) : o = o' := by
  have names : name = name' := by
    rw [tracked.named name o here, tracked.named name' o' there, busNum, devAddr]
  rw [names, there] at here
  exact (Option.some.inj here).symm

/-- A call that changes no last call is logged. -/
theorem Tracked.log {s : State} (tracked : Tracked D s) {entry : HdiCall × UsbErrCode}
    (devices : ∀ b a, lastDevice (entry :: s.calls) b a = lastDevice s.calls b a)
    (interfaces : ∀ addr, lastAccepted (entry :: s.calls) addr = lastAccepted s.calls addr) :
    Tracked D { s with calls := entry :: s.calls } where
  devices := tracked.devices
  named := tracked.named
  coherent := tracked.coherent
  status name o here := (tracked.status name o here).trans (by rw [← devices]; rfl)
  flags name o here c inside i member := (tracked.flags name o here c inside i member).trans (interfaces _).symm

theorem keeps_callHdi {call : HdiCall} (neutral : call.Neutral) : Keeps (Tracked D) (callHdi env call) := by
  intro s tracked
  refine tracked.log (fun b a => ?_) fun addr => ?_
  · rw [lastDevice_cons, neutral.asksDevice, Option.getD_none, ite_self]
  · rw [lastAccepted_cons, neutral.asks, Option.getD_none, ite_self]

theorem keeps_callUsbd {call : HdiCall} (neutral : call.Neutral) : Keeps (Tracked D) (callUsbd env call) :=
  .ite (fun _ => keeps_callHdi neutral) fun _ => .pure _

theorem keeps_getActiveConfig (busNum devAddr : UInt8) : Keeps (Tracked D) (getActiveConfig env busNum devAddr) :=
  .get fun _ _ => .bind (keeps_callUsbd trivial) fun _ => .pure _

/-! ### Devices -/

theorem Tracked.accepted {s : State} (tracked : Tracked D s) {busNum devAddr : UInt8} {dev : Nat}
    (found : D[deviceName busNum devAddr]? = some dev) (authorized : Bool) :
    Tracked D (accepted dev busNum devAddr authorized s) where
  devices := (accepted_map ..).1.trans tracked.devices
  named name o here := by
    rw [device_accepted]
    exact tracked.named name o here
  coherent name o here := by
    have coherent := tracked.coherent name o here
    rw [device_accepted]
    exact ⟨coherent.configs, coherent.interfaces⟩
  status name o here := by
    obtain ⟨bus, addr⟩ := deviceName_inj.1 (tracked.named _ dev found)
    rw [device_accepted]
    change _ ↔ lastDevice ((.usbDeviceAuthorize busNum devAddr authorized, .uecOk) :: s.calls) (s.device o).busNum
      (s.device o).devAddr = false
    rw [lastDevice_cons, if_pos rfl, HdiCall.asksDevice]
    by_cases same : o = dev
    · have own : busNum = (s.device dev).busNum ∧ devAddr = (s.device dev).devAddr := ⟨bus, addr⟩
      rw [same, if_pos own]
      cases authorized <;> simp [Devices.authorizedStatus]
    · have other : ¬ (busNum = (s.device o).busNum ∧ devAddr = (s.device o).devAddr) := fun both =>
        same (tracked.same here found (both.1.symm.trans bus) (both.2.symm.trans addr))
      rw [if_neg other, Option.getD_none, if_neg same]
      exact tracked.status name o here
  flags name o here c inside i member := by
    rw [device_accepted] at inside ⊢
    change i.authorized = lastAccepted ((.usbDeviceAuthorize busNum devAddr authorized, .uecOk) :: s.calls) _
    rw [lastAccepted_cons, if_pos rfl]
    exact tracked.flags name o here c inside i member

theorem keeps_changeDevice {dev : Nat} {busNum devAddr : UInt8} (found : D[deviceName busNum devAddr]? = some dev)
    (authorized : Bool) : Keeps (Tracked D) (changeDevice env dev busNum devAddr authorized) := by
  intro s tracked
  rw [changeDevice_state]
  split_ifs with ok
  · exact tracked.accepted found authorized
  · refine tracked.log (fun b a => ?_) fun addr => ?_
    · rw [lastDevice_cons, if_neg ok]
    · rw [lastAccepted_cons, if_neg ok]

theorem keeps_usbDeviceAuthorize (busNum devAddr : UInt8) (authorized : Bool) :
    Keeps (Tracked D) (usbDeviceAuthorize env busNum devAddr authorized) := by
  refine usbDeviceAuthorize_keeps (fun _ => keeps_getActiveConfig) fun s dev here found => ?_
  rw [here.devices] at found
  exact keeps_changeDevice found authorized

/-- The device map stays. -/
theorem devices_usbDeviceAuthorize (busNum devAddr : UInt8) (authorized : Bool) :
    Keeps (fun s => s.host.devices = D) (usbDeviceAuthorize env busNum devAddr authorized) := by
  refine usbDeviceAuthorize_keeps (fun _ _ _ => ?_) fun _ dev _ _ s here => ?_
  · exact .get fun _ _ => .bind (.ite (fun _ _ same => same) fun _ => .pure _) fun _ => .pure _
  · rw [changeDevice_state]
    split_ifs
    · exact (accepted_map ..).1.trans here
    · exact here

/-! ### Interfaces -/

/-- Of the calls that were made since, the driver refused only those that ask for what it applied already. -/
def Steady (before log : Calls) : Prop :=
  ∀ calls busNum devAddr configId interfaceId authorized ret, before <:+ calls →
    (.usbInterfaceAuthorize busNum devAddr configId interfaceId authorized, ret) :: calls <:+ log → ret ≠ .uecOk →
      lastAccepted calls ⟨busNum, devAddr, configId, interfaceId⟩ = authorized

/-- Of steady calls, the ones in between are steady. -/
theorem Steady.part {before first last log : Calls} (steady : Steady before log) (since : before <:+ first)
    (upTo : last <:+ log) : Steady first last :=
  fun calls busNum devAddr configId interfaceId authorized ret later logged =>
    steady calls busNum devAddr configId interfaceId authorized ret (since.trans later) (logged.trans upTo)

theorem callUsbd_calls (env : Env) (call : HdiCall) (neutral : call.Neutral) (s : State) :
    ∃ calls, (callUsbd env call s).2 = { s with calls } ∧ s.calls <:+ calls ∧
      (∀ b a, lastDevice calls b a = lastDevice s.calls b a) ∧
      ∀ addr, lastAccepted calls addr = lastAccepted s.calls addr := by
  unfold callUsbd
  split_ifs
  · refine ⟨(call, env.answer s.calls call) :: s.calls, rfl, List.suffix_cons _ _, fun b a => ?_, fun addr => ?_⟩
    · rw [lastDevice_cons, neutral.asksDevice, Option.getD_none, ite_self]
    · rw [lastAccepted_cons, neutral.asks, Option.getD_none, ite_self]
  · exact ⟨s.calls, rfl, List.suffix_rfl, fun _ _ => rfl, fun _ => rfl⟩

/-- After a steady call for an interface the driver has the value that was asked for. -/
theorem usbInterfaceAuthorize_calls (present : env.usbDeviceInterface = true) (addr : InterfaceAddr)
    (authorized : Bool) (s : State) :
    ∃ calls, (usbInterfaceAuthorize env addr.busNum addr.devAddr addr.configId addr.interfaceId authorized s).2 =
        { s with calls } ∧ s.calls <:+ calls ∧
      (∀ b a, lastDevice calls b a = lastDevice s.calls b a) ∧
      (Steady s.calls calls →
        ∀ other, lastAccepted calls other = if addr = other then authorized else lastAccepted s.calls other) := by
  let call : HdiCall := .usbInterfaceAuthorize addr.busNum addr.devAddr addr.configId addr.interfaceId authorized
  let ret := env.answer s.calls call
  let asked : State := { s with calls := (call, ret) :: s.calls }
  have grown : s.calls <:+ asked.calls := List.suffix_cons _ _
  have devices : ∀ b a, lastDevice asked.calls b a = lastDevice s.calls b a := fun b a =>
    (lastDevice_cons call ret s.calls b a).trans (ite_self _)
  have interfaces : Steady s.calls asked.calls → ∀ other, lastAccepted asked.calls other =
      if addr = other then authorized else lastAccepted s.calls other := by
    intro steady other
    have asks : call.asks other = if addr = other then some authorized else none := rfl
    rw [lastAccepted_cons call ret s.calls, asks]
    by_cases same : addr = other
    · rw [if_pos same, if_pos same, Option.getD_some]
      by_cases ok : ret = .uecOk
      · rw [if_pos ok]
      · rw [if_neg ok, ← same]
        exact steady _ _ _ _ _ _ _ List.suffix_rfl List.suffix_rfl ok
    · rw [if_neg same, if_neg same, Option.getD_none, ite_self]
  have run : usbInterfaceAuthorize env addr.busNum addr.devAddr addr.configId addr.interfaceId authorized s =
      (if ret = .uecOk ∧ authorized = true then
        manageInterface env addr.busNum addr.devAddr addr.interfaceId (!authorized) else pure ret : Manager _)
          asked := by
    simp only [usbInterfaceAuthorize, present]
    rfl
  rw [run]
  split_ifs
  · obtain ⟨calls, done, more, devices', interfaces'⟩ := callUsbd_calls env
      (.manageInterface addr.busNum addr.devAddr addr.interfaceId (!authorized)) trivial asked
    exact ⟨calls, done, grown.trans more, fun b a => (devices' b a).trans (devices b a),
      fun steady other => (interfaces' other).trans (interfaces (steady.part List.suffix_rfl more) other)⟩
  · exact ⟨_, rfl, grown, devices, interfaces⟩

/-- The device with these interfaces in one of its configurations. -/
def withInterfaces (d : UsbDevice) (index : Nat) (interfaces : List UsbInterface) : UsbDevice :=
  { d with configs := d.configs.modify index fun c => { c with interfaces } }

/-- The interface with the value that was asked for. -/
def answered (ask : UsbInterface → Option Bool) (i : UsbInterface) : UsbInterface :=
  match ask i with
  | none => i
  | some authorized => { i with authorized }

/-- The last value that is asked for an address in a loop over interfaces. -/
def askedFor (ask : UsbInterface → Option Bool) (dev : UInt8 × UInt8) (configId : UInt8)
    (interfaces : List UsbInterface) (addr : InterfaceAddr) : Option Bool :=
  interfaces.reverse.findSome? fun i =>
    if (⟨dev.1, dev.2, configId, .ofInt i.id⟩ : InterfaceAddr) = addr then ask i else none

/-- What a loop over interfaces does: it leaves these interfaces, and the driver has the values that were asked if the
calls of the loop were steady. -/
structure Looped (object index : Nat) (dev : UInt8 × UInt8) (configId : UInt8) (ask : UsbInterface → Option Bool)
    (passed interfaces : List UsbInterface) (s s' : State) : Prop where
  devices : s'.host.devices = s.host.devices
  others : ∀ o, o ≠ object → s'.device o = s.device o
  device : s'.device object = withInterfaces (s.device object) index interfaces
  grown : s.calls <:+ s'.calls
  lastDevice : ∀ b a, lastDevice s'.calls b a = lastDevice s.calls b a
  lastAccepted : Steady s.calls s'.calls → ∀ addr, lastAccepted s'.calls addr =
    (askedFor ask dev configId passed addr).getD (lastAccepted s.calls addr)

theorem modify_congr {α : Type} {xs : List α} {n : Nat} {f g : α → α} (same : ∀ x, xs[n]? = some x → f x = g x) :
    xs.modify n f = xs.modify n g := by
  apply List.ext_getElem?
  intro m
  rw [List.getElem?_modify, List.getElem?_modify]
  cases found : xs[m]? with
  | none => rfl
  | some x =>
    by_cases here : n = m
    · simp [here, same x (here ▸ found)]
    · simp [here]

theorem modify_length {α : Type} (done : List α) (x : α) (rest : List α) (f : α → α) :
    (done ++ x :: rest).modify done.length f = done ++ f x :: rest := by
  induction done with
  | nil => rfl
  | cons y done ih => exact congrArg (y :: ·) ih

theorem withInterfaces_self {d : UsbDevice} {index : Nat} {c : USBConfig} (here : d.configs[index]? = some c) :
    withInterfaces d index c.interfaces = d := by
  have same :
      d.configs.modify index (fun c' => { c' with interfaces := c.interfaces }) = d.configs.modify index id := by
    apply modify_congr
    intro c' found
    rw [here] at found
    cases found
    rfl
  rw [withInterfaces, same, List.modify_id]

theorem getElem?_withInterfaces {d : UsbDevice} {index : Nat} {c : USBConfig} (here : d.configs[index]? = some c)
    (interfaces : List UsbInterface) :
      (withInterfaces d index interfaces).configs[index]? = some { c with interfaces } := by
  simp [withInterfaces, here]

theorem withInterfaces_twice (d : UsbDevice) (index : Nat) (first second : List UsbInterface) :
    withInterfaces (withInterfaces d index first) index second = withInterfaces d index second := by
  simp only [withInterfaces, List.modify_modify_eq]
  rfl

theorem device_setInterfaceAuthorized {s : State} {object index : Nat} {c : USBConfig} {done rest : List UsbInterface}
    {i : UsbInterface} (here : (s.device object).configs[index]? = some c) (split : c.interfaces = done ++ i :: rest)
    (authorized : Bool) :
    (setInterfaceAuthorized object index done.length authorized s).device object =
      withInterfaces (s.device object) index (done ++ { i with authorized } :: rest) := by
  simp only [State.device, setInterfaceAuthorized, if_true, withInterfaces]
  congr 1
  apply modify_congr
  intro c' found
  cases here.symm.trans found
  rw [split, modify_length]

section Loop

variable {object index : Nat} {dev : UInt8 × UInt8} {configId : UInt8} {ask : UsbInterface → Option Bool}

theorem Looped.none {s : State} {c : USBConfig} (here : (s.device object).configs[index]? = some c) :
    Looped object index dev configId ask [] c.interfaces s s :=
  ⟨rfl, fun _ _ => rfl, (withInterfaces_self here).symm, List.suffix_rfl, fun _ _ => rfl, fun _ _ => rfl⟩

theorem askedFor_cons (i : UsbInterface) (rest : List UsbInterface) (addr : InterfaceAddr) :
    askedFor ask dev configId (i :: rest) addr =
      (askedFor ask dev configId rest addr).or (askedFor ask dev configId [i] addr) := by
  simp only [askedFor, List.reverse_cons, List.findSome?_append, List.reverse_nil, List.nil_append]

/-- The rounds of a loop. -/
theorem Looped.cons {rest first interfaces : List UsbInterface} {i : UsbInterface} {s mid s' : State}
    (round : Looped object index dev configId ask [i] first s mid)
    (later : Looped object index dev configId ask rest interfaces mid s') :
    Looped object index dev configId ask (i :: rest) interfaces s s' where
  devices := later.devices.trans round.devices
  others o other := (later.others o other).trans (round.others o other)
  device := by rw [later.device, round.device, withInterfaces_twice]
  grown := round.grown.trans later.grown
  lastDevice b a := (later.lastDevice b a).trans (round.lastDevice b a)
  lastAccepted steady addr := by
    rw [later.lastAccepted (steady.part round.grown List.suffix_rfl),
      round.lastAccepted (steady.part List.suffix_rfl later.grown), askedFor_cons i rest addr]
    cases askedFor ask dev configId rest addr <;> rfl

/-- A round for an interface that the driver is asked for. -/
theorem looped_asked (present : env.usbDeviceInterface = true) {s : State} {c : USBConfig}
    {done rest : List UsbInterface} {i : UsbInterface} {authorized : Bool}
    (here : (s.device object).configs[index]? = some c) (split : c.interfaces = done ++ i :: rest)
    (asked : ask i = some authorized) :
    Looped object index dev configId ask [i] (done ++ { i with authorized } :: rest) s
      (setInterfaceAuthorized object index done.length authorized
        (usbInterfaceAuthorize env dev.1 dev.2 configId (.ofInt i.id) authorized s).2) := by
  obtain ⟨calls, run, grown, devices, interfaces⟩ := usbInterfaceAuthorize_calls present
    ⟨dev.1, dev.2, configId, .ofInt i.id⟩ authorized s
  rw [run]
  refine ⟨rfl, fun o other => ?_, device_setInterfaceAuthorized here split authorized, grown, devices,
    fun steady addr => ?_⟩
  · simp only [State.device, setInterfaceAuthorized, if_neg other]
  · refine (interfaces steady addr).trans ?_
    simp only [askedFor, List.reverse_cons, List.reverse_nil, List.nil_append, List.findSome?_cons, List.findSome?_nil,
      asked]
    split_ifs <;> rfl

/-- The round of an interface leaves its answer in front of the rest. -/
theorem authorizeInterfaces_round (present : env.usbDeviceInterface = true) {s : State} {c : USBConfig}
    {done rest : List UsbInterface} {i : UsbInterface} (here : (s.device object).configs[index]? = some c)
    (split : c.interfaces = done ++ i :: rest) :
    ∃ mid, Looped object index dev configId ask [i] (done ++ answered ask i :: rest) s mid ∧
      authorizeInterfaces env object index dev configId ask done.length (i :: rest) s =
        authorizeInterfaces env object index dev configId ask (done ++ [answered ask i]).length rest mid := by
  rw [List.length_append, List.length_singleton]
  cases asked : ask i with
  | none =>
    refine ⟨s, ?_, by simp only [authorizeInterfaces, asked]⟩
    have same : answered ask i = i := by rw [answered, asked]
    rw [same, ← split]
    refine ⟨rfl, fun _ _ => rfl, (withInterfaces_self here).symm, List.suffix_rfl, fun _ _ => rfl, fun _ addr => ?_⟩
    simp [askedFor, asked]
  | some authorized =>
    have set : answered ask i = { i with authorized } := by rw [answered, asked]
    rw [set]
    exact ⟨_, looped_asked present here split asked, by simp only [authorizeInterfaces, asked]; rfl⟩

theorem authorizeInterfaces_looped (present : env.usbDeviceInterface = true) :
    ∀ (rest done : List UsbInterface) (s : State) (c : USBConfig), (s.device object).configs[index]? = some c →
      c.interfaces = done ++ rest → Looped object index dev configId ask rest (done ++ rest.map (answered ask)) s
        (authorizeInterfaces env object index dev configId ask done.length rest s).2 := by
  intro rest
  induction rest with
  | nil =>
    intro done s c here split
    rw [List.append_nil] at split
    rw [List.map_nil, List.append_nil, ← split]
    exact .none here
  | cons i rest ih =>
    intro done s c here split
    obtain ⟨mid, looped, run⟩ : ∃ mid, Looped object index dev configId ask [i] (done ++ answered ask i :: rest) s mid ∧
        authorizeInterfaces env object index dev configId ask done.length (i :: rest) s =
          authorizeInterfaces env object index dev configId ask (done ++ [answered ask i]).length rest mid :=
      authorizeInterfaces_round present here split
    have here' :
        (mid.device object).configs[index]? = some { c with interfaces := done ++ answered ask i :: rest } := by
      rw [looped.device]
      exact getElem?_withInterfaces here _
    have regroup : done ++ (i :: rest).map (answered ask) = (done ++ [answered ask i]) ++ rest.map (answered ask) := by
      simp
    rw [run, regroup]
    exact looped.cons (ih _ mid _ here' (by simp))

end Loop

/-! ### The active configuration -/

theorem findSome?_same {α β : Type} {P : α → Prop} [DecidablePred P] {f : α → Option β} {xs : List α} {x : α}
    (member : x ∈ xs) (here : P x) (same : ∀ y ∈ xs, P y → f y = f x) :
    xs.findSome? (fun y => if P y then f y else none) = f x := by
  cases found : xs.findSome? (fun y => if P y then f y else none) with
  | none =>
    have none := List.findSome?_eq_none_iff.1 found x member
    rw [if_pos here] at none
    exact none.symm
  | some v =>
    obtain ⟨y, inside, value⟩ := List.exists_of_findSome?_eq_some found
    split_ifs at value with there
    rw [← same y inside there, value]

theorem findSome?_none {α β : Type} {P : α → Prop} [DecidablePred P] {f : α → Option β} {xs : List α}
    (nowhere : ∀ y ∈ xs, ¬ P y) : xs.findSome? (fun y => if P y then f y else none) = none := by
  rw [List.findSome?_eq_none_iff]
  intro y member
  exact if_neg (nowhere y member)

section Answered

variable (ask : UsbInterface → Option Bool) (i : UsbInterface)

theorem answered_id : (answered ask i).id = i.id := by
  unfold answered
  split <;> rfl

theorem answered_type :
    (answered ask i).klass = i.klass ∧ (answered ask i).subClass = i.subClass ∧
      (answered ask i).protocol = i.protocol := by
  unfold answered
  split <;> exact ⟨rfl, rfl, rfl⟩

theorem answered_authorized : (answered ask i).authorized = (ask i).getD i.authorized := by
  unfold answered
  cases ask i <;> rfl

end Answered

/-- The configurations of a device of which one has other interfaces. -/
theorem mem_withInterfaces {d : UsbDevice} {index : Nat} {c c' : USBConfig} {interfaces : List UsbInterface}
    (here : d.configs[index]? = some c) (member : c' ∈ (withInterfaces d index interfaces).configs) :
    c' = { c with interfaces } ∨ ∃ n, n ≠ index ∧ d.configs[n]? = some c' := by
  obtain ⟨n, found⟩ := List.mem_iff_getElem?.1 member
  change (d.configs.modify index _)[n]? = _ at found
  rw [List.getElem?_modify] at found
  by_cases same : index = n
  · rw [← same, here] at found
    simp only [if_true, Option.map_eq_map, Option.map_some, Option.some.injEq] at found
    exact .inl found.symm
  · simp only [if_neg same, Option.map_eq_map, Option.map_id'] at found
    exact .inr ⟨n, Ne.symm same, found⟩

theorem coherent_withInterfaces {d : UsbDevice} {index : Nat} {c : USBConfig} (coherent : Coherent d)
    (here : d.configs[index]? = some c) (ask : UsbInterface → Option Bool) :
    Coherent (withInterfaces d index (c.interfaces.map (answered ask))) := by
  constructor
  · have ids : (withInterfaces d index (c.interfaces.map (answered ask))).configs.map (fun c => UInt8.ofInt c.id) =
        d.configs.map fun c => UInt8.ofInt c.id := by
      apply List.ext_getElem?
      intro n
      simp only [withInterfaces, List.getElem?_map, List.getElem?_modify]
      cases d.configs[n]? with
      | none => rfl
      | some c => by_cases same : index = n <;> simp [same]
    rw [ids]
    exact coherent.configs
  · intro c' member i inI j inJ same
    rcases mem_withInterfaces here member with rfl | ⟨n, -, found⟩
    · obtain ⟨i, ofI, rfl⟩ := List.mem_map.1 inI
      obtain ⟨j, ofJ, rfl⟩ := List.mem_map.1 inJ
      rw [answered_id, answered_id] at same
      obtain ⟨klass, subClass, protocol⟩ := coherent.interfaces c (List.mem_of_getElem? here) i ofI j ofJ same
      obtain ⟨klassI, subClassI, protocolI⟩ := answered_type ask i
      obtain ⟨klassJ, subClassJ, protocolJ⟩ := answered_type ask j
      rw [klassI, subClassI, protocolI, klassJ, subClassJ, protocolJ]
      exact ⟨klass, subClass, protocol⟩
    · exact coherent.interfaces c' (List.mem_of_getElem? found) i inI j inJ same

/-- In a loop over the interfaces of a configuration, an interface of it is asked for as its type says. -/
theorem askedFor_own {d : UsbDevice} {c : USBConfig} {i : UsbInterface} {ask : UsbInterface → Option Bool}
    (coherent : Coherent d) (inside : c ∈ d.configs) (member : i ∈ c.interfaces) (byType : ByType ask) :
    askedFor ask (d.busNum, d.devAddr) (.ofInt c.id) c.interfaces (interfaceAddr d c i) = ask i := by
  refine findSome?_same (List.mem_reverse.2 member) rfl fun j inJ same => ?_
  obtain ⟨klass, subClass, protocol⟩ := coherent.interfaces c inside j (List.mem_reverse.1 inJ) i member
    (congrArg InterfaceAddr.interfaceId same)
  exact byType j i klass subClass protocol

/-- No interface of another configuration or device is asked for. -/
theorem askedFor_other {ask : UsbInterface → Option Bool} {dev : UInt8 × UInt8} {configId : UInt8}
    {interfaces : List UsbInterface} {addr : InterfaceAddr}
    (other : ¬ (dev.1 = addr.busNum ∧ dev.2 = addr.devAddr ∧ configId = addr.configId)) :
    askedFor ask dev configId interfaces addr = none :=
  findSome?_none fun _ _ same => other (by rw [← same]; exact ⟨rfl, rfl, rfl⟩)

/-- The configurations at two positions are different for the driver. -/
theorem Coherent.ne {d : UsbDevice} (coherent : Coherent d) {m n : Nat} {c c' : USBConfig} (different : n ≠ m)
    (here : d.configs[m]? = some c) (there : d.configs[n]? = some c') : UInt8.ofInt c.id ≠ .ofInt c'.id := by
  intro same
  have nodup := coherent.configs
  apply different
  have bound : n < (d.configs.map fun c => UInt8.ofInt c.id).length := by
    rw [List.length_map]
    exact (List.getElem?_eq_some_iff.1 there).1
  apply (List.getElem?_inj bound nodup).1
  rw [List.getElem?_map, List.getElem?_map, here, there]
  exact congrArg some same.symm

theorem Looped.static {object index : Nat} {dev : UInt8 × UInt8} {configId : UInt8} {ask : UsbInterface → Option Bool}
    {passed interfaces : List UsbInterface} {s s' : State}
    (looped : Looped object index dev configId ask passed interfaces s s') (o : Nat) :
    s'.device o = { s.device o with configs := (s'.device o).configs } := by
  by_cases same : o = object
  · rw [same, looped.device]
    rfl
  · rw [looped.others o same]

/-- The loop over the interfaces of a configuration. -/
theorem Tracked.looped {s s' : State} (tracked : Tracked D s) {name : String} {object index : Nat}
    (attached : D[name]? = some object) {c : USBConfig} (here : (s.device object).configs[index]? = some c)
    {ask : UsbInterface → Option Bool} (byType : ByType ask)
    (looped : Looped object index ((s.device object).busNum, (s.device object).devAddr) (.ofInt c.id) ask c.interfaces
      (c.interfaces.map (answered ask)) s s') (steady : Steady s.calls s'.calls) : Tracked D s' where
  devices := looped.devices.trans tracked.devices
  named name' o found := by
    rw [looped.static]
    exact tracked.named name' o found
  coherent name' o found := by
    by_cases same : o = object
    · rw [same, looped.device]
      exact coherent_withInterfaces (tracked.coherent name object attached) here ask
    · rw [looped.others o same]
      exact tracked.coherent name' o found
  status name' o found := by
    rw [looped.static, looped.lastDevice]
    exact tracked.status name' o found
  flags name' o found c' member i' deep := by
    have coherent := tracked.coherent name object attached
    rw [looped.lastAccepted steady]
    by_cases same : o = object
    · rw [same, looped.device] at member ⊢
      rcases mem_withInterfaces here member with rfl | ⟨n, different, there⟩
      · obtain ⟨i, inside, rfl⟩ := List.mem_map.1 deep
        have config := List.mem_of_getElem? here
        have addr : interfaceAddr (withInterfaces (s.device object) index (c.interfaces.map (answered ask)))
            { c with interfaces := c.interfaces.map (answered ask) } (answered ask i) =
              interfaceAddr (s.device object) c i := by
          simp only [interfaceAddr, withInterfaces, answered_id]
        rw [addr, askedFor_own coherent config inside byType, answered_authorized,
          tracked.flags name object attached c config i inside]
      · have other : UInt8.ofInt c.id ≠ .ofInt c'.id := coherent.ne different here there
        rw [askedFor_other fun both => other both.2.2]
        exact tracked.flags name object attached c' (List.mem_of_getElem? there) i' deep
    · rw [looped.others o same] at member ⊢
      rw [askedFor_other fun both => same (tracked.same found attached both.1.symm both.2.1.symm)]
      exact tracked.flags name' o found c' member i' deep

/-- The device map stays, and a steady loop keeps what is tracked. -/
theorem authorizeActiveConfig_looped (present : env.usbDeviceInterface = true) {name : String} {object : Nat}
    (attached : D[name]? = some object) (configIndex : UInt8) {ask : UsbInterface → Option Bool} (byType : ByType ask)
    (s : State) :
    (authorizeActiveConfig env object configIndex ask s).2.host.devices = s.host.devices ∧
      (Tracked D s → Steady s.calls (authorizeActiveConfig env object configIndex ask s).2.calls →
        Tracked D (authorizeActiveConfig env object configIndex ask s).2) := by
  rw [authorizeActiveConfig, stateM_bind, stateM_get]
  dsimp only
  cases here : (s.device object).configs[(configIndex - 1).toNat]? with
  | none => exact ⟨rfl, fun tracked _ => tracked⟩
  | some c =>
    have looped : Looped object (configIndex - 1).toNat ((s.device object).busNum, (s.device object).devAddr) (.ofInt c.id)
        ask c.interfaces (c.interfaces.map (answered ask)) s _ :=
      authorizeInterfaces_looped present c.interfaces [] s c here rfl
    exact ⟨looped.devices, fun tracked steady => tracked.looped attached here byType looped steady⟩

/-! ## Runs -/

/-- The calls since some point go on; as long as they are steady, the sides agree. -/
structure TrackedSince (before : Calls) (D : ExtTreeMap String Nat) (s : State) : Prop where
  devices : s.host.devices = D
  grown : before <:+ s.calls
  tracked : Steady before s.calls → Tracked D s

theorem suffix_logged {before : Calls} (calls : Calls) (call : HdiCall) (ret : UsbErrCode) (here : before <:+ calls) :
    before <:+ (call, ret) :: calls :=
  here.trans (List.suffix_cons _ _)

theorem suffix_callUsbd {before : Calls} (call : HdiCall) : Keeps (fun s => before <:+ s.calls) (callUsbd env call) :=
  .ite (fun _ _ here => suffix_logged _ _ _ here) fun _ => .pure _

/-- What only adds calls, and keeps what is tracked where these are steady. -/
theorem keeps_since {α : Type} {m : Manager α} {before : Calls} (devices : Keeps (fun s => s.host.devices = D) m)
    (grows : ∀ calls, Keeps (fun s => calls <:+ s.calls) m)
    (kept : ∀ s, Tracked D s → Steady s.calls (m s).2.calls → Tracked D (m s).2) :
    Keeps (TrackedSince before D) m := by
  intro s since
  have grown : s.calls <:+ (m s).2.calls := grows s.calls s List.suffix_rfl
  refine ⟨devices s since.devices, since.grown.trans grown, fun steady => ?_⟩
  have first : Tracked D s := since.tracked (steady.part List.suffix_rfl grown)
  exact kept s first (steady.part since.grown List.suffix_rfl)

theorem tracked_kept (present : env.usbDeviceInterface = true) (before : Calls) :
    KeptBySteps env (TrackedSince before D) (D.toList.map (·.2)) fun _ _ _ => True where
  objects_eq s since := by rw [State.objects, since.devices]
  may_disable _ _ := trivial
  callUsbd call neutral :=
    keeps_since (.ite (fun _ _ same => same) fun _ => .pure _) (fun _ => suffix_callUsbd call)
      fun s tracked _ => keeps_callUsbd neutral s tracked
  usbDeviceAuthorize busNum devAddr authorized _ :=
    keeps_since (devices_usbDeviceAuthorize busNum devAddr authorized)
      (fun _ =>
        plain_usbDeviceAuthorize (fun calls call ret _ => suffix_logged calls call ret) busNum devAddr authorized)
      fun s tracked _ => keeps_usbDeviceAuthorize busNum devAddr authorized s tracked
  authorizeActiveConfig object member configIndex ask byType := by
    obtain ⟨⟨name, _⟩, listed, rfl⟩ := List.mem_map.1 member
    have looped := authorizeActiveConfig_looped present (ExtTreeMap.mem_toList_iff_getElem?_eq_some.1 listed)
      configIndex byType
    exact keeps_since (fun s same => (looped s).1.trans same)
      (fun _ => plain_authorizeActiveConfig (fun calls call ret _ => suffix_logged calls call ret) _ configIndex ask)
      fun s => (looped s).2

theorem keeps_perform (present : env.usbDeviceInterface = true) (before : Calls) (operation : Operation) :
    Keeps (TrackedSince before D) (operation.perform env) := by
  have kept : KeptBySteps env (TrackedSince before D) (D.toList.map (·.2)) fun _ _ _ => True :=
    tracked_kept present before
  have free : Free env (TrackedSince before D) (D.toList.map (·.2)) fun _ _ _ => True := fun _ _ _ _ _ _ => trivial
  have strategy : Keeps (TrackedSince before D) (executeStrategy env) := by
    refine kept.executeStrategy free (fun s b since => ?_) fun _ _ _ _ _ _ _ _ => trivial
    refine ⟨since.devices, since.grown, fun steady => ?_⟩
    have tracked : Tracked D s := since.tracked steady
    exact ⟨tracked.devices, tracked.named, tracked.coherent, tracked.status, tracked.flags⟩
  cases operation with
  | manageGlobalInterface disable => exact .discard (kept.manageGlobalInterfaceImpl free disable)
  | manageDevice vendorId productId disable => exact .discard (kept.manageDeviceImpl fun _ _ _ _ _ _ => trivial)
  | manageDevicePolicy trustList => exact .discard (kept.executeManageDevicePolicy fun _ _ _ _ _ _ => trivial)
  | manageInterfaceType disableType disable => exact .discard (kept.executeManageInterfaceType free disableType disable)
  | manageUsbType disableType disable => exact kept.executeManageUsbType free disableType disable
  | manageUsbSerialDevice disable =>
    refine .discard (.bind (kept.manageUsbSerialDevices fun _ _ _ _ => trivial) fun _ => ?_)
    exact .ite (fun _ => .bind strategy fun _ => .pure _) fun _ => .pure _

end Kept

/-- Nothing was disabled, and the driver was not called. -/
structure Fresh (s : State) : Prop where
  named : s.Named
  status : ∀ o, s.Attached o → (s.device o).authorizeStatus ≠ .disabled
  flags : ∀ o, s.Attached o → ∀ c ∈ (s.device o).configs, ∀ i ∈ c.interfaces, i.authorized = true
  calls : s.calls = []

/-- A step with a driver that is there and that refuses, of the calls it gets in the step, only what it applied
already, and with devices whose interfaces it tells apart. -/
structure Applies (s : State) (action : Env × Operation) : Prop where
  present : action.1.usbDeviceInterface = true
  steady : Steady s.calls (action.2.perform action.1 s).2.calls
  coherent : ∀ o, s.Attached o → Coherent (s.device o)

/-- In runs of such steps, what is recorded is what the driver applied last. -/
theorem authorisation_recorded {init s : State} (fresh : Fresh init) (reached : Reach perform Applies init s) :
    Recorded s := by
  have both : s.Named ∧ Recorded s := by
    refine reached.invariant (fun s => s.Named ∧ Recorded s) ⟨fresh.named, ?_, ?_⟩ ?_
    · intro o attached
      rw [fresh.calls]
      exact ⟨fun disabled => absurd disabled (fresh.status o attached), fun none => by cases none⟩
    · intro o attached c config i member
      rw [fresh.calls, fresh.flags o attached c config i member]
      rfl
    · rintro s ⟨env, operation⟩ s' ⟨named, recorded⟩ applies taken
      cases taken
      have before : Tracked s.host.devices s :=
        ⟨rfl, named, fun name o found => applies.coherent o ⟨name, found⟩,
          fun name o found => recorded.status o ⟨name, found⟩,
          fun name o found => recorded.flags o ⟨name, found⟩⟩
      have since : TrackedSince s.calls s.host.devices (operation.perform env s).2 :=
        keeps_perform applies.present s.calls operation s ⟨rfl, List.suffix_rfl, fun _ => before⟩
      have after : Tracked s.host.devices (operation.perform env s).2 := since.tracked applies.steady
      have devices := after.devices
      refine ⟨fun name o found => after.named name o (devices ▸ found), fun o ⟨name, found⟩ => ?_,
        fun o ⟨name, found⟩ => ?_⟩
      · exact after.status name o (devices ▸ found)
      · exact after.flags name o (devices ▸ found)
  exact both.2

/-! ### A storage device -/

/-- One storage device is attached. -/
def storageAttached : State where
  host := {
    devices := (∅ : ExtTreeMap String Nat).insert (deviceName 1 2) 0
    heap := fun _ => {
      busNum := 1
      devAddr := 2
      vendorId := 0x1234
      productId := 0x5678
      baseClass := 0
      configs := [{ id := 1, interfaces := [{ id := 0, klass := 8, subClass := 6, protocol := 80 }] }] }
    allocated := 1 }

/-- A driver that answers every call for an interface like this, and an absent device manager. -/
def driver (ret : UsbErrCode) : Env where
  answer _ call :=
    match call with
    | .usbInterfaceAuthorize .. => ret
    | _ => .uecOk
  firstAttempt := ({ remote := false, sendRequest := fun _ => (.hdfFailure, []) }, 0)

/-- Storage interfaces are disabled. -/
def disableStorage : Operation := .manageUsbType [{ baseClass := 8, subClass := -1, protocol := -1 }] true

theorem storageAttached_found {name : String} {o : Nat} (found : storageAttached.host.devices[name]? = some o) :
    name = deviceName 1 2 ∧ o = 0 := by
  simp only [storageAttached, ExtTreeMap.getElem?_insert, Std.LawfulEqCmp.compare_eq_iff_eq] at found
  split_ifs at found with same
  · exact ⟨same.symm, (Option.some.inj found).symm⟩
  · simp at found

theorem storageAttached_fresh : Fresh storageAttached := by
  refine ⟨fun name o found => (storageAttached_found found).1, fun o ⟨_, found⟩ => ?_, fun o ⟨_, found⟩ => ?_, rfl⟩
  · rw [(storageAttached_found found).2]
    decide
  · rw [(storageAttached_found found).2]
    decide

/-- The driver agrees, and the flag of the storage interface is cleared on both sides. -/
theorem authorisation_recorded_storage :
    ∃ s, Reach perform Applies storageAttached s ∧ Recorded s ∧
      (s.device 0).configs.map (·.interfaces.map (·.authorized)) = [[false]] := by
  have applies : Applies storageAttached (driver .uecOk, disableStorage) := by
    refine ⟨rfl, fun _ _ _ _ _ _ _ _ logged refused => ?_, fun o ⟨_, found⟩ => ?_⟩
    · have accepted : ∀ entry ∈ (disableStorage.perform (driver .uecOk) storageAttached).2.calls,
          entry.2 = .uecOk := by decide +kernel
      exact absurd (accepted _ (logged.subset (List.mem_cons_self ..))) refused
    · rw [(storageAttached_found found).2]
      exact ⟨by decide, by decide⟩
  have reached : Reach perform Applies storageAttached (disableStorage.perform (driver .uecOk) storageAttached).2 :=
    .step .init applies rfl
  exact ⟨_, reached, authorisation_recorded storageAttached_fresh reached, by decide +kernel⟩

/-- The storage device after the driver refused to disable its interface. -/
def storageRefused : State := (disableStorage.perform (driver .hdfFailure) storageAttached).2

/-- The driver refuses: the flag is cleared, and the last call that succeeded is none. -/
theorem authorisation_recorded_refused :
    Fresh storageAttached ∧ Reach perform anyStep storageAttached storageRefused ∧
      (storageRefused.device 0).configs.map (·.interfaces.map (·.authorized)) = [[false]] ∧
      lastAccepted storageRefused.calls ⟨1, 2, 1, 0⟩ = true ∧ ¬ Recorded storageRefused := by
  have reached : Reach perform anyStep storageAttached storageRefused :=
    .step (a := (driver .hdfFailure, disableStorage)) .init trivial rfl
  refine ⟨storageAttached_fresh, reached, by decide +kernel, by decide +kernel, fun recorded => ?_⟩
  have attached : storageRefused.Attached 0 := ⟨deviceName 1 2, by decide +kernel⟩
  have differs : ∃ c ∈ (storageRefused.device 0).configs, ∃ i ∈ c.interfaces,
      i.authorized ≠ lastAccepted storageRefused.calls (interfaceAddr (storageRefused.device 0) c i) := by
    decide +kernel
  obtain ⟨c, config, i, member, different⟩ := differs
  exact different (recorded.flags 0 attached c config i member)

end UsbManager.Policy
