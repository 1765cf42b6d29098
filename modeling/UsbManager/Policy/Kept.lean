import UsbManager.Lib.Keeps
import UsbManager.Policy.Manage

/-!
# Predicates that the policy operations keep

All policy operations are loops over devices that open and close, ask for the active configuration,
authorise a device, and authorise the interfaces of a configuration. So a predicate that these steps keep
is kept by every operation. `KeptBySteps` says this of a predicate, where a device is authorised only
if `may` allows it; an operation then has to say why its calls are allowed.
-/

namespace UsbManager.Policy

open Host
open Std (ExtTreeMap)

/-! ## The devices of a map -/

theorem State.mem_objects {s : State} {o : Nat} : o ∈ s.objects ↔ s.Attached o := by
  simp [State.objects, State.Attached, ExtTreeMap.mem_toList_iff_getElem?_eq_some]

theorem State.Named.found {s : State} (named : s.Named) {o : Nat} (attached : s.Attached o) :
    s.host.devices[deviceName (s.device o).busNum (s.device o).devAddr]? = some o := by
  obtain ⟨name, found⟩ := attached
  rw [← named name o found]
  exact found

/-- Devices at one address are the same. -/
theorem State.Named.inj {s : State} (named : s.Named) {o o' : Nat} (here : s.Attached o) (there : s.Attached o')
    (busNum : (s.device o).busNum = (s.device o').busNum) (devAddr : (s.device o).devAddr = (s.device o').devAddr) :
    o = o' := by
  have found := named.found here
  rw [busNum, devAddr, named.found there] at found
  exact (Option.some.inj found).symm

theorem State.Named.nodup_objects {s : State} (named : s.Named) : s.objects.Nodup := by
  rw [State.objects, List.Nodup, List.pairwise_map]
  refine (ExtTreeMap.distinct_keys_toList (t := s.host.devices)).imp_of_mem fun {first second} here there distinct => ?_
  intro same
  have one := named _ _ (ExtTreeMap.mem_toList_iff_getElem?_eq_some.1 here)
  have two := named _ _ (ExtTreeMap.mem_toList_iff_getElem?_eq_some.1 there)
  rw [← same, ← one] at two
  exact distinct (Std.LawfulEqCmp.compare_eq_iff_eq.2 two.symm)

/-! ## A device is changed -/

theorem device_setAuthorizeStatus (h : Devices) (object o : Nat) (status : AuthorizeStatus) :
    (h.setAuthorizeStatus object status).heap o =
      { h.heap o with authorizeStatus := if o = object then status else (h.heap o).authorizeStatus } := by
  by_cases same : o = object
  · simp only [Devices.setAuthorizeStatus, same, if_true]
  · simp only [Devices.setAuthorizeStatus, same, if_false]

/-- An event changes no device. -/
theorem publishAuthorized_eq (h : Devices) (object : Nat) (authorized : Bool) (status : AuthorizeStatus) :
    ∃ published, h.publishAuthorized object authorized status = { h with published } := by
  unfold Devices.publishAuthorized
  by_cases new : status ≠ .newArrived
  · rw [if_pos new]
    exact ⟨_, rfl⟩
  · rw [if_neg new]
    exact ⟨h.published, rfl⟩

/-- The driver agreed to a change of a device. -/
def accepted (dev : Nat) (busNum devAddr : UInt8) (authorized : Bool) (s : State) : State :=
  { s with
    host := (s.host.publishAuthorized dev authorized (s.host.status dev)).setAuthorizeStatus dev
      (Devices.authorizedStatus authorized)
    calls := (.usbDeviceAuthorize busNum devAddr authorized, .uecOk) :: s.calls }

theorem device_accepted (dev : Nat) (busNum devAddr : UInt8) (authorized : Bool) (s : State) (o : Nat) :
    (accepted dev busNum devAddr authorized s).device o =
      { s.device o with
        authorizeStatus :=
          if o = dev then Devices.authorizedStatus authorized else (s.device o).authorizeStatus } := by
  obtain ⟨published, same⟩ := publishAuthorized_eq s.host dev authorized (s.host.status dev)
  simp only [State.device, accepted, device_setAuthorizeStatus, same]

theorem accepted_map (dev : Nat) (busNum devAddr : UInt8) (authorized : Bool) (s : State) :
    (accepted dev busNum devAddr authorized s).host.devices = s.host.devices ∧
      (accepted dev busNum devAddr authorized s).host.allocated = s.host.allocated := by
  obtain ⟨published, same⟩ := publishAuthorized_eq s.host dev authorized (s.host.status dev)
  simp only [accepted, Devices.setAuthorizeStatus, same, and_self]

theorem changeDevice_state (env : Env) (dev : Nat) (busNum devAddr : UInt8) (authorized : Bool) (s : State) :
    (changeDevice env dev busNum devAddr authorized s).2 =
      if env.answer s.calls (.usbDeviceAuthorize busNum devAddr authorized) = .uecOk then
        accepted dev busNum devAddr authorized s
      else { s with
        calls := (.usbDeviceAuthorize busNum devAddr authorized,
          env.answer s.calls (.usbDeviceAuthorize busNum devAddr authorized)) :: s.calls } := by
  split_ifs with ok
  · simp only [changeDevice, callHdi, bind, StateT.bind, ok]
    rfl
  · simp only [changeDevice, callHdi, bind, StateT.bind, ok, ne_eq, not_false_eq_true, if_true]
    rfl

/-! ## Steps -/

/-- The call asks for no authorisation. -/
def HdiCall.Neutral : HdiCall → Prop
  | .usbDeviceAuthorize .. | .usbInterfaceAuthorize .. => False
  | _ => True

/-- The answer is the same for interfaces of one type. -/
def ByType (ask : UsbInterface → Option Bool) : Prop :=
  ∀ i j : UsbInterface, i.klass = j.klass → i.subClass = j.subClass → i.protocol = j.protocol → ask i = ask j

structure KeptBySteps (env : Env) (P : State → Prop) (objects : List Nat) (may : UInt8 → UInt8 → Bool → Prop) :
    Prop where
  objects_eq : ∀ s, P s → s.objects = objects
  may_disable : ∀ busNum devAddr, may busNum devAddr false
  callUsbd : ∀ call : HdiCall, call.Neutral → Keeps P (callUsbd env call)
  usbDeviceAuthorize : ∀ busNum devAddr authorized, may busNum devAddr authorized →
    Keeps P (usbDeviceAuthorize env busNum devAddr authorized)
  authorizeActiveConfig : ∀ object ∈ objects, ∀ configIndex ask, ByType ask →
    Keeps P (authorizeActiveConfig env object configIndex ask)

/-- A device is changed only where one is found, and the configuration is only asked for before it is disabled. -/
theorem usbDeviceAuthorize_keeps {env : Env} {P : State → Prop} {busNum devAddr : UInt8} {authorized : Bool}
    (config : authorized = false → ∀ b a, Keeps P (getActiveConfig env b a))
    (change : ∀ s dev, P s → s.host.devices[deviceName busNum devAddr]? = some dev →
      Keeps P (changeDevice env dev busNum devAddr authorized)) :
    Keeps P (usbDeviceAuthorize env busNum devAddr authorized) := by
  refine .get fun s here => .ite (fun _ => .pure _) fun _ => ?_
  split
  · exact .pure _
  · next dev found =>
    have changed := change s dev here found
    exact .ite (fun _ => .pure _) fun _ =>
      .ite (fun disabled => .bind (.discard (config disabled _ _)) fun _ => changed) fun _ => changed

/-! ## The log of calls -/

abbrev Calls := List (HdiCall × UsbErrCode)

/-- The call opens nothing and closes nothing. -/
def HdiCall.Plain : HdiCall → Prop
  | .openDevice .. | .closeDevice .. => False
  | _ => True

section Logged

variable {env : Env} {Q : Calls → Prop} {may : HdiCall → Prop}
  (logs : ∀ calls (call : HdiCall) ret, may call → Q calls → Q ((call, ret) :: calls))

include logs

theorem logged_callHdi {call : HdiCall} (allowed : may call) : Keeps (fun s => Q s.calls) (callHdi env call) :=
  fun _ here => logs _ _ _ allowed here

theorem logged_callUsbd {call : HdiCall} (allowed : may call) : Keeps (fun s => Q s.calls) (callUsbd env call) :=
  .ite (fun _ => logged_callHdi logs allowed) fun _ => .pure _

end Logged

section Plain

variable {env : Env} {Q : Calls → Prop}
  (logs : ∀ calls (call : HdiCall) ret, call.Plain → Q calls → Q ((call, ret) :: calls))

include logs

theorem plain_getActiveConfig (b a : UInt8) : Keeps (fun s => Q s.calls) (getActiveConfig env b a) :=
  .get fun _ _ => .bind (logged_callUsbd logs trivial) fun _ => .pure _

theorem plain_usbDeviceAuthorize (b a : UInt8) (authorized : Bool) :
    Keeps (fun s => Q s.calls) (usbDeviceAuthorize env b a authorized) := by
  refine usbDeviceAuthorize_keeps (fun _ => plain_getActiveConfig logs) fun _ _ _ _ => ?_
  exact .bind (logged_callHdi logs trivial) fun _ => .ite (fun _ => .pure _) fun _ =>
    .bind (.modify fun _ here => here) fun _ => .pure _

theorem plain_authorizeInterfaces (object index : Nat) (dev : UInt8 × UInt8) (configId : UInt8)
    (ask : UsbInterface → Option Bool) (interfaces : List UsbInterface) (position : Nat) :
    Keeps (fun s => Q s.calls) (authorizeInterfaces env object index dev configId ask position interfaces) := by
  induction interfaces generalizing position with
  | nil => exact .pure _
  | cons i rest ih =>
    unfold authorizeInterfaces
    split
    · exact ih _
    · refine .bind (.discard (.ite (fun _ => .pure _) fun _ => .bind (logged_callHdi logs trivial) fun _ => ?_))
        fun _ => .bind (.modify fun _ here => here) fun _ => ih _
      exact .ite (fun _ => logged_callUsbd logs trivial) fun _ => .pure _

theorem plain_authorizeActiveConfig (object : Nat) (configIndex : UInt8) (ask : UsbInterface → Option Bool) :
    Keeps (fun s => Q s.calls) (authorizeActiveConfig env object configIndex ask) := by
  refine .get fun s _ => ?_
  dsimp only
  split
  · exact .pure _
  · exact plain_authorizeInterfaces logs _ _ _ _ _ _ _

end Plain

/-- Where the serial policy manages a device, nobody else does. -/
def Free (env : Env) (P : State → Prop) (objects : List Nat) (may : UInt8 → UInt8 → Bool → Prop) : Prop :=
  ∀ s, P s → ∀ object ∈ objects, isExempt env s object = false →
    ∀ authorized, may (s.device object).busNum (s.device object).devAddr authorized

/-- The devices that `ManageDevice` selects may be authorised. -/
def Selects (P : State → Prop) (objects : List Nat) (may : UInt8 → UInt8 → Bool → Prop) (select : UsbDevice → Prop)
    (authorized : Bool) : Prop :=
  ∀ s, P s → ∀ object ∈ objects, (s.device object).baseClass ≠ baseClassHub → select (s.device object) →
    may (s.device object).busNum (s.device object).devAddr authorized

/-- A trust list authorises the devices in it, or all devices if it is empty. -/
def trusted (trustList : List UsbDeviceId) (d : UsbDevice) : Bool := inTrustList trustList d || trustList.isEmpty

/-- `ExecuteStrategy` enforces this trust list. -/
def Env.Enforces (env : Env) (trustList : List UsbDeviceId) : Prop :=
  ∃ b ret p, getUsbPolicy (env.firstAttempt :: env.laterAttempts) { isPermTypePolicy := b } = some (ret, p) ∧
    ¬ (ret = .uecServiceEdmSaTimeOutFailed ∨ ret = .uecServicePrepareEdmSaFailed) ∧ p.isGlobalDisabled = false ∧
    p.disableType = [] ∧ p.trustUsbDeviceIds ≠ [] ∧ p.trustUsbDeviceIds = trustList

theorem inTrustList_congr {trustList : List UsbDeviceId} {d e : UsbDevice} (vendorId : d.vendorId = e.vendorId)
    (productId : d.productId = e.productId) : inTrustList trustList d = inTrustList trustList e := by
  simp only [inTrustList, vendorId, productId]

namespace KeptBySteps

variable {env : Env} {P : State → Prop} {objects : List Nat} {may : UInt8 → UInt8 → Bool → Prop}
  (kept : KeptBySteps env P objects may)

include kept

theorem openDevice (busNum devAddr : UInt8) : Keeps P (openDevice env busNum devAddr) := kept.callUsbd _ trivial

theorem close (busNum devAddr : UInt8) : Keeps P (close env busNum devAddr) := kept.callUsbd _ trivial

theorem getActiveConfig (busNum devAddr : UInt8) : Keeps P (getActiveConfig env busNum devAddr) :=
  .get fun _ _ => .bind (kept.callUsbd _ trivial) fun _ => .pure _

theorem forDevices {body : Nat → Manager Unit} (each : ∀ object ∈ objects, Keeps P (body object)) :
    Keeps P (forDevices body) := by
  apply Keeps.get
  intro s here
  rw [kept.objects_eq s here]
  exact .forM each

/-! ## Devices -/

theorem manageGlobalInterfaceImpl (free : Free env P objects may) (disable : Bool) :
    Keeps P (manageGlobalInterfaceImpl env disable) := by
  refine .bind (kept.forDevices fun object member => ?_) fun _ => .pure _
  refine .get fun s here => .ite (fun _ => .pure _) fun managed => ?_
  have allowed := free s here object member (by simpa using fun h => managed (.inr h)) (!disable)
  refine .bind (.discard (kept.usbDeviceAuthorize _ _ _ allowed)) fun _ => .ite (fun _ => .pure _) fun _ => ?_
  refine .bind (kept.openDevice _ _) fun _ => .ite (fun _ => .pure _) fun _ => ?_
  refine .bind (kept.getActiveConfig _ _) fun found => .ite (fun _ => .discard (kept.close _ _)) fun _ => ?_
  exact .bind (kept.authorizeActiveConfig object member _ _ fun _ _ _ _ _ => rfl) fun _ => .discard (kept.close _ _)

theorem manageDevices {vendorId productId : Int} {disable : Bool} {some : List Nat}
    (inside : ∀ object ∈ some, object ∈ objects)
    (selects : Selects P objects may (fun d => d.vendorId = vendorId ∧ d.productId = productId) (!disable)) :
    Keeps P (manageDevices env vendorId productId disable some) := by
  induction some with
  | nil => exact .pure _
  | cons object later ih =>
    have rest := ih fun o member => inside o (List.mem_cons_of_mem _ member)
    have member := inside object (List.mem_cons_self ..)
    refine .get fun s here => .ite (fun _ => rest) fun device => .ite (fun ids => ?_) fun _ => rest
    refine .bind (kept.openDevice _ _) fun _ => .ite (fun _ => .pure _) fun _ => ?_
    refine .bind (.discard (kept.usbDeviceAuthorize _ _ _ (selects s here object member device ids))) fun _ => ?_
    exact .bind (.discard (kept.close _ _)) fun _ => rest

theorem manageDeviceImpl {vendorId productId : Int} {disable : Bool}
    (selects : Selects P objects may (fun d => d.vendorId = vendorId ∧ d.productId = productId) (!disable)) :
    Keeps P (manageDeviceImpl env vendorId productId disable) := by
  apply Keeps.get
  intro s here
  rw [kept.objects_eq s here]
  exact kept.manageDevices (fun _ member => member) selects

theorem executeManageDevicePolicy {trustList : List UsbDeviceId}
    (selects : Selects P objects may (fun d => trusted trustList d = true) true) :
    Keeps P (executeManageDevicePolicy env trustList) := by
  apply Keeps.get
  intro s here
  rw [kept.objects_eq s here]
  refine .bind (.foldlM (fun _ object member => .get fun s here => ?_) _) fun _ => .pure _
  apply kept.manageDeviceImpl
  intro s' here' o inside device ids
  cases decided : inTrustList trustList (s.device object) || trustList.isEmpty with
  | false => exact kept.may_disable _ _
  | true =>
    have same : trusted trustList (s'.device o) = true := by
      rw [trusted, inTrustList_congr ids.1 ids.2]
      exact decided
    exact selects s' here' o inside device same

/-! ## Types -/

theorem manageDeviceTypeImpl (free : Free env P objects may) (interfaceType : InterfaceType) (disable : Bool) :
    Keeps P (manageDeviceTypeImpl env interfaceType disable) := by
  unfold Policy.manageDeviceTypeImpl
  split
  · exact .pure _
  refine .bind (kept.forDevices fun object member => ?_) fun _ => .pure _
  refine .get fun s here => .ite (fun _ => .pure _) fun managed => .ite (fun _ => ?_) fun _ => .pure _
  have allowed := free s here object member (by simpa using managed) (!disable)
  refine .bind (kept.openDevice _ _) fun _ => .ite (fun _ => .pure _) fun _ => ?_
  exact .bind (.discard (kept.usbDeviceAuthorize _ _ _ allowed)) fun _ => .discard (kept.close _ _)

theorem manageInterfaceTypeImpl (interfaceType : InterfaceType) (disable : Bool) :
    Keeps P (manageInterfaceTypeImpl env interfaceType disable) := by
  unfold Policy.manageInterfaceTypeImpl
  split
  · exact .pure _
  refine .bind (kept.forDevices fun object member => ?_) fun _ => .pure _
  refine .get fun s here => .ite (fun _ => .pure _) fun _ => ?_
  refine .bind (kept.getActiveConfig _ _) fun found => .ite (fun _ => .pure _) fun _ => ?_
  refine kept.authorizeActiveConfig object member _ _ fun i j klass subClass protocol => ?_
  simp only [klass, subClass, protocol]

theorem executeManageDeviceType (free : Free env P objects may) (disableType : List UsbDeviceType) (disable : Bool)
    (map : List TypeRow) (isDev : Bool) : Keeps P (executeManageDeviceType env disableType disable map isDev) := by
  refine .forM fun row _ => .discard ?_
  cases isDev with
  | true => exact kept.manageDeviceTypeImpl free _ _
  | false => exact kept.manageInterfaceTypeImpl _ _

theorem executeManageInterfaceType (free : Free env P objects may) (disableType : List UsbDeviceType) (disable : Bool) :
    Keeps P (executeManageInterfaceType env disableType disable) := by
  refine .bind (kept.forDevices fun _ _ => .get fun _ _ => .discard (kept.openDevice _ _)) fun _ => ?_
  refine .bind (kept.executeManageDeviceType free _ _ _ _) fun _ => ?_
  refine .bind (kept.executeManageDeviceType free _ _ _ _) fun _ => ?_
  exact .bind (kept.forDevices fun _ _ => .get fun _ _ => .discard (kept.close _ _)) fun _ => .pure _

theorem manageUsbTypeInterface (types : List UsbDeviceType) (disable : Bool) {object : Nat}
    (member : object ∈ objects) : Keeps P (manageUsbTypeInterface env types disable object) := by
  refine .get fun s here => .ite (fun _ => .pure _) fun _ => .bind (.discard (kept.openDevice _ _)) fun _ => ?_
  refine .bind (kept.getActiveConfig _ _) fun found => .ite (fun _ => .discard (kept.close _ _)) fun _ => ?_
  refine .bind (kept.authorizeActiveConfig object member _ _ fun i j klass subClass protocol => ?_)
    fun _ => .discard (kept.close _ _)
  simp only [klass, subClass, protocol]

theorem executeManageUsbType (free : Free env P objects may) (disableType : List UsbDeviceType) (disable : Bool) :
    Keeps P (executeManageUsbType env disableType disable) := by
  refine .bind (kept.forDevices fun object member => ?_) fun _ => kept.forDevices fun object member =>
    kept.manageUsbTypeInterface _ _ member
  refine .get fun s here => .ite (fun _ => .pure _) fun managed => ?_
  have allowed := free s here object member (by simpa using managed)
  exact .ite (fun _ => .discard (kept.usbDeviceAuthorize _ _ _ (allowed _)))
    fun _ => .discard (kept.usbDeviceAuthorize _ _ _ (allowed _))

/-! ## Serial devices and the strategy -/

theorem manageUsbSerialDevices {disable : Bool}
    (listed : ∀ s, P s → ∀ dev ∈ s.serialDevices, may dev.1 dev.2 (!disable)) :
    Keeps P (manageUsbSerialDevices env disable) :=
  .get fun s here => .forM fun dev member => .discard (kept.usbDeviceAuthorize _ _ _ (listed s here dev member))

theorem executePolicy (free : Free env P objects may) {p : UsbPolicy}
    (selects : p.isGlobalDisabled = false → p.disableType = [] → p.trustUsbDeviceIds ≠ [] →
      Selects P objects may (fun d => trusted p.trustUsbDeviceIds d = true) true) : Keeps P (executePolicy env p) := by
  refine .ite (fun _ => .discard (kept.manageGlobalInterfaceImpl free true)) fun global => ?_
  have serial : Keeps P (Policy.manageUsbSerialDevices env true) :=
    kept.manageUsbSerialDevices fun _ _ dev _ => kept.may_disable dev.1 dev.2
  have policy : Keeps P (executeTypesOrTrustList env p) := by
    refine .ite (fun _ => ?_) fun none => .ite (fun _ => .pure _) fun trust => .discard ?_
    · exact .ite (fun _ => kept.executeManageUsbType free _ _) fun _ =>
        .discard (kept.executeManageInterfaceType free _ _)
    · exact kept.executeManageDevicePolicy (selects (by simpa using global) (not_not.1 none) trust)
  exact .ite (fun _ => .bind serial fun _ => policy) fun _ => policy

/-- The strategy keeps what setting the member `isPermTypePolicy_` keeps. -/
theorem executeStrategy (free : Free env P objects may)
    (member : ∀ s b, P s → P { s with isPermTypePolicy := b })
    (selects : ∀ trustList, env.Enforces trustList → Selects P objects may (fun d => trusted trustList d = true) true) :
    Keeps P (executeStrategy env) := by
  refine .ite (fun _ => .pure _) fun _ => .get fun s here => ?_
  split
  · exact .pure _
  · next ret p read =>
    refine .bind (.modify fun s here => member s _ here) fun _ => .ite (fun _ => .pure _) fun success => ?_
    exact kept.executePolicy free fun global types trust =>
      selects _ ⟨_, ret, p, read, success, global, types, trust, rfl⟩

end KeptBySteps

end UsbManager.Policy
