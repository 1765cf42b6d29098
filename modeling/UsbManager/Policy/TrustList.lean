import UsbManager.Policy.Kept

/-!
# Trust lists

`ExecuteManageDevicePolicy` calls `ManageDeviceImpl` once for each device, and this visits all devices with
the vendor and the product of that device. So a device is visited once for each device with its ids,
and always with the same decision. A visit that is repeated has nothing left to change: what
the operation does to a device can be read off one visit.
-/

namespace UsbManager.Policy

open Host
open Std (ExtTreeMap)

/-! ## A visit -/

/-- The status of a device after the driver agreed to what it was asked, if it had to be asked. -/
def settled : Bool → AuthorizeStatus → AuthorizeStatus
  | false, _ => .disabled
  | true, .disabled => .enabled
  | true, status => status

/-- The event of this change. -/
def settledEvent : Bool → AuthorizeStatus → List DeviceEvent
  | false, .enabled => [.detached]
  | true, .disabled => [.attached]
  | _, _ => []

theorem settled_settled (authorized : Bool) (status : AuthorizeStatus) :
    settled authorized (settled authorized status) = settled authorized status := by
  cases authorized <;> cases status <;> rfl

theorem settledEvent_settled (authorized : Bool) (status : AuthorizeStatus) :
    settledEvent authorized (settled authorized status) = [] := by
  cases authorized <;> cases status <;> rfl

/-- What `UsbDeviceAuthorize` does to the devices if the driver agrees. -/
def authorize (h : Devices) (object : Nat) (authorized : Bool) : Devices :=
  if h.needsChange object authorized = false then h
  else (h.publishAuthorized object authorized (h.status object)).setAuthorizeStatus object
    (Devices.authorizedStatus authorized)

theorem authorize_heap (h : Devices) (object o : Nat) (authorized : Bool) :
    (authorize h object authorized).heap o =
      if o = object then { h.heap o with authorizeStatus := settled authorized (h.heap o).authorizeStatus }
      else h.heap o := by
  unfold authorize
  split_ifs with unchanged same same
  · have kept : settled authorized (h.heap o).authorizeStatus = (h.heap o).authorizeStatus := by
      rw [same]
      cases authorized <;> cases status : (h.heap object).authorizeStatus <;>
        simp_all [Devices.needsChange, Devices.status, settled]
    rw [kept]
  · rfl
  · obtain ⟨published, host⟩ := publishAuthorized_eq h object authorized (h.status object)
    have kept : settled authorized (h.heap o).authorizeStatus = Devices.authorizedStatus authorized := by
      rw [same]
      cases authorized <;> cases status : (h.heap object).authorizeStatus <;>
        simp_all [Devices.needsChange, Devices.status, settled, Devices.authorizedStatus]
    rw [device_setAuthorizeStatus, host, kept, if_pos same]
  · obtain ⟨published, host⟩ := publishAuthorized_eq h object authorized (h.status object)
    rw [device_setAuthorizeStatus, host, if_neg same]

theorem authorize_devices (h : Devices) (object : Nat) (authorized : Bool) :
    (authorize h object authorized).devices = h.devices := by
  unfold authorize
  split_ifs
  · rfl
  · obtain ⟨published, host⟩ := publishAuthorized_eq h object authorized (h.status object)
    rw [host]
    rfl

theorem eventsOf_authorize (h : Devices) (object o : Nat) (authorized : Bool) :
    (authorize h object authorized).eventsOf o =
      if o = object then settledEvent authorized (h.heap o).authorizeStatus ++ h.eventsOf o else h.eventsOf o := by
  by_cases same : o = object
  · rw [if_pos same, same]
    cases authorized <;> cases status : (h.heap object).authorizeStatus <;>
      simp [authorize, Devices.needsChange, Devices.status, settledEvent, status, Devices.eventsOf,
        Devices.publishAuthorized, Devices.publishCommonEvent, Devices.setAuthorizeStatus]
  · have other : object ≠ o := Ne.symm same
    rw [if_neg same]
    unfold authorize Devices.publishAuthorized
    split_ifs <;> simp [Devices.eventsOf, Devices.publishCommonEvent, Devices.setAuthorizeStatus, other]

/-- Only statuses have changed, and events were published. -/
structure Ruled (h₀ h : Devices) : Prop where
  devices : h.devices = h₀.devices
  static : ∀ o, h.heap o = { h₀.heap o with authorizeStatus := (h.heap o).authorizeStatus }

theorem Ruled.refl (h : Devices) : Ruled h h := ⟨rfl, fun _ => rfl⟩

theorem Ruled.after_authorize {h₀ h : Devices} (ruled : Ruled h₀ h) (object : Nat) (authorized : Bool) :
    Ruled h₀ (authorize h object authorized) := by
  refine ⟨(authorize_devices ..).trans ruled.devices, fun o => ?_⟩
  rw [authorize_heap]
  split_ifs
  · rw [ruled.static o]
  · exact ruled.static o

/-! ### Visits one after another -/

/-- The devices after these visits, each with the decision to authorise. -/
def visitAll (h : Devices) (visits : List (Nat × Bool)) : Devices :=
  visits.foldl (fun h visit => authorize h visit.1 visit.2) h

theorem Ruled.after_visitAll {h₀ h : Devices} (ruled : Ruled h₀ h) (visits : List (Nat × Bool)) :
    Ruled h₀ (visitAll h visits) := by
  induction visits generalizing h with
  | nil => exact ruled
  | cons visit visits ih => exact ih (ruled.after_authorize visit.1 visit.2)

section Visits

variable {o : Nat} {visits : List (Nat × Bool)}

theorem visitAll_other (h : Devices) (never : ∀ visit ∈ visits, visit.1 ≠ o) :
    (visitAll h visits).heap o = h.heap o ∧ (visitAll h visits).eventsOf o = h.eventsOf o := by
  induction visits generalizing h with
  | nil => exact ⟨rfl, rfl⟩
  | cons visit visits ih =>
    have other : o ≠ visit.1 := Ne.symm (never visit (List.mem_cons_self ..))
    obtain ⟨device, events⟩ := ih (authorize h visit.1 visit.2) fun v member => never v (List.mem_cons_of_mem _ member)
    rw [authorize_heap, if_neg other] at device
    rw [eventsOf_authorize, if_neg other] at events
    exact ⟨device, events⟩

/-- Visits with one decision do as much as the first of them. -/
theorem visitAll_same (h : Devices) {authorized : Bool} (visited : (o, authorized) ∈ visits)
    (same : ∀ visit ∈ visits, visit.1 = o → visit.2 = authorized) :
    (visitAll h visits).heap o =
        { h.heap o with authorizeStatus := settled authorized (h.heap o).authorizeStatus } ∧
      (visitAll h visits).eventsOf o = settledEvent authorized (h.heap o).authorizeStatus ++ h.eventsOf o := by
  induction visits generalizing h with
  | nil => cases visited
  | cons visit visits ih =>
    have later : ∀ v ∈ visits, v.1 = o → v.2 = authorized := fun v member => same v (List.mem_cons_of_mem _ member)
    let mid := authorize h visit.1 visit.2
    change (visitAll mid visits).heap o = _ ∧ (visitAll mid visits).eventsOf o = _
    by_cases here : visit.1 = o
    · have decision : visit.2 = authorized := same visit (List.mem_cons_self ..) here
      have device : mid.heap o =
          { h.heap o with authorizeStatus := settled authorized (h.heap o).authorizeStatus } := by
        rw [authorize_heap, if_pos here.symm, decision]
      have events : mid.eventsOf o = settledEvent authorized (h.heap o).authorizeStatus ++ h.eventsOf o := by
        rw [eventsOf_authorize, if_pos here.symm, decision]
      by_cases again : (o, authorized) ∈ visits
      · obtain ⟨device', events'⟩ := ih mid again later
        rw [device', events', device, events, settled_settled, settledEvent_settled]
        exact ⟨rfl, rfl⟩
      · have never : ∀ v ∈ visits, v.1 ≠ o := by
          rintro ⟨o', a⟩ member rfl
          exact again (later _ member rfl ▸ member)
        obtain ⟨device', events'⟩ := visitAll_other mid never
        exact ⟨device'.trans device, events'.trans events⟩
    · have rest : (o, authorized) ∈ visits := by
        rcases List.mem_cons.1 visited with first | rest
        · exact absurd (congrArg Prod.fst first).symm here
        · exact rest
      obtain ⟨device, events⟩ := ih mid rest later
      rw [authorize_heap, if_neg (Ne.symm here)] at device
      rw [eventsOf_authorize, if_neg (Ne.symm here), authorize_heap, if_neg (Ne.symm here)] at events
      exact ⟨device, events⟩

end Visits

/-! ## The loop over the devices -/

section Loop

variable {env : Env}

theorem callUsbd_host (call : HdiCall) (s : State) : (callUsbd env call s).2.host = s.host := by
  unfold callUsbd
  split_ifs <;> rfl

variable (env) in
theorem changeDevice_host (dev : Nat) (busNum devAddr : UInt8) (authorized : Bool) (s : State)
    (change : s.host.needsChange dev authorized ≠ false) :
    (changeDevice env dev busNum devAddr authorized s).2.host =
      if env.answer s.calls (.usbDeviceAuthorize busNum devAddr authorized) = .uecOk then
        authorize s.host dev authorized
      else s.host := by
  rw [changeDevice_state, authorize, if_neg change]
  split_ifs <;> rfl

variable (env) in
/-- What becomes of the devices depends on one answer of the driver, at some time. -/
theorem usbDeviceAuthorize_host {s : State} {busNum devAddr : UInt8} {dev : Nat}
    (found : s.host.devices[deviceName busNum devAddr]? = some dev) (authorized : Bool) :
    ∃ calls, (usbDeviceAuthorize env busNum devAddr authorized s).2.host =
      if env.usbDeviceInterface = true ∧
        env.answer calls (.usbDeviceAuthorize busNum devAddr authorized) = .uecOk then authorize s.host dev authorized
      else s.host := by
  rw [usbDeviceAuthorize, stateM_bind, stateM_get]
  dsimp only
  rw [found]
  by_cases missing : env.usbDeviceInterface = false
  · refine ⟨[], ?_⟩
    simp only [missing, if_true, Bool.false_eq_true, false_and, if_false]
    rfl
  rw [if_neg missing]
  dsimp only
  by_cases unchanged : s.host.needsChange dev authorized = false
  · refine ⟨[], ?_⟩
    rw [if_pos unchanged, authorize, if_pos unchanged, ite_self]
    rfl
  rw [if_neg unchanged]
  rw [Bool.not_eq_false] at missing
  simp only [missing, true_and]
  cases authorized with
  | true => exact ⟨s.calls, changeDevice_host env dev busNum devAddr true s unchanged⟩
  | false =>
    let asked : State := (getActiveConfig env (s.device dev).busNum (s.device dev).devAddr s).2
    have same : asked.host = s.host := callUsbd_host ..
    refine ⟨asked.calls, ?_⟩
    have done := changeDevice_host env dev busNum devAddr false asked (same.symm ▸ unchanged)
    rw [same] at done
    exact done

/-- `ManageDeviceImpl` selects the device. -/
def selects (vendorId productId : Int) (d : UsbDevice) : Bool :=
  d.baseClass ≠ baseClassHub ∧ d.vendorId = vendorId ∧ d.productId = productId

/-- The state after a visit of a device at this address, which could be opened. -/
def visited (env : Env) (d : UsbDevice) (authorized : Bool) (s : State) : State :=
  (close env d.busNum d.devAddr
    (usbDeviceAuthorize env d.busNum d.devAddr authorized (openDevice env d.busNum d.devAddr s).2).2).2

theorem manageDevices_cons (vendorId productId : Int) (disable : Bool) (object : Nat) (objects : List Nat) (s : State) :
    manageDevices env vendorId productId disable (object :: objects) s =
      if selects vendorId productId (s.device object) = true then
        if (openDevice env (s.device object).busNum (s.device object).devAddr s).1 = .uecOk then
          manageDevices env vendorId productId disable objects (visited env (s.device object) (!disable) s)
        else openDevice env (s.device object).busNum (s.device object).devAddr s
      else manageDevices env vendorId productId disable objects s := by
  rw [manageDevices, stateM_bind, stateM_get]
  dsimp only
  by_cases hub : (s.device object).baseClass = baseClassHub
  · simp [selects, hub]
  by_cases ids : (s.device object).vendorId = vendorId ∧ (s.device object).productId = productId
  · have selected : selects vendorId productId (s.device object) = true := by simp [selects, hub, ids]
    rw [if_neg hub, if_pos ids, if_pos selected, stateM_bind]
    by_cases opened : (openDevice env (s.device object).busNum (s.device object).devAddr s).1 = .uecOk
    · rw [if_pos opened, if_neg (not_not.2 opened)]
      rfl
    · rw [if_neg opened, if_pos opened]
      rfl
  · have unselected : selects vendorId productId (s.device object) ≠ true := by simp [selects, ids]
    rw [if_neg hub, if_neg ids, if_neg unselected]

/-- The driver may agree to authorise, or to disable, the device at this address. -/
def Env.MayAuthorize (env : Env) (d : UsbDevice) (authorized : Bool) : Prop :=
  env.usbDeviceInterface = true ∧ ∃ calls, env.answer calls (.usbDeviceAuthorize d.busNum d.devAddr authorized) = .uecOk

/-- The driver agrees at any time. -/
def Env.Authorizes (env : Env) (d : UsbDevice) (authorized : Bool) : Prop :=
  env.usbDeviceInterface = true ∧ ∀ calls, env.answer calls (.usbDeviceAuthorize d.busNum d.devAddr authorized) = .uecOk

variable {s₀ s : State} (named : s₀.Named) (ruled : Ruled s₀.host s.host) {o : Nat}

include ruled

theorem Ruled.address : (s.device o).busNum = (s₀.device o).busNum ∧ (s.device o).devAddr = (s₀.device o).devAddr := by
  have static : s.device o = { s₀.device o with authorizeStatus := (s.device o).authorizeStatus } := ruled.static o
  rw [static]
  exact ⟨rfl, rfl⟩

theorem Ruled.selects_eq (vendorId productId : Int) :
    selects vendorId productId (s.device o) = selects vendorId productId (s₀.device o) := by
  have static : s.device o = { s₀.device o with authorizeStatus := (s.device o).authorizeStatus } := ruled.static o
  rw [static]
  rfl

theorem Ruled.trusted_eq (trustList : List UsbDeviceId) :
    trusted trustList (s.device o) = trusted trustList (s₀.device o) := by
  have static : s.device o = { s₀.device o with authorizeStatus := (s.device o).authorizeStatus } := ruled.static o
  rw [static]
  rfl

include named

variable (env) in
theorem Ruled.visited_host (attached : s₀.Attached o) (authorized : Bool) :
    ∃ calls, (visited env (s.device o) authorized s).host =
      if env.usbDeviceInterface = true ∧ env.answer calls
          (.usbDeviceAuthorize (s₀.device o).busNum (s₀.device o).devAddr authorized) = .uecOk then
        authorize s.host o authorized
      else s.host := by
  let opened : State := (openDevice env (s.device o).busNum (s.device o).devAddr s).2
  have same : opened.host = s.host := callUsbd_host ..
  obtain ⟨busNum, devAddr⟩ := ruled.address (o := o)
  have found : opened.host.devices[deviceName (s.device o).busNum (s.device o).devAddr]? = some o := by
    rw [same, ruled.devices, busNum, devAddr]
    exact named.found attached
  obtain ⟨calls, done⟩ := usbDeviceAuthorize_host env found authorized
  refine ⟨calls, ?_⟩
  have closed : (visited env (s.device o) authorized s).host =
      (usbDeviceAuthorize env (s.device o).busNum (s.device o).devAddr authorized opened).2.host := callUsbd_host ..
  rw [closed, done, same, busNum, devAddr]

theorem Ruled.visited_agreed (attached : s₀.Attached o) {authorized : Bool}
    (agrees : env.Authorizes (s₀.device o) authorized) :
    (visited env (s.device o) authorized s).host = authorize s.host o authorized := by
  obtain ⟨calls, done⟩ := ruled.visited_host env named attached authorized
  rw [done, if_pos ⟨agrees.1, agrees.2 calls⟩]

variable (env) in
/-- A visit changes nothing if the driver does not agree. -/
theorem Ruled.visited_cases (attached : s₀.Attached o) (authorized : Bool) :
    (visited env (s.device o) authorized s).host = s.host ∨
      env.MayAuthorize (s₀.device o) authorized ∧
        (visited env (s.device o) authorized s).host = authorize s.host o authorized := by
  obtain ⟨calls, done⟩ := ruled.visited_host env named attached authorized
  split_ifs at done with agreed
  · exact .inr ⟨⟨agreed.1, calls, agreed.2⟩, done⟩
  · exact .inl done

theorem Ruled.after_visited (attached : s₀.Attached o) (authorized : Bool) :
    Ruled s₀.host (visited env (s.device o) authorized s).host := by
  rcases ruled.visited_cases env named attached authorized with same | ⟨-, done⟩
  · rw [same]
    exact ruled
  · rw [done]
    exact ruled.after_authorize o authorized

omit ruled in
/-- What visits of the selected devices keep is kept by the loop over the devices, up to where it is kept anyway. -/
theorem manageDevices_keeps_append {Q : Devices → Prop} {vendorId productId : Int} {disable : Bool}
    {objects : List Nat} (rest : List Nat) (inside : ∀ o ∈ objects, s₀.Attached o)
    (visit : ∀ o ∈ objects, selects vendorId productId (s₀.device o) = true →
      env.MayAuthorize (s₀.device o) (!disable) → ∀ h, Ruled s₀.host h → Q h → Q (authorize h o (!disable)))
    (others : Keeps (fun s => Ruled s₀.host s.host ∧ Q s.host) (manageDevices env vendorId productId disable rest)) :
    Keeps (fun s => Ruled s₀.host s.host ∧ Q s.host)
      (manageDevices env vendorId productId disable (objects ++ rest)) := by
  induction objects with
  | nil => exact others
  | cons object objects ih =>
    have later := ih (fun o member => inside o (List.mem_cons_of_mem _ member))
      fun o member => visit o (List.mem_cons_of_mem _ member)
    rintro s ⟨ruled, here⟩
    rw [List.cons_append, manageDevices_cons]
    split_ifs with selected opened
    · apply later
      have attached := inside object (List.mem_cons_self ..)
      rcases ruled.visited_cases env named attached (!disable) with same | ⟨may, done⟩
      · rw [same]
        exact ⟨ruled, here⟩
      · rw [ruled.selects_eq] at selected
        rw [done]
        exact ⟨ruled.after_authorize object (!disable),
          visit object (List.mem_cons_self ..) selected may s.host ruled here⟩
    · rw [openDevice, callUsbd_host]
      exact ⟨ruled, here⟩
    · exact later s ⟨ruled, here⟩

omit ruled in
theorem manageDevices_keeps {Q : Devices → Prop} {vendorId productId : Int} {disable : Bool} {objects : List Nat}
    (inside : ∀ o ∈ objects, s₀.Attached o)
    (visit : ∀ o ∈ objects, selects vendorId productId (s₀.device o) = true →
      env.MayAuthorize (s₀.device o) (!disable) → ∀ h, Ruled s₀.host h → Q h → Q (authorize h o (!disable))) :
    Keeps (fun s => Ruled s₀.host s.host ∧ Q s.host) (manageDevices env vendorId productId disable objects) := by
  have all := manageDevices_keeps_append named [] inside visit (.pure _)
  rwa [List.append_nil] at all

end Loop

/-! ## The operation -/

/-- A call selects devices about which the decision is the same. -/
theorem trusted_of_selects {d e : UsbDevice} (selected : selects d.vendorId d.productId e = true)
    (trustList : List UsbDeviceId) : trusted trustList e = trusted trustList d := by
  simp only [selects, decide_eq_true_eq] at selected
  rw [trusted, inTrustList_congr selected.2.1 selected.2.2, trusted]

/-- `ExecuteManageDevicePolicy` for one of the devices, on a map with these objects. -/
def manageDeviceFor (env : Env) (objects : List Nat) (trustList : List UsbDeviceId) (object : Nat) :
    Manager UsbErrCode := do
  let s ← get
  let d := s.device object
  manageDevices env d.vendorId d.productId (!trusted trustList d) objects

/-- The operation on a map that is traversed in this order. -/
def executeManageDevicePolicyIn (env : Env) (order : List Nat) (trustList : List UsbDeviceId) :
    Manager UsbErrCode := do
  let ret ← order.foldlM (fun _ object => manageDeviceFor env order trustList object) .uecOk
  pure (if ret ≠ .uecOk then .uecServiceExecutePolicyFailed else .uecOk)

theorem Ruled.manageDeviceFor_eq {s₀ s : State} (ruled : Ruled s₀.host s.host) (env : Env) (objects : List Nat)
    (trustList : List UsbDeviceId) (object : Nat) :
    manageDeviceFor env objects trustList object s =
      manageDevices env (s₀.device object).vendorId (s₀.device object).productId
        (!trusted trustList (s₀.device object)) objects s := by
  have static : s.device object =
      { s₀.device object with authorizeStatus := (s.device object).authorizeStatus } := ruled.static object
  rw [manageDeviceFor, stateM_bind, stateM_get]
  dsimp only
  rw [ruled.trusted_eq, static]

section Operation

variable {env : Env} {s₀ : State} (named : s₀.Named)

include named

theorem manageDeviceFor_keeps {Q : Devices → Prop} {objects : List Nat} {trustList : List UsbDeviceId} {object : Nat}
    (inside : ∀ o ∈ objects, s₀.Attached o)
    (visit : ∀ o ∈ objects, selects (s₀.device object).vendorId (s₀.device object).productId (s₀.device o) = true →
      env.MayAuthorize (s₀.device o) (trusted trustList (s₀.device object)) →
      ∀ h, Ruled s₀.host h → Q h → Q (authorize h o (trusted trustList (s₀.device object)))) :
    Keeps (fun s => Ruled s₀.host s.host ∧ Q s.host) (manageDeviceFor env objects trustList object) := by
  intro s here
  rw [here.1.manageDeviceFor_eq]
  refine manageDevices_keeps named inside ?_ s here
  rw [Bool.not_not]
  exact visit

variable (env) in
/-- The order in which the model traverses the map is one of the orders. -/
theorem executeManageDevicePolicy_eq (trustList : List UsbDeviceId) :
    executeManageDevicePolicy env trustList s₀ = executeManageDevicePolicyIn env s₀.objects trustList s₀ := by
  have inside : ∀ o ∈ s₀.objects, s₀.Attached o := fun _ => State.mem_objects.1
  rw [executeManageDevicePolicy, executeManageDevicePolicyIn, stateM_bind, stateM_bind, stateM_get, stateM_bind]
  dsimp only
  rw [Keeps.foldlM_congr (P := fun s : State => Ruled s₀.host s.host ∧ True)
    (g := fun (_ : UsbErrCode) object => manageDeviceFor env s₀.objects trustList object) ?kept ?same UsbErrCode.uecOk
    ⟨.refl s₀.host, trivial⟩]
  case kept =>
    intro _ object _
    exact manageDeviceFor_keeps (Q := fun _ => True) named inside fun _ _ _ _ _ _ _ => trivial
  case same =>
    intro _ object _ s here
    have objects : s.objects = s₀.objects := by rw [State.objects, here.1.devices, State.objects]
    rw [← objects]
    rfl

end Operation

/-! ### Two keyboards and a storage device -/

/-- A driver that refuses these calls, and an absent device manager. -/
def refusing (refused : List HdiCall) : Env where
  answer _ call := if call ∈ refused then .hdfFailure else .uecOk
  firstAttempt := ({ remote := false, sendRequest := fun _ => (.hdfFailure, []) }, 0)

/-- Two keyboards of one kind and a storage device. -/
def threeAttached (statuses : Nat → AuthorizeStatus) : State where
  host := {
    devices :=
      (((∅ : ExtTreeMap String Nat).insert (deviceName 1 0) 0).insert (deviceName 1 1) 1).insert (deviceName 1 2) 2
    heap := fun o => {
      busNum := 1
      devAddr := .ofNat o
      vendorId := 0x1234
      productId := if o = 2 then 2 else 1
      baseClass := 0
      authorizeStatus := statuses o }
    allocated := 3 }

theorem threeAttached_found {statuses : Nat → AuthorizeStatus} {name : String} {o : Nat}
    (found : (threeAttached statuses).host.devices[name]? = some o) : name = deviceName 1 (.ofNat o) ∧ o ≤ 2 := by
  simp only [threeAttached, ExtTreeMap.getElem?_insert, Std.LawfulEqCmp.compare_eq_iff_eq] at found
  split_ifs at found with third second first
  · cases found
    exact ⟨third.symm, by decide⟩
  · cases found
    exact ⟨second.symm, by decide⟩
  · cases found
    exact ⟨first.symm, by decide⟩
  · simp at found

theorem threeAttached_named (statuses : Nat → AuthorizeStatus) : (threeAttached statuses).Named :=
  fun _ _ found => (threeAttached_found found).1

/-- The storage device is trusted. -/
def storageId : UsbDeviceId := { vendorId := 0x1234, productId := 2 }

end UsbManager.Policy
