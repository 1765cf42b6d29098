import UsbManager.Policy.TrustList

/-!
# The outcome of a trust list

When the driver agrees to everything, the operation is a sequence of visits, and a device ends as the first
visit left it. This does not depend on the order of the map. A second run finds nothing to change.
-/

namespace UsbManager.Policy

open Host

/-- All calls to the driver succeed. -/
structure Succeeds (env : Env) : Prop where
  usbd : env.usbd = true
  usbDeviceInterface : env.usbDeviceInterface = true
  answer : ∀ calls call, env.answer calls call = .uecOk

/-- The entry of a trust list names the device. -/
def Names (entry : UsbDeviceId) (d : UsbDevice) : Prop := d.vendorId = entry.vendorId ∧ d.productId = entry.productId

theorem trusted_iff (trustList : List UsbDeviceId) (d : UsbDevice) :
    trusted trustList d = true ↔ trustList = [] ∨ ∃ entry ∈ trustList, Names entry d := by
  simp only [trusted, inTrustList, Names, Bool.or_eq_true, List.any_eq_true, Bool.and_eq_true, decide_eq_true_eq,
    List.isEmpty_iff]
  exact or_comm.trans (or_congr_right (exists_congr fun entry => and_congr_right fun _ => and_comm))

theorem untrusted_iff (trustList : List UsbDeviceId) (d : UsbDevice) :
    trusted trustList d = false ↔ trustList ≠ [] ∧ ∀ entry ∈ trustList, ¬ Names entry d := by
  rw [← Bool.not_eq_true, trusted_iff, not_or, not_exists]
  exact and_congr_right fun _ => forall_congr' fun _ => not_and

/-! ## Visits -/

/-- The visits of one call of `ManageDeviceImpl`. -/
def visitsOf (s : State) (objects : List Nat) (vendorId productId : Int) (authorized : Bool) : List (Nat × Bool) :=
  (objects.filter fun o => selects vendorId productId (s.device o)).map fun o => (o, authorized)

def allVisits (s : State) (objects order : List Nat) (trustList : List UsbDeviceId) : List (Nat × Bool) :=
  order.flatMap fun object =>
    visitsOf s objects (s.device object).vendorId (s.device object).productId (trusted trustList (s.device object))

theorem mem_allVisits {s : State} {objects order : List Nat} {trustList : List UsbDeviceId} {visit : Nat × Bool} :
    visit ∈ allVisits s objects order trustList ↔
      visit.1 ∈ objects ∧ visit.2 = trusted trustList (s.device visit.1) ∧
        ∃ object ∈ order, selects (s.device object).vendorId (s.device object).productId (s.device visit.1) = true := by
  simp only [allVisits, visitsOf, List.mem_flatMap, List.mem_map, List.mem_filter]
  constructor
  · rintro ⟨object, member, o, ⟨inside, selected⟩, rfl⟩
    exact ⟨inside, (trusted_of_selects selected trustList).symm, object, member, selected⟩
  · rintro ⟨inside, decision, object, member, selected⟩
    refine ⟨object, member, visit.1, ⟨inside, selected⟩, ?_⟩
    rw [← trusted_of_selects selected trustList, ← decision]

section Run

variable {env : Env} (succeeds : Succeeds env) {s₀ : State} (named : s₀.Named)

include succeeds

theorem Succeeds.openDevice (busNum devAddr : UInt8) (s : State) : (openDevice env busNum devAddr s).1 = .uecOk := by
  rw [Policy.openDevice, callUsbd, if_pos succeeds.usbd]
  exact succeeds.answer _ _

theorem Succeeds.authorizes (d : UsbDevice) (authorized : Bool) : env.Authorizes d authorized :=
  ⟨succeeds.usbDeviceInterface, fun _ => succeeds.answer _ _⟩

include named

theorem Succeeds.manageDevices_host {vendorId productId : Int} {disable : Bool} {objects : List Nat}
    (inside : ∀ o ∈ objects, s₀.Attached o) {s : State} (ruled : Ruled s₀.host s.host) :
    (manageDevices env vendorId productId disable objects s).2.host =
      visitAll s.host (visitsOf s₀ objects vendorId productId (!disable)) := by
  induction objects generalizing s with
  | nil => rfl
  | cons object objects ih =>
    have later : ∀ o ∈ objects, s₀.Attached o := fun o member => inside o (List.mem_cons_of_mem _ member)
    rw [manageDevices_cons, if_pos (succeeds.openDevice ..), ruled.selects_eq]
    by_cases selected : selects vendorId productId (s₀.device object) = true
    · have done : (visited env (s.device object) (!disable) s).host = authorize s.host object (!disable) :=
        ruled.visited_agreed named (inside object (List.mem_cons_self ..)) (succeeds.authorizes _ _)
      have first : visitsOf s₀ (object :: objects) vendorId productId (!disable) =
          (object, !disable) :: visitsOf s₀ objects vendorId productId (!disable) := by
        simp only [visitsOf, List.filter_cons, selected, if_true, List.map_cons]
      rw [if_pos selected, ih later (done ▸ ruled.after_authorize object (!disable)), done, first]
      rfl
    · have first : visitsOf s₀ (object :: objects) vendorId productId (!disable) =
          visitsOf s₀ objects vendorId productId (!disable) := by
        simp only [visitsOf, List.filter_cons, selected, Bool.false_eq_true, if_false]
      rw [if_neg selected, ih later ruled, first]

theorem Succeeds.loop_host {trustList : List UsbDeviceId} {objects : List Nat} (inside : ∀ o ∈ objects, s₀.Attached o)
    (order : List Nat) (ret : UsbErrCode) {s : State} (ruled : Ruled s₀.host s.host) :
    (order.foldlM (fun _ object => manageDeviceFor env objects trustList object) ret s).2.host =
      visitAll s.host (allVisits s₀ objects order trustList) := by
  induction order generalizing ret s with
  | nil => rfl
  | cons object order ih =>
    have first : (manageDeviceFor env objects trustList object s).2.host =
        visitAll s.host (visitsOf s₀ objects (s₀.device object).vendorId (s₀.device object).productId
          (trusted trustList (s₀.device object))) := by
      rw [ruled.manageDeviceFor_eq, succeeds.manageDevices_host named inside ruled, Bool.not_not]
    rw [List.foldlM_cons, stateM_bind, ih _ (first ▸ ruled.after_visitAll _), first]
    exact (List.foldl_append ..).symm

/-- A device that is no hub ends as its first visit left it; nothing else is visited. -/
theorem Succeeds.outcome (trustList : List UsbDeviceId) {order : List Nat} (perm : order.Perm s₀.objects) :
    let h := (executeManageDevicePolicyIn env order trustList s₀).2.host
    Ruled s₀.host h ∧ ∀ o,
      if o ∈ s₀.objects ∧ (s₀.device o).baseClass ≠ baseClassHub then
        h.heap o = { s₀.device o with
          authorizeStatus := settled (trusted trustList (s₀.device o)) (s₀.device o).authorizeStatus } ∧
        h.eventsOf o =
          settledEvent (trusted trustList (s₀.device o)) (s₀.device o).authorizeStatus ++ s₀.host.eventsOf o
      else h.heap o = s₀.device o ∧ h.eventsOf o = s₀.host.eventsOf o := by
  have inside : ∀ o ∈ order, s₀.Attached o := fun o member => State.mem_objects.1 (perm.mem_iff.1 member)
  have host : (executeManageDevicePolicyIn env order trustList s₀).2.host =
      visitAll s₀.host (allVisits s₀ order order trustList) := succeeds.loop_host named inside order .uecOk (.refl _)
  dsimp only
  rw [host]
  refine ⟨(Ruled.refl _).after_visitAll _, fun o => ?_⟩
  split_ifs with enforced
  · obtain ⟨attached, device⟩ := enforced
    have member : o ∈ order := perm.mem_iff.2 attached
    apply visitAll_same
    · exact mem_allVisits.2 ⟨member, rfl, o, member, by simp [selects, device]⟩
    · rintro ⟨o', a⟩ visit rfl
      exact (mem_allVisits.1 visit).2.1
  · apply visitAll_other
    rintro ⟨o', a⟩ visit rfl
    obtain ⟨member, -, object, -, selected⟩ := mem_allVisits.1 visit
    simp only [selects, decide_eq_true_eq] at selected
    exact enforced ⟨perm.mem_iff.1 member, selected.1⟩

end Run

/-! ## Order -/

theorem count_published (h : Devices) (o : Nat) (event : DeviceEvent) :
    h.published.count (o, event) = (h.eventsOf o).count event := by
  rw [Devices.eventsOf]
  induction h.published with
  | nil => rfl
  | cons entry published ih =>
    obtain ⟨o', event'⟩ := entry
    by_cases same : o' = o
    · simp [List.count_cons, same, ih]
    · simp [same, ih]

/-- Published events are the same, in some order, if those of each device are. -/
theorem published_perm {h h' : Devices} (same : ∀ o, h.eventsOf o = h'.eventsOf o) :
    h.published.Perm h'.published := by
  rw [List.perm_iff_count]
  rintro ⟨o, event⟩
  rw [count_published, count_published, same]

/-! ## A second run -/

/-- The driver was asked for no authorisation since. -/
structure Quiet (s₁ s : State) : Prop where
  host : s.host = s₁.host
  calls : ∃ more : List (HdiCall × UsbErrCode), s.calls = more ++ s₁.calls ∧ ∀ entry ∈ more, entry.1.Neutral

theorem Quiet.refl (s : State) : Quiet s s := ⟨rfl, [], rfl, fun _ none => by cases none⟩

theorem quiet_callUsbd (env : Env) {s₁ : State} (call : HdiCall) (neutral : call.Neutral) :
    Keeps (Quiet s₁) (callUsbd env call) := by
  refine .ite (fun _ => ?_) fun _ => .pure _
  rintro s ⟨host, more, calls, none⟩
  refine ⟨host, (call, env.answer s.calls call) :: more, congrArg _ calls, fun entry member => ?_⟩
  rcases List.mem_cons.1 member with rfl | member
  · exact neutral
  · exact none entry member

/-- The decision about the device is carried out. -/
def Settled (s₁ : State) (trustList : List UsbDeviceId) (o : Nat) : Prop :=
  s₁.host.needsChange o (trusted trustList (s₁.device o)) = false

/-- A device that is as it should be is left alone. -/
theorem usbDeviceAuthorize_settled (env : Env) {s : State} {busNum devAddr : UInt8} {dev : Nat}
    (found : s.host.devices[deviceName busNum devAddr]? = some dev) {authorized : Bool}
    (unchanged : s.host.needsChange dev authorized = false) :
    (usbDeviceAuthorize env busNum devAddr authorized s).2 = s := by
  rw [usbDeviceAuthorize, stateM_bind, stateM_get]
  dsimp only
  rw [found]
  dsimp only
  rw [if_pos unchanged, stateM_pure_ite]

section Second

variable {env : Env} {s₁ : State} (named : s₁.Named) {trustList : List UsbDeviceId}

include named

theorem quiet_manageDevices {vendorId productId : Int} {disable : Bool} {objects : List Nat}
    (inside : ∀ o ∈ objects, s₁.Attached o)
    (settled : ∀ o ∈ objects, selects vendorId productId (s₁.device o) = true →
      s₁.host.needsChange o (!disable) = false) :
    Keeps (Quiet s₁) (manageDevices env vendorId productId disable objects) := by
  induction objects with
  | nil => exact .pure _
  | cons object objects ih =>
    have later := ih (fun o member => inside o (List.mem_cons_of_mem _ member))
      fun o member => settled o (List.mem_cons_of_mem _ member)
    intro s quiet
    have device : s.device object = s₁.device object := by rw [State.device, quiet.host, State.device]
    rw [manageDevices_cons, device]
    have opened : Quiet s₁ (openDevice env (s₁.device object).busNum (s₁.device object).devAddr s).2 :=
      quiet_callUsbd env (.openDevice ..) trivial s quiet
    split_ifs with selected
    · apply later
      apply quiet_callUsbd env (.closeDevice ..) trivial
      have found := named.found (inside object (List.mem_cons_self ..))
      rw [← opened.host] at found
      have unchanged := settled object (List.mem_cons_self ..) selected
      rw [← opened.host] at unchanged
      rw [usbDeviceAuthorize_settled env found unchanged]
      exact opened
    · exact opened
    · exact later s quiet

theorem quiet_executeManageDevicePolicyIn {order : List Nat} (inside : ∀ o ∈ order, s₁.Attached o)
    (settled : ∀ o, s₁.Attached o → (s₁.device o).baseClass ≠ baseClassHub → Settled s₁ trustList o) :
    Keeps (Quiet s₁) (executeManageDevicePolicyIn env order trustList) := by
  refine .bind (.foldlM (fun _ object _ => .get fun s quiet => ?_) _) fun _ => .pure _
  apply quiet_manageDevices named inside
  intro o member selected
  have device : s.device object = s₁.device object := by rw [State.device, quiet.host, State.device]
  rw [device] at selected ⊢
  have decision := trusted_of_selects selected trustList
  rw [Bool.not_not, ← decision]
  simp only [selects, decide_eq_true_eq] at selected
  exact settled o (inside o member) selected.1

end Second

/-! ## The outcome -/

/-- The events of a device that moves between enabled and disabled; a newly arrived one has none. -/
def movedEvents : AuthorizeStatus → AuthorizeStatus → List DeviceEvent
  | .enabled, .disabled => [.detached]
  | .disabled, .enabled => [.attached]
  | _, _ => []

theorem settledEvent_eq (authorized : Bool) (status : AuthorizeStatus) :
    settledEvent authorized status = movedEvents status (settled authorized status) := by
  cases authorized <;> cases status <;> rfl

theorem movedEvents_self (status : AuthorizeStatus) : movedEvents status status = [] := by
  cases status <;> rfl

/-- What the operation leaves. -/
structure Outcome (trustList : List UsbDeviceId) (s s' : State) : Prop where
  ruled : Ruled s.host s'.host
  disabled : ∀ o, s.Attached o → (s.device o).baseClass ≠ baseClassHub →
    ((s'.device o).authorizeStatus = .disabled ↔ trustList ≠ [] ∧ ∀ entry ∈ trustList, ¬ Names entry (s.device o))
  kept : ∀ o, s.Attached o → (s.device o).baseClass ≠ baseClassHub →
    (trustList = [] ∨ ∃ entry ∈ trustList, Names entry (s.device o)) → (s.device o).authorizeStatus ≠ .disabled →
      (s'.device o).authorizeStatus = (s.device o).authorizeStatus
  enabled : ∀ o, s.Attached o → (s.device o).baseClass ≠ baseClassHub →
    (trustList = [] ∨ ∃ entry ∈ trustList, Names entry (s.device o)) → (s.device o).authorizeStatus = .disabled →
      (s'.device o).authorizeStatus = .enabled
  hubs : ∀ o, s.Attached o → (s.device o).baseClass = baseClassHub → s'.device o = s.device o
  events : ∀ o, s'.host.eventsOf o =
    movedEvents (s.device o).authorizeStatus (s'.device o).authorizeStatus ++ s.host.eventsOf o

theorem Ruled.named {s s' : State} (ruled : Ruled s.host s'.host) (named : s.Named) : s'.Named := by
  intro name o found
  obtain ⟨busNum, devAddr⟩ := ruled.address (o := o)
  rw [busNum, devAddr]
  rw [ruled.devices] at found
  exact named name o found

theorem settled_disabled_iff (authorized : Bool) (status : AuthorizeStatus) :
    settled authorized status = .disabled ↔ authorized = false := by
  cases authorized <;> cases status <;> simp [settled]

/-- Nothing has to be changed if a device is disabled just when it is not authorised. -/
theorem needsChange_eq_false {h : Devices} {o : Nat} {authorized : Bool} :
    h.needsChange o authorized = false ↔ (h.status o = .disabled ↔ authorized = false) := by
  cases authorized <;> simp [Devices.needsChange]

section Outcome

variable {env : Env} (succeeds : Succeeds env) {s : State} (named : s.Named) (trustList : List UsbDeviceId)
  {order : List Nat} (perm : order.Perm s.objects)

include succeeds named perm

theorem Succeeds.outcome_of : Outcome trustList s (executeManageDevicePolicyIn env order trustList s).2 := by
  obtain ⟨ruled, each⟩ := succeeds.outcome named trustList perm
  let s' : State := (executeManageDevicePolicyIn env order trustList s).2
  change Ruled s.host s'.host at ruled
  have status : ∀ o, s.Attached o → (s.device o).baseClass ≠ baseClassHub →
      (s'.device o).authorizeStatus = settled (trusted trustList (s.device o)) (s.device o).authorizeStatus := by
    intro o attached device
    have done := each o
    rw [if_pos ⟨State.mem_objects.2 attached, device⟩] at done
    exact congrArg UsbDevice.authorizeStatus done.1
  refine ⟨ruled, fun o attached device => ?_, fun o attached device allowed before => ?_,
    fun o attached device allowed before => ?_, fun o attached hub => ?_, fun o => ?_⟩
  · rw [status o attached device, settled_disabled_iff, untrusted_iff]
  · rw [status o attached device, (trusted_iff trustList (s.device o)).2 allowed]
    cases known : (s.device o).authorizeStatus with
    | disabled => exact absurd known before
    | enabled => rfl
    | newArrived => rfl
  · rw [status o attached device, (trusted_iff trustList (s.device o)).2 allowed, before]
    rfl
  · have done := each o
    rw [if_neg fun both => both.2 hub] at done
    exact done.1
  · have done := each o
    split_ifs at done with enforced
    · rw [status o (State.mem_objects.1 enforced.1) enforced.2, ← settledEvent_eq]
      exact done.2
    · have same : (s'.device o).authorizeStatus = (s.device o).authorizeStatus :=
        congrArg UsbDevice.authorizeStatus done.1
      rw [same, movedEvents_self]
      exact done.2

/-- The devices and their events are those of the order in which the model traverses the map. -/
theorem Succeeds.any_order :
    (executeManageDevicePolicyIn env order trustList s).2.host.heap =
        (executeManageDevicePolicy env trustList s).2.host.heap ∧
      (executeManageDevicePolicyIn env order trustList s).2.host.published.Perm
        (executeManageDevicePolicy env trustList s).2.host.published := by
  have first := (succeeds.outcome named trustList perm).2
  have second := (succeeds.outcome named trustList (List.Perm.refl s.objects)).2
  rw [executeManageDevicePolicy_eq _ named]
  constructor
  · funext o
    have one := first o
    have two := second o
    split_ifs at one two
    · exact one.1.trans two.1.symm
    · exact one.1.trans two.1.symm
  · refine published_perm fun o => ?_
    have one := first o
    have two := second o
    split_ifs at one two
    · exact one.2.trans two.2.symm
    · exact one.2.trans two.2.symm

end Outcome

/-- With a driver that agrees, a trust list disables exactly the devices that it does not name, in whatever order the
map is traversed, with one event for each device that moves; and a second run with it does nothing more. -/
theorem trust_list_outcome {s : State} (named : s.Named) {env : Env} (succeeds : Succeeds env)
    (trustList : List UsbDeviceId) :
    let s' := (executeManageDevicePolicy env trustList s).2
    Outcome trustList s s' ∧
      (executeManageDevicePolicy env trustList s = executeManageDevicePolicyIn env s.objects trustList s ∧
        ∀ order, order.Perm s.objects →
          (executeManageDevicePolicyIn env order trustList s).2.host.heap = s'.host.heap ∧
          (executeManageDevicePolicyIn env order trustList s).2.host.published.Perm s'.host.published) ∧
      ∀ env', Quiet s' (executeManageDevicePolicy env' trustList s').2 := by
  intro s'
  have order := executeManageDevicePolicy_eq env named trustList
  have outcome : Outcome trustList s s' := by
    have out := succeeds.outcome_of named trustList (List.Perm.refl s.objects)
    rw [← order] at out
    exact out
  refine ⟨outcome, ⟨order, fun order perm => succeeds.any_order named trustList perm⟩, fun env' => ?_⟩
  have named' : s'.Named := outcome.ruled.named named
  rw [executeManageDevicePolicy_eq _ named']
  refine quiet_executeManageDevicePolicyIn named' (fun o => State.mem_objects.1) (fun o attached device => ?_) s'
    (.refl s')
  have static : s'.device o = { s.device o with authorizeStatus := (s'.device o).authorizeStatus } :=
    outcome.ruled.static o
  have attached' : s.Attached o := by
    obtain ⟨name, found⟩ := attached
    exact ⟨name, outcome.ruled.devices ▸ found⟩
  rw [static] at device
  rw [Settled, outcome.ruled.trusted_eq, needsChange_eq_false, untrusted_iff]
  exact outcome.disabled o attached' device

/-- A keyboard that has just arrived, another one, and a storage device that was disabled. -/
theorem trust_list_outcome_storage :
    let s := threeAttached fun o => if o = 0 then .newArrived else if o = 1 then .enabled else .disabled
    let s' := (executeManageDevicePolicy (refusing []) [storageId] s).2
    Outcome [storageId] s s' ∧
      s'.objects.map (fun o => (s'.device o).authorizeStatus) = [.disabled, .disabled, .enabled] ∧
      s'.host.published = [(2, .attached), (1, .detached)] := by
  have succeeds : Succeeds (refusing []) := ⟨rfl, rfl, fun _ _ => rfl⟩
  exact ⟨(trust_list_outcome (threeAttached_named _) succeeds [storageId]).1, by decide +kernel, by decide +kernel⟩

end UsbManager.Policy
