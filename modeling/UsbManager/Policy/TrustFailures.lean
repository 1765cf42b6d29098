import UsbManager.Policy.TrustList

/-!
# Trust lists and a driver that fails

`ManageDeviceImpl` ends at the first device that cannot be opened, so that the devices after it with the same
ids are not visited. It returns success when the driver refused to disable a device, and of its results
the operation keeps only that for the last device of the map.
-/

namespace UsbManager.Policy

open Host

/-! ## What the driver may do -/

/-- The device can be opened at any time. -/
def Env.Opens (env : Env) (d : UsbDevice) : Prop :=
  env.usbd = true ∧ ∀ calls, env.answer calls (.openDevice d.busNum d.devAddr) = .uecOk

/-- The device can be opened at some time. -/
def Env.MayOpen (env : Env) (d : UsbDevice) : Prop :=
  env.usbd = true ∧ ∃ calls, env.answer calls (.openDevice d.busNum d.devAddr) = .uecOk

/-- Each call has one result, whenever it is made. -/
def Env.OneResult (env : Env) : Prop := ∀ calls calls' call, env.answer calls call = env.answer calls' call

theorem Env.OneResult.opens {env : Env} (one : env.OneResult) {d : UsbDevice} (may : env.MayOpen d) : env.Opens d := by
  obtain ⟨usbd, calls, ok⟩ := may
  exact ⟨usbd, fun calls' => (one calls' calls _).trans ok⟩

theorem Env.OneResult.authorizes {env : Env} (one : env.OneResult) {d : UsbDevice} {authorized : Bool}
    (may : env.MayAuthorize d authorized) : env.Authorizes d authorized := by
  obtain ⟨present, calls, ok⟩ := may
  exact ⟨present, fun calls' => (one calls' calls _).trans ok⟩

theorem Env.Opens.openDevice {env : Env} {d : UsbDevice} (opens : env.Opens d) (s : State) :
    (openDevice env d.busNum d.devAddr s).1 = .uecOk := by
  rw [Policy.openDevice, callUsbd, if_pos opens.1]
  exact opens.2 _

theorem mayOpen_of_openDevice {env : Env} {d : UsbDevice} {s : State}
    (opened : (openDevice env d.busNum d.devAddr s).1 = .uecOk) : env.MayOpen d := by
  unfold openDevice callUsbd at opened
  split_ifs at opened with usbd
  · exact ⟨usbd, s.calls, opened⟩
  · cases opened

/-! ## The loop over the devices -/

section Loop

variable {env : Env} {s₀ : State} (named : s₀.Named) {vendorId productId : Int} {disable : Bool}

/-- A device that cannot be opened ends the loop. -/
theorem manageDevices_stops {Q : Devices → Prop} {object : Nat} (later : List Nat)
    (selected : selects vendorId productId (s₀.device object) = true) (closed : ¬ env.MayOpen (s₀.device object)) :
    Keeps (fun s => Ruled s₀.host s.host ∧ Q s.host)
      (manageDevices env vendorId productId disable (object :: later)) := by
  rintro s ⟨ruled, here⟩
  obtain ⟨busNum, devAddr⟩ := ruled.address (o := object)
  rw [manageDevices_cons, ruled.selects_eq, if_pos selected, busNum, devAddr,
    if_neg fun opened => closed (mayOpen_of_openDevice opened), openDevice, callUsbd_host]
  exact ⟨ruled, here⟩

include named

variable (disable) in
/-- The loop gets past devices that can be opened. -/
theorem manageDevices_passes {objects : List Nat} (inside : ∀ o ∈ objects, s₀.Attached o)
    (opens : ∀ o ∈ objects, selects vendorId productId (s₀.device o) = true → env.Opens (s₀.device o)) (rest : List Nat)
    {s : State} (ruled : Ruled s₀.host s.host) :
    ∃ mid, Ruled s₀.host mid.host ∧ manageDevices env vendorId productId disable (objects ++ rest) s =
      manageDevices env vendorId productId disable rest mid := by
  induction objects generalizing s with
  | nil => exact ⟨s, ruled, rfl⟩
  | cons object objects ih =>
    have first := List.mem_cons_self (a := object) (l := objects)
    have later {s : State} := ih (fun o member => inside o (List.mem_cons_of_mem _ member))
      (fun o member => opens o (List.mem_cons_of_mem _ member)) (s := s)
    rw [List.cons_append, manageDevices_cons, ruled.selects_eq]
    by_cases selected : selects vendorId productId (s₀.device object) = true
    · obtain ⟨busNum, devAddr⟩ := ruled.address (o := object)
      have opened := (opens object first selected).openDevice s
      rw [← busNum, ← devAddr] at opened
      rw [if_pos selected, if_pos opened]
      exact later (ruled.after_visited named (inside object first) _)
    · rw [if_neg selected]
      exact later ruled

/-- The result is success if all selected devices can be opened. -/
theorem manageDevices_opens {objects : List Nat} (inside : ∀ o ∈ objects, s₀.Attached o)
    (opens : ∀ o ∈ objects, selects vendorId productId (s₀.device o) = true → env.Opens (s₀.device o)) {s : State}
    (ruled : Ruled s₀.host s.host) : (manageDevices env vendorId productId disable objects s).1 = .uecOk := by
  obtain ⟨mid, -, passed⟩ := manageDevices_passes named disable inside opens [] ruled
  rw [List.append_nil] at passed
  rw [passed]
  rfl

/-- The result is success only if all selected devices could be opened. -/
theorem mayOpen_of_manageDevices {objects : List Nat} (inside : ∀ o ∈ objects, s₀.Attached o) {s : State}
    (ruled : Ruled s₀.host s.host) (ok : (manageDevices env vendorId productId disable objects s).1 = .uecOk) :
    ∀ o ∈ objects, selects vendorId productId (s₀.device o) = true → env.MayOpen (s₀.device o) := by
  induction objects generalizing s with
  | nil =>
    intro o none
    cases none
  | cons object objects ih =>
    have later : ∀ o ∈ objects, s₀.Attached o := fun o member => inside o (List.mem_cons_of_mem _ member)
    obtain ⟨busNum, devAddr⟩ := ruled.address (o := object)
    rw [manageDevices_cons, ruled.selects_eq, busNum, devAddr] at ok
    intro o member chosen
    split_ifs at ok with selected opened
    · rcases List.mem_cons.1 member with rfl | member
      · exact mayOpen_of_openDevice opened
      · exact ih later (ruled.after_visited named (inside object (List.mem_cons_self ..)) _) ok o member chosen
    · exact absurd ok opened
    · rcases List.mem_cons.1 member with rfl | member
      · exact absurd chosen selected
      · exact ih later ruled ok o member chosen

end Loop

/-! ## The condition -/

/-- The trust list does not name the device, and it is no hub. -/
def Untrusted (trustList : List UsbDeviceId) (d : UsbDevice) : Prop :=
  d.baseClass ≠ baseClassHub ∧ trusted trustList d = false

/-- The devices with the same ids that come before it in the map can be opened. -/
def Reachable (env : Env) (s : State) (o : Nat) : Prop :=
  ∀ o', [o', o].Sublist s.objects → selects (s.device o).vendorId (s.device o).productId (s.device o') = true →
    env.Opens (s.device o')

/-- The driver never disables the device, or the loop never gets to it. -/
def Shielded (env : Env) (s : State) (o : Nat) : Prop :=
  ¬ env.MayAuthorize (s.device o) false ∨ ∃ pre o' post, s.objects = pre ++ o' :: post ∧ o ∉ pre ∧
    selects (s.device o).vendorId (s.device o).productId (s.device o') = true ∧ ¬ env.MayOpen (s.device o')

/-- The failures of some devices do not keep others from being disabled, and do not go unreported. -/
structure Isolated (env : Env) (trustList : List UsbDeviceId) (s : State) : Prop where
  disabled : ∀ o, s.Attached o → Untrusted trustList (s.device o) → env.Opens (s.device o) →
    env.Authorizes (s.device o) false →
      ((executeManageDevicePolicy env trustList s).2.device o).authorizeStatus = .disabled
  reported : (executeManageDevicePolicy env trustList s).1 = .uecOk → ∀ o, s.Attached o →
    Untrusted trustList (s.device o) →
      ((executeManageDevicePolicy env trustList s).2.device o).authorizeStatus = .disabled

/-- No device that cannot be opened comes before one with the same ids that is to be disabled; and if the devices
with the ids of the last one may be opened, nothing keeps the untrusted devices from being disabled. -/
structure FailuresApart (env : Env) (trustList : List UsbDeviceId) (s : State) : Prop where
  reachable : ∀ o, s.Attached o → Untrusted trustList (s.device o) → (s.device o).authorizeStatus ≠ .disabled →
    env.Opens (s.device o) → env.Authorizes (s.device o) false → Reachable env s o
  last : ∀ object, s.objects.getLast? = some object →
    (∀ o, s.Attached o → selects (s.device object).vendorId (s.device object).productId (s.device o) = true →
      env.MayOpen (s.device o)) →
    ∀ o, s.Attached o → Untrusted trustList (s.device o) → (s.device o).authorizeStatus ≠ .disabled →
      env.Opens (s.device o) ∧ env.Authorizes (s.device o) false ∧ Reachable env s o

section Operation

variable {env : Env} {s₀ : State} (named : s₀.Named) {trustList : List UsbDeviceId} {o : Nat}

theorem authorize_status_other {h : Devices} {o' : Nat} (other : o' ≠ o) (authorized : Bool) :
    (authorize h o' authorized).status o = h.status o := by
  rw [Devices.status, authorize_heap, if_neg (Ne.symm other), Devices.status]

theorem loop_keeps {P : State → Prop} (each : ∀ object, Keeps P (manageDeviceFor env s₀.objects trustList object))
    (order : List Nat) (ret : UsbErrCode) :
    Keeps P (order.foldlM (fun _ object => manageDeviceFor env s₀.objects trustList object) ret) :=
  .foldlM (fun _ object _ => each object) ret

include named

/-- An untrusted device stays disabled. -/
theorem stays_disabled (untrusted : Untrusted trustList (s₀.device o)) (object : Nat) :
    Keeps (fun s => Ruled s₀.host s.host ∧ s.host.status o = .disabled)
      (manageDeviceFor env s₀.objects trustList object) := by
  refine manageDeviceFor_keeps (Q := fun h => h.status o = .disabled) named (fun _ => State.mem_objects.1) ?_
  intro o' _ selected _ h _ disabled
  rw [Devices.status, authorize_heap]
  split_ifs with same
  · have decision : trusted trustList (s₀.device object) = false := by
      rw [← trusted_of_selects selected trustList, ← same]
      exact untrusted.2
    rw [decision]
    rfl
  · exact disabled

/-- The loop for a device disables it, if the driver lets it get there and agrees. -/
theorem disables (attached : s₀.Attached o) (untrusted : Untrusted trustList (s₀.device o))
    (opens : env.Opens (s₀.device o)) (authorizes : env.Authorizes (s₀.device o) false)
    (reachable : Reachable env s₀ o) {s : State} (ruled : Ruled s₀.host s.host) :
    Ruled s₀.host (manageDeviceFor env s₀.objects trustList o s).2.host ∧
      (manageDeviceFor env s₀.objects trustList o s).2.host.status o = .disabled := by
  obtain ⟨pre, post, split⟩ := List.append_of_mem (State.mem_objects.2 attached)
  have inside : ∀ o' ∈ pre ++ o :: post, s₀.Attached o' := fun o' member => State.mem_objects.1 (split ▸ member)
  have before : ∀ o' ∈ pre, selects (s₀.device o).vendorId (s₀.device o).productId (s₀.device o') = true →
      env.Opens (s₀.device o') := by
    intro o' member selected
    refine reachable o' ?_ selected
    rw [split]
    exact (List.singleton_sublist.2 member).append (List.singleton_sublist.2 (List.mem_cons_self ..))
  obtain ⟨mid, ruled', passed⟩ := manageDevices_passes named true
    (fun o' member => inside o' (List.mem_append_left _ member)) before (o :: post) ruled
  have selected : selects (s₀.device o).vendorId (s₀.device o).productId (s₀.device o) = true := by
    simp [selects, untrusted.1]
  obtain ⟨busNum, devAddr⟩ := ruled'.address (o := o)
  have opened := opens.openDevice mid
  rw [← busNum, ← devAddr] at opened
  have done : (visited env (mid.device o) false mid).host = authorize mid.host o false :=
    ruled'.visited_agreed named attached authorizes
  have disabled : (visited env (mid.device o) false mid).host.status o = .disabled := by
    rw [done, Devices.status, authorize_heap, if_pos rfl]
    rfl
  rw [ruled.manageDeviceFor_eq, untrusted.2, Bool.not_false, split, passed, manageDevices_cons, ruled'.selects_eq,
    if_pos selected, if_pos opened]
  refine manageDevices_keeps (Q := fun h => h.status o = .disabled) named
    (fun o' member => inside o' (List.mem_append_right _ (List.mem_cons_of_mem _ member))) ?_ _
    ⟨ruled'.after_visited named attached false, disabled⟩
  intro o' _ _ _ h _ here
  rw [Devices.status, authorize_heap]
  split_ifs
  · rfl
  · exact here

/-- A shielded device keeps its status. -/
theorem stays_shielded (untrusted : Untrusted trustList (s₀.device o)) (shielded : Shielded env s₀ o)
    (status : AuthorizeStatus) (object : Nat) :
    Keeps (fun s => Ruled s₀.host s.host ∧ s.host.status o = status)
      (manageDeviceFor env s₀.objects trustList object) := by
  have all : ∀ o' ∈ s₀.objects, s₀.Attached o' := fun _ => State.mem_objects.1
  by_cases chosen : selects (s₀.device object).vendorId (s₀.device object).productId (s₀.device o) = true
  · have decision : trusted trustList (s₀.device object) = false := by
      rw [← trusted_of_selects chosen trustList]
      exact untrusted.2
    rcases shielded with refuses | ⟨pre, o', post, split, unreached, selected, closed⟩
    · refine manageDeviceFor_keeps (Q := fun h => h.status o = status) named all ?_
      rw [decision]
      intro o' _ _ may h _ here
      have other : o' ≠ o := by
        rintro rfl
        exact refuses may
      rw [authorize_status_other other]
      exact here
    · simp only [selects, decide_eq_true_eq] at chosen
      rintro s ⟨ruled, here⟩
      rw [ruled.manageDeviceFor_eq, split, ← chosen.2.1, ← chosen.2.2]
      refine manageDevices_keeps_append (Q := fun h => h.status o = status) named _
        (fun o' member => all o' (split ▸ List.mem_append_left _ member)) (fun o' member _ _ h _ here => ?_)
        (manageDevices_stops (Q := fun h => h.status o = status) post selected closed) s ⟨ruled, here⟩
      have other : o' ≠ o := by
        rintro rfl
        exact unreached member
      rw [authorize_status_other other]
      exact here
  · refine manageDeviceFor_keeps (Q := fun h => h.status o = status) named all fun o' _ selected _ h _ here => ?_
    have other : o' ≠ o := by
      rintro rfl
      exact chosen selected
    rw [authorize_status_other other]
    exact here

/-- With one result for each call, a device that the loop does not get to and disable is shielded. -/
theorem shielded_of_not (one : env.OneResult) (attached : s₀.Attached o) (untrusted : Untrusted trustList (s₀.device o))
    (fails : ¬ (env.Opens (s₀.device o) ∧ env.Authorizes (s₀.device o) false ∧ Reachable env s₀ o)) :
    Shielded env s₀ o := by
  have nodup := named.nodup_objects
  by_cases authorizes : env.Authorizes (s₀.device o) false
  · by_cases opens : env.Opens (s₀.device o)
    · have unreachable : ¬ Reachable env s₀ o := fun reachable => fails ⟨opens, authorizes, reachable⟩
      simp only [Reachable, not_forall] at unreachable
      obtain ⟨o', before, selected, closed⟩ := unreachable
      obtain ⟨first, second, split, inFirst, inSecond⟩ := List.cons_sublist_iff.1 before
      obtain ⟨pre, post, rfl⟩ := List.append_of_mem inFirst
      rw [List.append_assoc, List.cons_append] at split
      refine .inr ⟨pre, o', post ++ second, split, fun member => ?_, selected, fun may => closed (one.opens may)⟩
      rw [split, List.nodup_append] at nodup
      exact nodup.2.2 o member o (List.mem_cons_of_mem _ (List.mem_append_right _ (List.singleton_sublist.1 inSecond)))
        rfl
    · obtain ⟨pre, post, split⟩ := List.append_of_mem (State.mem_objects.2 attached)
      refine .inr ⟨pre, o, post, split, fun member => ?_, by simp [selects, untrusted.1],
        fun may => opens (one.opens may)⟩
      rw [split, List.nodup_append] at nodup
      exact nodup.2.2 o member o (List.mem_cons_self ..) rfl
  · exact .inl fun may => authorizes (one.authorizes may)

/-! ## Whole runs -/

/-- The loop of the operation. -/
theorem executeManageDevicePolicy_loop :
    let loop := s₀.objects.foldlM (fun _ object => manageDeviceFor env s₀.objects trustList object) .uecOk s₀
    (executeManageDevicePolicy env trustList s₀).2 = loop.2 ∧
      ((executeManageDevicePolicy env trustList s₀).1 = .uecOk ↔ loop.1 = .uecOk) := by
  intro loop
  rw [executeManageDevicePolicy_eq _ named]
  refine ⟨rfl, ?_⟩
  change (if loop.1 ≠ .uecOk then UsbErrCode.uecServiceExecutePolicyFailed else .uecOk) = .uecOk ↔ _
  by_cases ok : loop.1 = .uecOk <;> simp [ok]

variable (env trustList) in
theorem loop_ruled (order : List Nat) (ret : UsbErrCode) {s : State} (ruled : Ruled s₀.host s.host) :
    Ruled s₀.host
      (order.foldlM (fun _ object => manageDeviceFor env s₀.objects trustList object) ret s).2.host :=
  (loop_keeps (P := fun s => Ruled s₀.host s.host ∧ True) (fun _ => manageDeviceFor_keeps (Q := fun _ => True)
    named (fun _ => State.mem_objects.1) fun _ _ _ _ _ _ _ => trivial) order ret s ⟨ruled, trivial⟩).1

variable (env trustList) in
/-- The result of the loop is that of the call for the last device of the map. -/
theorem loop_last {object : Nat} (last : s₀.objects.getLast? = some object) :
    ∃ s, Ruled s₀.host s.host ∧
      (s₀.objects.foldlM (fun _ object => manageDeviceFor env s₀.objects trustList object) .uecOk s₀).1 =
        (manageDeviceFor env s₀.objects trustList object s).1 := by
  obtain ⟨init, split⟩ := List.getLast?_eq_some_iff.1 last
  have run : ∀ order, order = init ++ [object] →
      (order.foldlM (fun _ object => manageDeviceFor env s₀.objects trustList object) .uecOk s₀).1 =
        (manageDeviceFor env s₀.objects trustList object
          (init.foldlM (fun _ object => manageDeviceFor env s₀.objects trustList object) .uecOk s₀).2).1 := by
    rintro _ rfl
    rw [List.foldlM_append, stateM_bind]
    rfl
  exact ⟨_, loop_ruled env named trustList init .uecOk (.refl _), run _ split⟩

theorem disabled_after (attached : s₀.Attached o) (untrusted : Untrusted trustList (s₀.device o))
    (either : s₀.host.status o = .disabled ∨
      env.Opens (s₀.device o) ∧ env.Authorizes (s₀.device o) false ∧ Reachable env s₀ o) :
    ((executeManageDevicePolicy env trustList s₀).2.device o).authorizeStatus = .disabled := by
  have stays : ∀ (order : List Nat) (ret : UsbErrCode),
      Keeps (fun s => Ruled s₀.host s.host ∧ s.host.status o = .disabled)
        (order.foldlM (fun _ object => manageDeviceFor env s₀.objects trustList object) ret) :=
    loop_keeps (stays_disabled named untrusted)
  rw [(executeManageDevicePolicy_loop named).1]
  rcases either with disabled | ⟨opens, authorizes, reachable⟩
  · exact (stays s₀.objects .uecOk s₀ ⟨.refl _, disabled⟩).2
  · obtain ⟨before, after, split⟩ := List.append_of_mem (State.mem_objects.2 attached)
    have run : ∀ order, order = before ++ o :: after →
        ((order.foldlM (fun _ object => manageDeviceFor env s₀.objects trustList object) .uecOk s₀).2.device
          o).authorizeStatus = .disabled := by
      rintro _ rfl
      rw [List.foldlM_append, stateM_bind, List.foldlM_cons, stateM_bind]
      have ruled := loop_ruled env named trustList before .uecOk (.refl s₀.host)
      exact (stays after _ _ (disables named attached untrusted opens authorizes reachable ruled)).2
    exact run _ split

theorem shielded_after (untrusted : Untrusted trustList (s₀.device o)) (shielded : Shielded env s₀ o) :
    ((executeManageDevicePolicy env trustList s₀).2.device o).authorizeStatus = (s₀.device o).authorizeStatus := by
  rw [(executeManageDevicePolicy_loop named).1]
  exact (loop_keeps (stays_shielded named untrusted shielded (s₀.device o).authorizeStatus) s₀.objects .uecOk s₀
    ⟨.refl _, rfl⟩).2

/-- If the operation succeeds, the devices with the ids of the last one could be opened. -/
theorem mayOpen_of_ok {object : Nat} (last : s₀.objects.getLast? = some object)
    (ok : (executeManageDevicePolicy env trustList s₀).1 = .uecOk) (attached : s₀.Attached o)
    (selected : selects (s₀.device object).vendorId (s₀.device object).productId (s₀.device o) = true) :
    env.MayOpen (s₀.device o) := by
  obtain ⟨s, ruled, result⟩ := loop_last env named trustList last
  have returned := (executeManageDevicePolicy_loop named).2.1 ok
  rw [result, ruled.manageDeviceFor_eq] at returned
  exact mayOpen_of_manageDevices named (fun _ => State.mem_objects.1) ruled returned o (State.mem_objects.2 attached)
    selected

/-- If the devices with the ids of the last one can be opened, the operation succeeds. -/
theorem ok_of_opens
    (opens : ∀ object, s₀.objects.getLast? = some object → ∀ o, s₀.Attached o →
      selects (s₀.device object).vendorId (s₀.device object).productId (s₀.device o) = true →
        env.Opens (s₀.device o)) :
    (executeManageDevicePolicy env trustList s₀).1 = .uecOk := by
  rw [(executeManageDevicePolicy_loop named).2]
  cases last : s₀.objects.getLast? with
  | none =>
    rw [List.getLast?_eq_none_iff.1 last]
    rfl
  | some object =>
    obtain ⟨s, ruled, result⟩ := loop_last env named trustList last
    rw [result, ruled.manageDeviceFor_eq]
    exact manageDevices_opens named (fun _ => State.mem_objects.1)
      (fun o member => opens object last o (State.mem_objects.1 member)) ruled

end Operation

/-- The failures of some devices concern no others and are reported, if no device that cannot be opened stands in the
way; and if each call has one result, only then. -/
theorem trust_list_isolated {s : State} (named : s.Named) (env : Env) (trustList : List UsbDeviceId) :
    (FailuresApart env trustList s → Isolated env trustList s) ∧
      (env.OneResult → Isolated env trustList s → FailuresApart env trustList s) := by
  constructor
  · intro apart
    refine ⟨fun o attached untrusted opens authorizes => ?_, fun ok o attached untrusted => ?_⟩
    · apply disabled_after named attached untrusted
      by_cases already : (s.device o).authorizeStatus = .disabled
      · exact .inl already
      · exact .inr ⟨opens, authorizes, apart.reachable o attached untrusted already opens authorizes⟩
    · apply disabled_after named attached untrusted
      by_cases already : (s.device o).authorizeStatus = .disabled
      · exact .inl already
      have nonempty : s.objects ≠ [] := List.ne_nil_of_mem (State.mem_objects.2 attached)
      have last := List.getLast?_eq_some_getLast nonempty
      exact .inr (apart.last _ last (fun o' there selected => mayOpen_of_ok named last ok there selected) o attached
        untrusted already)
  · intro one isolated
    have stuck : ∀ o, s.Attached o → Untrusted trustList (s.device o) → (s.device o).authorizeStatus ≠ .disabled →
        ((executeManageDevicePolicy env trustList s).2.device o).authorizeStatus = .disabled →
          env.Opens (s.device o) ∧ env.Authorizes (s.device o) false ∧ Reachable env s o := by
      intro o attached untrusted before after
      by_contra fails
      rw [shielded_after named untrusted (shielded_of_not named one attached untrusted fails)] at after
      exact before after
    refine ⟨fun o attached untrusted before opens authorizes => ?_,
      fun object last opens o attached untrusted before => ?_⟩
    · exact (stuck o attached untrusted before (isolated.disabled o attached untrusted opens authorizes)).2.2
    · apply stuck o attached untrusted before
      refine isolated.reported (ok_of_opens named fun object' last' o' there selected => ?_) o attached untrusted
      cases last.symm.trans last'
      exact one.opens (opens o' there selected)

section Keyboards

theorem opens_refusing {refused : List HdiCall} {d : UsbDevice} (opens : .openDevice d.busNum d.devAddr ∉ refused) :
    (refusing refused).Opens d :=
  ⟨rfl, fun _ => if_neg opens⟩

theorem authorizes_refusing {refused : List HdiCall} {d : UsbDevice}
    (authorizes : .usbDeviceAuthorize d.busNum d.devAddr false ∉ refused) : (refusing refused).Authorizes d false :=
  ⟨rfl, fun _ => if_neg authorizes⟩

/-- Neither the second keyboard nor the storage device can be opened: the first keyboard is disabled, and the operation
reports a failure. -/
theorem trust_list_isolated_second :
    let env := refusing [.openDevice 1 1, .openDevice 1 2]
    let s := threeAttached fun _ => .enabled
    Isolated env [storageId] s ∧
      s.objects.map (fun o => ((executeManageDevicePolicy env [storageId] s).2.device o).authorizeStatus) =
        [.disabled, .enabled, .enabled] := by
  intro env s
  have objects : s.objects = [0, 1, 2] := by decide +kernel
  refine ⟨(trust_list_isolated (threeAttached_named _) env [storageId]).1 ⟨?_, ?_⟩, by decide +kernel⟩
  · intro o attached _ _ opens _ o' before
    have member := State.mem_objects.2 attached
    rw [objects] at member before
    have other : o' ∈ [0, 1, 2] := before.subset (List.mem_cons_self ..)
    have opened := opens.2 []
    simp only [List.mem_cons, List.not_mem_nil, or_false] at member other
    rcases member with rfl | rfl | rfl
    · rcases other with rfl | rfl | rfl <;> exact absurd before (by decide)
    · cases opened
    · cases opened
  · intro object last opens
    rw [objects] at last
    cases last
    obtain ⟨-, _, opened⟩ := opens 2 (State.mem_objects.1 (by decide +kernel)) (by decide)
    cases opened

/-- The first keyboard cannot be opened: nothing is done to the second one either, and the operation reports
success. -/
theorem trust_list_isolated_first :
    let env := refusing [.openDevice 1 0]
    let s := threeAttached fun _ => .enabled
    env.OneResult ∧ (executeManageDevicePolicy env [storageId] s).1 = .uecOk ∧
      s.objects.map (fun o => ((executeManageDevicePolicy env [storageId] s).2.device o).authorizeStatus) =
        [.enabled, .enabled, .enabled] ∧ ¬ Isolated env [storageId] s := by
  intro env s
  have enabled : ((executeManageDevicePolicy env [storageId] s).2.device 1).authorizeStatus = .enabled := by
    decide +kernel
  refine ⟨fun _ _ _ => rfl, by decide +kernel, by decide +kernel, fun isolated => ?_⟩
  have attached : s.Attached 1 := State.mem_objects.1 (by decide +kernel)
  have disabled := isolated.disabled 1 attached ⟨by decide, by decide⟩ (opens_refusing (by decide))
    (authorizes_refusing (by decide))
  rw [enabled] at disabled
  cases disabled

end Keyboards

end UsbManager.Policy
