import UsbManager.Policy.Rounds
import UsbManager.Policy.Serial

/-!
# The outcome of a permissive type policy

`ExecuteManageUsbType` decides about every device, and then about every interface of the devices that it left
enabled: what no type of the policy describes is authorised. The types are split in two lists that overlap, and
only the members of the lists matter. A second run finds every device as it should be.
-/

namespace UsbManager.Policy

open Host

/-- A type of the policy that is about devices describes these values. -/
def DescribesDevice (disableType : List UsbDeviceType) (baseClass subClass protocol : Int) : Prop :=
  ∃ type ∈ disableType, (type.isDeviceType = true ∨ type.isDeviceTypeAllMatch = true) ∧
    type.values.matches baseClass subClass protocol = true

/-- A type of the policy that is about interfaces describes these values. -/
def DescribesInterface (disableType : List UsbDeviceType) (baseClass subClass protocol : Int) : Prop :=
  ∃ type ∈ disableType, (type.isDeviceType = false ∨ type.isDeviceTypeAllMatch = true) ∧
    type.values.matches baseClass subClass protocol = true

def deviceTypes (disableType : List UsbDeviceType) : List UsbDeviceType :=
  disableType.filter fun type => type.isDeviceTypeAllMatch || type.isDeviceType

def interfaceTypes (disableType : List UsbDeviceType) : List UsbDeviceType :=
  disableType.filter fun type => type.isDeviceTypeAllMatch || !type.isDeviceType

section Types

variable {disableType : List UsbDeviceType} {baseClass subClass protocol : Int}

theorem typesMatch_deviceTypes :
    typesMatch (deviceTypes disableType) baseClass subClass protocol = true ↔
      DescribesDevice disableType baseClass subClass protocol := by
  simp only [typesMatch, deviceTypes, DescribesDevice, List.any_eq_true, List.mem_filter, Bool.or_eq_true, and_assoc]
  exact exists_congr fun type => and_congr_right fun _ => and_congr_left fun _ => or_comm

theorem typesMatch_interfaceTypes :
    typesMatch (interfaceTypes disableType) baseClass subClass protocol = true ↔
      DescribesInterface disableType baseClass subClass protocol := by
  simp only [typesMatch, interfaceTypes, DescribesInterface, List.any_eq_true, List.mem_filter, Bool.or_eq_true,
    Bool.not_eq_true', and_assoc]
  exact exists_congr fun type => and_congr_right fun _ => and_congr_left fun _ => or_comm

/-- The order of the types and how often they stand in the list do not matter. -/
theorem typesMatch_congr {types types' : List UsbDeviceType} (same : ∀ type, type ∈ types ↔ type ∈ types') :
    typesMatch types = typesMatch types' := by
  funext baseClass subClass protocol
  rw [Bool.eq_iff_iff, typesMatch, typesMatch, List.any_eq_true, List.any_eq_true]
  exact exists_congr fun type => and_congr_left fun _ => same type

end Types

/-- The policy is its set of types. -/
theorem executeManageUsbType_congr (env : Env) {disableType disableType' : List UsbDeviceType}
    (same : ∀ type, type ∈ disableType ↔ type ∈ disableType') (disable : Bool) :
    executeManageUsbType env disableType disable = executeManageUsbType env disableType' disable := by
  have devices : typesMatch (deviceTypes disableType) = typesMatch (deviceTypes disableType') :=
    typesMatch_congr fun type => by rw [deviceTypes, deviceTypes, List.mem_filter, List.mem_filter, same]
  have interfaces : typesMatch (interfaceTypes disableType) = typesMatch (interfaceTypes disableType') :=
    typesMatch_congr fun type => by rw [interfaceTypes, interfaceTypes, List.mem_filter, List.mem_filter, same]
  have first : manageUsbTypeDevice env (deviceTypes disableType) disable =
      manageUsbTypeDevice env (deviceTypes disableType') disable := by
    funext object
    simp only [manageUsbTypeDevice, devices]
  have second : manageUsbTypeInterface env (interfaceTypes disableType) disable =
      manageUsbTypeInterface env (interfaceTypes disableType') disable := by
    funext object
    simp only [manageUsbTypeInterface, interfaces]
  change (do forDevices (manageUsbTypeDevice env (deviceTypes disableType) disable)
             forDevices (manageUsbTypeInterface env (interfaceTypes disableType) disable)) = _
  rw [first, second]
  rfl

/-! ## What becomes of a device -/

/-- What the first loop makes of a device. -/
def permitDevice (env : Env) (s₀ : State) (types : List UsbDeviceType) (disable : Bool) (p : Nat)
    (d : UsbDevice × List DeviceEvent) : UsbDevice × List DeviceEvent :=
  if isExempt env s₀ p = true then d
  else authorizeShown (if typesMatch types d.1.baseClass d.1.subClass d.1.protocol then !disable else disable) d

/-- What the second loop makes of it. -/
def permitFlags (k : Nat → UInt8) (types : List UsbDeviceType) (disable : Bool) (p : Nat)
    (d : UsbDevice × List DeviceEvent) : UsbDevice × List DeviceEvent :=
  if d.1.baseClass = baseClassHub ∨ d.1.authorizeStatus = .disabled then d
  else flagShown ((k p).toNat - 1)
    (fun i => some (if typesMatch types i.klass i.subClass i.protocol then !disable else disable)) d

section Rounds

variable {env : Env} {s₀ : State} {k : Nat → UInt8}

theorem acts_manageUsbTypeDevice (succeeds : Succeeds env) (named : s₀.Named) {o : Nat} (attached : s₀.Attached o)
    (types : List UsbDeviceType) (disable : Bool) :
    Acts (Placed s₀) shown (fun p d => if p = o then permitDevice env s₀ types disable p d else d)
      (manageUsbTypeDevice env types disable o) := by
  refine .visit fun s placed => ?_
  rw [placed.isExempt]
  dsimp only
  rw [placed.busNum, placed.devAddr]
  by_cases exempt : isExempt env s₀ o = true
  · rw [if_pos exempt]
    exact ⟨_, .idle (.pure _), (if_pos exempt).symm⟩
  · rw [if_neg exempt, permitDevice, if_neg exempt]
    by_cases type : typesMatch types (s.device o).baseClass (s.device o).subClass (s.device o).protocol = true
    · rw [if_pos type]
      exact ⟨_, .discard (acts_usbDeviceAuthorize succeeds named attached (!disable)),
        congrArg (authorizeShown · _) (if_pos type).symm⟩
    · rw [if_neg type]
      exact ⟨_, .discard (acts_usbDeviceAuthorize succeeds named attached disable),
        congrArg (authorizeShown · _) (if_neg type).symm⟩

theorem acts_manageUsbTypeInterface (succeeds : Succeeds env) (reports : env.Reports s₀ k) {o : Nat}
    (attached : s₀.Attached o) (types : List UsbDeviceType) (disable : Bool) :
    Acts (Placed s₀) shown (fun p d => if p = o then permitFlags k types disable p d else d)
      (manageUsbTypeInterface env types disable o) := by
  refine .visit fun s placed => ?_
  dsimp only
  rw [placed.busNum, placed.devAddr]
  by_cases skipped : (s.device o).baseClass = baseClassHub ∨ (s.device o).authorizeStatus = .disabled
  · rw [if_pos skipped]
    exact ⟨_, .idle (.pure _), (if_pos skipped).symm⟩
  · rw [if_neg skipped, permitFlags, ← reports.position attached]
    exact ⟨flagShown _ _, .bind (.discard (acts_callUsbd _)) fun _ => .bindOf (.uecOk, k o) (acts_getActiveConfig ..)
      (fun s _ => getActiveConfig_eq succeeds reports attached s)
      (.bind (acts_authorizeActiveConfig o (k o) _) fun _ => .discard (acts_callUsbd _)), (if_neg skipped).symm⟩

/-- A loop over all devices. -/
theorem acts_forDevices (named : s₀.Named) {F : Nat → UsbDevice × List DeviceEvent → UsbDevice × List DeviceEvent}
    {body : Nat → Manager Unit}
    (each : ∀ o, s₀.Attached o → Acts (Placed s₀) shown (fun p d => if p = o then F p d else d) (body o)) :
    Acts (Placed s₀) shown (fun p d => if p ∈ s₀.objects then F p d else d) (forDevices body) := by
  refine .get fun s placed => ⟨fun p d => if p ∈ s₀.objects then F p d else d, ?_, fun _ => rfl⟩
  rw [placed.objects]
  exact .visits named.nodup_objects fun o member => each o (State.mem_objects.1 member)

/-! ### Twice -/

theorem authorizeShown_of_settled {authorized : Bool} {status : AuthorizeStatus} {d : UsbDevice × List DeviceEvent}
    (done : d.1.authorizeStatus = settled authorized status) : authorizeShown authorized d = d := by
  rw [authorizeShown, done, settled_settled, settledEvent_settled, ← done]
  rfl

theorem permitFlags_twice (types : List UsbDeviceType) (disable : Bool) (p : Nat) (d : UsbDevice × List DeviceEvent) :
    permitFlags k types disable p (permitFlags k types disable p d) = permitFlags k types disable p d := by
  by_cases skipped : d.1.baseClass = baseClassHub ∨ d.1.authorizeStatus = .disabled
  · rw [permitFlags, permitFlags, if_pos skipped, if_pos skipped]
  · have once : permitFlags k types disable p d = flagShown ((k p).toNat - 1)
        (fun i => some (if typesMatch types i.klass i.subClass i.protocol then !disable else disable)) d :=
      if_neg skipped
    rw [once, permitFlags]
    refine (if_neg skipped).trans ?_
    exact congrArg (·, d.2) (mapInterfaces_mapInterfaces ..)

theorem permitFlags_static (types : List UsbDeviceType) (disable : Bool) (p : Nat) (d : UsbDevice × List DeviceEvent) :
    (permitFlags k types disable p d).1 = { d.1 with configs := (permitFlags k types disable p d).1.configs } := by
  unfold permitFlags
  split_ifs <;> rfl

theorem permitDevice_permitFlags (types types' : List UsbDeviceType) (disable : Bool) (p : Nat)
    (d : UsbDevice × List DeviceEvent) :
    permitDevice env s₀ types disable p (permitFlags k types' disable p (permitDevice env s₀ types disable p d)) =
      permitFlags k types' disable p (permitDevice env s₀ types disable p d) := by
  by_cases exempt : isExempt env s₀ p = true
  · rw [permitDevice, if_pos exempt]
  · have once : permitDevice env s₀ types disable p d = authorizeShown
        (if typesMatch types d.1.baseClass d.1.subClass d.1.protocol then !disable else disable) d := if_neg exempt
    have static := permitFlags_static (k := k) types' disable p (permitDevice env s₀ types disable p d)
    rw [permitDevice, if_neg exempt, static]
    apply authorizeShown_of_settled
    rw [static, once]
    rfl

variable (disableType : List UsbDeviceType) (disable : Bool) in
theorem acts_executeManageUsbType (succeeds : Succeeds env) (named : s₀.Named) (reports : env.Reports s₀ k) :
    Acts (Placed s₀) shown
      (fun p d =>
        if p ∈ s₀.objects then
          permitFlags k (interfaceTypes disableType) disable p
            (permitDevice env s₀ (deviceTypes disableType) disable p d)
        else d)
      (executeManageUsbType env disableType disable) := by
  have devices := acts_forDevices named fun o attached =>
    acts_manageUsbTypeDevice succeeds named attached (deviceTypes disableType) disable
  have interfaces := acts_forDevices named fun o attached =>
    acts_manageUsbTypeInterface succeeds reports attached (interfaceTypes disableType) disable
  refine (Acts.bind devices fun _ => interfaces).congr fun p d => ?_
  by_cases member : p ∈ s₀.objects
  · simp only [if_pos member]
  · simp only [if_neg member]

end Rounds

/-! ## A second run -/

/-- The statuses and the events are those of `s₁`. -/
structure Still (s₁ s : State) : Prop where
  placed : Placed s₁ s
  static : ∀ o, s.device o = { s₁.device o with configs := (s.device o).configs }
  events : ∀ o, s.host.eventsOf o = s₁.host.eventsOf o

theorem Still.refl (s : State) : Still s s := ⟨.refl s, fun _ => rfl, fun _ => rfl⟩

section Second

variable {env : Env} {s₁ : State}

/-- Only configurations are changed. -/
theorem still_of_acts {α : Type} {F : Nat → UsbDevice × List DeviceEvent → UsbDevice × List DeviceEvent} {m : Manager α}
    (acts : Acts (Placed s₁) shown F m)
    (flags : ∀ p d, ∃ configs, F p d = ({ d.1 with configs }, d.2)) : Keeps (Still s₁) m := by
  intro s still
  have after : ∀ o, ∃ configs, shown o (m s).2 = ({ s.device o with configs }, s.host.eventsOf o) := fun o => by
    rw [acts.acts s still.placed o]
    exact flags o (shown o s)
  refine ⟨acts.keeps s still.placed, fun o => ?_, fun o => ?_⟩
  · obtain ⟨configs, done⟩ := after o
    have device : (m s).2.device o = { s.device o with configs } := congrArg Prod.fst done
    rw [device, still.static o]
  · obtain ⟨configs, done⟩ := after o
    exact (congrArg Prod.snd done).trans (still.events o)

theorem still_callUsbd (call : HdiCall) : Keeps (Still s₁) (callUsbd env call) :=
  still_of_acts (acts_callUsbd call) fun _ d => ⟨d.1.configs, rfl⟩

theorem still_getActiveConfig (busNum devAddr : UInt8) : Keeps (Still s₁) (getActiveConfig env busNum devAddr) :=
  still_of_acts (acts_getActiveConfig busNum devAddr) fun _ d => ⟨d.1.configs, rfl⟩

theorem still_authorizeActiveConfig (o : Nat) (configIndex : UInt8) (ask : UsbInterface → Option Bool) :
    Keeps (Still s₁) (authorizeActiveConfig env o configIndex ask) := by
  refine still_of_acts (acts_authorizeActiveConfig o configIndex ask) fun p d => ?_
  split_ifs
  · exact ⟨_, rfl⟩
  · exact ⟨_, rfl⟩

variable {types : List UsbDeviceType} {disable : Bool}

variable (types) in
theorem still_manageUsbTypeDevice (named : s₁.Named) {o : Nat} (attached : s₁.Attached o)
    (settled : isExempt env s₁ o = false → s₁.host.needsChange o
      (if typesMatch types (s₁.device o).baseClass (s₁.device o).subClass (s₁.device o).protocol then !disable
        else disable) = false) :
    Keeps (Still s₁) (manageUsbTypeDevice env types disable o) := by
  intro s still
  have device := still.static o
  have found := named.found attached
  rw [← still.placed.devices] at found
  have status : s.host.status o = s₁.host.status o := by
    change (s.device o).authorizeStatus = (s₁.device o).authorizeStatus
    rw [device]
  rw [manageUsbTypeDevice, stateM_bind, stateM_get]
  dsimp only
  rw [still.placed.isExempt, device]
  dsimp only
  by_cases exempt : isExempt env s₁ o = true
  · rw [if_pos exempt]
    exact still
  · rw [if_neg exempt]
    have unchanged := settled (by simpa using exempt)
    have same : ∀ authorized, s.host.needsChange o authorized = s₁.host.needsChange o authorized := fun authorized => by
      rw [Devices.needsChange, status, Devices.needsChange]
    rw [← same] at unchanged
    split_ifs at unchanged ⊢ with type
    · exact (usbDeviceAuthorize_settled env found unchanged).symm ▸ still
    · exact (usbDeviceAuthorize_settled env found unchanged).symm ▸ still

theorem still_manageUsbTypeInterface (o : Nat) : Keeps (Still s₁) (manageUsbTypeInterface env types disable o) := by
  refine .get fun s _ => .ite (fun _ => .pure _) fun _ => .bind (.discard (still_callUsbd _)) fun _ => ?_
  refine .bind (still_getActiveConfig _ _) fun found => .ite (fun _ => .discard (still_callUsbd _)) fun _ => ?_
  exact .bind (still_authorizeActiveConfig _ _ _) fun _ => .discard (still_callUsbd _)

theorem still_forDevices {body : Nat → Manager Unit} (each : ∀ o, s₁.Attached o → Keeps (Still s₁) (body o)) :
    Keeps (Still s₁) (forDevices body) := by
  refine .get fun s still => .forM fun o member => each o ?_
  exact still.placed.attached.1 (State.mem_objects.1 member)

end Second

/-! ## The outcome -/

/-- What the operation leaves, where `k` is the active configuration of each device. -/
structure PermissiveOutcome (env : Env) (disableType : List UsbDeviceType) (k : Nat → UInt8) (s s' : State) : Prop where
  guarded : Guarded s (fun _ => False) s'
  disabled : ∀ o, s.Attached o → isExempt env s o = false →
    ((s'.device o).authorizeStatus = .disabled ↔
      DescribesDevice disableType (s.device o).baseClass (s.device o).subClass (s.device o).protocol)
  statuses : ∀ o, ¬ (s.Attached o ∧ isExempt env s o = false) →
    (s'.device o).authorizeStatus = (s.device o).authorizeStatus
  flagged : ∀ o, s.Attached o → (s.device o).baseClass ≠ baseClassHub → (s'.device o).authorizeStatus ≠ .disabled →
    ∀ position i, interfaceAt (s.device o) ((k o).toNat - 1) position = some i →
      ∃ authorized, interfaceAt (s'.device o) ((k o).toNat - 1) position = some { i with authorized } ∧
        (authorized = true ↔ ¬ DescribesInterface disableType i.klass i.subClass i.protocol)
  flags : ∀ o index position,
    ¬ (s.Attached o ∧ (s.device o).baseClass ≠ baseClassHub ∧ (s'.device o).authorizeStatus ≠ .disabled ∧
        index = (k o).toNat - 1) →
      interfaceAt (s'.device o) index position = interfaceAt (s.device o) index position

section Outcome

variable {env : Env} {s : State} {k : Nat → UInt8} {disableType : List UsbDeviceType}

theorem permitted_device {baseClass subClass protocol : Int} :
    (if typesMatch (deviceTypes disableType) baseClass subClass protocol then !true else true) = false ↔
      DescribesDevice disableType baseClass subClass protocol := by
  rw [← typesMatch_deviceTypes]
  split_ifs with here <;> simp [here]

theorem permitted_interface {baseClass subClass protocol : Int} :
    (if typesMatch (interfaceTypes disableType) baseClass subClass protocol then !true else true) = true ↔
      ¬ DescribesInterface disableType baseClass subClass protocol := by
  rw [← typesMatch_interfaceTypes]
  split_ifs with here <;> simp [here]

theorem interfaceAt_permitFlags (types : List UsbDeviceType) (disable : Bool) (o : Nat)
    (d : UsbDevice × List DeviceEvent) (index position : Nat) :
    interfaceAt (permitFlags k types disable o d).1 index position =
      if (d.1.baseClass ≠ baseClassHub ∧ d.1.authorizeStatus ≠ .disabled) ∧ index = (k o).toNat - 1 then
        (interfaceAt d.1 index position).map fun i =>
          { i with authorized := if typesMatch types i.klass i.subClass i.protocol then !disable else disable }
      else interfaceAt d.1 index position := by
  unfold permitFlags
  by_cases skipped : d.1.baseClass = baseClassHub ∨ d.1.authorizeStatus = .disabled
  · rw [if_pos skipped, if_neg fun both => not_or.2 both.1 skipped]
  · rw [if_neg skipped]
    exact (interfaceAt_mapInterfaces ..).trans (if_congr (and_iff_right (not_or.1 skipped)).symm rfl rfl)

theorem permitDevice_static (types : List UsbDeviceType) (disable : Bool) (o : Nat) (d : UsbDevice × List DeviceEvent) :
    (permitDevice env s types disable o d).1 =
      { d.1 with authorizeStatus := (permitDevice env s types disable o d).1.authorizeStatus } := by
  unfold permitDevice
  split_ifs <;> rfl

/-- Each device is as the two loops leave it. -/
theorem permissiveOutcome_of_shown {s' : State} (guarded : Guarded s (fun _ => False) s')
    (permitted : ∀ o, shown o s' =
      if o ∈ s.objects then
        permitFlags k (interfaceTypes disableType) true o
          (permitDevice env s (deviceTypes disableType) true o (shown o s))
      else shown o s) :
    PermissiveOutcome env disableType k s s' := by
  obtain ⟨device, detached⟩ := device_of_shown permitted
  have status : ∀ o, s.Attached o → (s'.device o).authorizeStatus =
      (permitDevice env s (deviceTypes disableType) true o (shown o s)).1.authorizeStatus := fun o attached => by
    rw [device o attached, permitFlags_static]
  have flag : ∀ o, s.Attached o → ∀ index position, interfaceAt (s'.device o) index position =
      if ((s.device o).baseClass ≠ baseClassHub ∧ (s'.device o).authorizeStatus ≠ .disabled) ∧
          index = (k o).toNat - 1 then
        (interfaceAt (s.device o) index position).map fun i =>
          { i with
            authorized :=
              if typesMatch (interfaceTypes disableType) i.klass i.subClass i.protocol then !true else true }
      else interfaceAt (s.device o) index position := by
    intro o attached index position
    rw [status o attached, device o attached, interfaceAt_permitFlags, permitDevice_static]
    rfl
  refine ⟨guarded, fun o attached free => ?_, fun o other => ?_, fun o attached device enabled position i found => ?_,
    fun o index position other => ?_⟩
  · rw [status o attached, permitDevice, if_neg fun exempt => Bool.noConfusion (free.symm.trans exempt)]
    exact (settled_disabled_iff _ _).trans permitted_device
  · by_cases attached : s.Attached o
    · rw [status o attached, permitDevice, if_pos (by simpa using fun free => other ⟨attached, free⟩)]
      rfl
    · rw [detached o attached]
  · rw [flag o attached, if_pos ⟨⟨device, enabled⟩, rfl⟩, found]
    exact ⟨_, rfl, permitted_interface⟩
  · by_cases attached : s.Attached o
    · rw [flag o attached, if_neg fun changed => other ⟨attached, changed.1.1, changed.1.2, changed.2⟩]
    · rw [detached o attached]

end Outcome

/-- A second run with a driver that agrees again. -/
theorem permitted_again {env env' : Env} (succeeds : Succeeds env') {s s' : State} (named : s.Named) {k : Nat → UInt8}
    (reports : env'.Reports s k) {disableType : List UsbDeviceType} {disable : Bool}
    (serial : env'.isUsbSerialDisable = env.isUsbSerialDisable) (placed : Placed s s')
    (permitted : ∀ o, shown o s' =
      if o ∈ s.objects then
        permitFlags k (interfaceTypes disableType) disable o
          (permitDevice env s (deviceTypes disableType) disable o (shown o s))
      else shown o s) :
    (executeManageUsbType env' disableType disable s').2.host.heap = s'.host.heap := by
  have acts := acts_executeManageUsbType disableType disable succeeds named reports
  have same : ∀ o, shown o (executeManageUsbType env' disableType disable s').2 = shown o s' := by
    intro o
    have decides : permitDevice env' s (deviceTypes disableType) disable o =
        permitDevice env s (deviceTypes disableType) disable o := by
      funext d
      rw [permitDevice, isExempt, serial, ← isExempt, permitDevice]
    rw [acts.acts s' placed, permitted]
    split_ifs
    · rw [decides, permitDevice_permitFlags, permitFlags_twice]
    · rfl
  exact funext fun o => congrArg Prod.fst (same o)

/-- With a driver that agrees and reports an active configuration, a permissive type policy leaves enabled just what
none of its types describes. A second run changes no status and publishes nothing, whatever the driver answers, and
nothing at all if it agrees again. The policy is no more than its set of types. -/
theorem permissive_policy_outcome {env : Env} (succeeds : Succeeds env) {s : State} (named : s.Named) {k : Nat → UInt8}
    (reports : env.Reports s k) (disableType : List UsbDeviceType) :
    let s' := (executeManageUsbType env disableType true s).2
    PermissiveOutcome env disableType k s s' ∧
      (∀ env' : Env, env'.isUsbSerialDisable = env.isUsbSerialDisable →
        let s'' := (executeManageUsbType env' disableType true s').2
        (∀ o, (s''.device o).authorizeStatus = (s'.device o).authorizeStatus ∧
          s''.host.eventsOf o = s'.host.eventsOf o) ∧
        (Succeeds env' → env'.Reports s k → s''.host.heap = s'.host.heap)) ∧
      ∀ disableType' : List UsbDeviceType, (∀ type, type ∈ disableType' ↔ type ∈ disableType) →
        executeManageUsbType env disableType' true s = executeManageUsbType env disableType true s := by
  intro s'
  have acts := acts_executeManageUsbType disableType true succeeds named reports
  have start : Guarded s (fun _ => False) s := ⟨rfl, rfl, rfl, fun _ => rfl, fun _ none => none.elim⟩
  have guarded : Guarded s (fun _ => False) s' :=
    (guarded_kept env s fun _ => False).executeManageUsbType (fun _ _ _ _ _ _ _ _ _ => id) disableType true s start
  have outcome : PermissiveOutcome env disableType k s s' :=
    permissiveOutcome_of_shown guarded (acts.acts s (.refl s))
  have placed : Placed s s' := acts.keeps s (.refl s)
  refine ⟨outcome, fun env' serial => ?_,
    fun disableType' same => congrFun (executeManageUsbType_congr env same true) s⟩
  have exempt : ∀ o, isExempt env' s' o = isExempt env s o := fun o => by
    rw [isExempt, serial, ← isExempt, placed.isExempt]
  have second : Keeps (Still s') (executeManageUsbType env' disableType true) := by
    refine .bind (still_forDevices fun o attached => ?_) fun _ => still_forDevices fun o _ =>
      still_manageUsbTypeInterface o
    refine still_manageUsbTypeDevice (deviceTypes disableType) (placed.named named) attached fun free => ?_
    rw [exempt] at free
    rw [needsChange_eq_false, guarded.static o]
    exact (outcome.disabled o (placed.attached.1 attached) free).trans permitted_device.symm
  have still := second s' (.refl s')
  exact ⟨fun o => ⟨by rw [still.static o], still.events o⟩, fun succeeds' reports' =>
    permitted_again succeeds' named reports' serial placed (acts.acts s (.refl s))⟩

/-- A storage interface, as such and as part of a device of that type: the device stays enabled. -/
theorem permissive_policy_outcome_storage :
    let s' := (executeManageUsbType (driver .uecOk) [{ baseClass := 8, subClass := -1, protocol := -1 }] true
      storageAttached).2
    PermissiveOutcome (driver .uecOk) [{ baseClass := 8, subClass := -1, protocol := -1 }] (fun _ => 1) storageAttached
        s' ∧
      (s'.device 0).authorizeStatus = .enabled ∧
      (s'.device 0).configs.map (·.interfaces.map (·.authorized)) = [[false]] := by
  have succeeds : Succeeds (driver .uecOk) := ⟨rfl, rfl, fun _ call => by cases call <;> rfl⟩
  have reports : (driver .uecOk).Reports storageAttached fun _ => 1 := ⟨fun _ _ _ => rfl, fun _ _ => by decide⟩
  exact ⟨(permissive_policy_outcome succeeds storageAttached_fresh.named reports
    [{ baseClass := 8, subClass := -1, protocol := -1 }]).1, by decide +kernel, by decide +kernel⟩

end UsbManager.Policy
