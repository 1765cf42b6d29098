import Mathlib.Data.List.Nodup
import UsbManager.Device.Produced
import UsbManager.Policy.Kept

/-!
# Interface policies and the active configuration

Three policies ask the driver for the active configuration of a device and then to authorise or disable
interfaces. The driver reports the value of the configuration, and the policies take it for a position in
the list of configurations, which has the order of the descriptors. The two are the same for a device
that numbers its configurations from one on in that order.
-/

namespace UsbManager.Policy

open Host

/-! ## What the driver is asked -/

def addressOf (d : UsbDevice) : UInt8 × UInt8 := (d.busNum, d.devAddr)

/-- What the driver is asked for an interface of a device. -/
structure InterfaceRequest where
  configId : UInt8
  interfaceId : UInt8
  authorized : Bool
  deriving DecidableEq, Repr

def HdiCall.request (dev : UInt8 × UInt8) : HdiCall → Option InterfaceRequest
  | .usbInterfaceAuthorize busNum devAddr configId interfaceId authorized =>
    if (busNum, devAddr) = dev then some ⟨configId, interfaceId, authorized⟩ else none
  | _ => none

/-- The requests for interfaces of a device, the first one first. -/
def requests (dev : UInt8 × UInt8) : List (HdiCall × UsbErrCode) → List InterfaceRequest
  | [] => []
  | entry :: earlier => requests dev earlier ++ (entry.1.request dev).toList

/-- The values that `GetActiveConfig` reported for a device, the first one first. -/
def reports (env : Env) (dev : UInt8 × UInt8) : List (HdiCall × UsbErrCode) → List UInt8
  | [] => []
  | entry :: earlier =>
    reports env dev earlier ++
      if entry.1 = .getConfig dev.1 dev.2 ∧ entry.2 = .uecOk then [env.configIndex earlier dev.1 dev.2] else []

/-- The requests for the interfaces of a configuration, if the driver can be asked. -/
def requestsFor (env : Env) (ask : UsbInterface → Option Bool) (configId : UInt8) (interfaces : List UsbInterface) :
    List InterfaceRequest :=
  if env.usbDeviceInterface = true then
    interfaces.filterMap fun i => (ask i).map fun authorized => ⟨configId, .ofInt i.id, authorized⟩
  else []

/-- The requests for a configuration at some position. -/
def requestsAt (env : Env) (ask : UsbInterface → Option Bool) (configs : List USBConfig) (index : Nat) :
    List InterfaceRequest :=
  match configs[index]? with
  | none => []
  | some c => requestsFor env ask (.ofInt c.id) c.interfaces

/-! ## The policies -/

/-- `ManageUsbTypeInterfaceImpl`, the second loop of `ExecuteManageUsbType`. -/
def manageUsbTypeInterfaceImpl (env : Env) (types : List UsbDeviceType) (disable : Bool) : Manager Unit :=
  forDevices (manageUsbTypeInterface env types disable)

inductive InterfacePolicy where
  | globalInterface
  | interfaceType (interfaceType : InterfaceType) (disable : Bool)
  | usbTypeInterface (types : List UsbDeviceType) (disable : Bool)

def InterfacePolicy.run (env : Env) : InterfacePolicy → Manager Unit
  | .globalInterface => discard (manageGlobalInterfaceImpl env false)
  | .interfaceType type disable => discard (manageInterfaceTypeImpl env type disable)
  | .usbTypeInterface types disable => manageUsbTypeInterfaceImpl env types disable

/-- The interfaces that a policy is about, and what it asks for them. -/
def InterfacePolicy.ask (env : Env) : InterfacePolicy → UsbInterface → Option Bool
  | .globalInterface, _ => some true
  | .interfaceType type disable, i =>
    match env.gRows.find? (·.1 = type) with
    | none => none
    | some row => if row.2.matches i.klass i.subClass i.protocol then some (!disable) else none
  | .usbTypeInterface types disable, i =>
    some (if typesMatch types i.klass i.subClass i.protocol then !disable else disable)

/-! ## A device while others are handled -/

/-- What was reported and requested for a device so far, and its configurations. -/
structure Heard (env : Env) (s₀ : State) (o : Nat) (configs : List USBConfig) (reported : List UInt8)
    (requested : List InterfaceRequest) (s : State) : Prop where
  address : ∀ p, addressOf (s.device p) = addressOf (s₀.device p)
  configs : (s.device o).configs = configs
  reports : reports env (addressOf (s₀.device o)) s.calls = reported
  requests : requests (addressOf (s₀.device o)) s.calls = requested

section Heard

variable {env : Env} {s₀ : State} {o : Nat} {configs : List USBConfig} {reported : List UInt8}
  {requested : List InterfaceRequest}

theorem Heard.call {s : State} (heard : Heard env s₀ o configs reported requested s) (call : HdiCall)
    (other : call ≠ .getConfig (s₀.device o).busNum (s₀.device o).devAddr) :
    Heard env s₀ o configs reported (requested ++ (call.request (addressOf (s₀.device o))).toList)
      (callHdi env call s).2 where
  address := heard.address
  configs := heard.configs
  reports := by
    change Policy.reports env _ s.calls ++ _ = _
    rw [if_neg fun both => other both.1, List.append_nil, heard.reports]
  requests := by
    change Policy.requests _ s.calls ++ _ = _
    rw [heard.requests]

theorem Heard.quiet {s : State} (heard : Heard env s₀ o configs reported requested s) (call : HdiCall)
    (other : call ≠ .getConfig (s₀.device o).busNum (s₀.device o).devAddr)
    (silent : call.request (addressOf (s₀.device o)) = none) :
    Heard env s₀ o configs reported requested (callHdi env call s).2 := by
  have done := heard.call call other
  rwa [silent, Option.toList_none, List.append_nil] at done

theorem heard_callUsbd {call : HdiCall} (other : call ≠ .getConfig (s₀.device o).busNum (s₀.device o).devAddr)
    (silent : call.request (addressOf (s₀.device o)) = none) :
    Keeps (Heard env s₀ o configs reported requested) (callUsbd env call) :=
  .ite (fun _ _ heard => heard.quiet call other silent) fun _ => .pure _

theorem heard_openDevice (busNum devAddr : UInt8) :
    Keeps (Heard env s₀ o configs reported requested) (openDevice env busNum devAddr) :=
  heard_callUsbd HdiCall.noConfusion rfl

theorem heard_close (busNum devAddr : UInt8) :
    Keeps (Heard env s₀ o configs reported requested) (close env busNum devAddr) :=
  heard_callUsbd HdiCall.noConfusion rfl

theorem heard_usbDeviceAuthorize (busNum devAddr : UInt8) :
    Keeps (Heard env s₀ o configs reported requested) (usbDeviceAuthorize env busNum devAddr true) := by
  refine usbDeviceAuthorize_keeps (fun disabled => by cases disabled) fun _ dev _ _ s heard => ?_
  have asked := heard.quiet (.usbDeviceAuthorize busNum devAddr true) HdiCall.noConfusion rfl
  rw [changeDevice_state]
  split_ifs with ok
  · have logged := asked.reports
    rw [callHdi, ok] at logged
    refine ⟨fun p => ?_, ?_, logged, asked.requests⟩
    · rw [device_accepted]
      exact heard.address p
    · rw [device_accepted]
      exact heard.configs
  · exact asked

/-! ### Interfaces -/

theorem heard_usbInterfaceAuthorize {s : State} (heard : Heard env s₀ o configs reported requested s)
    (dev : UInt8 × UInt8) (configId interfaceId : UInt8) (authorized : Bool) :
    Heard env s₀ o configs reported
      (requested ++ if dev = addressOf (s₀.device o) ∧ env.usbDeviceInterface = true then
        [⟨configId, interfaceId, authorized⟩] else [])
      (usbInterfaceAuthorize env dev.1 dev.2 configId interfaceId authorized s).2 := by
  unfold usbInterfaceAuthorize
  by_cases present : env.usbDeviceInterface = true
  · have asked := heard.call (.usbInterfaceAuthorize dev.1 dev.2 configId interfaceId authorized) HdiCall.noConfusion
    have request : (HdiCall.request (addressOf (s₀.device o))
        (.usbInterfaceAuthorize dev.1 dev.2 configId interfaceId authorized)).toList =
          if dev = addressOf (s₀.device o) ∧ env.usbDeviceInterface = true then
            [⟨configId, interfaceId, authorized⟩] else [] := by
      by_cases same : dev = addressOf (s₀.device o) <;> simp [HdiCall.request, same, present]
    rw [request] at asked
    have there : ¬ env.usbDeviceInterface = false := by
      rw [present]
      decide
    rw [if_neg there]
    refine Keeps.ite (P := Heard env s₀ o configs reported _) (fun _ => ?_) (fun _ => .pure _) _ asked
    exact heard_callUsbd HdiCall.noConfusion rfl
  · rw [Bool.not_eq_true] at present
    simp only [present, if_true, Bool.false_eq_true, and_false, if_false, List.append_nil]
    exact heard

theorem Heard.setInterface {s : State} (heard : Heard env s₀ o configs reported requested s)
    (p index position : Nat) (authorized : Bool) :
    ∃ configs', (p ≠ o → configs' = configs) ∧
      Heard env s₀ o configs' reported requested (setInterfaceAuthorized p index position authorized s) := by
  refine ⟨_, fun other => ?_, fun q => ?_, rfl, heard.reports, heard.requests⟩
  · simp only [State.device, setInterfaceAuthorized, if_neg (Ne.symm other)]
    exact heard.configs
  · refine Eq.trans ?_ (heard.address q)
    simp only [State.device, setInterfaceAuthorized]
    split_ifs with same
    · rw [same]
      rfl
    · rfl

theorem requestsFor_none {ask : UsbInterface → Option Bool} {i : UsbInterface} (asked : ask i = none)
    (configId : UInt8) (interfaces : List UsbInterface) :
    requestsFor env ask configId (i :: interfaces) = requestsFor env ask configId interfaces := by
  simp only [requestsFor, List.filterMap_cons, asked, Option.map_none]

theorem requestsFor_some {ask : UsbInterface → Option Bool} {i : UsbInterface} {authorized : Bool}
    (asked : ask i = some authorized) (configId : UInt8) (interfaces : List UsbInterface) :
    requestsFor env ask configId (i :: interfaces) =
      (if env.usbDeviceInterface = true then [⟨configId, .ofInt i.id, authorized⟩] else []) ++
        requestsFor env ask configId interfaces := by
  unfold requestsFor
  split_ifs
  · simp only [List.filterMap_cons, asked, Option.map_some, List.singleton_append]
  · rfl

/-- The loop over the interfaces of a configuration adds their requests. -/
theorem heard_authorizeInterfaces (p index : Nat) (dev : UInt8 × UInt8) (configId : UInt8)
    (ask : UsbInterface → Option Bool) (interfaces : List UsbInterface) (position : Nat) {s : State}
    (heard : Heard env s₀ o configs reported requested s) :
    ∃ configs', (p ≠ o → configs' = configs) ∧
      Heard env s₀ o configs' reported
        (requested ++ if dev = addressOf (s₀.device o) then requestsFor env ask configId interfaces else [])
        (authorizeInterfaces env p index dev configId ask position interfaces s).2 := by
  induction interfaces generalizing position s configs requested with
  | nil =>
    refine ⟨configs, fun _ => rfl, ?_⟩
    have none : requestsFor env ask configId [] = [] := ite_self _
    rw [none, ite_self, List.append_nil]
    exact heard
  | cons i interfaces ih =>
    rw [authorizeInterfaces]
    cases asked : ask i with
    | none =>
      rw [requestsFor_none asked]
      exact ih (position + 1) heard
    | some authorized =>
      have first := heard_usbInterfaceAuthorize heard dev configId (.ofInt i.id) authorized
      obtain ⟨middle, kept, set⟩ := first.setInterface p index position authorized
      obtain ⟨configs', kept', done⟩ := ih (position + 1) set
      refine ⟨configs', fun other => (kept' other).trans (kept other), ?_⟩
      rw [requestsFor_some asked]
      by_cases own : dev = addressOf (s₀.device o)
      · simp only [own, true_and, if_true, ← List.append_assoc] at done ⊢
        exact done
      · simp only [own, false_and, if_false, List.append_nil] at done ⊢
        exact done

theorem heard_authorizeActiveConfig_other {p : Nat} (other : p ≠ o)
    (apart : addressOf (s₀.device p) ≠ addressOf (s₀.device o)) (configIndex : UInt8)
    (ask : UsbInterface → Option Bool) :
    Keeps (Heard env s₀ o configs reported requested) (authorizeActiveConfig env p configIndex ask) := by
  refine .get fun s heard => ?_
  dsimp only
  split
  · exact .pure _
  · next c _ =>
    intro s' heard'
    obtain ⟨configs', kept, done⟩ := heard_authorizeInterfaces p (configIndex - 1).toNat
      (addressOf (s.device p)) (.ofInt c.id) ask c.interfaces 0 heard'
    rw [heard.address p, if_neg apart, List.append_nil, kept other] at done
    rw [← heard.address p] at done
    exact done

theorem heard_authorizeActiveConfig_own {s : State} (heard : Heard env s₀ o configs reported requested s)
    (configIndex : UInt8) (ask : UsbInterface → Option Bool) :
    ∃ configs', Heard env s₀ o configs' reported
      (requested ++ requestsAt env ask configs (configIndex - 1).toNat)
      (authorizeActiveConfig env o configIndex ask s).2 := by
  rw [authorizeActiveConfig, stateM_bind, stateM_get]
  dsimp only
  rw [heard.configs, requestsAt]
  cases configs[(configIndex - 1).toNat]? with
  | none =>
    rw [List.append_nil]
    exact ⟨configs, heard⟩
  | some c =>
    obtain ⟨configs', -, done⟩ := heard_authorizeInterfaces o (configIndex - 1).toNat
      (addressOf (s.device o)) (.ofInt c.id) ask c.interfaces 0 heard
    rw [if_pos (heard.address o)] at done
    exact ⟨configs', done⟩

/-! ## The rounds of the policies -/

theorem heard_getActiveConfig_other {p : Nat} (apart : addressOf (s₀.device p) ≠ addressOf (s₀.device o)) :
    Keeps (Heard env s₀ o configs reported requested)
      (getActiveConfig env (s₀.device p).busNum (s₀.device p).devAddr) := by
  refine .get fun _ _ => .bind (heard_callUsbd (fun same => apart ?_) rfl) fun _ => .pure _
  injection same with busNum devAddr
  exact Prod.ext busNum devAddr

theorem heard_getActiveConfig_own {s : State} (heard : Heard env s₀ o configs reported requested s) :
    let found := getActiveConfig env (s₀.device o).busNum (s₀.device o).devAddr s
    Heard env s₀ o configs (reported ++ if found.1.1 = .uecOk then [found.1.2] else []) requested found.2 := by
  have run : getActiveConfig env (s₀.device o).busNum (s₀.device o).devAddr s =
      (((callUsbd env (.getConfig (s₀.device o).busNum (s₀.device o).devAddr) s).1,
        if env.usbd then env.configIndex s.calls (s₀.device o).busNum (s₀.device o).devAddr else 0),
        (callUsbd env (.getConfig (s₀.device o).busNum (s₀.device o).devAddr) s).2) := rfl
  rw [run, callUsbd]
  dsimp only
  by_cases usbd : env.usbd = true
  · rw [if_pos usbd, if_pos usbd]
    refine ⟨heard.address, heard.configs, ?_, ?_⟩
    · change Policy.reports env _ s.calls ++ _ = _
      rw [heard.reports]
      congr 1
      simp only [addressOf, true_and]
      rfl
    · change Policy.requests _ s.calls ++ _ = _
      rw [heard.requests]
      exact List.append_nil _
  · rw [if_neg usbd, if_neg usbd]
    have failed : (pure UsbErrCode.uecServiceInvalidValue : Manager UsbErrCode) s = (.uecServiceInvalidValue, s) := rfl
    rw [failed]
    simpa using heard

/-- The own round of the device is over. If the driver reported a value other than zero, the policy has asked for the
interfaces of the configuration before this position. -/
def Answered (env : Env) (s₀ : State) (o : Nat) (ask : UsbInterface → Option Bool) (configs : List USBConfig)
    (reported : List UInt8) (requested : List InterfaceRequest) (s : State) : Prop :=
  ∃ (outcome : Option UInt8) (configs' : List USBConfig) (added : List InterfaceRequest),
    Heard env s₀ o configs' (reported ++ outcome.toList) (requested ++ added) s ∧
      ∀ v, outcome = some v → v ≠ 0 → added = requestsAt env ask configs (v - 1).toNat

variable {ask : UsbInterface → Option Bool}

theorem Heard.unanswered {s : State} (heard : Heard env s₀ o configs reported requested s) :
    Answered env s₀ o ask configs reported requested s := by
  refine ⟨none, configs, [], ?_, fun v none => by cases none⟩
  rw [Option.toList_none, List.append_nil, List.append_nil]
  exact heard

theorem carries_unanswered (a : Unit) :
    Carries (Heard env s₀ o configs reported requested) (Answered env s₀ o ask configs reported requested) (pure a) :=
  .pure a fun _ heard => heard.unanswered

/-- The driver reports a value, and the policy goes on with it. -/
theorem carries_getActiveConfig {next : UsbErrCode × UInt8 → Manager Unit}
    (failed : ∀ found, found.1 ≠ .uecOk → Keeps (Heard env s₀ o configs reported requested) (next found))
    (answered : ∀ v s, Heard env s₀ o configs (reported ++ [v]) requested s → ∃ configs' added,
      Heard env s₀ o configs' (reported ++ [v]) (requested ++ added) (next (.uecOk, v) s).2 ∧
        (v ≠ 0 → added = requestsAt env ask configs (v - 1).toNat)) :
    Carries (Heard env s₀ o configs reported requested) (Answered env s₀ o ask configs reported requested)
      (getActiveConfig env (s₀.device o).busNum (s₀.device o).devAddr >>= next) := by
  intro s heard
  rw [stateM_bind]
  have found := heard_getActiveConfig_own heard
  revert found
  generalize getActiveConfig env (s₀.device o).busNum (s₀.device o).devAddr s = result
  obtain ⟨⟨ret, v⟩, mid⟩ := result
  intro found
  dsimp only at found ⊢
  by_cases ok : ret = .uecOk
  · rw [ok] at found ⊢
    rw [if_pos rfl] at found
    obtain ⟨configs', added, done, exact'⟩ := answered v mid found
    refine ⟨some v, configs', added, done, fun v' same => ?_⟩
    cases same
    exact exact'
  · rw [if_neg ok, List.append_nil] at found
    exact (failed (ret, v) ok mid found).unanswered

end Heard

/-! ### The three policies -/

/-- What a policy does with one device. -/
def InterfacePolicy.round (env : Env) : InterfacePolicy → Nat → Manager Unit
  | .globalInterface, object => manageGlobalDevice env false object
  | .interfaceType type disable, object =>
    match env.gRows.find? (·.1 = type) with
    | none => pure ()
    | some row => manageInterfaceTypeDevice env row.2 disable object
  | .usbTypeInterface types disable, object => manageUsbTypeInterface env types disable object

section Rounds

variable {env : Env} {s₀ : State} {o : Nat} {configs : List USBConfig} {reported : List UInt8}
  {requested : List InterfaceRequest}

variable (env) in
theorem round_other (policy : InterfacePolicy) {p : Nat} (other : p ≠ o)
    (apart : addressOf (s₀.device p) ≠ addressOf (s₀.device o)) :
    Keeps (Heard env s₀ o configs reported requested) (policy.round env p) := by
  have config : Keeps (Heard env s₀ o configs reported requested)
      (getActiveConfig env (s₀.device p).busNum (s₀.device p).devAddr) := heard_getActiveConfig_other apart
  have interfaces : ∀ v ask, Keeps (Heard env s₀ o configs reported requested) (authorizeActiveConfig env p v ask) :=
    heard_authorizeActiveConfig_other other apart
  have closing : Keeps (Heard env s₀ o configs reported requested)
      (discard (close env (s₀.device p).busNum (s₀.device p).devAddr)) := .discard (heard_close _ _)
  cases policy with
  | globalInterface =>
    refine .get fun s heard => .ite (fun _ => .pure _) fun _ => ?_
    obtain ⟨busNum, devAddr⟩ := Prod.mk.inj (heard.address p)
    rw [busNum, devAddr]
    refine .bind (.discard (heard_usbDeviceAuthorize _ _)) fun _ => .ite (fun _ => .pure _) fun _ => ?_
    refine .bind (heard_openDevice _ _) fun _ => .ite (fun _ => .pure _) fun _ => ?_
    exact .bind config fun _ => .ite (fun _ => closing) fun _ => .bind (interfaces _ _) fun _ => closing
  | interfaceType type disable =>
    simp only [InterfacePolicy.round]
    split
    · exact .pure _
    · refine .get fun s heard => .ite (fun _ => .pure _) fun _ => ?_
      obtain ⟨busNum, devAddr⟩ := Prod.mk.inj (heard.address p)
      rw [busNum, devAddr]
      exact .bind config fun _ => .ite (fun _ => .pure _) fun _ => interfaces _ _
  | usbTypeInterface types disable =>
    refine .get fun s heard => .ite (fun _ => .pure _) fun _ => ?_
    obtain ⟨busNum, devAddr⟩ := Prod.mk.inj (heard.address p)
    rw [busNum, devAddr]
    refine .bind (.discard (heard_openDevice _ _)) fun _ => ?_
    exact .bind config fun _ => .ite (fun _ => closing) fun _ => .bind (interfaces _ _) fun _ => closing

/-- The interfaces of the configuration at the position before the value, and then only calls that do not count. -/
theorem authorizes_own {v : UInt8} {ask : UsbInterface → Option Bool} {s : State} {next : Manager Unit}
    (heard : Heard env s₀ o configs reported requested s)
    (quiet : ∀ configs requested, Keeps (Heard env s₀ o configs reported requested) next) :
    ∃ configs' added, Heard env s₀ o configs' reported (requested ++ added)
        ((authorizeActiveConfig env o v ask >>= fun _ => next) s).2 ∧
      (v ≠ 0 → added = requestsAt env ask configs (v - 1).toNat) := by
  obtain ⟨configs', done⟩ := heard_authorizeActiveConfig_own heard v ask
  exact ⟨configs', _, quiet _ _ _ done, fun _ => rfl⟩

theorem round_own (policy : InterfacePolicy) :
    Carries (Heard env s₀ o configs reported requested)
      (Answered env s₀ o (policy.ask env) configs reported requested) (policy.round env o) := by
  have closing : ∀ configs reported requested, Keeps (Heard env s₀ o configs reported requested)
      (discard (close env (s₀.device o).busNum (s₀.device o).devAddr)) := fun _ _ _ => .discard (heard_close _ _)
  cases policy with
  | globalInterface =>
    refine .get fun s heard => .ite (fun _ => carries_unanswered _) fun _ => ?_
    obtain ⟨busNum, devAddr⟩ := Prod.mk.inj (heard.address o)
    rw [busNum, devAddr]
    refine .after (.discard (heard_usbDeviceAuthorize _ _)) fun _ => .ite (fun disable => by cases disable) fun _ => ?_
    refine .after (heard_openDevice _ _) fun _ => .ite (fun _ => carries_unanswered _) fun _ => ?_
    refine carries_getActiveConfig (fun found failed => ?_) fun v s heard => ?_
    · exact .ite (fun _ => closing _ _ _) fun both => absurd (.inl failed) both
    · dsimp only
      split_ifs with bad
      · have zero : v = 0 := by
          have low : v < 1 := bad.resolve_left (not_not.2 rfl)
          rw [UInt8.lt_iff_toNat_lt] at low
          exact UInt8.toNat_inj.1 (Nat.lt_one_iff.1 low)
        refine ⟨configs, [], ?_, fun nonzero => absurd zero nonzero⟩
        rw [List.append_nil]
        exact closing _ _ _ _ heard
      · exact authorizes_own heard fun _ _ => closing _ _ _
  | interfaceType type disable =>
    simp only [InterfacePolicy.round]
    split
    · exact carries_unanswered _
    · next row found =>
      have asks : InterfacePolicy.ask env (.interfaceType type disable) =
          fun i => if row.2.matches i.klass i.subClass i.protocol then some (!disable) else none := by
        funext i
        rw [InterfacePolicy.ask, found]
      rw [asks]
      refine .get fun s heard => .ite (fun _ => carries_unanswered _) fun _ => ?_
      obtain ⟨busNum, devAddr⟩ := Prod.mk.inj (heard.address o)
      rw [busNum, devAddr]
      refine carries_getActiveConfig (fun found failed => ?_) fun v s heard => ?_
      · exact .ite (fun _ => .pure _) fun ok => absurd failed ok
      · exact authorizes_own heard fun _ _ => .pure ()
  | usbTypeInterface types disable =>
    refine .get fun s heard => .ite (fun _ => carries_unanswered _) fun _ => ?_
    obtain ⟨busNum, devAddr⟩ := Prod.mk.inj (heard.address o)
    rw [busNum, devAddr]
    refine .after (.discard (heard_openDevice _ _)) fun _ => ?_
    refine carries_getActiveConfig (fun found failed => ?_) fun v s heard => ?_
    · exact .ite (fun _ => closing _ _ _) fun ok => absurd failed ok
    · exact authorizes_own heard fun _ _ => closing _ _ _

variable (env) in
/-- A run of a policy answers for each device once. -/
theorem run_answered {s : State} (named : s.Named) (attached : s.Attached o) (policy : InterfacePolicy) :
    Answered env s o (policy.ask env) (s.device o).configs (reports env (addressOf (s.device o)) s.calls)
      (requests (addressOf (s.device o)) s.calls) (policy.run env s).2 := by
  have rounds : (policy.run env s).2 = (s.objects.forM (policy.round env) s).2 := by
    cases policy with
    | globalInterface => rfl
    | interfaceType type disable =>
      have round : InterfacePolicy.round env (.interfaceType type disable) = fun object =>
          InterfacePolicy.round env (.interfaceType type disable) object := rfl
      rw [round]
      simp only [InterfacePolicy.run, manageInterfaceTypeImpl, InterfacePolicy.round]
      cases env.gRows.find? (·.1 = type) with
      | none =>
        have idle : Keeps (· = s) (s.objects.forM fun _ => (pure () : Manager Unit)) := .forM fun _ _ => .pure _
        exact (idle s rfl).symm
      | some row => rfl
    | usbTypeInterface types disable => rfl
  obtain ⟨before, after, split⟩ := List.append_of_mem (State.mem_objects.2 attached)
  have nodup := named.nodup_objects
  have apart : ∀ p ∈ before ++ o :: after, p ≠ o → addressOf (s.device p) ≠ addressOf (s.device o) := by
    intro p member other same
    obtain ⟨busNum, devAddr⟩ := Prod.mk.inj same
    exact other (named.inj (State.mem_objects.1 (split ▸ member)) attached busNum devAddr)
  rw [split, List.nodup_append, List.nodup_cons] at nodup
  have earlier : ∀ p ∈ before, p ≠ o := fun p member => nodup.2.2 p member o (List.mem_cons_self ..)
  have later : ∀ p ∈ after, p ≠ o := by
    rintro p member rfl
    exact nodup.2.1.1 member
  rw [rounds, split, List.forM_eq_forM, List.forM_append, List.forM_cons]
  have start : Heard env s o (s.device o).configs (reports env (addressOf (s.device o)) s.calls)
      (requests (addressOf (s.device o)) s.calls) s := ⟨fun _ => rfl, rfl, rfl, rfl⟩
  have reached := Keeps.forM (fun p member => round_other env policy (earlier p member)
    (apart p (List.mem_append_left _ member) (earlier p member))) s start
  obtain ⟨outcome, configs', added, done, exact'⟩ := round_own policy _ reached
  have rest := Keeps.forM (fun p member => round_other env policy (later p member)
    (apart p (List.mem_append_right _ (List.mem_cons_of_mem _ member)) (later p member))) _ done
  exact ⟨outcome, configs', added, rest, exact'⟩

end Rounds

/-! ## Values and positions -/

def parsedInterface (i : UsbInterface) : UsbInterface := { i with name := "", authorized := true }

def parsedConfig (c : USBConfig) : USBConfig :=
  { c with name := "", interfaces := c.interfaces.map parsedInterface }

/-- The configurations are those that the parser made of the descriptors; names and authorisation came later. -/
def Parsed (d : UsbDevice) : Prop :=
  ∃ descriptor offset, parseConfigDescriptors descriptor offset [] = (.uecOk, d.configs.map parsedConfig)

theorem Parsed.isByte {d : UsbDevice} (parsed : Parsed d) {c : USBConfig} (member : c ∈ d.configs) : IsByte c.id := by
  obtain ⟨descriptor, offset, tree⟩ := parsed
  exact ((bounded_of_parseConfigDescriptors tree).1 _ (List.mem_map_of_mem member)).id

theorem ofInt_eq_iff {value : Int} (byte : IsByte value) {v : UInt8} : UInt8.ofInt value = v ↔ value = v.toNat := by
  obtain ⟨low, high⟩ := byte
  obtain ⟨n, rfl⟩ := Int.eq_ofNat_of_zero_le low
  have small : n < 256 := by omega
  have same : (UInt8.ofNat n).toNat = n := UInt8.toNat_ofNat_of_lt small
  have back := Descriptor.ofInt_toNat (.ofNat n)
  rw [same] at back
  rw [back, Int.ofNat_inj, ← UInt8.toNat_inj, same]

/-- The policy asks for no interface of the configuration. -/
def Untouched (ask : UsbInterface → Option Bool) (c : USBConfig) : Prop := ∀ i ∈ c.interfaces, ask i = none

section Requests

variable {env : Env} {ask : UsbInterface → Option Bool} {configId : UInt8} {interfaces : List UsbInterface}

variable (configId) in
theorem requestsFor_eq_nil (present : env.usbDeviceInterface = true) :
    requestsFor env ask configId interfaces = [] ↔ ∀ i ∈ interfaces, ask i = none := by
  rw [requestsFor, if_pos present, List.filterMap_eq_nil_iff]
  exact forall₂_congr fun _ _ => Option.map_eq_none_iff

theorem configId_of_mem {request : InterfaceRequest} (member : request ∈ requestsFor env ask configId interfaces) :
    request.configId = configId := by
  unfold requestsFor at member
  split_ifs at member
  · obtain ⟨i, -, asked⟩ := List.mem_filterMap.1 member
    obtain ⟨authorized, -, rfl⟩ := Option.map_eq_some_iff.1 asked
    rfl
  · cases member

/-- The requests for two configurations with different values are the same only if there are none. -/
theorem requestsFor_eq_iff (present : env.usbDeviceInterface = true) {configId' : UInt8}
    {interfaces' : List UsbInterface} (different : configId ≠ configId') :
    requestsFor env ask configId interfaces = requestsFor env ask configId' interfaces' ↔
      (∀ i ∈ interfaces, ask i = none) ∧ ∀ i ∈ interfaces', ask i = none := by
  rw [← requestsFor_eq_nil configId present, ← requestsFor_eq_nil configId' present]
  constructor
  · intro same
    have none : requestsFor env ask configId interfaces = [] := by
      apply List.eq_nil_iff_forall_not_mem.2
      intro request member
      have here := configId_of_mem member
      rw [same] at member
      exact different (here.symm.trans (configId_of_mem member))
    exact ⟨none, same.symm.trans none⟩
  · rintro ⟨first, second⟩
    rw [first, second]

end Requests

/-- The configuration with the value `v` is the one at the position before `v`, or the policy asks for neither. -/
def Aligned (env : Env) (ask : UsbInterface → Option Bool) (d : UsbDevice) (v : UInt8) (c : USBConfig) : Prop :=
  env.usbDeviceInterface = false ∨ d.configs[v.toNat - 1]? = some c ∨
    Untouched ask c ∧ ∀ c', d.configs[v.toNat - 1]? = some c' → Untouched ask c'

theorem requestsAt_eq_iff {env : Env} {ask : UsbInterface → Option Bool} {d : UsbDevice} (parsed : Parsed d)
    (distinct : (d.configs.map (·.id)).Nodup) {v : UInt8} {c : USBConfig} (member : c ∈ d.configs)
    (value : c.id = v.toNat) :
    requestsAt env ask d.configs (v.toNat - 1) = requestsFor env ask v c.interfaces ↔ Aligned env ask d v c := by
  have id : UInt8.ofInt c.id = v := (ofInt_eq_iff (parsed.isByte member)).2 value
  by_cases present : env.usbDeviceInterface = true
  · have there : ¬ env.usbDeviceInterface = false := by
      rw [present]
      decide
    rw [Aligned, or_iff_right there, requestsAt]
    cases found : d.configs[v.toNat - 1]? with
    | none =>
      dsimp only
      rw [eq_comm, requestsFor_eq_nil v present]
      refine ⟨fun untouched => .inr ⟨untouched, fun _ other => by cases other⟩, fun either => ?_⟩
      rcases either with other | ⟨untouched, -⟩
      · cases other
      · exact untouched
    | some c' =>
      dsimp only
      by_cases same : c' = c
      · rw [same, id]
        exact iff_of_true rfl (.inl rfl)
      · have inside : c' ∈ d.configs := List.mem_of_getElem? found
        have different : UInt8.ofInt c'.id ≠ v := fun equal =>
          same (List.inj_on_of_nodup_map distinct inside member
            (((ofInt_eq_iff (parsed.isByte inside)).1 equal).trans value.symm))
        rw [requestsFor_eq_iff present different]
        constructor
        · rintro ⟨others, untouched⟩
          refine .inr ⟨untouched, fun c'' is => ?_⟩
          cases is
          exact others
        · rintro (is | ⟨untouched, others⟩)
          · exact absurd (Option.some.inj is) same
          · exact ⟨others c' rfl, untouched⟩
  · rw [Bool.not_eq_true] at present
    refine iff_of_true ?_ (.inl present)
    unfold requestsAt requestsFor
    rw [present]
    split <;> rfl

/-- When the driver reports a value in a run of a policy, the requests for the device are those for the interfaces of
the configuration with this value if and only if the configuration is at the position before the value, or there is
nothing to ask for. -/
theorem interface_policies_active_iff {env : Env} {s : State} (named : s.Named) (policy : InterfacePolicy) {o : Nat}
    (attached : s.Attached o) (parsed : Parsed (s.device o)) (distinct : ((s.device o).configs.map (·.id)).Nodup)
    (nonzero : ∀ c ∈ (s.device o).configs, c.id ≠ 0) {v : UInt8}
    (reported : reports env (addressOf (s.device o)) (policy.run env s).2.calls =
      reports env (addressOf (s.device o)) s.calls ++ [v])
    {c : USBConfig} (member : c ∈ (s.device o).configs) (value : c.id = v.toNat) :
    requests (addressOf (s.device o)) (policy.run env s).2.calls =
        requests (addressOf (s.device o)) s.calls ++ requestsFor env (policy.ask env) v c.interfaces ↔
      Aligned env (policy.ask env) (s.device o) v c := by
  obtain ⟨outcome, configs', added, heard, exact'⟩ := run_answered env named attached policy
  have is : outcome = some v := by
    have once := heard.reports.symm.trans reported
    rw [List.append_right_inj] at once
    cases outcome with
    | none => cases once
    | some w =>
      cases once
      rfl
  have positive : v ≠ 0 := by
    rintro rfl
    exact nonzero c member value
  have position : (v - 1).toNat = v.toNat - 1 := by
    have pos : (1 : UInt8).toNat ≤ v.toNat := Nat.pos_of_ne_zero fun zero => positive (UInt8.toNat_inj.1 zero)
    rw [UInt8.toNat_sub_of_le _ _ (UInt8.le_iff_toNat_le.2 pos)]
    rfl
  rw [heard.requests, List.append_right_inj, exact' v is positive, position]
  exact requestsAt_eq_iff parsed distinct member value

/-! ### A storage device with two configurations -/

section Storage

open Descriptor Framing
open Std (ExtTreeMap)

variable (first second : UInt8)

def pairFrames : List (List UInt8) :=
  [[9, 2, 18, 0, 1, first, 0, 128, 50], [9, 4, 0, 0, 0, 8, 6, 80, 0], [9, 2, 18, 0, 1, second, 0, 128, 50],
    [9, 4, 0, 0, 0, 8, 6, 80, 0]]

def pairTree : List ConfigTree :=
  [⟨⟨first, 0, 128, 50⟩, [⟨⟨0, 0, 8, 6, 80, 0⟩, []⟩]⟩, ⟨⟨second, 0, 128, 50⟩, [⟨⟨0, 0, 8, 6, 80, 0⟩, []⟩]⟩]

/-- The device has two configurations with these values, each with a storage interface. -/
def pairAttached : State where
  host := {
    devices := (∅ : ExtTreeMap String Nat).insert (deviceName 1 2) 0
    heap := fun _ => { busNum := 1, devAddr := 2, baseClass := 0, configs := toConfigs (pairTree first second) }
    allocated := 1 }

theorem pairAttached_named : (pairAttached first second).Named := by
  intro name o found
  simp only [pairAttached, ExtTreeMap.getElem?_insert, Std.LawfulEqCmp.compare_eq_iff_eq] at found
  split_ifs at found with same
  · exact same.symm
  · simp at found

theorem pairAttached_attached : (pairAttached first second).Attached 0 :=
  ⟨deviceName 1 2, by simp [pairAttached]⟩

theorem pairAttached_parsed (o : Nat) : Parsed ((pairAttached first second).device o) := by
  have chain : IsChain (parsedRegion (pairFrames first second).flatten 0) (pairFrames first second) [] := by
    refine ⟨rfl, ?_, .inl (by decide)⟩
    simp [pairFrames, Framed, declaredLength]
  have encodes : Encodes (pairTree first second) (pairFrames first second) := by
    refine ⟨chain.framed, ?_⟩
    have only : (pairFrames first second).filter isTreeDescriptor = pairFrames first second := rfl
    rw [only]
    exact .cons ⟨18, 0, 1, rfl⟩ (.cons ⟨0, rfl⟩ (.cons ⟨18, 0, 1, rfl⟩ (.cons ⟨0, rfl⟩ .nil)))
  exact ⟨(pairFrames first second).flatten, 0,
    (parseConfigDescriptors_frames chain []).trans (parseFrames_encoded encodes)⟩

/-- A driver that agrees to everything and reports this value. -/
def reporting (v : UInt8) : Env where
  answer _ _ := .uecOk
  configIndex _ _ _ := v
  firstAttempt := ({ remote := false, sendRequest := fun _ => (.hdfFailure, []) }, 0)

/-- The interfaces of each configuration. -/
def pairInterfaces : List UsbInterface := [(⟨⟨0, 0, 8, 6, 80, 0⟩, []⟩ : InterfaceTree).toInterface]

/-- The configurations are numbered in their order, and storage is disabled in the second one. -/
theorem interface_policies_active_second :
    requests (1, 2) (InterfacePolicy.run (reporting 2) (.interfaceType .storage true) (pairAttached 1 2)).2.calls =
        [] ++ requestsFor (reporting 2) (InterfacePolicy.ask (reporting 2) (.interfaceType .storage true)) 2
          pairInterfaces ∧
      requests (1, 2) (InterfacePolicy.run (reporting 2) (.interfaceType .storage true) (pairAttached 1 2)).2.calls =
        [⟨2, 0, false⟩] := by
  refine ⟨?_, by decide +kernel⟩
  have address : addressOf ((pairAttached 1 2).device 0) = (1, 2) := rfl
  let c : USBConfig := (⟨⟨2, 0, 128, 50⟩, [⟨⟨0, 0, 8, 6, 80, 0⟩, []⟩]⟩ : ConfigTree).toConfig
  have member : c ∈ ((pairAttached 1 2).device 0).configs := List.mem_of_getElem? (i := 1) rfl
  have interfaces : c.interfaces = pairInterfaces := rfl
  rw [← address, ← interfaces]
  exact (interface_policies_active_iff (v := 2) (pairAttached_named 1 2) (.interfaceType .storage true)
    (pairAttached_attached 1 2) (pairAttached_parsed 1 2 0) (by decide +kernel) (by decide +kernel) (by decide +kernel)
    member rfl).2 (.inr (.inl rfl))

/-- The first configuration has the value 2: when this is the active one, all three policies turn to the interface of
the other one. -/
theorem interface_policies_active_swapped :
    let s := pairAttached 2 1
    s.Named ∧ s.Attached 0 ∧ Parsed (s.device 0) ∧ (s.device 0).configs.map (·.id) = [2, 1] ∧
      ∀ policy ∈ [.globalInterface, .interfaceType .storage true,
          .usbTypeInterface [{ baseClass := 8, subClass := -1, protocol := -1 }] true],
        reports (reporting 2) (1, 2) (InterfacePolicy.run (reporting 2) policy s).2.calls = [2] ∧
        (requests (1, 2) (InterfacePolicy.run (reporting 2) policy s).2.calls).map (·.configId) = [1] ∧
        requests (1, 2) (InterfacePolicy.run (reporting 2) policy s).2.calls ≠
          requestsFor (reporting 2) (policy.ask (reporting 2)) 2 pairInterfaces :=
  ⟨pairAttached_named 2 1, pairAttached_attached 2 1, pairAttached_parsed 2 1 0, by decide +kernel, by decide +kernel⟩

end Storage

end UsbManager.Policy
