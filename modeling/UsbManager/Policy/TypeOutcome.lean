import UsbManager.Policy.Rounds
import UsbManager.Policy.Serial

/-!
# The outcome of a type policy

`ExecuteManageInterfaceType` goes through two tables of types, and through all devices for each row. No two
patterns of a table overlap, so what becomes of a device or of an interface is what the one row says that it
belongs to. When the driver agrees, the outcome depends on no order of a traversal.
-/

namespace UsbManager.Policy

open Host

/-! ## Tables -/

/-- No values belong to both patterns. -/
def TypeValues.apart (p q : TypeValues) : Bool :=
  p.baseClass ≠ q.baseClass ||
    (p.subClass ≠ randomValueIndicate && q.subClass ≠ randomValueIndicate && p.subClass ≠ q.subClass) ||
    (p.protocol ≠ randomValueIndicate && q.protocol ≠ randomValueIndicate && p.protocol ≠ q.protocol)

theorem TypeValues.matches_of_apart {p q : TypeValues} (apart : p.apart q = true) {baseClass subClass protocol : Int}
    (here : p.matches baseClass subClass protocol = true) : q.matches baseClass subClass protocol = false := by
  simp only [TypeValues.apart, Bool.or_eq_true, Bool.and_eq_true, decide_eq_true_eq] at apart
  simp only [TypeValues.matches, Bool.and_eq_true, Bool.or_eq_true, decide_eq_true_eq] at here
  rw [← Bool.not_eq_true]
  simp only [TypeValues.matches, Bool.and_eq_true, Bool.or_eq_true, decide_eq_true_eq]
  omega

/-- The class, the subclass and the protocol. -/
abbrev TypeTriple := Int × Int × Int

def fits (row : TypeRow) (t : TypeTriple) : Bool := row.2.matches t.1 t.2.1 t.2.2

def deviceTriple (d : UsbDevice) : TypeTriple := (d.baseClass, d.subClass, d.protocol)

def interfaceTriple (i : UsbInterface) : TypeTriple := (i.klass, i.subClass, i.protocol)

/-- The rows have different names, and no values belong to two of them. -/
structure Tabulated (map : List TypeRow) : Prop where
  names : (map.map (·.1)).Nodup
  exclusive : Exclusive fits map

theorem tabulated_of_apart {map : List TypeRow} (names : (map.map (·.1)).Nodup)
    (apart : map.Pairwise fun j k => j.2.apart k.2 = true) : Tabulated map :=
  ⟨names, apart.imp fun distinct _ here => TypeValues.matches_of_apart distinct here⟩

theorem Tabulated.perm {map map' : List TypeRow} (tabulated : Tabulated map) (perm : map'.Perm map) : Tabulated map' :=
  ⟨(perm.map _).nodup_iff.2 tabulated.names, tabulated.exclusive.perm perm⟩

theorem dTypeMap_tabulated : Tabulated dTypeMap := tabulated_of_apart (by decide +kernel) (by decide +kernel)

theorem gTypeMap_tabulated : Tabulated gTypeMap := tabulated_of_apart (by decide +kernel) (by decide +kernel)

/-- An entry of the policy selects the pattern. -/
def selected (disableType : List UsbDeviceType) (isDev : Bool) (pattern : TypeValues) : Bool :=
  disableType.any fun type =>
    type.isDeviceType = isDev && pattern.matches type.baseClass type.subClass type.protocol

section Table

variable {map : List TypeRow} {row : TypeRow} {isDev : Bool} {disableType : List UsbDeviceType}

theorem Tabulated.find?_name (tabulated : Tabulated map) (member : row ∈ map) : map.find? (·.1 = row.1) = some row := by
  cases found : map.find? (·.1 = row.1) with
  | none => exact absurd (decide_eq_true rfl) (List.find?_eq_none.1 found row member)
  | some other =>
    have same : other.1 = row.1 := by simpa using List.find?_some found
    rw [List.inj_on_of_nodup_map tabulated.names (List.mem_of_find?_eq_some found) member same]

/-- `FindMatchingTypes` finds the rows that entries of the policy select. -/
theorem Tabulated.mem_findMatchingTypes (tabulated : Tabulated map) (member : row ∈ map) :
    row.1 ∈ findMatchingTypes map isDev disableType ↔ selected disableType isDev row.2 = true := by
  simp only [findMatchingTypes, List.mem_filterMap, selected, List.any_eq_true, Bool.and_eq_true, decide_eq_true_eq]
  refine exists_congr fun type => and_congr_right fun _ => ?_
  constructor
  · intro found
    split_ifs at found with kind
    obtain ⟨other, first, same⟩ := Option.map_eq_some_iff.1 found
    rw [← List.inj_on_of_nodup_map tabulated.names (List.mem_of_find?_eq_some first) member same]
    exact ⟨kind, by simpa using List.find?_some first⟩
  · rintro ⟨kind, here⟩
    have first := find?_of_exclusive tabulated.exclusive member
      (d := (type.baseClass, type.subClass, type.protocol)) here
    rw [if_pos kind, Option.map_eq_some_iff]
    exact ⟨row, first, rfl⟩

end Table

/-! ## Loops in some order of the devices -/

/-- Whether the types of a row are disabled. -/
def execDisable (map : List TypeRow) (isDev : Bool) (disableType : List UsbDeviceType) (disable : Bool)
    (row : TypeRow) : Bool :=
  if row.1 ∈ findMatchingTypes map isDev disableType then disable else !disable

theorem Tabulated.execDisable_eq {map : List TypeRow} (tabulated : Tabulated map) {row : TypeRow} (member : row ∈ map)
    (isDev : Bool) (disableType : List UsbDeviceType) (disable : Bool) :
    execDisable map isDev disableType disable row = (selected disableType isDev row.2 == disable) := by
  have found : row.1 ∈ findMatchingTypes map isDev disableType ↔ selected disableType isDev row.2 = true :=
    tabulated.mem_findMatchingTypes member
  rw [execDisable]
  cases selects : selected disableType isDev row.2 with
  | false => rw [if_neg fun here => Bool.noConfusion (selects.symm.trans (found.1 here)), Bool.false_beq]
  | true => rw [if_pos (found.2 selects), Bool.true_beq]

def openAll (env : Env) (order : List Nat) : Manager Unit :=
  order.forM fun object => do
    let s ← get
    discard (openDevice env (s.device object).busNum (s.device object).devAddr)

def closeAll (env : Env) (order : List Nat) : Manager Unit :=
  order.forM fun object => do
    let s ← get
    discard (close env (s.device object).busNum (s.device object).devAddr)

/-- `ExecuteManageDeviceType`, with the devices in some order. -/
def executeManageDeviceTypeIn (env : Env) (order : List Nat) (disableType : List UsbDeviceType) (disable : Bool)
    (map : List TypeRow) (isDev : Bool) : Manager Unit :=
  map.forM fun row =>
    order.forM
      (if isDev then manageDeviceTypeDevice env row.2 (execDisable map isDev disableType disable row)
        else manageInterfaceTypeDevice env row.2 (execDisable map isDev disableType disable row))

/-- `ExecuteManageInterfaceType`, with the devices in some order. -/
def executeManageInterfaceTypeIn (env : Env) (order : List Nat) (disableType : List UsbDeviceType) (disable : Bool) :
    Manager UsbErrCode := do
  openAll env order
  executeManageDeviceTypeIn env order disableType disable env.dRows true
  executeManageDeviceTypeIn env order disableType disable env.gRows false
  closeAll env order
  pure .uecOk

/-! ### The order of the map -/

section Order

variable {s₀ : State}

theorem forDevices_eq {s : State} (guarded : Guarded s₀ (fun _ => False) s) (body : Nat → Manager Unit) :
    forDevices body s = s₀.objects.forM body s := by
  rw [forDevices, stateM_bind, stateM_get, State.objects, guarded.devices]
  rfl

variable (env : Env) (disableType : List UsbDeviceType) (disable : Bool)

theorem guarded_forDevices {isDev : Bool} (row : TypeRow) (exec : Bool) :
    Keeps (Guarded s₀ fun _ => False)
      (s₀.objects.forM
        (if isDev then manageDeviceTypeDevice env row.2 exec else manageInterfaceTypeDevice env row.2 exec)) := by
  have kept := guarded_kept env s₀ fun _ => False
  refine .forM fun object member => ?_
  cases isDev with
  | true =>
    refine .get fun s here => .ite (fun _ => .pure _) fun _ => .ite (fun _ => ?_) fun _ => .pure _
    refine .bind (kept.openDevice _ _) fun _ => .ite (fun _ => .pure _) fun _ => ?_
    exact .bind (.discard (kept.usbDeviceAuthorize _ _ _ fun _ _ _ => id)) fun _ => .discard (kept.close _ _)
  | false =>
    refine .get fun s here => .ite (fun _ => .pure _) fun _ => ?_
    refine .bind (kept.getActiveConfig _ _) fun found => .ite (fun _ => .pure _) fun _ => ?_
    exact guarded_authorizeActiveConfig _ _ _

/-- Every row is found under its name. -/
theorem executeManageDeviceType_eq {map : List TypeRow} (isDev : Bool)
    (rows : map = if isDev then env.dRows else env.gRows) {s : State} (guarded : Guarded s₀ (fun _ => False) s) :
    executeManageDeviceType env disableType disable map isDev s =
      executeManageDeviceTypeIn env s₀.objects disableType disable map isDev s := by
  refine Keeps.forM_congr (fun row _ => guarded_forDevices env row _) (fun row member s here => ?_) guarded
  cases isDev with
  | true =>
    have found := (dTypeMap_tabulated.perm env.dRows_perm).find?_name (rows ▸ member)
    simp only [if_true, manageDeviceTypeImpl, found]
    exact forDevices_eq here _
  | false =>
    have found := (gTypeMap_tabulated.perm env.gRows_perm).find?_name (rows ▸ member)
    simp only [Bool.false_eq_true, if_false, manageInterfaceTypeImpl, found]
    exact forDevices_eq here _

theorem executeManageInterfaceType_eq (s : State) :
    executeManageInterfaceType env disableType disable s =
      executeManageInterfaceTypeIn env s.objects disableType disable s := by
  have kept := guarded_kept env s fun _ => False
  have start : Guarded s (fun _ => False) s := ⟨rfl, rfl, rfl, fun _ => rfl, fun _ none => none.elim⟩
  have types : ∀ map isDev, Keeps (Guarded s fun _ => False)
      (executeManageDeviceTypeIn env s.objects disableType disable map isDev) := fun _ _ =>
    .forM fun row _ => guarded_forDevices env row _
  have opens : Keeps (Guarded s fun _ => False) (openAll env s.objects) :=
    .forM fun _ _ => .get fun _ _ => .discard (kept.openDevice _ _)
  have closes : Keeps (Guarded s fun _ => False) (closeAll env s.objects) :=
    .forM fun _ _ => .get fun _ _ => .discard (kept.close _ _)
  refine Keeps.bind_congr opens (fun _ here => forDevices_eq here _) (fun _ _ here => ?_) start
  refine Keeps.bind_congr (types env.dRows true) (fun _ here => executeManageDeviceType_eq _ _ _ true rfl here)
    (fun _ _ here => ?_) here
  refine Keeps.bind_congr (types env.gRows false) (fun _ here => executeManageDeviceType_eq _ _ _ false rfl here)
    (fun _ _ here => ?_) here
  exact Keeps.bind_congr closes (fun _ here => forDevices_eq here _) (fun _ _ _ => rfl) here

end Order

section Rounds

variable {env : Env} {s₀ : State} {order : List Nat} {k : Nat → UInt8}

theorem acts_openAll : Acts (Placed s₀) shown (fun _ d => d) (openAll env order) :=
  (Acts.forM (F := fun _ _ d => d) fun _ _ => .get fun _ _ => ⟨_, .discard (acts_callUsbd _), fun _ => rfl⟩).congr
    fun _ _ => List.foldl_fixed ..

theorem acts_closeAll : Acts (Placed s₀) shown (fun _ d => d) (closeAll env order) :=
  (Acts.forM (F := fun _ _ d => d) fun _ _ => .get fun _ _ => ⟨_, .discard (acts_callUsbd _), fun _ => rfl⟩).congr
    fun _ _ => List.foldl_fixed ..

/-- What a round for a row makes of a device. -/
def typeStep (env : Env) (s₀ : State) (disable : Bool) (row : TypeRow) (p : Nat) (d : UsbDevice × List DeviceEvent) :
    UsbDevice × List DeviceEvent :=
  if isExempt env s₀ p = true then d
  else if fits row (deviceTriple d.1) = true then authorizeShown (!disable) d
  else d

/-- What a round for a row makes of the interfaces. -/
def flagStep (k : Nat → UInt8) (disable : Bool) (row : TypeRow) (p : Nat) (d : UsbDevice × List DeviceEvent) :
    UsbDevice × List DeviceEvent :=
  if d.1.baseClass = baseClassHub ∨ d.1.authorizeStatus = .disabled then d
  else flagShown ((k p).toNat - 1) (fun i => if fits row (interfaceTriple i) = true then some (!disable) else none) d

theorem acts_manageDeviceTypeDevice (succeeds : Succeeds env) (named : s₀.Named) {o : Nat} (attached : s₀.Attached o)
    (row : TypeRow) (disable : Bool) :
    Acts (Placed s₀) shown (fun p d => if p = o then typeStep env s₀ disable row p d else d)
      (manageDeviceTypeDevice env row.2 disable o) := by
  refine .visit fun s placed => ?_
  rw [placed.isExempt]
  dsimp only
  rw [placed.busNum, placed.devAddr]
  by_cases exempt : isExempt env s₀ o = true
  · rw [if_pos exempt]
    exact ⟨_, .idle (.pure _), (if_pos exempt).symm⟩
  · rw [if_neg exempt, typeStep, if_neg exempt]
    by_cases type : row.2.matches (s.device o).baseClass (s.device o).subClass (s.device o).protocol = true
    · rw [if_pos type]
      exact ⟨authorizeShown (!disable), .bindOf UsbErrCode.uecOk (acts_callUsbd _)
        (fun s _ => succeeds.openDevice (s₀.device o).busNum (s₀.device o).devAddr s)
        (.bind (.discard (acts_usbDeviceAuthorize succeeds named attached (!disable))) fun _ =>
          .discard (acts_callUsbd _)), (if_pos type).symm⟩
    · rw [if_neg type]
      exact ⟨_, .idle (.pure _), (if_neg type).symm⟩

theorem acts_manageInterfaceTypeDevice (succeeds : Succeeds env) (reports : env.Reports s₀ k) {o : Nat}
    (attached : s₀.Attached o) (row : TypeRow) (disable : Bool) :
    Acts (Placed s₀) shown (fun p d => if p = o then flagStep k disable row p d else d)
      (manageInterfaceTypeDevice env row.2 disable o) := by
  refine .visit fun s placed => ?_
  dsimp only
  rw [placed.busNum, placed.devAddr]
  by_cases skipped : (s.device o).baseClass = baseClassHub ∨ (s.device o).authorizeStatus = .disabled
  · rw [if_pos skipped]
    exact ⟨_, .idle (.pure _), (if_pos skipped).symm⟩
  · rw [if_neg skipped, flagStep, ← reports.position attached]
    exact ⟨flagShown _ _, .bindOf (.uecOk, k o) (acts_getActiveConfig ..)
      (fun s _ => getActiveConfig_eq succeeds reports attached s) (acts_authorizeActiveConfig o (k o) _),
      (if_neg skipped).symm⟩

/-! ### All rows -/

/-- What the table of device types makes of a device. -/
def ruledDevice (env : Env) (s₀ : State) (disableType : List UsbDeviceType) (disable : Bool) (p : Nat)
    (d : UsbDevice × List DeviceEvent) : UsbDevice × List DeviceEvent :=
  if isExempt env s₀ p = true then d
  else
    (dTypeMap.find? (fits · (deviceTriple d.1))).elim d fun row =>
      authorizeShown (selected disableType true row.2 != disable) d

/-- What the table of interface types makes of an interface. -/
def ruledInterface (disableType : List UsbDeviceType) (disable : Bool) (i : UsbInterface) : UsbInterface :=
  (gTypeMap.find? (fits · (interfaceTriple i))).elim i fun row =>
    { i with authorized := selected disableType false row.2 != disable }

def ruledFlags (k : Nat → UInt8) (disableType : List UsbDeviceType) (disable : Bool) (p : Nat)
    (d : UsbDevice × List DeviceEvent) : UsbDevice × List DeviceEvent :=
  if d.1.baseClass = baseClassHub ∨ d.1.authorizeStatus = .disabled then d
  else (mapInterfaces ((k p).toNat - 1) (ruledInterface disableType disable) d.1, d.2)

variable {map : List TypeRow} {disableType : List UsbDeviceType} {disable : Bool}

theorem foldl_typeStep (perm : map.Perm dTypeMap) (p : Nat) (d : UsbDevice × List DeviceEvent) :
    map.foldl (fun d row => typeStep env s₀ (execDisable map true disableType disable row) row p d) d =
      ruledDevice env s₀ disableType disable p d := by
  have tabulated := dTypeMap_tabulated.perm perm
  by_cases exempt : isExempt env s₀ p = true
  · simp only [typeStep, ruledDevice, if_pos exempt]
    exact List.foldl_fixed ..
  · simp only [typeStep, ruledDevice, if_neg exempt]
    rw [foldl_of_exclusive (tabulated.exclusive.comap fun d : UsbDevice × List DeviceEvent => deviceTriple d.1)
      (f := fun row d => authorizeShown (!execDisable map true disableType disable row) d) fun _ _ _ => rfl]
    rw [← find?_perm dTypeMap_tabulated.exclusive perm]
    cases found : map.find? (fits · (deviceTriple d.1)) with
    | none => rfl
    | some row =>
      change authorizeShown (!execDisable map true disableType disable row) d = authorizeShown _ d
      rw [tabulated.execDisable_eq (List.mem_of_find?_eq_some found)]
      rfl

theorem foldl_mapInterfaces (index : Nat) (f : TypeRow → UsbInterface → UsbInterface) (rows : List TypeRow)
    (d : UsbDevice) :
    rows.foldl (fun d row => mapInterfaces index (f row) d) d =
      mapInterfaces index (fun i => rows.foldl (fun i row => f row i) i) d := by
  induction rows generalizing d with
  | nil => exact (mapInterfaces_id index d).symm
  | cons row rows ih => rw [List.foldl_cons, ih, mapInterfaces_mapInterfaces]; rfl

/-- A row sets the flag of an interface that belongs to it. -/
theorem answered_fits (row : TypeRow) (authorized : Bool) (i : UsbInterface) :
    answered (fun i => if fits row (interfaceTriple i) = true then some authorized else none) i =
      if fits row (interfaceTriple i) = true then { i with authorized } else i := by
  rw [answered]
  split_ifs <;> rfl

theorem foldl_answered (perm : map.Perm gTypeMap) (i : UsbInterface) :
    map.foldl (fun i row => answered (fun i => if fits row (interfaceTriple i) = true then
        some (!execDisable map false disableType disable row) else none) i) i =
      ruledInterface disableType disable i := by
  have tabulated := gTypeMap_tabulated.perm perm
  simp only [answered_fits]
  rw [foldl_of_exclusive (tabulated.exclusive.comap interfaceTriple)
    (f := fun row i => { i with authorized := !execDisable map false disableType disable row }) fun _ _ _ => rfl]
  rw [ruledInterface, ← find?_perm gTypeMap_tabulated.exclusive perm]
  cases found : map.find? (fits · (interfaceTriple i)) with
  | none => rfl
  | some row =>
    change { i with authorized := !execDisable map false disableType disable row } = { i with authorized := _ }
    rw [tabulated.execDisable_eq (List.mem_of_find?_eq_some found)]
    rfl

/-- The rounds skip the same devices. -/
theorem foldl_flagStep_eq (exec : TypeRow → Bool) (p : Nat) (rows : List TypeRow) (d : UsbDevice × List DeviceEvent) :
    rows.foldl (fun d row => flagStep k (exec row) row p d) d =
      if d.1.baseClass = baseClassHub ∨ d.1.authorizeStatus = .disabled then d
      else
        (rows.foldl (fun d row => mapInterfaces ((k p).toNat - 1) (answered fun i =>
          if fits row (interfaceTriple i) = true then some (!exec row) else none) d) d.1, d.2) := by
  induction rows generalizing d with
  | nil => exact (ite_self d).symm
  | cons row rows ih =>
    rw [List.foldl_cons, ih]
    by_cases skipped : d.1.baseClass = baseClassHub ∨ d.1.authorizeStatus = .disabled
    · rw [flagStep, if_pos skipped, if_pos skipped, if_pos skipped]
    · rw [flagStep, if_neg skipped, if_neg skipped]
      exact if_neg skipped

theorem foldl_flagStep (perm : map.Perm gTypeMap) (p : Nat) (d : UsbDevice × List DeviceEvent) :
    map.foldl (fun d row => flagStep k (execDisable map false disableType disable row) row p d) d =
      ruledFlags k disableType disable p d := by
  rw [foldl_flagStep_eq, foldl_mapInterfaces, ruledFlags]
  simp only [foldl_answered perm]

variable (disableType disable) in
/-- What the operation makes of a device. -/
theorem acts_executeManageInterfaceTypeIn (succeeds : Succeeds env) (named : s₀.Named) (reports : env.Reports s₀ k)
    (perm : order.Perm s₀.objects) :
    Acts (Placed s₀) shown
      (fun p d => if p ∈ order then ruledFlags k disableType disable p (ruledDevice env s₀ disableType disable p d)
        else d)
      (executeManageInterfaceTypeIn env order disableType disable) := by
  have distinct : order.Nodup := perm.nodup_iff.2 named.nodup_objects
  have inside : ∀ o ∈ order, s₀.Attached o := fun o member => State.mem_objects.1 (perm.mem_iff.1 member)
  have devices := Acts.rounds distinct fun row (_ : row ∈ env.dRows) o member =>
    acts_manageDeviceTypeDevice succeeds named (inside o member) row
      (execDisable env.dRows true disableType disable row)
  have interfaces := Acts.rounds distinct fun row (_ : row ∈ env.gRows) o member =>
    acts_manageInterfaceTypeDevice succeeds reports (inside o member) row
      (execDisable env.gRows false disableType disable row)
  refine (Acts.bind acts_openAll fun _ => .bind devices fun _ => .bind interfaces fun _ =>
    .bind acts_closeAll fun _ => .pure _).congr fun p d => ?_
  by_cases member : p ∈ order
  · simp only [if_pos member, foldl_typeStep env.dRows_perm, foldl_flagStep env.gRows_perm]
  · simp only [if_neg member]

end Rounds

/-! ## The outcome -/

/-- What the operation leaves, where `k` is the active configuration of each device. -/
structure TypeOutcome (env : Env) (disableType : List UsbDeviceType) (disable : Bool) (k : Nat → UInt8) (s s' : State) :
    Prop where
  guarded : Guarded s (fun _ => False) s'
  disabled : ∀ o, s.Attached o → isExempt env s o = false →
    ∀ row ∈ dTypeMap, fits row (deviceTriple (s.device o)) = true →
      ((s'.device o).authorizeStatus = .disabled ↔ selected disableType true row.2 = disable)
  statuses : ∀ o,
    ¬ (s.Attached o ∧ isExempt env s o = false ∧ ∃ row ∈ dTypeMap, fits row (deviceTriple (s.device o)) = true) →
      (s'.device o).authorizeStatus = (s.device o).authorizeStatus
  flagged : ∀ o, s.Attached o → (s.device o).baseClass ≠ baseClassHub → (s'.device o).authorizeStatus ≠ .disabled →
    ∀ position i, interfaceAt (s.device o) ((k o).toNat - 1) position = some i →
      ∀ row ∈ gTypeMap, fits row (interfaceTriple i) = true →
        interfaceAt (s'.device o) ((k o).toNat - 1) position =
          some { i with authorized := selected disableType false row.2 != disable }
  flags : ∀ o index position,
    ¬ (s.Attached o ∧ (s.device o).baseClass ≠ baseClassHub ∧ (s'.device o).authorizeStatus ≠ .disabled ∧
        index = (k o).toNat - 1 ∧ ∃ i, interfaceAt (s.device o) index position = some i ∧
          ∃ row ∈ gTypeMap, fits row (interfaceTriple i) = true) →
      interfaceAt (s'.device o) index position = interfaceAt (s.device o) index position

section Outcome

variable {env : Env} {s : State} {k : Nat → UInt8} {disableType : List UsbDeviceType} {disable : Bool}

theorem ruledDevice_static (o : Nat) (d : UsbDevice × List DeviceEvent) :
    (ruledDevice env s disableType disable o d).1 =
      { d.1 with authorizeStatus := (ruledDevice env s disableType disable o d).1.authorizeStatus } := by
  unfold ruledDevice
  split_ifs
  · rfl
  · cases dTypeMap.find? (fits · (deviceTriple d.1)) <;> rfl

theorem ruledFlags_status (o : Nat) (d : UsbDevice × List DeviceEvent) :
    (ruledFlags k disableType disable o d).1.authorizeStatus = d.1.authorizeStatus := by
  unfold ruledFlags
  split_ifs <;> rfl

theorem interfaceAt_ruledFlags (o : Nat) (d : UsbDevice × List DeviceEvent) (index position : Nat) :
    interfaceAt (ruledFlags k disableType disable o d).1 index position =
      if (d.1.baseClass ≠ baseClassHub ∧ d.1.authorizeStatus ≠ .disabled) ∧ index = (k o).toNat - 1 then
        (interfaceAt d.1 index position).map (ruledInterface disableType disable)
      else interfaceAt d.1 index position := by
  unfold ruledFlags
  by_cases skipped : d.1.baseClass = baseClassHub ∨ d.1.authorizeStatus = .disabled
  · rw [if_pos skipped, if_neg fun both => not_or.2 both.1 skipped]
  · rw [if_neg skipped, interfaceAt_mapInterfaces]
    exact if_congr (and_iff_right (not_or.1 skipped)).symm rfl rfl

/-- The row that decides about a device. -/
theorem ruledDevice_of_fits {o : Nat} (free : isExempt env s o = false) {row : TypeRow} (member : row ∈ dTypeMap)
    {d : UsbDevice × List DeviceEvent} (here : fits row (deviceTriple d.1) = true) :
    ruledDevice env s disableType disable o d = authorizeShown (selected disableType true row.2 != disable) d := by
  rw [ruledDevice, if_neg fun exempt => Bool.noConfusion (free.symm.trans exempt),
    find?_of_exclusive dTypeMap_tabulated.exclusive member here]
  rfl

theorem ruledDevice_of_not_fits {o : Nat} {d : UsbDevice × List DeviceEvent}
    (other : ¬ (isExempt env s o = false ∧ ∃ row ∈ dTypeMap, fits row (deviceTriple d.1) = true)) :
    ruledDevice env s disableType disable o d = d := by
  unfold ruledDevice
  split_ifs with exempt
  · rfl
  · have none : dTypeMap.find? (fits · (deviceTriple d.1)) = none :=
      List.find?_eq_none.2 fun row member here => other ⟨by simpa using exempt, row, member, here⟩
    rw [none]
    rfl

theorem ruledInterface_of_fits {row : TypeRow} (member : row ∈ gTypeMap) {i : UsbInterface}
    (here : fits row (interfaceTriple i) = true) :
    ruledInterface disableType disable i = { i with authorized := selected disableType false row.2 != disable } := by
  rw [ruledInterface, find?_of_exclusive gTypeMap_tabulated.exclusive member here]
  rfl

theorem ruledInterface_of_not_fits {i : UsbInterface}
    (other : ¬ ∃ row ∈ gTypeMap, fits row (interfaceTriple i) = true) :
    ruledInterface disableType disable i = i := by
  have none : gTypeMap.find? (fits · (interfaceTriple i)) = none :=
    List.find?_eq_none.2 fun row member here => other ⟨row, member, here⟩
  rw [ruledInterface, none]
  rfl

/-- Each device is as the two tables leave it. -/
theorem typeOutcome_of_shown {s' : State} (guarded : Guarded s (fun _ => False) s')
    (ruled : ∀ o, shown o s' =
      if o ∈ s.objects then ruledFlags k disableType disable o (ruledDevice env s disableType disable o (shown o s))
      else shown o s) :
    TypeOutcome env disableType disable k s s' := by
  obtain ⟨device, detached⟩ := device_of_shown ruled
  have status : ∀ o, s.Attached o → (s'.device o).authorizeStatus =
      (ruledDevice env s disableType disable o (shown o s)).1.authorizeStatus := fun o attached => by
    rw [device o attached, ruledFlags_status]
  have flag : ∀ o, s.Attached o → ∀ index position, interfaceAt (s'.device o) index position =
      if ((s.device o).baseClass ≠ baseClassHub ∧ (s'.device o).authorizeStatus ≠ .disabled) ∧
          index = (k o).toNat - 1 then
        (interfaceAt (s.device o) index position).map (ruledInterface disableType disable)
      else interfaceAt (s.device o) index position := by
    intro o attached index position
    rw [status o attached, device o attached, interfaceAt_ruledFlags, ruledDevice_static]
    rfl
  refine ⟨guarded, fun o attached free row member here => ?_, fun o other => ?_,
    fun o attached device enabled position i found row member here => ?_, fun o index position other => ?_⟩
  · rw [status o attached, ruledDevice_of_fits free member here]
    exact (settled_disabled_iff _ _).trans bne_eq_false_iff_eq
  · by_cases attached : s.Attached o
    · rw [status o attached, ruledDevice_of_not_fits fun both => other ⟨attached, both⟩]
      rfl
    · rw [detached o attached]
  · rw [flag o attached, if_pos ⟨⟨device, enabled⟩, rfl⟩, found, Option.map_some, ruledInterface_of_fits member here]
  · by_cases attached : s.Attached o
    · rw [flag o attached]
      split_ifs with changed
      · cases found : interfaceAt (s.device o) index position with
        | none => rfl
        | some i =>
          have untouched : ¬ ∃ row ∈ gTypeMap, fits row (interfaceTriple i) = true := fun some =>
            other ⟨attached, changed.1.1, changed.1.2, changed.2, i, found, some⟩
          rw [Option.map_some, ruledInterface_of_not_fits untouched]
      · rfl
    · rw [detached o attached]

end Outcome

/-- With a driver that agrees and reports an active configuration, a type policy settles the devices and interfaces
that rows of the tables describe, by what the policy selects; no order of a traversal matters. -/
theorem type_policy_outcome {env : Env} (succeeds : Succeeds env) {s : State} (named : s.Named) {k : Nat → UInt8}
    (reports : env.Reports s k) (disableType : List UsbDeviceType) (disable : Bool) :
    let s' := (executeManageInterfaceType env disableType disable s).2
    TypeOutcome env disableType disable k s s' ∧
      executeManageInterfaceType env disableType disable s =
        executeManageInterfaceTypeIn env s.objects disableType disable s ∧
      ∀ env' : Env, Succeeds env' → env'.Reports s k → env'.isUsbSerialDisable = env.isUsbSerialDisable →
        ∀ order, order.Perm s.objects →
          let s'' := (executeManageInterfaceTypeIn env' order disableType disable s).2
          s''.host.devices = s'.host.devices ∧ s''.host.heap = s'.host.heap ∧
            s''.host.published.Perm s'.host.published := by
  intro s'
  have inOrder := executeManageInterfaceType_eq env disableType disable s
  have start : Guarded s (fun _ => False) s := ⟨rfl, rfl, rfl, fun _ => rfl, fun _ none => none.elim⟩
  have guarded : Guarded s (fun _ => False) s' :=
    (guarded_kept env s fun _ => False).executeManageInterfaceType (fun _ _ _ _ _ _ _ _ _ => id) disableType disable s
      start
  have ruled : ∀ o, shown o s' =
      if o ∈ s.objects then ruledFlags k disableType disable o (ruledDevice env s disableType disable o (shown o s))
      else shown o s := by
    intro o
    have acts := acts_executeManageInterfaceTypeIn disableType disable succeeds named reports (List.Perm.refl s.objects)
    rw [← acts.acts s (.refl s) o, ← inOrder]
  refine ⟨typeOutcome_of_shown guarded ruled, inOrder, fun env' succeeds' reports' serial order perm => ?_⟩
  have acts' := acts_executeManageInterfaceTypeIn disableType disable succeeds' named reports' perm
  have same : ∀ o, shown o (executeManageInterfaceTypeIn env' order disableType disable s).2 = shown o s' := by
    intro o
    have exempt : ∀ p, isExempt env' s p = isExempt env s p := fun p => by rw [isExempt, serial, isExempt]
    rw [acts'.acts s (.refl s) o, ruled o]
    simp only [perm.mem_iff, ruledDevice, exempt]
  have devices := (acts'.keeps s (.refl s)).devices.trans guarded.devices.symm
  exact ⟨devices, funext fun o => congrArg Prod.fst (same o), published_perm fun o => congrArg Prod.snd (same o)⟩

/-- A storage interface of a device that stays enabled. -/
theorem type_policy_outcome_storage :
    let s' := (executeManageInterfaceType (driver .uecOk) [{ baseClass := 8 }] true storageAttached).2
    TypeOutcome (driver .uecOk) [{ baseClass := 8 }] true (fun _ => 1) storageAttached s' ∧
      (s'.device 0).authorizeStatus = .enabled ∧
      (s'.device 0).configs.map (·.interfaces.map (·.authorized)) = [[false]] := by
  have succeeds : Succeeds (driver .uecOk) := ⟨rfl, rfl, fun _ call => by cases call <;> rfl⟩
  have reports : (driver .uecOk).Reports storageAttached fun _ => 1 := ⟨fun _ _ _ => rfl, fun _ _ => by decide⟩
  exact ⟨(type_policy_outcome succeeds storageAttached_fresh.named reports [{ baseClass := 8 }] true).1,
    by decide +kernel, by decide +kernel⟩

end UsbManager.Policy
