import UsbManager.Capi.Memory

/-!
# Refused allocations

The copy of the device list against `Capi/DeviceList`, where allocations always succeed. Each function has
a triple that says what its structure owns afterwards; the loops release what they have built where an
element fails.
-/

namespace UsbManager.Capi.Raw

open Heaplet Heaplet.Assertion

/-- The string, or the empty one in its place if `R` holds: if requests are refused. -/
def Shown (R : Prop) (full text : String) : Prop := text = full ∨ R ∧ text = ""

structure ShownInterface (R : Prop) (full shown : Capi.UsbInterface) : Prop where
  name : Shown R full.name shown.name
  others : shown = { full with name := shown.name }

structure ShownConfig (R : Prop) (full shown : Capi.UsbConfig) : Prop where
  name : Shown R full.name shown.name
  interfaces : List.Forall₂ (ShownInterface R) full.interfaces shown.interfaces
  others : shown = { full with name := shown.name, interfaces := shown.interfaces }

structure ShownDevice (R : Prop) (full shown : Capi.UsbDevice) : Prop where
  name : Shown R full.name shown.name
  manufacturerName : Shown R full.manufacturerName shown.manufacturerName
  productName : Shown R full.productName shown.productName
  version : Shown R full.version shown.version
  configs : List.Forall₂ (ShownConfig R) full.configs shown.configs
  others : shown = { full with
    name := shown.name
    manufacturerName := shown.manufacturerName
    productName := shown.productName
    version := shown.version
    configs := shown.configs }

section Exact

variable {R : Prop}

theorem Shown.exact {full text : String} (shown : Shown R full text) (granted : ¬ R) : text = full :=
  shown.resolve_right fun refused => granted refused.1

theorem forall₂_exact {α : Type} {S : α → α → Prop} (one : ∀ {x y}, S x y → y = x) {xs ys : List α}
    (all : List.Forall₂ S xs ys) : ys = xs := by
  rw [← List.forall₂_eq_eq_eq]
  exact (all.imp fun _ _ related => one related).flip

theorem ShownInterface.exact {full shown : Capi.UsbInterface} (related : ShownInterface R full shown)
    (granted : ¬ R) : shown = full := by
  rw [related.others, related.name.exact granted]

theorem ShownConfig.exact {full shown : Capi.UsbConfig} (related : ShownConfig R full shown)
    (granted : ¬ R) : shown = full := by
  rw [related.others, related.name.exact granted, forall₂_exact (·.exact granted) related.interfaces]

theorem ShownDevice.exact {full shown : Capi.UsbDevice} (related : ShownDevice R full shown)
    (granted : ¬ R) : shown = full := by
  rw [related.others, related.name.exact granted, related.manufacturerName.exact granted,
    related.productName.exact granted, related.version.exact granted,
    forall₂_exact (·.exact granted) related.configs]

end Exact

/-- A success with `φ`, or a refusal. -/
def Outcome (R φ : Prop) (ret : ErrorCode) : Prop :=
  ret = .success ∧ φ ∨ ret = .errorNoMemory ∧ R

variable {A : Allocator Block} {R : Prop}

theorem strdupFromStd_triple (src : String) :
    Triple R emp (strdupFromStd A src) fun t => ex fun text => (lift (Shown R (cStr src) text)).sep (TextAt t text) := by
  refine .bind (.alloc A _) fun dst => .of_either ?_ ?_
  · rintro f rest n r ⟨⟨rfl, refuses⟩, rfl⟩ apart -
    exact ⟨.emptyString, _, n, r, rfl, ⟨"", lift_sep.2 ⟨.inr ⟨refuses, rfl⟩, rfl, rfl⟩⟩, apart⟩
  · rintro f rest n r here apart -
    refine ⟨.block dst, f, n, r, ?_, ⟨cStr src, lift_sep.2 ⟨.inl rfl, here⟩⟩, apart⟩
    rw [if_neg here.1]
    rfl

/-! ## The loops -/

section Loops

variable {α β γ : Type} {v : View Block α} {E : α → γ → Assertion Block} {Rel : β → γ → Prop} {p : Nat}

theorem ArrayAt.null {count : UInt32} {ys : List γ}
    {f : Fragment Block} (here : ArrayAt v E 0 count ys f) : f = Fragment.empty := by
  rcases here with here | ⟨xs, here⟩
  · exact here.2
  · obtain ⟨-, _, _, _, _, ⟨notNull, -⟩, -⟩ := lift_sep.1 here
    exact absurd rfl notNull

theorem arrayAt_null :
    ArrayAt v E 0 0 [] Fragment.empty := .inl ⟨⟨rfl, rfl, rfl⟩, rfl⟩

/-- The array after its loop: released, or with all its values. -/
def Looped (R : Prop) (v : View Block α) (E : α → γ → Assertion Block) (p length : Nat)
    (good : List γ → Prop) (ret : ErrorCode) : Assertion Block :=
  either (lift (ret = .errorNoMemory ∧ R))
    (ex fun cs => ex fun zs => (lift (ret = .success ∧ cs.length = length ∧ good zs)).sep
      ((v.at_ p cs).sep (each E cs zs)))

theorem copyLoop_triple {body : Nat → β → Program Block ErrorCode} {release : UInt32 → Program Block PUnit}
    (one : ∀ (done rest : List α) (x : β), Triple R (v.at_ p (done ++ v.zero :: rest)) (body done.length x) fun ret =>
      ex fun c => ex fun y => (lift (Outcome R (Rel x y) ret)).sep ((v.at_ p (done ++ c :: rest)).sep (E c y)))
    (drop : ∀ {done rest : List α} {count : UInt32} {ys : List γ}, done.length = count.toNat → count ≠ 0 →
      Triple R ((v.at_ p (done ++ rest)).sep (each E done ys)) (release count) fun _ => emp) :
    ∀ (xs : List β) (done : List α) (ys : List γ), done.length + xs.length < UInt32.size →
      Triple R ((v.at_ p (done ++ .replicate xs.length v.zero)).sep (each E done ys))
        (copyLoop body release done.length xs)
        (Looped R v E p (done.length + xs.length) fun zs => ∃ new, zs = ys ++ new ∧ List.Forall₂ Rel xs new)
  | [], done, ys, _ => by
    rw [List.length_nil, List.replicate_zero, List.append_nil]
    exact .pure fun f here => .inr ⟨done, ys, lift_sep.2 ⟨⟨rfl, rfl, [], (List.append_nil ys).symm, .nil⟩, here⟩⟩
  | x :: xs, done, ys, small => by
    refine .of_fact (fun f ⟨_, _, _, _, _, owned⟩ => each_length owned) fun (same : done.length = ys.length) => ?_
    refine .bind ((one done _ x).frame (each E done ys)) fun ret => ?_
    simp only [ex_sep, sep_assoc]
    refine .of_ex fun c => .of_ex fun y => .of_lift fun outcome => ?_
    rw [← each_concat same]
    have split : done ++ c :: List.replicate xs.length v.zero = (done ++ [c]) ++ .replicate xs.length v.zero := by simp
    have grown : (done ++ [c]).length = done.length + 1 := by simp
    rw [split]
    rcases outcome with ⟨rfl, good⟩ | ⟨rfl, refuses⟩
    · have rest := copyLoop_triple one drop xs (done ++ [c]) (ys ++ [y])
        (by rw [List.length_cons] at small; omega)
      rw [grown] at rest
      refine rest.post fun ret f here => here.imp id ?_
      rintro ⟨cs, zs, here⟩
      obtain ⟨⟨won, sized, new, rfl, related⟩, here⟩ := lift_sep.1 here
      have sized' : cs.length = done.length + (x :: xs).length := by
        rw [sized, List.length_cons]
        omega
      exact ⟨cs, _, lift_sep.2 ⟨⟨won, sized', y :: new, by simp, .cons good related⟩, here⟩⟩
    · have counts : (done ++ [c]).length = (UInt32.ofNat (done.length + 1)).toNat := by
        rw [grown, UInt32.toNat_ofNat_of_lt' (by rw [List.length_cons] at small; omega)]
      have some : UInt32.ofNat (done.length + 1) ≠ 0 := by
        intro zero
        rw [grown, zero] at counts
        cases counts
      exact .bind (drop counts some) fun _ => .pure fun f here => .inl ⟨⟨rfl, refuses⟩, here⟩

theorem counted_length {items : List β} : (counted items).length = (UInt32.ofNat items.length).toNat := by
  rw [counted, List.length_take, UInt32.toNat_ofNat', Nat.min_eq_left (Nat.mod_le _ _)]

theorem copyLoop_all {body : Nat → β → Program Block ErrorCode} {release : UInt32 → Program Block PUnit}
    (one : ∀ (done rest : List α) (x : β), Triple R (v.at_ p (done ++ v.zero :: rest)) (body done.length x) fun ret =>
      ex fun c => ex fun y => (lift (Outcome R (Rel x y) ret)).sep ((v.at_ p (done ++ c :: rest)).sep (E c y)))
    (drop : ∀ {done rest : List α} {count : UInt32} {ys : List γ}, done.length = count.toNat → count ≠ 0 →
      Triple R ((v.at_ p (done ++ rest)).sep (each E done ys)) (release count) fun _ => emp) (items : List β) :
    Triple R (v.at_ p (.replicate (counted items).length v.zero)) (copyLoop body release 0 (counted items))
      (Looped R v E p (counted items).length (List.Forall₂ Rel (counted items))) := by
  have small : (counted items).length < UInt32.size := by
    rw [counted_length]
    exact UInt32.toNat_lt _
  have looped := copyLoop_triple one drop (counted items) [] [] (by simpa using small)
  simp only [List.nil_append, List.length_nil, Nat.zero_add, each, sep_emp, exists_eq_left'] at looped
  exact looped

/-- `H q count` is the structure that the array belongs to, with the pointer `q` and the count stored. -/
theorem copyArray_triple {items : List β} {loop : Nat → Program Block ErrorCode}
    {store : Nat → UInt32 → Program Block PUnit} {H : Nat → UInt32 → Assertion Block}
    (stored : ∀ q count, Triple R (H 0 0) (store q count) fun _ => H q count)
    (looped : ∀ p, Triple R (v.at_ p (.replicate (counted items).length v.zero)) (loop p)
      (Looped R v E p (counted items).length (List.Forall₂ Rel (counted items)))) :
    Triple R (H 0 0) (copyArray A v items loop store) fun ret => ex fun q => ex fun count => ex fun ys =>
      (lift (Outcome R (count = .ofNat items.length ∧ List.Forall₂ Rel (counted items) ys) ret)).sep
        ((H q count).sep (ArrayAt v E q count ys)) := by
  rw [counted_length] at looped
  have empty : ∀ f, H 0 0 f → ((H 0 0).sep (ArrayAt v E 0 0 [])) f := by
    intro f here
    rw [← sep_emp (H 0 0)] at here
    exact sep_mono (fun _ => id) (fun _ here => here ▸ arrayAt_null) here
  unfold copyArray
  refine .ite (fun zero => ?_) fun _ => ?_
  · have nil : counted items = [] := by rw [← List.length_eq_zero_iff, counted_length, zero]; rfl
    refine .bind (stored 0 0) fun _ => .pure fun f here => ?_
    exact ⟨0, 0, [], lift_sep.2 ⟨.inl ⟨rfl, zero.symm, nil ▸ .nil⟩, empty f here⟩⟩
  · refine .bind ((v.calloc_triple A _).beside (H 0 0)) fun p => ?_
    rw [either_sep]
    refine .of_either (.of_lift ?_) (.of_fact (fun f ⟨_, _, _, _, there, _⟩ => there.1) fun notNull => ?_)
    · rintro ⟨rfl, refuses⟩
      exact .pure fun f here => ⟨0, 0, [], lift_sep.2 ⟨.inr ⟨rfl, refuses⟩, empty f here⟩⟩
    · rw [if_neg notNull]
      refine .bind ((looped p).frame (H 0 0)) fun ret => ?_
      simp only [Looped, either_sep, ex_sep, sep_assoc]
      refine .of_either (.of_lift ?_) (.of_ex fun cs => .of_ex fun ys => .of_lift ?_)
      · rintro ⟨rfl, refuses⟩
        exact .pure fun f here => ⟨0, 0, [], lift_sep.2 ⟨.inr ⟨rfl, refuses⟩, empty f here⟩⟩
      · rintro ⟨rfl, sized, good⟩
        rw [← sep_assoc, sep_comm _ (H 0 0)]
        refine .bind ((stored p (.ofNat items.length)).frame _) fun _ => .pure fun f here => ?_
        refine ⟨p, .ofNat items.length, ys, lift_sep.2 ⟨.inl ⟨rfl, rfl, good⟩, ?_⟩⟩
        exact sep_mono (fun _ => id) (fun _ here => .inr ⟨cs, lift_sep.2 ⟨sized, here⟩⟩) here

end Loops

theorem copyEndpoints_triple (cppIface : UsbManager.UsbInterface) {p : Nat} {done rest : List UsbInterface}
    {c : UsbInterface} :
    Triple R (interfaceArray.at_ p (done ++ { c with endpoints := 0, endpointCount := 0 } :: rest))
      (copyEndpoints A cppIface p done.length) fun ret => ex fun q => ex fun count => ex fun ys =>
        (lift (Outcome R (count = .ofNat cppIface.endpoints.length ∧
          List.Forall₂ (fun ep y => y = copyEndpoint ep) (counted cppIface.endpoints) ys) ret)).sep
          ((interfaceArray.at_ p (done ++ { c with endpoints := q, endpointCount := count } :: rest)).sep
            (ArrayAt endpointArray EndpointAt q count ys)) := by
  let H q count := interfaceArray.at_ p (done ++ { c with endpoints := q, endpointCount := count } :: rest)
  have stored : ∀ q count, Triple R (H 0 0) (interfaceArray.modify p done.length fun out =>
      { out with endpoints := q, endpointCount := count }) fun _ => H q count := fun _ _ => interfaceArray.modify_next _
  refine copyArray_triple stored fun q => ?_
  let eps := (counted cppIface.endpoints).map copyEndpoint
  have sized : eps.length = (counted cppIface.endpoints).length := List.length_map ..
  have related : List.Forall₂ (fun ep y => y = copyEndpoint ep) (counted cppIface.endpoints) eps :=
    List.forall₂_map_right_iff.2 (List.forall₂_same.2 fun _ _ => rfl)
  have owned : each EndpointAt eps eps = emp := by
    funext f
    exact propext (each_lift.trans (and_iff_right (List.forall₂_same.2 fun _ _ => rfl)))
  rw [← sized]
  refine .bind (endpointArray.fill_triple eps []) fun _ => .pure fun f here => .inr ⟨eps, eps, ?_⟩
  have both : ((endpointArray.at_ q eps).sep (each EndpointAt eps eps)) f := by rwa [owned, sep_emp]
  exact lift_sep.2 ⟨⟨rfl, rfl, related⟩, both⟩

theorem copyInterface_triple {p : Nat} (done rest : List UsbInterface) (x : UsbManager.UsbInterface) :
    Triple R (interfaceArray.at_ p (done ++ interfaceArray.zero :: rest)) (copyInterface A p done.length x) fun ret =>
      ex fun c => ex fun y => (lift (Outcome R (ShownInterface R (Capi.copyInterface x) y) ret)).sep
        ((interfaceArray.at_ p (done ++ c :: rest)).sep (InterfaceAt c y)) := by
  refine .bind ((strdupFromStd_triple x.name).beside _) fun name => ?_
  simp only [ex_sep, sep_assoc]
  refine .of_ex fun text => .of_lift fun shown => ?_
  rw [sep_comm]
  refine .bind ((interfaceArray.modify_next _).frame _) fun _ => ?_
  let c : UsbInterface :=
    { id := .ofInt x.id, protocol := .ofInt x.protocol, clazz := .ofInt x.klass, subClass := .ofInt x.subClass,
      alternateSetting := .ofInt x.alternateSetting, name }
  refine ((copyEndpoints_triple x (c := c)).frame _).post fun ret f here => ?_
  simp only [ex_sep, sep_assoc] at here
  obtain ⟨q, count, ys, here⟩ := here
  obtain ⟨outcome, here⟩ := lift_sep.1 here
  refine ⟨{ c with endpoints := q, endpointCount := count },
    UsbInterface.value { c with endpoints := q, endpointCount := count } text ys, lift_sep.2 ⟨?_, ?_⟩⟩
  · refine outcome.imp (And.imp_right ?_) id
    rintro ⟨rfl, related⟩
    have copied : ys = (counted x.endpoints).map copyEndpoint := by
      rw [← List.forall₂_eq_eq_eq, List.forall₂_map_right_iff]
      exact related.flip
    exact ⟨shown, copied ▸ rfl⟩
  · rw [sep_comm _ (TextAt name text)] at here
    exact sep_mono (fun _ => id) (fun _ here => lift_sep.2 ⟨rfl, here⟩) here

theorem copyInterfaces_triple (cppCfg : USBConfig) {p : Nat} {done rest : List UsbConfig} {c : UsbConfig} :
    Triple R (configArray.at_ p (done ++ { c with interfaces := 0, interfaceCount := 0 } :: rest))
      (copyInterfaces A cppCfg p done.length) fun ret => ex fun q => ex fun count => ex fun ys =>
        (lift (Outcome R (count = .ofNat cppCfg.interfaces.length ∧ List.Forall₂
          (fun i => ShownInterface R (Capi.copyInterface i)) (counted cppCfg.interfaces) ys) ret)).sep
          ((configArray.at_ p (done ++ { c with interfaces := q, interfaceCount := count } :: rest)).sep
            (ArrayAt interfaceArray InterfaceAt q count ys)) := by
  let H q count := configArray.at_ p (done ++ { c with interfaces := q, interfaceCount := count } :: rest)
  have stored : ∀ q count, Triple R (H 0 0) (configArray.modify p done.length fun out =>
      { out with interfaces := q, interfaceCount := count }) fun _ => H q count := fun _ _ => configArray.modify_next _
  exact copyArray_triple stored fun q =>
    copyLoop_all copyInterface_triple (fun sized _ => release_first interface_triple sized) cppCfg.interfaces

theorem copyConfig_triple {p : Nat} (done rest : List UsbConfig) (x : USBConfig) :
    Triple R (configArray.at_ p (done ++ configArray.zero :: rest)) (copyConfig A p done.length x) fun ret =>
      ex fun c => ex fun y => (lift (Outcome R (ShownConfig R (Capi.copyConfig x) y) ret)).sep
        ((configArray.at_ p (done ++ c :: rest)).sep (ConfigAt c y)) := by
  refine .bind ((strdupFromStd_triple x.name).beside _) fun name => ?_
  simp only [ex_sep, sep_assoc]
  refine .of_ex fun text => .of_lift fun shown => ?_
  rw [sep_comm]
  refine .bind ((configArray.modify_next _).frame _) fun _ => ?_
  let c : UsbConfig :=
    { id := .ofInt x.id, attributes := x.attributes.toUInt8, maxPower := .ofInt x.getMaxPower, name,
      isRemoteWakeup := x.isRemoteWakeup, isSelfPowered := x.isSelfPowered }
  refine ((copyInterfaces_triple x (c := c)).frame _).post fun ret f here => ?_
  simp only [ex_sep, sep_assoc] at here
  obtain ⟨q, count, ys, here⟩ := here
  obtain ⟨outcome, here⟩ := lift_sep.1 here
  refine ⟨{ c with interfaces := q, interfaceCount := count },
    UsbConfig.value { c with interfaces := q, interfaceCount := count } text ys, lift_sep.2 ⟨?_, ?_⟩⟩
  · refine outcome.imp (And.imp_right ?_) id
    rintro ⟨rfl, related⟩
    exact ⟨shown, List.forall₂_map_left_iff.2 related, rfl⟩
  · rw [sep_comm _ (TextAt name text)] at here
    exact sep_mono (fun _ => id) (fun _ here => lift_sep.2 ⟨rfl, here⟩) here

theorem copyConfigs_triple (cppDev : UsbManager.UsbDevice) {p : Nat} {done rest : List UsbDevice} {c : UsbDevice} :
    Triple R (deviceArray.at_ p (done ++ { c with configs := 0, configCount := 0 } :: rest))
      (copyConfigs A cppDev p done.length) fun ret => ex fun q => ex fun count => ex fun ys =>
        (lift (Outcome R (count = .ofNat cppDev.configs.length ∧ List.Forall₂
          (fun i => ShownConfig R (Capi.copyConfig i)) (counted cppDev.configs) ys) ret)).sep
          ((deviceArray.at_ p (done ++ { c with configs := q, configCount := count } :: rest)).sep
            (ArrayAt configArray ConfigAt q count ys)) := by
  let H q count := deviceArray.at_ p (done ++ { c with configs := q, configCount := count } :: rest)
  have stored : ∀ q count, Triple R (H 0 0) (deviceArray.modify p done.length fun out =>
      { out with configs := q, configCount := count }) fun _ => H q count := fun _ _ => deviceArray.modify_next _
  exact copyArray_triple stored fun q =>
    copyLoop_all copyConfig_triple (fun sized _ => release_first config_triple sized) cppDev.configs

theorem copyDevice_triple {p : Nat} (done rest : List UsbDevice) (x : UsbManager.UsbDevice) :
    Triple R (deviceArray.at_ p (done ++ deviceArray.zero :: rest)) (copyDevice A p done.length x) fun ret =>
      ex fun c => ex fun y => (lift (Outcome R (ShownDevice R (Capi.copyDevice x) y) ret)).sep
        ((deviceArray.at_ p (done ++ c :: rest)).sep (DeviceAt c y)) := by
  refine .bind ((strdupFromStd_triple x.name).beside _) fun name => ?_
  simp only [ex_sep, sep_assoc]
  refine .of_ex fun nameText => .of_lift fun shownName => ?_
  refine .bind ((strdupFromStd_triple x.manufacturerName).beside _) fun manufacturerName => ?_
  simp only [ex_sep, sep_assoc]
  refine .of_ex fun manufacturerText => .of_lift fun shownManufacturer => ?_
  refine .bind ((strdupFromStd_triple x.productName).beside _) fun productName => ?_
  simp only [ex_sep, sep_assoc]
  refine .of_ex fun productText => .of_lift fun shownProduct => ?_
  refine .bind ((strdupFromStd_triple x.version).beside _) fun version => ?_
  simp only [ex_sep, sep_assoc]
  refine .of_ex fun versionText => .of_lift fun shownVersion => ?_
  let texts := (TextAt name nameText).sep ((TextAt manufacturerName manufacturerText).sep
    ((TextAt productName productText).sep (TextAt version versionText)))
  have order (P : Assertion Block) : (TextAt version versionText).sep ((TextAt productName productText).sep
      ((TextAt manufacturerName manufacturerText).sep ((TextAt name nameText).sep P))) = P.sep texts := by
    simp only [texts]
    ac_rfl
  rw [order]
  refine .bind ((deviceArray.modify_next _).frame _) fun _ => ?_
  let c : UsbDevice :=
    { busNum := x.busNum, devAddress := x.devAddr, name, manufacturerName, productName, version,
      vendorId := .ofInt x.vendorId, productId := .ofInt x.productId, clazz := .ofInt x.baseClass,
      subClass := .ofInt x.subClass, protocol := .ofInt x.protocol }
  refine ((copyConfigs_triple x (c := c)).frame _).post fun ret f here => ?_
  simp only [ex_sep, sep_assoc] at here
  obtain ⟨q, count, ys, here⟩ := here
  obtain ⟨outcome, here⟩ := lift_sep.1 here
  refine ⟨{ c with configs := q, configCount := count },
    UsbDevice.value { c with configs := q, configCount := count } nameText manufacturerText productText versionText ys,
    lift_sep.2 ⟨?_, ?_⟩⟩
  · refine outcome.imp (And.imp_right ?_) id
    rintro ⟨rfl, related⟩
    exact ⟨shownName, shownManufacturer, shownProduct, shownVersion, List.forall₂_map_left_iff.2 related, rfl⟩
  · rw [sep_comm _ texts] at here
    simp only [texts, sep_assoc] at here
    exact sep_mono (fun _ => id) (fun _ here => lift_sep.2 ⟨rfl, here⟩) here

/-! ## The whole call -/

/-- What a caller finds, beside the list of a call whose allocations all succeed. -/
def Answered (R : Prop) (full found : ErrorCode × List Capi.UsbDevice × UInt32) : Prop :=
  found.1 = full.1 ∧ List.Forall₂ (ShownDevice R) full.2.1 found.2.1 ∧ found.2.2 = full.2.2 ∨
    found = (.errorNoMemory, [], 0) ∧ R

structure Returned (R : Prop) (deviceList : List UsbManager.UsbDevice)
    (full : ErrorCode × List Capi.UsbDevice × UInt32) (result : ErrorCode × Nat × UInt32)
    (found : List Capi.UsbDevice) : Prop where
  answered : Answered R full (result.1, found, result.2.2)
  array : result.2.1 = 0 ∨ result.1 = .success ∧ deviceList ≠ [] ∧ result.2.2 = .ofNat deviceList.length

theorem freeDevices_first {p : Nat} {done rest : List UsbDevice} {count : UInt32} {ys : List Capi.UsbDevice}
    (sized : done.length = count.toNat) (some : count ≠ 0) :
    Triple R ((deviceArray.at_ p (done ++ rest)).sep (each DeviceAt done ys)) (freeUsbDeviceList p count)
      fun _ => emp := by
  unfold freeUsbDeviceList
  simp only [some, or_false]
  exact release_first device_triple sized

theorem copyDeviceList_triple (ret : UsbErrCode) (deviceList : List UsbManager.UsbDevice) :
    Triple R emp (copyDeviceList A ret deviceList) fun result => ex fun ys =>
      (lift (Returned R deviceList (Capi.getUsbDeviceList true true ret deviceList) result ys)).sep
        (ArrayAt deviceArray DeviceAt result.2.1 result.2.2 ys) := by
  have given : ¬ (!true || !true) = true := Bool.false_ne_true
  unfold copyDeviceList Capi.getUsbDeviceList
  rw [if_neg given]
  split_ifs with failed nil
  · exact .pure fun _ here => ⟨[], lift_sep.2 ⟨⟨.inl ⟨rfl, .nil, rfl⟩, .inl rfl⟩, here ▸ arrayAt_null⟩⟩
  · exact .pure fun _ here => ⟨[], lift_sep.2 ⟨⟨.inl ⟨rfl, .nil, rfl⟩, .inl rfl⟩, here ▸ arrayAt_null⟩⟩
  · refine .bind (deviceArray.calloc_triple A _) fun arr => .of_either (.of_pure ?_)
      (.of_fact (fun f there => there.1) fun notNull => ?_)
    · rintro ⟨rfl, refuses⟩
      exact .pure fun _ here => ⟨[], lift_sep.2 ⟨⟨.inr ⟨rfl, refuses⟩, .inl rfl⟩, here ▸ arrayAt_null⟩⟩
    · rw [if_neg notNull, ← counted_length]
      have looped := copyLoop_all (p := arr) (copyDevice_triple (A := A) (R := R)) freeDevices_first deviceList
      refine .bind looped fun cfgRet => .of_either (.of_pure ?_) (.of_ex fun cs => .of_ex fun ys => .of_lift ?_)
      · rintro ⟨rfl, refuses⟩
        exact .pure fun _ here => ⟨[], lift_sep.2 ⟨⟨.inr ⟨rfl, refuses⟩, .inl rfl⟩, here ▸ arrayAt_null⟩⟩
      · rintro ⟨rfl, sized, related⟩
        refine .pure fun f here => ⟨ys, lift_sep.2 ⟨⟨?_, .inr ⟨rfl, nil, rfl⟩⟩, ?_⟩⟩
        · exact .inl ⟨rfl, List.forall₂_map_left_iff.2 related, rfl⟩
        · exact .inr ⟨cs, lift_sep.2 ⟨sized.trans counted_length, here⟩⟩

theorem Answered.exact {full found : ErrorCode × List Capi.UsbDevice × UInt32} (answered : Answered R full found)
    (granted : ¬ R) : found = full := by
  rcases answered with ⟨code, list, count⟩ | ⟨-, refuses⟩
  · exact Prod.ext code (Prod.ext (forall₂_exact (·.exact granted) list) count)
  · exact absurd refuses granted

/-- A list that is not returned is not there. -/
theorem Answered.failed {ret : UsbErrCode} {deviceList : List UsbManager.UsbDevice}
    {found : ErrorCode × List Capi.UsbDevice × UInt32}
    (answered : Answered R (Capi.getUsbDeviceList true true ret deviceList) found)
    (failed : found.1 ≠ .success) : found.2.2 = 0 := by
  rcases answered with ⟨code, -, count⟩ | ⟨rfl, -⟩
  · rw [code] at failed
    rw [count]
    have given : ¬ (!true || !true) = true := Bool.false_ne_true
    unfold Capi.getUsbDeviceList at failed ⊢
    rw [if_neg given] at failed ⊢
    split_ifs at failed ⊢
    · rfl
    · rfl
    · exact absurd rfl failed
  · rfl

/-! ### The variables of the caller -/

/-- The caller's variables after a call: untouched, or both set. -/
def Left (R : Prop) (devices : Option Nat) (deviceCount : Option UInt32) (ret : UsbErrCode)
    (deviceList : List UsbManager.UsbDevice) (after : Result) : Assertion Block :=
  either
    (lift ((devices.isNone || deviceCount.isNone) = true ∧ after = (.errorInvalidParameter, devices, deviceCount)))
    (ex fun result => ex fun ys =>
      (lift (((devices.isNone || deviceCount.isNone) = false ∧ after = (result.1, some result.2.1, some result.2.2)) ∧
        Returned R deviceList (Capi.getUsbDeviceList true true ret deviceList) result ys)).sep
        (ArrayAt deviceArray DeviceAt result.2.1 result.2.2 ys))

theorem releaseReturned_missing (code : ErrorCode) : ∀ {devices : Option Nat} {deviceCount : Option UInt32},
    (devices.isNone || deviceCount.isNone) = true → releaseReturned (code, devices, deviceCount) = pure ()
  | none, _, _ => rfl
  | some _, none, _ => rfl
  | some _, some _, missing => absurd missing Bool.false_ne_true

theorem readReturned_missing (code : ErrorCode) : ∀ {devices : Option Nat} {deviceCount : Option UInt32},
    (devices.isNone || deviceCount.isNone) = true →
      readReturned (code, devices, deviceCount) = pure (code, [], 0)
  | none, _, _ => rfl
  | some _, none, _ => rfl
  | some _, some _, missing => absurd missing Bool.false_ne_true

theorem getUsbDeviceList_triple (devices : Option Nat) (deviceCount : Option UInt32) (ret : UsbErrCode)
    (deviceList : List UsbManager.UsbDevice) :
    Triple R emp (getUsbDeviceList A devices deviceCount ret deviceList)
      (Left R devices deviceCount ret deviceList) := by
  unfold getUsbDeviceList
  split_ifs with missing
  · exact .pure fun _ here => .inl ⟨⟨missing, rfl⟩, here⟩
  · refine .bind (copyDeviceList_triple ret deviceList) fun result => .pure fun f ⟨ys, here⟩ => .inr ⟨result, ys, ?_⟩
    obtain ⟨returned, there⟩ := lift_sep.1 here
    exact lift_sep.2 ⟨⟨⟨Bool.eq_false_iff.2 missing, rfl⟩, returned⟩, there⟩

/-- Whichever allocations are refused, a call that fails leaves the blocks of before and no list. -/
theorem getUsbDeviceList_failed (A : Allocator Block) (memory : Heap Block) (devices : Option Nat)
    (deviceCount : Option UInt32) (ret : UsbErrCode) (deviceList : List UsbManager.UsbDevice) :
    ∃ code devices' deviceCount' memory',
      (getUsbDeviceList A devices deviceCount ret deviceList).run memory =
          some ((code, devices', deviceCount'), memory') ∧
        (code ≠ .success → memory'.blocks = memory.blocks ∧
          (devices', deviceCount') =
            if devices.isNone || deviceCount.isNone then (devices, deviceCount) else (some 0, some 0)) := by
  obtain ⟨⟨code, devices', deviceCount'⟩, f, memory', ran, blocks, last⟩ :=
    Triple.ends (fun _ => getUsbDeviceList_triple (A := A) devices deviceCount ret deviceList) memory
  refine ⟨code, devices', deviceCount', memory', ran, fun failed => ?_⟩
  rcases last with ⟨⟨missing, same⟩, nothing⟩ | ⟨⟨code', arr, count⟩, ys, last⟩
  · cases same
    rw [if_pos missing]
    exact ⟨by rw [blocks, nothing, Fragment.empty_union], rfl⟩
  · obtain ⟨⟨⟨given, same⟩, returned⟩, there⟩ := lift_sep.1 last
    cases same
    have null : arr = 0 := returned.array.resolve_right fun won => failed won.1
    have none : count = 0 := returned.answered.failed failed
    have nothing : f = Fragment.empty := (null ▸ there).null
    rw [given, null, none]
    exact ⟨by rw [blocks, nothing, Fragment.empty_union], rfl⟩

/-- The list of a call is released as a whole, and with it what the call has allocated. -/
theorem getUsbDeviceList_released (A : Allocator Block) (memory : Heap Block) (devices : Option Nat)
    (deviceCount : Option UInt32) (ret : UsbErrCode) (deviceList : List UsbManager.UsbDevice)
    (few : deviceList.length < UInt32.size) :
    ∃ memory', (do
      let result ← getUsbDeviceList A devices deviceCount ret deviceList
      releaseReturned result).run memory = some ((), memory') ∧ memory'.blocks = memory.blocks := by
  have triple : ∀ R, Triple R emp (do
      let result ← getUsbDeviceList A devices deviceCount ret deviceList
      releaseReturned result) fun _ => emp := by
    refine fun R => .bind (getUsbDeviceList_triple devices deviceCount ret deviceList) fun after => ?_
    refine .of_either (.of_pure ?_) (.of_ex fun result => .of_ex fun ys => .of_lift ?_)
    · rintro ⟨missing, rfl⟩
      rw [releaseReturned_missing _ missing]
      exact .pure fun _ => id
    · rintro ⟨⟨-, rfl⟩, returned⟩
      refine freeUsbDeviceList_triple fun none => ?_
      rcases returned.array with null | ⟨-, some, count⟩
      · exact null
      · rw [none] at count
        have counted : deviceList.length = 0 := by
          rw [← Nat.mod_eq_of_lt few, ← UInt32.toNat_ofNat', ← count]
          rfl
        exact absurd (List.length_eq_zero_iff.1 counted) some
  obtain ⟨_, f, memory', ran, blocks, rfl⟩ := Triple.ends triple memory
  exact ⟨memory', ran, by rw [blocks, Fragment.empty_union]⟩

/-- The addresses one after the other. -/
def inOrder : Allocator Block where
  answer n blocks := if (blocks (n + 1)).isNone then some (n + 1) else none
  fresh {n blocks p} answered := by
    obtain ⟨free, given⟩ := Option.ite_none_right_eq_some.1 answered
    cases given
    exact ⟨Nat.succ_ne_zero n, Option.isNone_iff_eq_none.1 free⟩

/-- A storage device. -/
def storage : UsbManager.UsbDevice where
  name := "1-1"
  configs := [{ interfaces := [{ endpoints := [{}, {}] }] }]

/-- An address is in use already, so one of the requests is refused. -/
theorem getUsbDeviceList_released_one :
    ∃ memory', (do
      let result ← getUsbDeviceList inOrder (some 7) (some 0) .uecOk [storage, { name := "1-2" }]
      releaseReturned result).run ⟨Fragment.single 3 (.text "in use"), 0, 0⟩ = some ((), memory') ∧
        memory'.blocks = Fragment.single 3 (.text "in use") :=
  getUsbDeviceList_released inOrder ⟨Fragment.single 3 (.text "in use"), 0, 0⟩ (some 7) (some 0) .uecOk
    [storage, { name := "1-2" }] (by decide)

/-- The memory of a call holds the list of `Capi/DeviceList`, but for what was refused in that call. -/
theorem getUsbDeviceList_read (A : Allocator Block) (memory : Heap Block) (devices : Option Nat)
    (deviceCount : Option UInt32) (ret : UsbErrCode) (deviceList : List UsbManager.UsbDevice) :
    ∃ found memory', (do
      let result ← getUsbDeviceList A devices deviceCount ret deviceList
      readReturned result).run memory = some (found, memory') ∧
        Answered (memory.refused < memory'.refused)
          (Capi.getUsbDeviceList devices.isSome deviceCount.isSome ret deviceList) found ∧
        (memory'.refused = memory.refused →
          found = Capi.getUsbDeviceList devices.isSome deviceCount.isSome ret deviceList) := by
  have triple : ∀ R, Triple R emp (do
      let result ← getUsbDeviceList A devices deviceCount ret deviceList
      readReturned result) fun found _ =>
        Answered R (Capi.getUsbDeviceList devices.isSome deviceCount.isSome ret deviceList) found := by
    have arguments : (!devices.isSome || !deviceCount.isSome) = (devices.isNone || deviceCount.isNone) := by
      rw [Option.not_isSome, Option.not_isSome]
    refine fun R => .bind (getUsbDeviceList_triple devices deviceCount ret deviceList) fun after => ?_
    refine .of_either (.of_pure ?_) (.of_ex fun result => .of_ex fun ys => .of_lift ?_)
    · rintro ⟨missing, rfl⟩
      have full : Capi.getUsbDeviceList devices.isSome deviceCount.isSome ret deviceList =
          (.errorInvalidParameter, [], 0) := if_pos (arguments.trans missing)
      rw [readReturned_missing _ missing, full]
      exact .pure fun _ _ => .inl ⟨rfl, .nil, rfl⟩
    · rintro ⟨⟨given, rfl⟩, returned⟩
      obtain ⟨first, second⟩ := Bool.or_eq_false_iff.1 (arguments.trans given)
      rw [Bool.not_eq_false'] at first second
      rw [first, second]
      refine .bind (readDevices_reads _ _ ys) fun list => .of_lift fun same => .pure fun _ _ => ?_
      exact same ▸ returned.answered
  obtain ⟨found, f, memory', ran, -, answered⟩ := Triple.ends triple memory
  exact ⟨found, memory', ran, answered, fun same => answered.exact (by omega)⟩

end UsbManager.Capi.Raw
