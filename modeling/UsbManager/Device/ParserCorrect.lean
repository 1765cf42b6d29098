import UsbManager.Device.Descriptors

/-!
# The parser against descriptor trees

The cursor loop is a fold over the frames of the buffer, one frame adds one node, and the nodes of a
tree build that tree. Both directions of the correctness of `ParseConfigDescriptors` follow: it
returns the encoded tree, and it fails exactly at the first descriptor that cannot follow.
-/

namespace UsbManager.Descriptor

open Framing

/-! ### One frame -/

/-- What a descriptor of the tree adds. -/
def addNode : Node → List USBConfig → Parsed
  | .config f, configs =>
    addConfig configs ⟨9, 2, 0, 0, f.bConfigurationValue, f.iConfiguration, f.bmAttributes, f.bMaxPower⟩
  | .interface f, configs => addInterface configs ⟨9, 4, f.bInterfaceNumber, f.bAlternateSetting, 0, f.bInterfaceClass,
      f.bInterfaceSubClass, f.bInterfaceProtocol, f.iInterface⟩
  | .endpoint f, configs =>
    addEndpoint configs ⟨7, 5, f.bEndpointAddress, f.bmAttributes, f.wMaxPacketSize, f.bInterval⟩

theorem addDescriptor_of_encodes {node : Node} {frame : List UInt8} (configs : List USBConfig)
    (encodes : EncodesNode node frame) : addDescriptor frame configs = addNode node configs := by
  cases node with
  | config f =>
    obtain ⟨low, high, count, rfl⟩ := encodes
    rfl
  | interface f =>
    obtain ⟨count, rfl⟩ := encodes
    rfl
  | endpoint f =>
    obtain ⟨low, high, size, rfl | ⟨refresh, synch, rfl⟩⟩ := encodes
    · simp only [addNode, ← size]
      rfl
    · simp only [addNode, ← size]
      rfl

theorem addDescriptor_other {frame : List UInt8} (configs : List USBConfig) (other : isTreeDescriptor frame = false) :
    addDescriptor frame configs = (.uecOk, configs) := by
  simp only [isTreeDescriptor, descriptorType, Bool.or_eq_false_iff, beq_eq_false_iff_ne] at other
  obtain ⟨⟨notConfig, notInterface⟩, notEndpoint⟩ := other
  unfold addDescriptor
  exact (if_neg notConfig).trans ((if_neg notInterface).trans (if_neg notEndpoint))

theorem addDescriptor_wrongSize {frame : List UInt8} (configs : List USBConfig) (framed : Framed frame)
    (wrong : WrongSize frame) : addDescriptor frame configs = (.uecServiceInvalidValue, configs) := by
  have size : ∀ n : UInt8, byteAt frame 0 = n → frame.length = n.toNat := by
    intro n same
    rw [← framed.2, ← same]
    rfl
  unfold addDescriptor
  rcases wrong with ⟨type, nine⟩ | ⟨type, nine⟩ | ⟨type, seven, nine⟩
  · have type : byteAt frame 1 = descriptorTypeConfig := type
    have size : byteAt frame 0 ≠ 9 := fun same => nine (size 9 same)
    exact (if_pos type).trans (if_pos size)
  · have type : byteAt frame 1 = descriptorTypeInterface := type
    have notConfig : byteAt frame 1 ≠ descriptorTypeConfig := by
      rw [type]
      decide
    have size : byteAt frame 0 ≠ 9 := fun same => nine (size 9 same)
    exact (if_neg notConfig).trans ((if_pos type).trans (if_pos size))
  · have type : byteAt frame 1 = descriptorTypeEndpoint := type
    have notConfig : byteAt frame 1 ≠ descriptorTypeConfig := by
      rw [type]
      decide
    have notInterface : byteAt frame 1 ≠ descriptorTypeInterface := by
      rw [type]
      decide
    have size : byteAt frame 0 ≠ 7 ∧ byteAt frame 0 ≠ 9 :=
      ⟨fun same => seven (size 7 same), fun same => nine (size 9 same)⟩
    exact (if_neg notConfig).trans ((if_neg notInterface).trans ((if_pos type).trans (if_pos size)))

theorem eq_map_byteAt (frame : List UInt8) : frame = (List.range frame.length).map (byteAt frame) := by
  apply List.ext_getElem
  · simp
  · intro i left right
    simp [byteAt, left]

theorem byteAt_zero {frame : List UInt8} (framed : Framed frame) : byteAt frame 0 = UInt8.ofNat frame.length := by
  rw [← framed.2]
  exact UInt8.ofNat_toNat.symm

def Node.type : Node → UInt8
  | .config _ => descriptorTypeConfig
  | .interface _ => descriptorTypeInterface
  | .endpoint _ => descriptorTypeEndpoint

/-- A frame of a tree type and of the right size is the descriptor of some node of its type. -/
theorem exists_node {frame : List UInt8} (framed : Framed frame) (isTree : isTreeDescriptor frame = true)
    (right : ¬ WrongSize frame) : ∃ node, EncodesNode node frame ∧ descriptorType frame = node.type := by
  simp only [WrongSize, not_or, not_and, not_not] at right
  obtain ⟨config, interface, endpoint⟩ := right
  simp only [isTreeDescriptor, Bool.or_eq_true, beq_iff_eq] at isTree
  have bytes := eq_map_byteAt frame
  have size := byteAt_zero framed
  rcases isTree with (type | type) | type
  · rw [config type] at bytes size
    refine ⟨.config ⟨byteAt frame 5, byteAt frame 6, byteAt frame 7, byteAt frame 8⟩, ?_, type⟩
    refine ⟨byteAt frame 2, byteAt frame 3, byteAt frame 4, bytes.trans ?_⟩
    simp only [descriptorType] at type
    simp [List.range_succ, size, type, descriptorTypeConfig]
  · rw [interface type] at bytes size
    refine ⟨.interface ⟨byteAt frame 2, byteAt frame 3, byteAt frame 5, byteAt frame 6, byteAt frame 7,
      byteAt frame 8⟩, ?_, type⟩
    refine ⟨byteAt frame 4, bytes.trans ?_⟩
    simp only [descriptorType] at type
    simp [List.range_succ, size, type, descriptorTypeInterface]
  · refine ⟨.endpoint ⟨byteAt frame 2, byteAt frame 3, word (byteAt frame 4) (byteAt frame 5), byteAt frame 6⟩, ?_,
      type⟩
    refine ⟨byteAt frame 4, byteAt frame 5, rfl, ?_⟩
    have endpoint := endpoint type
    simp only [descriptorType] at type
    by_cases seven : frame.length = 7
    · rw [seven] at bytes size
      left
      apply bytes.trans
      simp [List.range_succ, size, type, descriptorTypeEndpoint]
    · have nine : frame.length = 9 := endpoint seven
      rw [nine] at bytes size
      right
      refine ⟨byteAt frame 7, byteAt frame 8, bytes.trans ?_⟩
      simp [List.range_succ, size, type, descriptorTypeEndpoint]

/-! ### A descriptor read from the front of the buffer -/

section Front

variable {frame : List UInt8} (rest : List UInt8)

theorem byteAt_append {k : Nat} (inside : k < frame.length) : byteAt (frame ++ rest) k = byteAt frame k :=
  List.getD_append frame rest 0 k inside

theorem configDescriptor_append (nine : 9 ≤ frame.length) :
    UsbdConfigDescriptor.read (frame ++ rest) = UsbdConfigDescriptor.read frame := by
  simp (disch := omega) only [UsbdConfigDescriptor.read, byteAt_append]

theorem interfaceDescriptor_append (nine : 9 ≤ frame.length) :
    UsbdInterfaceDescriptor.read (frame ++ rest) = UsbdInterfaceDescriptor.read frame := by
  simp (disch := omega) only [UsbdInterfaceDescriptor.read, byteAt_append]

theorem endpointDescriptor_append (seven : 7 ≤ frame.length) :
    UsbdEndpointDescriptor.read (frame ++ rest) = UsbdEndpointDescriptor.read frame := by
  simp (disch := omega) only [UsbdEndpointDescriptor.read, byteAt_append]

/-- Only the bytes of the descriptor itself are read. -/
theorem addDescriptor_append (configs : List USBConfig) (framed : Framed frame) :
    addDescriptor (frame ++ rest) configs = addDescriptor frame configs := by
  have two := framed.1
  have size : ∀ n : UInt8, byteAt frame 0 = n → frame.length = n.toNat := by
    intro n same
    rw [← framed.2, ← same]
    rfl
  have header : UsbdDescriptorHeader.read (frame ++ rest) = UsbdDescriptorHeader.read frame := by
    simp (disch := omega) only [UsbdDescriptorHeader.read, byteAt_append]
  unfold addDescriptor
  rw [header]
  dsimp only
  split_ifs with config nine interface nine endpoint seven
  · rfl
  · have nine : frame.length = 9 := size 9 (not_not.1 nine)
    rw [configDescriptor_append rest (by omega)]
  · rfl
  · have nine : frame.length = 9 := size 9 (not_not.1 nine)
    rw [interfaceDescriptor_append rest (by omega)]
  · rfl
  · have seven : 7 ≤ frame.length := by
      by_cases same : byteAt frame 0 = 7
      · have seven : frame.length = 7 := size 7 same
        omega
      · have nine : frame.length = 9 := size 9 (not_not.1 fun other => seven ⟨same, other⟩)
        omega
    rw [endpointDescriptor_append rest seven]
  · rfl

end Front

/-! ### One node -/

section Step

variable (pre : List ConfigTree)

theorem toConfigs_append (tree : List ConfigTree) : toConfigs (pre ++ tree) = toConfigs pre ++ toConfigs tree :=
  List.map_append

theorem nodes_append (tree : List ConfigTree) : nodes (pre ++ tree) = nodes pre ++ nodes tree :=
  List.flatMap_append

theorem addNode_config (f : ConfigFields) :
    addNode (.config f) (toConfigs pre) = (.uecOk, toConfigs (pre ++ [⟨f, []⟩])) := by
  rw [toConfigs_append]
  rfl

theorem addNode_interface (c : ConfigFields) (interfaces : List InterfaceTree) (f : InterfaceFields) :
    addNode (.interface f) (toConfigs (pre ++ [⟨c, interfaces⟩])) =
      (.uecOk, toConfigs (pre ++ [⟨c, interfaces ++ [⟨f, []⟩]⟩])) := by
  simp [toConfigs, addNode, addInterface, ConfigTree.toConfig, InterfaceTree.toInterface]

theorem ofInt_toNat (n : UInt8) : UInt8.ofInt n.toNat = n := by
  have small := n.toNat_lt
  have same : ((n.toNat : Int) % 2 ^ 8).toNat = n.toNat := by omega
  rw [UInt8.ofInt, same, UInt8.ofNat_toNat]

theorem addNode_endpoint (c : ConfigFields) (interfaces : List InterfaceTree) (i : InterfaceFields)
    (endpoints : List EndpointFields) (f : EndpointFields) :
    addNode (.endpoint f) (toConfigs (pre ++ [⟨c, interfaces ++ [⟨i, endpoints⟩]⟩])) =
      (.uecOk, toConfigs (pre ++ [⟨c, interfaces ++ [⟨i, endpoints ++ [f]⟩]⟩])) := by
  simp [toConfigs, addNode, addEndpoint, ConfigTree.toConfig, InterfaceTree.toInterface, EndpointFields.toEndpoint,
    ofInt_toNat]

end Step

/-! ### The nodes of a tree build the tree -/

/-- Stop at the first failure. -/
def foldParsed {α : Type} (add : α → List USBConfig → Parsed) : List α → List USBConfig → Parsed
  | [], configs => (.uecOk, configs)
  | item :: items, configs =>
    if (add item configs).1 ≠ .uecOk then add item configs else foldParsed add items (add item configs).2

section Fold

variable {α : Type} {add : α → List USBConfig → Parsed} {configs after : List USBConfig}

theorem foldParsed_cons_ok {item : α} (items : List α) (ok : add item configs = (.uecOk, after)) :
    foldParsed add (item :: items) configs = foldParsed add items after := by
  simp [foldParsed, ok]

theorem foldParsed_cons_invalid {item : α} (items : List α) (bad : (add item configs).1 = .uecServiceInvalidValue) :
    (foldParsed add (item :: items) configs).1 = .uecServiceInvalidValue := by
  simp [foldParsed, bad]

theorem foldParsed_append {items : List α} (more : List α) (ok : foldParsed add items configs = (.uecOk, after)) :
    foldParsed add (items ++ more) configs = foldParsed add more after := by
  induction items generalizing configs with
  | nil =>
    obtain rfl : configs = after := (Prod.mk.inj ok).2
    rfl
  | cons item items ih =>
    rcases first : add item configs with ⟨ret, next⟩
    by_cases fine : ret = .uecOk
    · subst fine
      rw [foldParsed_cons_ok items first] at ok
      rw [List.cons_append, foldParsed_cons_ok _ first, ih ok]
    · simp [foldParsed, first, fine] at ok

end Fold

def addNodes (ns : List Node) (configs : List USBConfig) : Parsed :=
  foldParsed addNode ns configs

theorem addNodes_endpoints (pre : List ConfigTree) (c : ConfigFields) (interfaces : List InterfaceTree)
    (i : InterfaceFields) (before endpoints : List EndpointFields) :
    addNodes (endpoints.map .endpoint) (toConfigs (pre ++ [⟨c, interfaces ++ [⟨i, before⟩]⟩])) =
      (.uecOk, toConfigs (pre ++ [⟨c, interfaces ++ [⟨i, before ++ endpoints⟩]⟩])) := by
  induction endpoints generalizing before with
  | nil =>
    rw [List.append_nil]
    rfl
  | cons endpoint endpoints ih =>
    rw [addNodes, List.map_cons, foldParsed_cons_ok _ (addNode_endpoint pre c interfaces i before endpoint)]
    have rest := ih (before ++ [endpoint])
    rw [List.append_assoc] at rest
    exact rest

theorem addNodes_interfaces (pre : List ConfigTree) (c : ConfigFields) (before interfaces : List InterfaceTree) :
    addNodes (interfaces.flatMap InterfaceTree.nodes) (toConfigs (pre ++ [⟨c, before⟩])) =
      (.uecOk, toConfigs (pre ++ [⟨c, before ++ interfaces⟩])) := by
  induction interfaces generalizing before with
  | nil =>
    rw [List.append_nil]
    rfl
  | cons interface interfaces ih =>
    rw [List.flatMap_cons, InterfaceTree.nodes, List.cons_append, addNodes,
      foldParsed_cons_ok _ (addNode_interface pre c before interface.fields),
      foldParsed_append _ (addNodes_endpoints pre c before interface.fields [] interface.endpoints)]
    have rest := ih (before ++ [interface])
    rw [List.append_assoc] at rest
    exact rest

theorem addNodes_tree (pre tree : List ConfigTree) :
    addNodes (nodes tree) (toConfigs pre) = (.uecOk, toConfigs (pre ++ tree)) := by
  induction tree generalizing pre with
  | nil =>
    rw [List.append_nil]
    rfl
  | cons config tree ih =>
    rw [nodes, List.flatMap_cons, ConfigTree.nodes, List.cons_append, addNodes,
      foldParsed_cons_ok _ (addNode_config pre config.fields),
      foldParsed_append _ (addNodes_interfaces pre config.fields [] config.interfaces)]
    have rest := ih (pre ++ [config])
    rw [List.append_assoc] at rest
    exact rest

/-! ### The frames of a buffer -/

theorem addDescriptor_of_offends {tree : List ConfigTree} {frame : List UInt8} (framed : Framed frame)
    (offends : Offends tree frame) : (addDescriptor frame (toConfigs tree)).1 = .uecServiceInvalidValue := by
  by_cases wrong : WrongSize frame
  · rw [addDescriptor_wrongSize _ framed wrong]
  · rcases offends with other | ⟨type, empty⟩ | ⟨type, childless⟩
    · exact absurd other wrong
    · obtain ⟨node, encodes, same⟩ := exists_node framed (by simp [isTreeDescriptor, type]) wrong
      rw [addDescriptor_of_encodes _ encodes, empty]
      rw [type] at same
      cases node with
      | interface f => rfl
      | config f => exact absurd same (show descriptorTypeInterface ≠ descriptorTypeConfig by decide)
      | endpoint f => exact absurd same (show descriptorTypeInterface ≠ descriptorTypeEndpoint by decide)
    · obtain ⟨node, encodes, same⟩ := exists_node framed (by simp [isTreeDescriptor, type]) wrong
      rw [addDescriptor_of_encodes _ encodes]
      rw [type] at same
      cases node with
      | config f => exact absurd same (show descriptorTypeEndpoint ≠ descriptorTypeConfig by decide)
      | interface f => exact absurd same (show descriptorTypeEndpoint ≠ descriptorTypeInterface by decide)
      | endpoint f =>
        rcases List.eq_nil_or_concat' tree with rfl | ⟨init, config, rfl⟩
        · rfl
        · have none : config.interfaces = [] := childless config (by simp)
          simp [addNode, addEndpoint, toConfigs, ConfigTree.toConfig, none]

/-- A descriptor that does not offend becomes the next node of the tree. -/
theorem addDescriptor_of_not_offends {tree : List ConfigTree} {frame : List UInt8} (framed : Framed frame)
    (isTree : isTreeDescriptor frame = true) (fits : ¬ Offends tree frame) :
    ∃ node tree', EncodesNode node frame ∧ nodes tree' = nodes tree ++ [node] ∧
      addDescriptor frame (toConfigs tree) = (.uecOk, toConfigs tree') := by
  obtain ⟨right, parent, grandparent⟩ : ¬ WrongSize frame ∧ _ ∧ _ := by
    simpa only [Offends, not_or] using fits
  obtain ⟨node, encodes, type⟩ := exists_node framed isTree right
  rw [addDescriptor_of_encodes _ encodes]
  refine ⟨node, ?_⟩
  cases node with
  | config f =>
    refine ⟨tree ++ [⟨f, []⟩], encodes, ?_, addNode_config tree f⟩
    rw [nodes_append]
    rfl
  | interface f =>
    have nonempty : tree ≠ [] := fun empty => parent ⟨type, empty⟩
    obtain ⟨init, ⟨c, interfaces⟩, rfl⟩ := List.eq_nil_or_concat' tree |>.resolve_left nonempty
    refine ⟨init ++ [⟨c, interfaces ++ [⟨f, []⟩]⟩], encodes, ?_, addNode_interface init c interfaces f⟩
    simp [nodes, ConfigTree.nodes, InterfaceTree.nodes]
  | endpoint f =>
    obtain ⟨config, last, some⟩ : ∃ config, tree.getLast? = some config ∧ config.interfaces ≠ [] := by
      by_contra none
      simp only [not_exists, not_and, not_not] at none
      exact grandparent ⟨type, none⟩
    obtain ⟨init, rfl⟩ : ∃ init, tree = init ++ [config] := ⟨tree.dropLast, (List.dropLast_append_getLast? _ last).symm⟩
    obtain ⟨c, interfaces⟩ := config
    obtain ⟨before, ⟨i, endpoints⟩, rfl⟩ := List.eq_nil_or_concat' interfaces |>.resolve_left some
    refine ⟨init ++ [⟨c, before ++ [⟨i, endpoints ++ [f]⟩]⟩], encodes, ?_, addNode_endpoint init c before i endpoints f⟩
    simp [nodes, ConfigTree.nodes, InterfaceTree.nodes]

def parseFrames (frames : List (List UInt8)) (configs : List USBConfig) : Parsed :=
  foldParsed addDescriptor frames configs

theorem parseFrames_eq_addNodes {ns : List Node} {frames : List (List UInt8)} (configs : List USBConfig)
    (encodes : List.Forall₂ EncodesNode ns (frames.filter isTreeDescriptor)) :
    parseFrames frames configs = addNodes ns configs := by
  induction frames generalizing ns configs with
  | nil =>
    cases encodes
    rfl
  | cons frame frames ih =>
    by_cases isTree : isTreeDescriptor frame = true
    · rw [List.filter_cons_of_pos isTree] at encodes
      cases encodes with
      | cons first rest =>
        simp only [parseFrames, addNodes, foldParsed, addDescriptor_of_encodes _ first]
        split_ifs
        · rfl
        · exact ih _ rest
    · rw [List.filter_cons_of_neg isTree] at encodes
      have skipped := addDescriptor_other configs (Bool.not_eq_true _ ▸ isTree)
      rw [parseFrames, foldParsed_cons_ok _ skipped]
      exact ih _ encodes

/-- Reading the frames of a tree gives the tree. -/
theorem parseFrames_encoded {tree : List ConfigTree} {frames : List (List UInt8)} (encodes : Encodes tree frames) :
    parseFrames frames [] = (.uecOk, toConfigs tree) := by
  rw [parseFrames_eq_addNodes _ encodes.nodes]
  exact addNodes_tree [] tree

/-- From a tree on, the frames either extend it to the end or break off at one that offends. -/
theorem parseFrames_cases {frames : List (List UInt8)} (framed : ∀ frame ∈ frames, Framed frame)
    (tree : List ConfigTree) :
    (∃ tree' ns, nodes tree' = nodes tree ++ ns ∧ List.Forall₂ EncodesNode ns (frames.filter isTreeDescriptor) ∧
      parseFrames frames (toConfigs tree) = (.uecOk, toConfigs tree')) ∨
    (∃ before frame after tree' ns, frames = before ++ frame :: after ∧ nodes tree' = nodes tree ++ ns ∧
      List.Forall₂ EncodesNode ns (before.filter isTreeDescriptor) ∧ Offends tree' frame ∧
      (parseFrames frames (toConfigs tree)).1 = .uecServiceInvalidValue) := by
  induction frames generalizing tree with
  | nil => exact .inl ⟨tree, [], by simp, .nil, rfl⟩
  | cons frame frames ih =>
    have first : Framed frame := framed frame List.mem_cons_self
    have ih := ih fun other member => framed other (List.mem_cons_of_mem _ member)
    by_cases offends : Offends tree frame
    · right
      refine ⟨[], frame, frames, tree, [], rfl, by simp, .nil, offends, ?_⟩
      exact foldParsed_cons_invalid _ (addDescriptor_of_offends first offends)
    by_cases isTree : isTreeDescriptor frame = true
    · obtain ⟨node, grown, encodes, grownNodes, added⟩ := addDescriptor_of_not_offends first isTree offends
      have read : parseFrames (frame :: frames) (toConfigs tree) = parseFrames frames (toConfigs grown) :=
        foldParsed_cons_ok _ added
      rw [read]
      rcases ih grown with ⟨tree', ns, same, rest, ok⟩ |
        ⟨before, bad, after, tree', ns, rfl, same, rest, offends, invalid⟩
      · left
        refine ⟨tree', node :: ns, by simp [same, grownNodes], ?_, ok⟩
        rw [List.filter_cons_of_pos isTree]
        exact .cons encodes rest
      · right
        refine ⟨frame :: before, bad, after, tree', node :: ns, rfl, by simp [same, grownNodes], ?_, offends, invalid⟩
        rw [List.filter_cons_of_pos isTree]
        exact .cons encodes rest
    · have read : parseFrames (frame :: frames) (toConfigs tree) = parseFrames frames (toConfigs tree) :=
        foldParsed_cons_ok _ (addDescriptor_other _ (Bool.not_eq_true _ ▸ isTree))
      rw [read]
      rcases ih tree with ⟨tree', ns, same, rest, ok⟩ |
        ⟨before, bad, after, tree', ns, rfl, same, rest, offends, invalid⟩
      · left
        refine ⟨tree', ns, same, ?_, ok⟩
        rwa [List.filter_cons_of_neg isTree]
      · right
        refine ⟨frame :: before, bad, after, tree', ns, rfl, same, ?_, offends, invalid⟩
        rwa [List.filter_cons_of_neg isTree]

theorem parseFrames_invalid {tree : List ConfigTree} {before after : List (List UInt8)} {frame : List UInt8}
    (framed : Framed frame) (encodes : Encodes tree before) (offends : Offends tree frame) :
    (parseFrames (before ++ frame :: after) []).1 = .uecServiceInvalidValue := by
  rw [parseFrames, foldParsed_append _ (parseFrames_encoded encodes)]
  exact foldParsed_cons_invalid _ (addDescriptor_of_offends framed offends)

/-! ### The cursor loop -/

/-- What the loop looks at: the buffer from the offset on, up to the stored 32-bit size. -/
def parsedRegion (descriptor : List UInt8) (offset : UInt32) : List UInt8 :=
  (descriptor.take (descriptor.length % 2 ^ 32)).drop offset.toNat

section Loop

variable {buffer : List UInt8} {length cursor : Nat} {frames : List (List UInt8)} {tail : List UInt8}

theorem drop_eq_region (before : cursor < length) :
    buffer.drop cursor = (buffer.take length).drop cursor ++ buffer.drop length := by
  have past : buffer.drop length = (buffer.drop cursor).drop (length - cursor) := by
    rw [List.drop_drop, Nat.add_sub_cancel' (Nat.le_of_lt before)]
  rw [List.drop_take, past, List.take_append_drop]

/-- The header at the cursor is the header of what is left. -/
theorem header_bLength (inside : length ≤ buffer.length) (before : cursor < length) :
    (UsbdDescriptorHeader.read (buffer.drop cursor)).bLength.toNat =
      declaredLength ((buffer.take length).drop cursor) := by
  have nonempty : 0 < ((buffer.take length).drop cursor).length := by
    rw [List.length_drop, List.length_take]
    omega
  rw [← declaredLength_append (buffer.drop length) nonempty, ← drop_eq_region before]
  rfl

theorem parseLoop_stop (inside : length ≤ buffer.length) (stops : Stops ((buffer.take length).drop cursor))
    (configs : List USBConfig) : parseLoop buffer length cursor configs = (.uecOk, configs) := by
  rw [parseLoop]
  split_ifs with before short
  · rfl
  · have size : ((buffer.take length).drop cursor).length = length - cursor := by
      rw [List.length_drop, List.length_take]
      omega
    rw [Stops, size, ← header_bLength inside before] at stops
    exact if_pos (stops.resolve_left short)
  · rfl

theorem parseLoop_frame {frame : List UInt8} (inside : length ≤ buffer.length)
    (chain : IsChain ((buffer.take length).drop cursor) (frame :: frames) tail) (configs : List USBConfig) :
    parseLoop buffer length cursor configs =
      if (addDescriptor frame configs).1 ≠ .uecOk then addDescriptor frame configs
      else parseLoop buffer length (cursor + frame.length) (addDescriptor frame configs).2 := by
  have framed : Framed frame := chain.framed frame List.mem_cons_self
  have two := framed.1
  have bytes : (buffer.take length).drop cursor = frame ++ (frames.flatten ++ tail) := by
    rw [chain.bytes_eq, List.flatten_cons, List.append_assoc]
  have size : length - cursor = frame.length + (frames.flatten ++ tail).length := by
    have sizes := congrArg List.length bytes
    rw [List.length_drop, List.length_take, List.length_append] at sizes
    omega
  have before : cursor < length := by omega
  have bLength : (UsbdDescriptorHeader.read (buffer.drop cursor)).bLength.toNat = frame.length := by
    rw [header_bLength inside before, bytes, declaredLength_append _ (by omega), framed.2]
  have added : addDescriptor (buffer.drop cursor) configs = addDescriptor frame configs := by
    rw [drop_eq_region before, bytes, List.append_assoc, addDescriptor_append _ _ framed]
  rw [parseLoop, if_pos before, if_neg (by omega)]
  dsimp only
  rw [bLength, if_neg (by omega), added]

/-- The loop is the fold over the frames of what is left. -/
theorem parseLoop_frames (inside : length ≤ buffer.length)
    (chain : IsChain ((buffer.take length).drop cursor) frames tail) (configs : List USBConfig) :
    parseLoop buffer length cursor configs = parseFrames frames configs := by
  induction frames generalizing cursor configs with
  | nil =>
    apply parseLoop_stop inside
    rw [chain.bytes_eq]
    exact chain.stops
  | cons frame frames ih =>
    rw [parseLoop_frame inside chain, parseFrames, foldParsed]
    have rest := chain.tail
    rw [List.drop_drop] at rest
    split_ifs
    · rfl
    · exact ih rest _

end Loop

theorem parseConfigDescriptors_frames {descriptor : List UInt8} {offset : UInt32} {frames : List (List UInt8)}
    {tail : List UInt8} (chain : IsChain (parsedRegion descriptor offset) frames tail) (configs : List USBConfig) :
    parseConfigDescriptors descriptor offset configs = parseFrames frames configs :=
  parseLoop_frames (Nat.mod_le _ _) chain configs

/-! ### Both directions -/

section Correctness

variable {descriptor : List UInt8} {offset : UInt32} {frames : List (List UInt8)} {tail : List UInt8}

theorem parse_cases (chain : IsChain (parsedRegion descriptor offset) frames tail) :
    (∃ tree, Encodes tree frames ∧ parseConfigDescriptors descriptor offset [] = (.uecOk, toConfigs tree)) ∨
    (∃ before frame after tree, frames = before ++ frame :: after ∧ Encodes tree before ∧ Offends tree frame ∧
      (parseConfigDescriptors descriptor offset []).1 = .uecServiceInvalidValue) := by
  rw [parseConfigDescriptors_frames chain]
  rcases parseFrames_cases chain.framed [] with ⟨tree, ns, same, encodes, ok⟩ |
    ⟨before, frame, after, tree, ns, rfl, same, encodes, offends, invalid⟩
  · left
    have same : nodes tree = ns := same
    subst same
    exact ⟨tree, ⟨chain.framed, encodes⟩, ok⟩
  · right
    have same : nodes tree = ns := same
    subst same
    have framed : ∀ f ∈ before, Framed f := fun f member => chain.framed f (List.mem_append_left _ member)
    exact ⟨before, frame, after, tree, rfl, ⟨framed, encodes⟩, offends, invalid⟩

end Correctness

/-- What the parser looks at is a chain of frames up to a tail that no frame stands at the front of. It
returns the tree that the chain encodes, it succeeds only on the encoding of a tree, and it fails
exactly if a descriptor of the chain cannot follow the tree before it. -/
theorem parseConfigDescriptors_correct (descriptor : List UInt8) (offset : UInt32) :
    (∃ frames tail, IsChain (parsedRegion descriptor offset) frames tail) ∧
    ∀ frames tail, IsChain (parsedRegion descriptor offset) frames tail →
      (∀ tree, Encodes tree frames → parseConfigDescriptors descriptor offset [] = (.uecOk, toConfigs tree)) ∧
      ((parseConfigDescriptors descriptor offset []).1 = .uecOk →
        ∃ tree, Encodes tree frames ∧ (parseConfigDescriptors descriptor offset []).2 = toConfigs tree) ∧
      ((parseConfigDescriptors descriptor offset []).1 = .uecServiceInvalidValue ↔
        ∃ before frame after tree, frames = before ++ frame :: after ∧ Encodes tree before ∧ Offends tree frame) ∧
      ((parseConfigDescriptors descriptor offset []).1 = .uecOk ∨
        (parseConfigDescriptors descriptor offset []).1 = .uecServiceInvalidValue) := by
  refine ⟨exists_chain _, fun frames tail chain => ?_⟩
  have outcome := parse_cases chain
  refine ⟨?_, ?_, ⟨?_, ?_⟩, ?_⟩
  · intro tree encodes
    rw [parseConfigDescriptors_frames chain]
    exact parseFrames_encoded encodes
  · intro ok
    rcases outcome with ⟨tree, encodes, parsed⟩ | ⟨-, -, -, -, -, -, -, invalid⟩
    · exact ⟨tree, encodes, by rw [parsed]⟩
    · rw [ok] at invalid
      exact absurd invalid (by decide)
  · intro invalid
    rcases outcome with ⟨tree, encodes, parsed⟩ | ⟨before, frame, after, tree, cut, encodes, offends, -⟩
    · have ok : (parseConfigDescriptors descriptor offset []).1 = .uecOk := by rw [parsed]
      rw [ok] at invalid
      exact absurd invalid (by decide)
    · exact ⟨before, frame, after, tree, cut, encodes, offends⟩
  · rintro ⟨before, frame, after, tree, rfl, encodes, offends⟩
    rw [parseConfigDescriptors_frames chain]
    exact parseFrames_invalid (chain.framed frame (by simp)) encodes offends
  · rcases outcome with ⟨tree, -, parsed⟩ | ⟨-, -, -, -, -, -, -, invalid⟩
    · exact .inl (by rw [parsed])
    · exact .inr invalid

/-- Behind two bytes that are skipped, a configuration with one interface and one endpoint, a
descriptor of another type in between, and a truncated tail. -/
def sampleBuffer : List UInt8 :=
  [18, 1, 9, 2, 32, 0, 1, 1, 0, 192, 50, 9, 4, 3, 0, 1, 255, 66, 1, 0, 3, 36, 7, 7, 5, 129, 2, 0, 2, 0, 9]

def sampleFrames : List (List UInt8) :=
  [[9, 2, 32, 0, 1, 1, 0, 192, 50], [9, 4, 3, 0, 1, 255, 66, 1, 0], [3, 36, 7], [7, 5, 129, 2, 0, 2, 0]]

def sampleTree : List ConfigTree :=
  [⟨⟨1, 0, 192, 50⟩, [⟨⟨3, 0, 255, 66, 1, 0⟩, [⟨129, 2, 512, 0⟩]⟩]⟩]

theorem sample_chain : IsChain (parsedRegion sampleBuffer 2) sampleFrames [9] := by
  refine ⟨by decide +kernel, ?_, .inl (by decide)⟩
  simp [sampleFrames, Framed, declaredLength]

theorem sample_encodes : Encodes sampleTree sampleFrames := by
  refine ⟨sample_chain.framed, ?_⟩
  have only : sampleFrames.filter isTreeDescriptor =
      [[9, 2, 32, 0, 1, 1, 0, 192, 50], [9, 4, 3, 0, 1, 255, 66, 1, 0], [7, 5, 129, 2, 0, 2, 0]] := by
    decide +kernel
  rw [only]
  refine .cons ⟨32, 0, 1, rfl⟩ (.cons ⟨1, rfl⟩ (.cons ⟨0, 2, by decide +kernel, .inl rfl⟩ .nil))

theorem parseConfigDescriptors_correct_sample :
    parseConfigDescriptors sampleBuffer 2 [] = (.uecOk, toConfigs sampleTree) :=
  ((parseConfigDescriptors_correct sampleBuffer 2).2 _ _ sample_chain).1 _ sample_encodes

end UsbManager.Descriptor
