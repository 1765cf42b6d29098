import Mathlib.Data.List.Forall2
import UsbManager.Device.ParserCorrect

/-!
# Devices that the parser produced

A device of the service has its numbers from `ParseDeviceDescriptor` and its tree from
`ParseConfigDescriptors`; the names come from string descriptors and may be anything. From this follow
the ranges of all numbers, those of the descriptor fields, and the lengths of the lists, for which a
32-bit count is enough.
-/

namespace UsbManager

open Framing Descriptor

/-! ## Origin -/

def UsbInterface.unnamed (i : UsbInterface) : UsbInterface := { i with name := "" }

def USBConfig.unnamed (c : USBConfig) : USBConfig :=
  { c with name := "", interfaces := c.interfaces.map UsbInterface.unnamed }

/-- The numbers of a device descriptor. -/
structure UsbDevice.SameNumbers (d dev : UsbDevice) : Prop where
  vendorId : d.vendorId = dev.vendorId
  productId : d.productId = dev.productId
  baseClass : d.baseClass = dev.baseClass
  subClass : d.subClass = dev.subClass
  protocol : d.protocol = dev.protocol

structure UsbDevice.Produced (d : UsbDevice) : Prop where
  device : ∃ buffer length start dev, parseDeviceDescriptor buffer length start = (.uecOk, dev) ∧ d.SameNumbers dev
  configs : ∃ descriptor offset, parseConfigDescriptors descriptor offset [] = (.uecOk, d.configs.map USBConfig.unnamed)

/-! ## Ranges -/

/-- A value of a descriptor byte, and of a descriptor word. -/
def IsByte (value : Int) : Prop := 0 ≤ value ∧ value < 256

def IsWord (value : Int) : Prop := 0 ≤ value ∧ value < 65536

theorem isByte_toNat (n : UInt8) : IsByte n.toNat := ⟨by omega, by have := n.toNat_lt; omega⟩

theorem isWord_toNat (n : UInt16) : IsWord n.toNat := ⟨by omega, by have := n.toNat_lt; omega⟩

structure USBEndpoint.Bounded (ep : USBEndpoint) : Prop where
  address : ep.address < 256
  attributes : ep.attributes < 256
  interval : IsByte ep.interval
  maxPacketSize : IsWord ep.maxPacketSize

structure UsbInterface.Bounded (i : UsbInterface) : Prop where
  id : IsByte i.id
  protocol : IsByte i.protocol
  klass : IsByte i.klass
  subClass : IsByte i.subClass
  alternateSetting : IsByte i.alternateSetting
  endpoints : ∀ ep ∈ i.endpoints, ep.Bounded
  counted : i.endpoints.length < 2 ^ 32

structure USBConfig.Bounded (c : USBConfig) : Prop where
  id : IsByte c.id
  attributes : c.attributes < 256
  maxPower : IsByte c.maxPower
  interfaces : ∀ i ∈ c.interfaces, i.Bounded
  counted : c.interfaces.length < 2 ^ 32

structure UsbDevice.Bounded (d : UsbDevice) : Prop where
  vendorId : IsWord d.vendorId
  productId : IsWord d.productId
  baseClass : IsByte d.baseClass
  subClass : IsByte d.subClass
  protocol : IsByte d.protocol
  configs : ∀ c ∈ d.configs, c.Bounded
  counted : d.configs.length < 2 ^ 32

theorem UsbInterface.bounded_of_unnamed {i : UsbInterface} (bounded : i.unnamed.Bounded) : i.Bounded :=
  ⟨bounded.id, bounded.protocol, bounded.klass, bounded.subClass, bounded.alternateSetting, bounded.endpoints,
    bounded.counted⟩

theorem USBConfig.bounded_of_unnamed {c : USBConfig} (bounded : c.unnamed.Bounded) : c.Bounded := by
  refine ⟨bounded.id, bounded.attributes, bounded.maxPower, fun i member => ?_, ?_⟩
  · exact UsbInterface.bounded_of_unnamed (bounded.interfaces _ (List.mem_map_of_mem member))
  · have counted := bounded.counted
    rwa [USBConfig.unnamed, List.length_map] at counted

/-! ## The ranges of a descriptor tree -/

section Tree

theorem toUInt32_lt (n : UInt8) : n.toUInt32 < 256 := by
  have := n.toNat_lt
  rw [UInt32.lt_iff_toNat_lt, UInt8.toNat_toUInt32]
  exact this

theorem bounded_toEndpoint (interfaceId : UInt8) (e : EndpointFields) : (e.toEndpoint interfaceId).Bounded :=
  ⟨toUInt32_lt _, toUInt32_lt _, isByte_toNat _, isWord_toNat _⟩

theorem bounded_toInterface {t : InterfaceTree} (few : t.nodes.length < 2 ^ 32) : t.toInterface.Bounded := by
  refine ⟨isByte_toNat _, isByte_toNat _, isByte_toNat _, isByte_toNat _, isByte_toNat _, fun ep member => ?_, ?_⟩
  · obtain ⟨e, -, rfl⟩ := List.mem_map.1 member
    exact bounded_toEndpoint _ e
  · simp only [InterfaceTree.nodes, List.length_cons, List.length_map] at few
    simp only [InterfaceTree.toInterface, List.length_map]
    omega

theorem length_le_flatMap {α β : Type} {f : α → List β} {xs : List α} {x : α} (member : x ∈ xs) :
    (f x).length ≤ (xs.flatMap f).length := by
  obtain ⟨before, after, rfl⟩ := List.append_of_mem member
  simp only [List.flatMap_append, List.flatMap_cons, List.length_append]
  omega

theorem length_le_flatMap_of_pos {α β : Type} {f : α → List β} {xs : List α} (nonempty : ∀ x ∈ xs, 0 < (f x).length) :
    xs.length ≤ (xs.flatMap f).length := by
  induction xs with
  | nil => exact Nat.zero_le _
  | cons x xs ih =>
    have first := nonempty x (List.mem_cons_self ..)
    have others := ih fun y member => nonempty y (List.mem_cons_of_mem _ member)
    rw [List.flatMap_cons, List.length_append, List.length_cons]
    omega

theorem bounded_toConfig {t : ConfigTree} (few : t.nodes.length < 2 ^ 32) : t.toConfig.Bounded := by
  have inner : (t.interfaces.flatMap InterfaceTree.nodes).length < 2 ^ 32 := by
    simp only [ConfigTree.nodes, List.length_cons] at few
    omega
  refine ⟨isByte_toNat _, toUInt32_lt _, isByte_toNat _, fun i member => ?_, ?_⟩
  · obtain ⟨t', here, rfl⟩ := List.mem_map.1 member
    exact bounded_toInterface (Nat.lt_of_le_of_lt (length_le_flatMap here) inner)
  · have counted : t.interfaces.length ≤ (t.interfaces.flatMap InterfaceTree.nodes).length :=
      length_le_flatMap_of_pos fun t' _ => Nat.succ_pos _
    simp only [ConfigTree.toConfig, List.length_map]
    omega

/-- A buffer has fewer than 2³² descriptors in the part that is parsed. -/
theorem nodes_length_lt {descriptor : List UInt8} {offset : UInt32} {frames : List (List UInt8)} {tail : List UInt8}
    {tree : List ConfigTree} (chain : IsChain (parsedRegion descriptor offset) frames tail)
    (encodes : Encodes tree frames) :
    (nodes tree).length < 2 ^ 32 := by
  have same := encodes.nodes.length_eq
  have kept := List.length_filter_le isTreeDescriptor frames
  have packed : frames.length ≤ frames.flatten.length := by
    rw [← List.flatMap_id]
    exact length_le_flatMap_of_pos fun frame member => Nat.lt_of_lt_of_le (by decide) (chain.framed frame member).1
  have region := congrArg List.length chain.bytes_eq
  have short : (parsedRegion descriptor offset).length < 2 ^ 32 := by
    have below := Nat.mod_lt descriptor.length (show 2 ^ 32 > 0 by decide)
    simp only [parsedRegion, List.length_drop, List.length_take]
    omega
  rw [List.length_append] at region
  omega

end Tree

theorem bounded_of_parseConfigDescriptors {descriptor : List UInt8} {offset : UInt32} {configs : List USBConfig}
    (parsed : parseConfigDescriptors descriptor offset [] = (.uecOk, configs)) :
    (∀ c ∈ configs, c.Bounded) ∧ configs.length < 2 ^ 32 := by
  obtain ⟨frames, tail, chain⟩ := exists_chain (parsedRegion descriptor offset)
  rcases parse_cases chain with ⟨tree, encodes, ok⟩ | ⟨-, -, -, -, -, -, -, invalid⟩
  · obtain ⟨-, rfl⟩ := Prod.mk.inj (parsed.symm.trans ok)
    have few := nodes_length_lt chain encodes
    constructor
    · intro c member
      obtain ⟨t, here, rfl⟩ := List.mem_map.1 member
      exact bounded_toConfig (Nat.lt_of_le_of_lt (length_le_flatMap here) few)
    · have counted : tree.length ≤ (nodes tree).length := length_le_flatMap_of_pos fun t _ => Nat.succ_pos _
      rw [toConfigs, List.length_map]
      omega
  · rw [parsed] at invalid
    cases invalid

theorem UsbDevice.Produced.bounded {d : UsbDevice} (produced : d.Produced) : d.Bounded := by
  obtain ⟨buffer, length, start, dev, parsed, same⟩ := produced.device
  obtain ⟨descriptor, offset, tree⟩ := produced.configs
  obtain ⟨configs, counted⟩ := bounded_of_parseConfigDescriptors tree
  unfold parseDeviceDescriptor at parsed
  dsimp only at parsed
  split_ifs at parsed
  all_goals first
    | cases parsed; done
    | obtain ⟨-, rfl⟩ := Prod.mk.inj parsed
  refine ⟨?_, ?_, ?_, ?_, ?_, fun c member => ?_, ?_⟩
  · exact same.vendorId ▸ isWord_toNat _
  · exact same.productId ▸ isWord_toNat _
  · exact same.baseClass ▸ isByte_toNat _
  · exact same.subClass ▸ isByte_toNat _
  · exact same.protocol ▸ isByte_toNat _
  · exact USBConfig.bounded_of_unnamed (configs _ (List.mem_map_of_mem member))
  · rwa [List.length_map] at counted

/-! ## A storage device -/

section Storage

variable (bMaxPower bInterfaceNumber : UInt8)

def storageFrames : List (List UInt8) :=
  [[9, 2, 25, 0, 1, 1, 0, 128, bMaxPower], [9, 4, bInterfaceNumber, 0, 1, 8, 6, 80, 0], [7, 5, 129, 2, 0, 2, 0]]

def storageTree : List ConfigTree :=
  [⟨⟨1, 0, 128, bMaxPower⟩, [⟨⟨bInterfaceNumber, 0, 8, 6, 80, 0⟩, [⟨129, 2, 512, 0⟩]⟩]⟩]

/-- A device with one bulk endpoint. -/
def storageDevice : UsbDevice where
  name := "1-2"
  busNum := 1
  devAddr := 2
  vendorId := 0x1234
  productId := 0x5678
  baseClass := 0
  subClass := 0
  protocol := 0
  configs := toConfigs (storageTree bMaxPower bInterfaceNumber)

theorem storageDevice_produced : (storageDevice bMaxPower bInterfaceNumber).Produced := by
  let buffer : List UInt8 := [18, 1, 0, 2, 0, 0, 0, 64, 0x34, 0x12, 0x78, 0x56, 0, 1, 1, 2, 3, 1]
  have chain : IsChain (parsedRegion (storageFrames bMaxPower bInterfaceNumber).flatten 0)
      (storageFrames bMaxPower bInterfaceNumber) [] := by
    refine ⟨rfl, ?_, .inl (by decide)⟩
    simp [storageFrames, Framed, declaredLength]
  have encodes : Encodes (storageTree bMaxPower bInterfaceNumber) (storageFrames bMaxPower bInterfaceNumber) := by
    refine ⟨chain.framed, ?_⟩
    have only : (storageFrames bMaxPower bInterfaceNumber).filter isTreeDescriptor =
        storageFrames bMaxPower bInterfaceNumber := rfl
    rw [only]
    exact .cons ⟨25, 0, 1, rfl⟩ (.cons ⟨1, rfl⟩ (.cons ⟨0, 2, by decide +kernel, .inl rfl⟩ .nil))
  have vendor : (UsbdDeviceDescriptor.read buffer).idVendor = 0x1234 := by decide +kernel
  have product : (UsbdDeviceDescriptor.read buffer).idProduct = 0x5678 := by decide +kernel
  refine ⟨⟨buffer, 18, {}, _, rfl, ⟨?_, ?_, rfl, rfl, rfl⟩⟩, ?_⟩
  · exact congrArg (fun id : UInt16 => (id.toNat : Int)) vendor.symm
  · exact congrArg (fun id : UInt16 => (id.toNat : Int)) product.symm
  refine ⟨(storageFrames bMaxPower bInterfaceNumber).flatten, 0, ?_⟩
  exact (parseConfigDescriptors_frames chain []).trans (parseFrames_encoded encodes)

end Storage

end UsbManager
