import UsbManager.Device.Tree
import UsbManager.Lib.Parcel

/-!
# Devices in parcels

`Marshalling` and `Unmarshalling` of the four descriptor classes. A list of children is written as its
length, kept in 32 bits, and the children of a loop that stops at the length and at a limit; the reader
runs the same loop. So a list comes back as what the loop passes, `looped`, and this is the list cut to
the limit unless it has 2³² elements or more.
-/

namespace UsbManager

open Parcel

def usbConfigMaxNum : Nat := 128
def usbInterfaceMaxNum : Nat := 128
def usbEndpointMaxNum : Nat := 128

/-- How often `for (i = 0; i < count && i < limit; i++)` runs. -/
def loopCount (limit : Nat) (count : UInt32) : Nat := min count.toNat limit

/-- The elements of a vector that the loop writes, with the vector's size as a `uint32_t`. -/
def passed (limit size : Nat) : Nat := loopCount limit (.ofNat size)

def looped {α : Type} (limit : Nat) (items : List α) : List α := items.take (passed limit items.length)

/-! ## Writing -/

namespace USBEndpoint

/-- The words that `Marshalling` writes. -/
def marshalling (ep : USBEndpoint) : List Word :=
  [.bits32 ep.address, .bits32 ep.attributes, int32 ep.interval, int32 ep.maxPacketSize, .bits8 ep.interfaceId]

def unmarshalling : Reader USBEndpoint := do
  let address ← readUint32
  let attributes ← readUint32
  let interval ← readInt32
  let maxPacketSize ← readInt32
  let interfaceId ← readUint8
  pure { address, attributes, interval, maxPacketSize, interfaceId }

/-- The `int32_t` members hold such values. -/
structure Ranged (ep : USBEndpoint) : Prop where
  interval : IsInt32 ep.interval
  maxPacketSize : IsInt32 ep.maxPacketSize

end USBEndpoint

namespace UsbInterface

def marshalling (i : UsbInterface) : List Word :=
  int32 i.id :: int32 i.protocol :: int32 i.klass :: int32 i.subClass :: int32 i.alternateSetting ::
    .text i.name :: .bits8 i.iInterface :: .bits32 (.ofNat i.endpoints.length) ::
    (looped usbEndpointMaxNum i.endpoints).flatMap USBEndpoint.marshalling

def unmarshalling : Reader UsbInterface := do
  let id ← readInt32
  let protocol ← readInt32
  let klass ← readInt32
  let subClass ← readInt32
  let alternateSetting ← readInt32
  let name ← readString
  let iInterface ← readUint8
  let epCount ← readUint32
  let endpoints ← readMany (loopCount usbEndpointMaxNum epCount) USBEndpoint.unmarshalling
  pure { id, protocol, klass, subClass, alternateSetting, name, endpoints, iInterface }

structure Ranged (i : UsbInterface) : Prop where
  id : IsInt32 i.id
  protocol : IsInt32 i.protocol
  klass : IsInt32 i.klass
  subClass : IsInt32 i.subClass
  alternateSetting : IsInt32 i.alternateSetting
  endpoints : ∀ ep ∈ i.endpoints, ep.Ranged

end UsbInterface

namespace USBConfig

def marshalling (c : USBConfig) : List Word :=
  int32 c.id :: .bits32 c.attributes :: int32 c.maxPower :: .bits8 c.iConfiguration :: .text c.name ::
    .bits32 (.ofNat c.interfaces.length) :: (looped usbInterfaceMaxNum c.interfaces).flatMap UsbInterface.marshalling

def unmarshalling : Reader USBConfig := do
  let id ← readInt32
  let attributes ← readUint32
  let maxPower ← readInt32
  let iConfiguration ← readUint8
  let name ← readString
  let infCount ← readUint32
  let interfaces ← readMany (loopCount usbInterfaceMaxNum infCount) UsbInterface.unmarshalling
  pure { id, attributes, interfaces, maxPower, name, iConfiguration }

structure Ranged (c : USBConfig) : Prop where
  id : IsInt32 c.id
  maxPower : IsInt32 c.maxPower
  interfaces : ∀ i ∈ c.interfaces, i.Ranged

end USBConfig

namespace UsbDevice

def marshalling (d : UsbDevice) : List Word :=
  .bits8 d.busNum :: .bits8 d.devAddr :: int32 d.vendorId :: int32 d.productId :: int32 d.baseClass ::
    int32 d.subClass :: int32 d.protocol :: .bits8 d.iManufacturer :: .bits8 d.iProduct ::
    .bits8 d.iSerialNumber :: .bits8 d.bMaxPacketSize0 :: .bits16 d.bcdUSB :: .bits16 d.bcdDevice ::
    .text d.name :: .text d.manufacturerName :: .text d.productName :: .text d.version :: .text d.serial ::
    .bits32 (.ofNat d.configs.length) :: (looped usbConfigMaxNum d.configs).flatMap USBConfig.marshalling

def unmarshalling : Reader UsbDevice := do
  let busNum ← readUint8
  let devAddr ← readUint8
  let vendorId ← readInt32
  let productId ← readInt32
  let baseClass ← readInt32
  let subClass ← readInt32
  let protocol ← readInt32
  let iManufacturer ← readUint8
  let iProduct ← readUint8
  let iSerialNumber ← readUint8
  let bMaxPacketSize0 ← readUint8
  let bcdUSB ← readUint16
  let bcdDevice ← readUint16
  let name ← readString
  let manufacturerName ← readString
  let productName ← readString
  let version ← readString
  let serial ← readString
  let configCount ← readUint32
  let configs ← readMany (loopCount usbConfigMaxNum configCount) USBConfig.unmarshalling
  pure { name, manufacturerName, productName, version, serial, devAddr, busNum, bMaxPacketSize0, bcdUSB, bcdDevice,
         iManufacturer, iProduct, iSerialNumber, vendorId, productId, baseClass, subClass, protocol, configs }

structure Ranged (d : UsbDevice) : Prop where
  vendorId : IsInt32 d.vendorId
  productId : IsInt32 d.productId
  baseClass : IsInt32 d.baseClass
  subClass : IsInt32 d.subClass
  protocol : IsInt32 d.protocol
  configs : ∀ c ∈ d.configs, c.Ranged

end UsbDevice

/-! ## What is left of a device -/

/-- An interface with `count` of its children, by the limit and their number, and with what is not
marshalled at its default. -/
def UsbInterface.keep (count : Nat → Nat → Nat) (i : UsbInterface) : UsbInterface :=
  { i with endpoints := i.endpoints.take (count usbEndpointMaxNum i.endpoints.length), authorized := true }

def USBConfig.keep (count : Nat → Nat → Nat) (c : USBConfig) : USBConfig :=
  { c with
    interfaces := (c.interfaces.take (count usbInterfaceMaxNum c.interfaces.length)).map (UsbInterface.keep count) }

def UsbDevice.keep (count : Nat → Nat → Nat) (d : UsbDevice) : UsbDevice :=
  { d with
    configs := (d.configs.take (count usbConfigMaxNum d.configs.length)).map (USBConfig.keep count)
    authorizeStatus := .enabled
    descConfigCount := 255 }

/-- The device cut to the first 128 children of each node. -/
def UsbDevice.cut (d : UsbDevice) : UsbDevice := d.keep fun limit _ => limit

/-! ## The round trip -/

theorem length_looped {α : Type} (limit : Nat) (items : List α) :
    (looped limit items).length = loopCount limit (.ofNat items.length) := by
  unfold looped passed
  rw [List.length_take]
  have short : (UInt32.ofNat items.length).toNat ≤ items.length := by
    rw [UInt32.toNat_ofNat']
    exact Nat.mod_le ..
  unfold loopCount
  omega

theorem mem_of_mem_looped {α : Type} {limit : Nat} {items : List α} {x : α} (member : x ∈ looped limit items) :
    x ∈ items :=
  List.mem_of_mem_take member

/-- The count and the loop over the children read back those that the loop of the writer passed. -/
theorem reads_children {α β : Type} {item : Reader α} {write : α → List Word} {image : α → α} {limit : Nat}
    {items : List α} {build : List α → β} (each : ∀ x ∈ items, Reads item (write x) (image x)) :
    Reads (readUint32 >>= fun count => readMany (loopCount limit count) item >>= fun xs => pure (build xs))
      (.bits32 (.ofNat items.length) :: (looped limit items).flatMap write)
      (build ((looped limit items).map image)) := by
  have children : Reads (readMany (looped limit items).length item) ((looped limit items).flatMap write)
      ((looped limit items).map image) := .many fun x member => each x (mem_of_mem_looped member)
  rw [length_looped] at children
  have all := children.bind (f := fun xs => pure (build xs)) (.pure _)
  rw [List.append_nil] at all
  exact .uint32 all

theorem USBEndpoint.reads (ep : USBEndpoint) (ranged : ep.Ranged) : Reads unmarshalling ep.marshalling ep :=
  .uint32 <| .uint32 <| .int32 ranged.interval <| .int32 ranged.maxPacketSize <| .uint8 <| .pure _

theorem UsbInterface.reads (i : UsbInterface) (ranged : i.Ranged) :
    Reads unmarshalling i.marshalling (i.keep passed) := by
  have same : (looped usbEndpointMaxNum i.endpoints).map (fun ep => ep) = looped usbEndpointMaxNum i.endpoints :=
    List.map_id' _
  change Reads _ _ { i with endpoints := looped usbEndpointMaxNum i.endpoints, authorized := true }
  rw [← same]
  exact .int32 ranged.id <| .int32 ranged.protocol <| .int32 ranged.klass <| .int32 ranged.subClass <|
    .int32 ranged.alternateSetting <| .string <| .uint8 <|
    reads_children fun ep member => ep.reads (ranged.endpoints ep member)

theorem USBConfig.reads (c : USBConfig) (ranged : c.Ranged) : Reads unmarshalling c.marshalling (c.keep passed) :=
  .int32 ranged.id <| .uint32 <| .int32 ranged.maxPower <| .uint8 <| .string <|
    reads_children fun i member => i.reads (ranged.interfaces i member)

theorem UsbDevice.reads (d : UsbDevice) (ranged : d.Ranged) : Reads unmarshalling d.marshalling (d.keep passed) :=
  .uint8 <| .uint8 <| .int32 ranged.vendorId <| .int32 ranged.productId <| .int32 ranged.baseClass <|
    .int32 ranged.subClass <| .int32 ranged.protocol <| .uint8 <| .uint8 <| .uint8 <| .uint8 <| .uint16 <|
    .uint16 <| .string <| .string <| .string <| .string <| .string <|
    reads_children fun c member => c.reads (ranged.configs c member)

/-! ### Cut lists -/

theorem passed_of_lt {limit size : Nat} (counted : size < 2 ^ 32) : passed limit size = min size limit := by
  rw [passed, loopCount, UInt32.toNat_ofNat', Nat.mod_eq_of_lt counted]

theorem take_passed {α : Type} {limit : Nat} {items : List α} (counted : items.length < 2 ^ 32) :
    items.take (passed limit items.length) = items.take limit := by
  rw [passed_of_lt counted, Nat.min_comm, ← List.take_take, List.take_of_length_le (Nat.le_refl _)]

/-- Every list of children in the tree has a length that the predicate allows. -/
structure UsbDevice.Lengths (allows : Nat → Prop) (d : UsbDevice) : Prop where
  configs : allows d.configs.length
  interfaces : ∀ c ∈ d.configs, allows c.interfaces.length
  endpoints : ∀ c ∈ d.configs, ∀ i ∈ c.interfaces, allows i.endpoints.length

/-- With fewer than 2³² children in each list, a node keeps its first 128. -/
theorem UsbDevice.keep_passed {d : UsbDevice} (counted : d.Lengths (· < 2 ^ 32)) : d.keep passed = d.cut := by
  have configs : ∀ c ∈ d.configs.take usbConfigMaxNum, c.keep passed = c.keep fun limit _ => limit := by
    intro c member
    have here := List.mem_of_mem_take member
    have interfaces : ∀ i ∈ c.interfaces.take usbInterfaceMaxNum, i.keep passed = i.keep fun limit _ => limit := by
      intro i member
      unfold UsbInterface.keep
      rw [take_passed (counted.endpoints c here i (List.mem_of_mem_take member))]
    unfold USBConfig.keep
    rw [take_passed (counted.interfaces c here), List.map_congr_left interfaces]
  unfold UsbDevice.cut UsbDevice.keep
  rw [take_passed counted.configs, List.map_congr_left configs]

/-! ### Writing again -/

/-- A cut list of at most `limit` children writes what the list writes, if each child does. -/
theorem flatMap_looped_map {α : Type} {write : α → List Word} {image : α → α} {limit : Nat} {items : List α}
    (short : items.length ≤ limit) (same : ∀ x ∈ items, write (image x) = write x) :
    (looped limit ((items.take limit).map image)).flatMap write = (looped limit items).flatMap write := by
  rw [List.take_of_length_le short]
  unfold looped
  rw [List.length_map, ← List.map_take, List.flatMap_map]
  exact List.flatMap_congr fun x member => same x (List.mem_of_mem_take member)

theorem length_cut {α : Type} {image : α → α} {limit : Nat} {items : List α} (short : items.length ≤ limit) :
    ((items.take limit).map image).length = items.length := by
  rw [List.take_of_length_le short, List.length_map]

theorem UsbInterface.marshalling_cut {i : UsbInterface} (short : i.endpoints.length ≤ usbEndpointMaxNum) :
    (i.keep fun limit _ => limit).marshalling = i.marshalling := by
  have same : i.endpoints.take usbEndpointMaxNum = i.endpoints := List.take_of_length_le short
  simp only [keep, marshalling, same]

theorem USBConfig.marshalling_cut {c : USBConfig} (short : c.interfaces.length ≤ usbInterfaceMaxNum)
    (interfaces : ∀ i ∈ c.interfaces, i.endpoints.length ≤ usbEndpointMaxNum) :
    (c.keep fun limit _ => limit).marshalling = c.marshalling := by
  simp only [keep, marshalling, length_cut short,
    flatMap_looped_map short fun i member => UsbInterface.marshalling_cut (interfaces i member)]

theorem UsbDevice.marshalling_cut {d : UsbDevice} (within : d.Lengths (· ≤ 128)) :
    d.cut.marshalling = d.marshalling := by
  have configs : ∀ c ∈ d.configs, (c.keep fun limit _ => limit).marshalling = c.marshalling := fun c member =>
    USBConfig.marshalling_cut (within.interfaces c member) (within.endpoints c member)
  have short : d.configs.length ≤ usbConfigMaxNum := within.configs
  simp only [cut, keep, marshalling, length_cut short, flatMap_looped_map short configs]

/-- A device whose `int32_t` members hold such values. -/
abbrev RangedDevice := {d : UsbDevice // d.Ranged}

/-- Devices written to a parcel are read back one after the other, each with the children that the loops
pass and with exactly the words it wrote; these children are the first 128 if there are fewer than
2³² of them; and within the limits the device that was read writes the same words. -/
theorem parcel_round_trip :
    (∀ (d : RangedDevice) rest,
      UsbDevice.unmarshalling (d.1.marshalling ++ rest) = (d.1.keep passed, rest)) ∧
    (∀ (ds : List RangedDevice) rest,
      readMany ds.length UsbDevice.unmarshalling (ds.flatMap (·.1.marshalling) ++ rest) =
        (ds.map (·.1.keep passed), rest)) ∧
    (∀ d : UsbDevice, d.Lengths (· < 2 ^ 32) → d.keep passed = d.cut) ∧
    ∀ d : UsbDevice, d.Lengths (· ≤ 128) → d.cut.marshalling = d.marshalling := by
  refine ⟨fun d rest => d.1.reads d.2 rest, fun ds rest => ?_, fun d => UsbDevice.keep_passed,
    fun d => UsbDevice.marshalling_cut⟩
  have all : Reads (readMany ds.length UsbDevice.unmarshalling) (ds.flatMap (·.1.marshalling))
      (ds.map (·.1.keep passed)) := .many fun d _ => d.1.reads d.2
  exact all rest

/-- Two devices with a configuration each. -/
theorem parcel_round_trip_two :
    ∃ d : RangedDevice, d.1.configs = [{ id := 1, interfaces := [{ id := 0, endpoints := [{ interfaceId := 0 }] }] }] ∧
      readMany 2 UsbDevice.unmarshalling (d.1.marshalling ++ d.1.marshalling ++ [.bits8 7]) =
        ([d.1.cut, d.1.cut], [.bits8 7]) ∧ d.1.cut.marshalling = d.1.marshalling := by
  have endpoint : USBEndpoint.Ranged { interfaceId := 0 } := ⟨by decide, by decide⟩
  have interface : UsbInterface.Ranged { id := 0, endpoints := [{ interfaceId := 0 }] } :=
    ⟨by decide, by decide, by decide, by decide, by decide, by simpa using endpoint⟩
  let d : UsbDevice := { configs := [{ id := 1, interfaces := [{ id := 0, endpoints := [{ interfaceId := 0 }] }] }] }
  have ranged : d.Ranged := by
    refine ⟨by decide, by decide, by decide, by decide, by decide, ?_⟩
    simpa [d] using (⟨by decide, by decide, by simpa using interface⟩ : USBConfig.Ranged _)
  have within : d.Lengths (· ≤ 128) := ⟨by simp [d], by simp [d], by simp [d]⟩
  have counted : d.Lengths (· < 2 ^ 32) := ⟨by simp [d], by simp [d], by simp [d]⟩
  refine ⟨⟨d, ranged⟩, rfl, ?_, parcel_round_trip.2.2.2 d within⟩
  have read := parcel_round_trip.2.1 [⟨d, ranged⟩, ⟨d, ranged⟩] [.bits8 7]
  simp only [List.map_cons, List.map_nil, parcel_round_trip.2.2.1 d counted] at read
  simpa using read

/-- `n` empty configurations of which the loop passes none are all lost. -/
theorem unmarshalling_replicate {n : Nat} (empty : passed usbConfigMaxNum n = 0) (many : 128 ≤ n) :
    ∃ d : RangedDevice, d.1.configs.length = n ∧ d.1.cut.configs.length = 128 ∧
      (UsbDevice.unmarshalling d.1.marshalling).1.configs = [] := by
  have ranged : UsbDevice.Ranged { configs := List.replicate n {} } := by
    have default : IsInt32 invalidUsbIntValue := by decide
    refine ⟨default, default, default, default, default, fun c member => ?_⟩
    rw [List.eq_of_mem_replicate member]
    exact ⟨by decide, by decide, fun i member => by cases member⟩
  refine ⟨⟨_, ranged⟩, List.length_replicate, ?_, ?_⟩
  · simp [UsbDevice.cut, UsbDevice.keep, usbConfigMaxNum, Nat.min_eq_left many]
  · have read := UsbDevice.reads _ ranged []
    rw [List.append_nil] at read
    simp only [read, UsbDevice.keep, List.length_replicate, empty, List.take_zero, List.map_nil]

/-- A device with 2³² configurations writes the count 0 and none of them, so that none is read. -/
theorem parcel_loses_configs :
    ∃ d : RangedDevice, d.1.configs.length = 2 ^ 32 ∧ d.1.cut.configs.length = 128 ∧
      (UsbDevice.unmarshalling d.1.marshalling).1.configs = [] :=
  unmarshalling_replicate (by decide) (by decide)

end UsbManager
