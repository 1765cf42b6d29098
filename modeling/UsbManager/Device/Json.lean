import Mathlib.Data.List.TakeWhile
import Mathlib.Data.UInt
import UsbManager.Device.Marshalling
import UsbManager.Device.Produced
import UsbManager.Lib.Json

/-!
# Devices as JSON

`getJsonString` of the four descriptor classes, and their constructors from JSON. A node prints each of
its children, parses that text and puts the tree into an array; what does not parse is left out. The
constructors look their members up by name, with `0` and the empty string as defaults.

With a codec that parses back what it printed of a device, a device comes back with all members that
the JSON carries. The one exception is the serial: the constructor reads it with `GetIntValue`, which
gives `0` for a string, and assigns this `0` to a `std::string` as one character.
-/

namespace UsbManager

open Json Parcel

/-- An integer assigned to a `std::string` is one character. -/
def stringOfInt (value : Int) : String := .singleton (.ofNat (UInt8.ofInt value).toNat)

/-! ## Printing and constructing -/

section Text

variable (codec : Codec)

namespace USBEndpoint

/-- The object that `getJsonString` prints. -/
def json (ep : USBEndpoint) : Json :=
  .object [
    ("address", .number ep.address.toNat),
    ("attributes", .number ep.attributes.toNat),
    ("interval", .number ep.interval),
    ("maxPacketSize", .number ep.maxPacketSize),
    ("direction", .number ep.direction.toNat),
    ("number", .number ep.endpointNumber.toNat),
    ("type", .number ep.type.toNat),
    ("interfaceId", .number ep.interfaceId.toNat)]

def getJsonString (ep : USBEndpoint) : String := codec.print ep.json

def ofJson (endpoint : Option Json) : USBEndpoint where
  address := .ofInt (getIntValue endpoint "address")
  attributes := .ofInt (getIntValue endpoint "attributes")
  interval := getIntValue endpoint "interval"
  maxPacketSize := getIntValue endpoint "maxPacketSize"
  interfaceId := .ofInt (getIntValue endpoint "interfaceId")

end USBEndpoint

namespace UsbInterface

/-- The object of an interface with these trees as its endpoints. -/
def jsonWith (endpoints : List Json) (i : UsbInterface) : Json :=
  .object [
    ("id", .number i.id),
    ("protocol", .number i.protocol),
    ("clazz", .number i.klass),
    ("subClass", .number i.subClass),
    ("alternateSetting", .number i.alternateSetting),
    ("name", .string (cStr i.name)),
    ("endpoints", .array endpoints)]

def getJsonString (i : UsbInterface) : String :=
  codec.print (i.jsonWith (i.endpoints.filterMap fun ep => codec.parse (ep.getJsonString codec)))

def ofJson (interface : Option Json) : UsbInterface where
  id := getIntValue interface "id"
  protocol := getIntValue interface "protocol"
  klass := getIntValue interface "clazz"
  subClass := getIntValue interface "subClass"
  alternateSetting := getIntValue interface "alternateSetting"
  name := getStringValue interface "name"
  endpoints := (getArrayItems (getObjectItem interface "endpoints")).map fun item => .ofJson (some item)

end UsbInterface

namespace USBConfig

def jsonWith (interfaces : List Json) (c : USBConfig) : Json :=
  .object [
    ("id", .number c.id),
    ("attributes", .number c.attributes.toNat),
    ("maxPower", .number c.maxPower),
    ("name", .string (cStr c.name)),
    ("isRemoteWakeup", .bool c.isRemoteWakeup),
    ("isSelfPowered", .bool c.isSelfPowered),
    ("interfaces", .array interfaces)]

def getJsonString (c : USBConfig) : String :=
  codec.print (c.jsonWith (c.interfaces.filterMap fun i => codec.parse (i.getJsonString codec)))

def ofJson (config : Option Json) : USBConfig where
  id := getIntValue config "id"
  attributes := .ofInt (getIntValue config "attributes")
  maxPower := getIntValue config "maxPower"
  name := getStringValue config "name"
  interfaces := (getArrayItems (getObjectItem config "interfaces")).map fun item => .ofJson (some item)

end USBConfig

namespace UsbDevice

def jsonWith (configs : List Json) (d : UsbDevice) : Json :=
  .object [
    ("busNum", .number d.busNum.toNat),
    ("devAddress", .number d.devAddr.toNat),
    ("serial", .string ""),
    ("name", .string (cStr d.name)),
    ("manufacturerName", .string (cStr d.manufacturerName)),
    ("productName", .string (cStr d.productName)),
    ("version", .string (cStr d.version)),
    ("vendorId", .number d.vendorId),
    ("productId", .number d.productId),
    ("clazz", .number d.baseClass),
    ("subClass", .number d.subClass),
    ("protocol", .number d.protocol),
    ("configs", .array configs)]

/-- The object that `getJsonString` prints. -/
def jsonObject (d : UsbDevice) : Json :=
  d.jsonWith (d.configs.filterMap fun c => codec.parse (c.getJsonString codec))

def getJsonString (d : UsbDevice) : String := codec.print (d.jsonObject codec)

def ofJson (device : Option Json) : UsbDevice where
  busNum := .ofInt (getIntValue device "busNum")
  devAddr := .ofInt (getIntValue device "devAddress")
  serial := stringOfInt (getIntValue device "serial")
  name := getStringValue device "name"
  manufacturerName := getStringValue device "manufacturerName"
  productName := getStringValue device "productName"
  version := getStringValue device "version"
  vendorId := getIntValue device "vendorId"
  productId := getIntValue device "productId"
  baseClass := getIntValue device "clazz"
  subClass := getIntValue device "subClass"
  protocol := getIntValue device "protocol"
  configs := (getArrayItems (getObjectItem device "configs")).map fun item => .ofJson (some item)

/-- The device that the receiver of the text constructs. -/
def received (d : UsbDevice) : UsbDevice := .ofJson (codec.parse (d.getJsonString codec))

end UsbDevice

end Text

/-! ## The tree of a device -/

def UsbInterface.json (i : UsbInterface) : Json := i.jsonWith (i.endpoints.map USBEndpoint.json)

def USBConfig.json (c : USBConfig) : Json := c.jsonWith (c.interfaces.map UsbInterface.json)

def UsbDevice.json (d : UsbDevice) : Json := d.jsonWith (d.configs.map USBConfig.json)

/-- The trees that the codec has to print and parse for a device. -/
def UsbInterface.jsonNodes (i : UsbInterface) : List Json := i.json :: i.endpoints.map USBEndpoint.json

def USBConfig.jsonNodes (c : USBConfig) : List Json := c.json :: c.interfaces.flatMap UsbInterface.jsonNodes

def UsbDevice.jsonNodes (d : UsbDevice) : List Json := d.json :: d.configs.flatMap USBConfig.jsonNodes

theorem filterMap_eq_map {α β : Type} {f : α → Option β} {g : α → β} {xs : List α} (each : ∀ x ∈ xs, f x = some (g x)) :
    xs.filterMap f = xs.map g := by
  induction xs with
  | nil => rfl
  | cons x xs ih =>
    rw [List.filterMap_cons_some (each x (List.mem_cons_self ..)), List.map_cons,
      ih fun y member => each y (List.mem_cons_of_mem _ member)]

section Faithful

variable {codec : Codec}

theorem UsbInterface.getJsonString_eq {i : UsbInterface} (faithful : ∀ j ∈ i.jsonNodes, codec.Faithful j) :
    i.getJsonString codec = codec.print i.json := by
  have endpoints : i.endpoints.filterMap (fun ep => codec.parse (ep.getJsonString codec)) =
      i.endpoints.map USBEndpoint.json :=
    filterMap_eq_map fun ep member => faithful _ (List.mem_cons_of_mem _ (List.mem_map_of_mem member))
  rw [getJsonString, endpoints, json]

theorem USBConfig.getJsonString_eq {c : USBConfig} (faithful : ∀ j ∈ c.jsonNodes, codec.Faithful j) :
    c.getJsonString codec = codec.print c.json := by
  have interfaces : c.interfaces.filterMap (fun i => codec.parse (i.getJsonString codec)) =
      c.interfaces.map UsbInterface.json := by
    apply filterMap_eq_map
    intro i member
    have nodes : ∀ j ∈ i.jsonNodes, codec.Faithful j := fun j inside =>
      faithful j (List.mem_cons_of_mem _ (List.mem_flatMap_of_mem member inside))
    rw [UsbInterface.getJsonString_eq nodes]
    exact nodes _ (List.mem_cons_self ..)
  rw [getJsonString, interfaces, json]

/-- The object that is printed is the tree of the device. -/
theorem UsbDevice.jsonObject_eq {d : UsbDevice} (faithful : ∀ j ∈ d.jsonNodes, codec.Faithful j) :
    d.jsonObject codec = d.json := by
  have configs : d.configs.filterMap (fun c => codec.parse (c.getJsonString codec)) = d.configs.map USBConfig.json := by
    apply filterMap_eq_map
    intro c member
    have nodes : ∀ j ∈ c.jsonNodes, codec.Faithful j := fun j inside =>
      faithful j (List.mem_cons_of_mem _ (List.mem_flatMap_of_mem member inside))
    rw [USBConfig.getJsonString_eq nodes]
    exact nodes _ (List.mem_cons_self ..)
  rw [jsonObject, configs, json]

theorem UsbDevice.received_eq {d : UsbDevice} (faithful : ∀ j ∈ d.jsonNodes, codec.Faithful j) :
    d.received codec = .ofJson (some d.json) := by
  have parsed : codec.parse (codec.print d.json) = some d.json := faithful _ (List.mem_cons_self ..)
  rw [received, getJsonString, jsonObject_eq faithful, parsed]

end Faithful

/-! ## The device that is received -/

/-- A text that C reads to its end. -/
def NulFree (text : String) : Prop := '\x00' ∉ text.toList

instance (text : String) : Decidable (NulFree text) := inferInstanceAs (Decidable (_ ∉ _))

theorem cStr_eq {text : String} (nulFree : NulFree text) : cStr text = text := by
  have all : ∀ char ∈ text.toList, decide (char ≠ '\x00') = true := fun char member =>
    decide_eq_true fun nul => nulFree (nul ▸ member)
  rw [cStr, List.takeWhile_eq_self_iff.2 all, String.ofList_toList]

/-- The values that pass through JSON: all numbers are of an `int`, all texts without NUL. -/
structure USBEndpoint.Plain (ep : USBEndpoint) : Prop extends ep.Ranged where
  address : ep.address < 2 ^ 31
  attributes : ep.attributes < 2 ^ 31

structure UsbInterface.Plain (i : UsbInterface) : Prop extends i.Ranged where
  name : NulFree i.name
  plain : ∀ ep ∈ i.endpoints, ep.Plain

structure USBConfig.Plain (c : USBConfig) : Prop extends c.Ranged where
  attributes : c.attributes < 2 ^ 31
  name : NulFree c.name
  plain : ∀ i ∈ c.interfaces, i.Plain

structure UsbDevice.Plain (d : UsbDevice) : Prop extends d.Ranged where
  name : NulFree d.name
  manufacturerName : NulFree d.manufacturerName
  productName : NulFree d.productName
  version : NulFree d.version
  plain : ∀ c ∈ d.configs, c.Plain

/-- A node with the members that its JSON object carries, and the others at their defaults. -/
def UsbInterface.carried (i : UsbInterface) : UsbInterface := { i with iInterface := 255, authorized := true }

def USBConfig.carried (c : USBConfig) : USBConfig :=
  { c with interfaces := c.interfaces.map UsbInterface.carried, iConfiguration := 255 }

/-- The serial that the JSON of every device carries is the empty one. -/
def UsbDevice.carried (d : UsbDevice) : UsbDevice where
  busNum := d.busNum
  devAddr := d.devAddr
  serial := ""
  name := d.name
  manufacturerName := d.manufacturerName
  productName := d.productName
  version := d.version
  vendorId := d.vendorId
  productId := d.productId
  baseClass := d.baseClass
  subClass := d.subClass
  protocol := d.protocol
  configs := d.configs.map USBConfig.carried

/-! ### Accessors -/

theorem valueInt_int32 {value : Int} (range : IsInt32 value) : valueInt value = value :=
  valueInt_eq range.1 range.2

theorem ofInt_valueInt_byte (n : UInt8) : UInt8.ofInt (valueInt n.toNat) = n := by
  have := n.toNat_lt
  rw [valueInt_eq (by omega) (by omega)]
  apply UInt8.toNat_inj.1
  simp only [UInt8.ofInt, UInt8.toNat_ofNat']
  omega

theorem ofInt_valueInt_word {n : UInt32} (small : n < 2 ^ 31) : UInt32.ofInt (valueInt n.toNat) = n := by
  rw [UInt32.lt_iff_toNat_lt] at small
  have below : n.toNat < 2 ^ 31 := small
  rw [valueInt_eq (by omega) (by omega)]
  apply UInt32.toNat_inj.1
  simp only [UInt32.ofInt, UInt32.toNat_ofNat']
  omega

/-! ### Round trips -/

theorem USBEndpoint.ofJson_json {ep : USBEndpoint} (plain : ep.Plain) : ofJson (some ep.json) = ep := by
  simp [ofJson, json, getIntValue, sameKey, valueInt_int32 plain.interval, valueInt_int32 plain.maxPacketSize,
    ofInt_valueInt_word plain.address, ofInt_valueInt_word plain.attributes, ofInt_valueInt_byte]

/-- The children are constructed from their trees. -/
theorem map_ofJson {α : Type} {json : α → Json} {ofJson : Option Json → α} {image : α → α} {items : List α}
    (each : ∀ x ∈ items, ofJson (some (json x)) = image x) :
    (items.map json).map (fun item => ofJson (some item)) = items.map image := by
  rw [List.map_map]
  exact List.map_congr_left each

theorem UsbInterface.ofJson_json {i : UsbInterface} (plain : i.Plain) : ofJson (some i.json) = i.carried := by
  have endpoints := map_ofJson fun ep member => USBEndpoint.ofJson_json (plain.plain ep member)
  rw [List.map_id'] at endpoints
  simp [ofJson, json, jsonWith, carried, getIntValue, getStringValue, sameKey, valueInt_int32 plain.id,
    valueInt_int32 plain.protocol, valueInt_int32 plain.klass, valueInt_int32 plain.subClass,
    valueInt_int32 plain.alternateSetting, cStr_eq plain.name, endpoints, -List.map_map]

theorem USBConfig.ofJson_json {c : USBConfig} (plain : c.Plain) : ofJson (some c.json) = c.carried := by
  have interfaces := map_ofJson fun i member => UsbInterface.ofJson_json (plain.plain i member)
  simp [ofJson, json, jsonWith, carried, getIntValue, getStringValue, sameKey, valueInt_int32 plain.id,
    ofInt_valueInt_word plain.attributes, valueInt_int32 plain.maxPower, cStr_eq plain.name, interfaces,
    -List.map_map]

/-- All members come back but the serial, for which the constructor puts a NUL. -/
theorem UsbDevice.ofJson_json {d : UsbDevice} (plain : d.Plain) :
    ofJson (some d.json) = { d.carried with serial := "\x00" } := by
  have configs := map_ofJson fun c member => USBConfig.ofJson_json (plain.plain c member)
  have nul : stringOfInt 0 = "\x00" := by decide
  simp [ofJson, json, jsonWith, carried, getIntValue, getStringValue, sameKey, valueInt_int32 plain.vendorId,
    valueInt_int32 plain.productId, valueInt_int32 plain.baseClass, valueInt_int32 plain.subClass,
    valueInt_int32 plain.protocol, ofInt_valueInt_byte, cStr_eq plain.name, cStr_eq plain.manufacturerName,
    cStr_eq plain.productName, cStr_eq plain.version, configs, nul, -List.map_map]

theorem USBConfig.getJsonString_carried (codec : Codec) (c : USBConfig) :
    c.carried.getJsonString codec = c.getJsonString codec := by
  simp only [getJsonString, carried, List.filterMap_map]
  rfl

/-- The text says nothing but the members that it carries. -/
theorem UsbDevice.getJsonString_carried (codec : Codec) (d : UsbDevice) (serial : String) :
    { d.carried with serial }.getJsonString codec = d.getJsonString codec := by
  have same : ∀ c : USBConfig, codec.parse (c.carried.getJsonString codec) = codec.parse (c.getJsonString codec) :=
    fun c => by rw [USBConfig.getJsonString_carried]
  have configs : (d.configs.map USBConfig.carried).filterMap (fun c => codec.parse (c.getJsonString codec)) =
      d.configs.filterMap fun c => codec.parse (c.getJsonString codec) := by
    rw [List.filterMap_map]
    exact List.filterMap_congr fun c _ => same c
  simp only [getJsonString, jsonObject, carried, configs]
  rfl

theorem UsbDevice.received_carried {codec : Codec} {d : UsbDevice} (plain : d.Plain)
    (faithful : ∀ j ∈ d.jsonNodes, codec.Faithful j) : d.received codec = { d.carried with serial := "\x00" } :=
  (received_eq faithful).trans (ofJson_json plain)

/-- The receiver has the members of the device and the empty serial, and prints the same text. -/
structure UsbDevice.RoundTrips (codec : Codec) (d : UsbDevice) : Prop where
  members : { d.received codec with serial := "" } = d.carried
  serial : (d.received codec).serial = ""
  text : (d.received codec).getJsonString codec = d.getJsonString codec

/-- No device makes the round trip: all members come back and the text is the same, but the serial is a
NUL where the JSON has the empty one. -/
theorem json_round_trip_fails (codec : Codec) (d : UsbDevice) (plain : d.Plain)
    (faithful : ∀ j ∈ d.jsonNodes, codec.Faithful j) :
    { d.received codec with serial := "" } = d.carried ∧
      (d.received codec).getJsonString codec = d.getJsonString codec ∧
      (d.received codec).serial = "\x00" ∧
      ¬ d.RoundTrips codec := by
  have received := UsbDevice.received_carried plain faithful
  refine ⟨?_, ?_, ?_, fun roundTrips => ?_⟩
  · rw [received]
    rfl
  · rw [received]
    exact d.getJsonString_carried codec _
  · rw [received]
  · have empty : "\x00" = "" := by simpa only [received] using roundTrips.serial
    exact absurd empty (by decide)

/-! ### Parsed devices -/

theorem isInt32_of_isByte {value : Int} (byte : IsByte value) : IsInt32 value := by
  obtain ⟨low, high⟩ := byte
  constructor <;> omega

theorem isInt32_of_isWord {value : Int} (word : IsWord value) : IsInt32 value := by
  obtain ⟨low, high⟩ := word
  constructor <;> omega

theorem lt_of_byte {value : UInt32} (byte : value < 256) : value < 2 ^ 31 := by
  rw [UInt32.lt_iff_toNat_lt] at byte ⊢
  exact Nat.lt_trans byte (by decide)

theorem USBEndpoint.Bounded.plain {ep : USBEndpoint} (bounded : ep.Bounded) : ep.Plain :=
  ⟨⟨isInt32_of_isByte bounded.interval, isInt32_of_isWord bounded.maxPacketSize⟩,
    lt_of_byte bounded.address, lt_of_byte bounded.attributes⟩

theorem UsbInterface.Bounded.plain {i : UsbInterface} (bounded : i.Bounded) (name : NulFree i.name) : i.Plain := by
  have endpoints : ∀ ep ∈ i.endpoints, ep.Plain := fun ep member => (bounded.endpoints ep member).plain
  exact ⟨⟨isInt32_of_isByte bounded.id, isInt32_of_isByte bounded.protocol, isInt32_of_isByte bounded.klass,
    isInt32_of_isByte bounded.subClass, isInt32_of_isByte bounded.alternateSetting,
    fun ep member => (endpoints ep member).toRanged⟩, name, endpoints⟩

/-- The texts of a configuration. -/
structure USBConfig.NulFreeTexts (c : USBConfig) : Prop where
  name : NulFree c.name
  interfaces : ∀ i ∈ c.interfaces, NulFree i.name

theorem USBConfig.Bounded.plain {c : USBConfig} (bounded : c.Bounded) (texts : c.NulFreeTexts) : c.Plain := by
  have interfaces : ∀ i ∈ c.interfaces, i.Plain := fun i member =>
    (bounded.interfaces i member).plain (texts.interfaces i member)
  exact ⟨⟨isInt32_of_isByte bounded.id, isInt32_of_isByte bounded.maxPower,
    fun i member => (interfaces i member).toRanged⟩, lt_of_byte bounded.attributes, texts.name, interfaces⟩

/-- The texts of a device that JSON carries. -/
structure UsbDevice.NulFreeTexts (d : UsbDevice) : Prop where
  name : NulFree d.name
  manufacturerName : NulFree d.manufacturerName
  productName : NulFree d.productName
  version : NulFree d.version
  configs : ∀ c ∈ d.configs, c.NulFreeTexts

/-- A parsed device passes through JSON if its texts do. -/
theorem UsbDevice.Produced.plain {d : UsbDevice} (produced : d.Produced) (texts : d.NulFreeTexts) : d.Plain := by
  have bounded := produced.bounded
  have configs : ∀ c ∈ d.configs, c.Plain := fun c member =>
    (bounded.configs c member).plain (texts.configs c member)
  exact ⟨⟨isInt32_of_isWord bounded.vendorId, isInt32_of_isWord bounded.productId,
    isInt32_of_isByte bounded.baseClass, isInt32_of_isByte bounded.subClass, isInt32_of_isByte bounded.protocol,
    fun c member => (configs c member).toRanged⟩, texts.name, texts.manufacturerName, texts.productName,
    texts.version, configs⟩

theorem storageDevice_nulFree (bMaxPower bInterfaceNumber : UInt8) :
    (storageDevice bMaxPower bInterfaceNumber).NulFreeTexts := by
  have named : NulFree "1-2" := by decide
  have empty : NulFree "" := by decide
  refine ⟨named, empty, empty, empty, fun c member => ?_⟩
  obtain rfl := List.mem_singleton.1 member
  refine ⟨empty, fun i member => ?_⟩
  obtain rfl := List.mem_singleton.1 member
  exact empty

/-- The storage device comes back with its tree, and with a NUL as its serial. -/
theorem json_round_trip_storage :
    ∃ codec : Codec, { (storageDevice 50 0).received codec with serial := "" } = (storageDevice 50 0).carried ∧
      ((storageDevice 50 0).received codec).serial = "\x00" ∧ ¬ (storageDevice 50 0).RoundTrips codec := by
  have fails := json_round_trip_fails (.ofTrees (storageDevice 50 0).jsonNodes) (storageDevice 50 0)
    ((storageDevice_produced 50 0).plain (storageDevice_nulFree 50 0)) (Codec.ofTrees_faithful (by decide +kernel))
  exact ⟨_, fails.1, fails.2.2⟩

/-- The serial of the storage device is a NUL on the receiver and not the empty text of the JSON. -/
theorem json_serial_not_empty :
    ∃ codec : Codec, (∀ j ∈ (storageDevice 50 0).jsonNodes, codec.Faithful j) ∧ (storageDevice 50 0).Plain ∧
      getStringValue (codec.parse ((storageDevice 50 0).getJsonString codec)) "serial" = "" ∧
      ((storageDevice 50 0).received codec).serial ≠ "" := by
  have plain := (storageDevice_produced 50 0).plain (storageDevice_nulFree 50 0)
  have faithful : ∀ j ∈ (storageDevice 50 0).jsonNodes, (Codec.ofTrees (storageDevice 50 0).jsonNodes).Faithful j :=
    Codec.ofTrees_faithful (by decide +kernel)
  refine ⟨_, faithful, plain, ?_, ?_⟩
  · have parsed := faithful _ (List.mem_cons_self ..)
    rw [UsbDevice.getJsonString, UsbDevice.jsonObject_eq faithful, parsed]
    simp [UsbDevice.json, UsbDevice.jsonWith, getStringValue, sameKey]
  · rw [UsbDevice.received_carried plain faithful]
    decide

end UsbManager
