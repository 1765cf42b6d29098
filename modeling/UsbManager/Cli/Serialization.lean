import UsbManager.Device.Json

/-!
# The serialisation of the command line tool

`SerializeDevice` builds the JSON object of a device from the getters of the descriptor classes, and the
tool prints it. `getJsonString` prints the members. Two getters do not return their member:
`GetMaxPower` gives the power in mA, twice the member, and `GetInterfaceId` gives the `uint8_t` member as
an `int8_t`. So the objects are the same for a device that asks for no power from the bus and has no
interface number above 127.
-/

namespace UsbManager.Cli

open Json

def serializeEndpoint (endpoint : USBEndpoint) : Json :=
  .object [
    ("address", .number endpoint.address.toNat),
    ("attributes", .number endpoint.attributes.toNat),
    ("interval", .number endpoint.interval),
    ("maxPacketSize", .number endpoint.maxPacketSize),
    ("direction", .number endpoint.direction.toNat),
    ("number", .number endpoint.endpointNumber.toNat),
    ("type", .number endpoint.type.toNat),
    ("interfaceId", .number endpoint.getInterfaceId)]

def serializeInterface (iface : UsbInterface) : Json :=
  .object [
    ("id", .number iface.id),
    ("protocol", .number iface.protocol),
    ("clazz", .number iface.klass),
    ("subClass", .number iface.subClass),
    ("alternateSetting", .number iface.alternateSetting),
    ("name", .string (cStr iface.name)),
    ("endpoints", .array (iface.endpoints.map serializeEndpoint))]

/-- The interfaces that `GetInterface` finds below `GetInterfaceCount`, a `uint32_t`. -/
def countedInterfaces (config : USBConfig) : List UsbInterface :=
  (List.range (UInt32.ofNat config.interfaces.length).toNat).filterMap (config.interfaces[·]?)

def serializeConfig (config : USBConfig) : Json :=
  .object [
    ("id", .number config.id),
    ("attributes", .number config.attributes.toNat),
    ("maxPower", .number config.getMaxPower),
    ("name", .string (cStr config.name)),
    ("isRemoteWakeup", .bool config.isRemoteWakeup),
    ("isSelfPowered", .bool config.isSelfPowered),
    ("interfaces", .array ((countedInterfaces config).map serializeInterface))]

def serializeDevice (device : UsbDevice) : Json :=
  .object [
    ("busNum", .number device.busNum.toNat),
    ("devAddress", .number device.devAddr.toNat),
    ("serial", .string ""),
    ("name", .string (cStr device.name)),
    ("manufacturerName", .string (cStr device.manufacturerName)),
    ("productName", .string (cStr device.productName)),
    ("version", .string (cStr device.version)),
    ("vendorId", .number device.vendorId),
    ("productId", .number device.productId),
    ("clazz", .number device.baseClass),
    ("subClass", .number device.subClass),
    ("protocol", .number device.protocol),
    ("configs", .array (device.configs.map serializeConfig))]

/-- The device that is constructed from the tool's output. -/
def reported (codec : Codec) (d : UsbDevice) : UsbDevice := .ofJson (codec.parse (codec.print (serializeDevice d)))

/-! ## Agreement -/

/-- Both writers build the same object, and the same device is read from their texts. -/
structure WritersAgree (codec : Codec) (d : UsbDevice) : Prop where
  object : serializeDevice d = d.jsonObject codec
  device : reported codec d = d.received codec

/-- What the two getters change is zero, or small. -/
structure PlainGetters (d : UsbDevice) : Prop where
  maxPower : ∀ c ∈ d.configs, c.maxPower = 0
  interfaceId : ∀ c ∈ d.configs, ∀ i ∈ c.interfaces, ∀ ep ∈ i.endpoints, ep.interfaceId < 128

theorem filterMap_range_getElem? {α : Type} (items : List α) :
    (List.range items.length).filterMap (items[·]?) = items := by
  induction items with
  | nil => rfl
  | cons x items ih =>
    simp only [List.length_cons, List.range_succ_eq_map, List.filterMap_cons, List.getElem?_cons_zero,
      List.filterMap_map]
    exact congrArg (x :: ·) ih

theorem countedInterfaces_eq {c : USBConfig} (few : c.interfaces.length < 2 ^ 32) :
    countedInterfaces c = c.interfaces := by
  rw [countedInterfaces, UInt32.toNat_ofNat', Nat.mod_eq_of_lt few, filterMap_range_getElem?]

theorem getInterfaceId_eq_iff (ep : USBEndpoint) : ep.getInterfaceId = ep.interfaceId.toNat ↔ ep.interfaceId < 128 := by
  have range := ep.interfaceId.toNat_lt
  have member : ep.interfaceId.toBitVec.toNat = ep.interfaceId.toNat := rfl
  have bound : ep.interfaceId < 128 ↔ ep.interfaceId.toNat < 128 := UInt8.lt_iff_toNat_lt
  rw [bound, USBEndpoint.getInterfaceId, BitVec.toInt_eq_toNat_cond]
  split <;> omega

theorem serializeEndpoint_eq_iff (ep : USBEndpoint) : serializeEndpoint ep = ep.json ↔ ep.interfaceId < 128 := by
  rw [← getInterfaceId_eq_iff]
  simp [serializeEndpoint, USBEndpoint.json]

theorem serializeInterface_eq_iff (i : UsbInterface) :
    serializeInterface i = i.json ↔ ∀ ep ∈ i.endpoints, ep.interfaceId < 128 := by
  have children : i.endpoints.map serializeEndpoint = i.endpoints.map USBEndpoint.json ↔
      ∀ ep ∈ i.endpoints, ep.interfaceId < 128 := by
    rw [List.map_inj_left]
    exact forall₂_congr fun ep _ => serializeEndpoint_eq_iff ep
  rw [← children]
  simp [serializeInterface, UsbInterface.json, UsbInterface.jsonWith]

theorem serializeConfig_eq_iff {c : USBConfig} (few : c.interfaces.length < 2 ^ 32) :
    serializeConfig c = c.json ↔ c.maxPower = 0 ∧ ∀ i ∈ c.interfaces, ∀ ep ∈ i.endpoints, ep.interfaceId < 128 := by
  have children : c.interfaces.map serializeInterface = c.interfaces.map UsbInterface.json ↔
      ∀ i ∈ c.interfaces, ∀ ep ∈ i.endpoints, ep.interfaceId < 128 := by
    rw [List.map_inj_left]
    exact forall₂_congr fun i _ => serializeInterface_eq_iff i
  have power : c.getMaxPower = c.maxPower ↔ c.maxPower = 0 := by
    unfold USBConfig.getMaxPower
    omega
  rw [← children, ← power]
  simp [serializeConfig, USBConfig.json, USBConfig.jsonWith, countedInterfaces_eq few]

theorem serializeDevice_eq_iff {d : UsbDevice} (few : ∀ c ∈ d.configs, c.interfaces.length < 2 ^ 32) :
    serializeDevice d = d.json ↔ PlainGetters d := by
  have children : d.configs.map serializeConfig = d.configs.map USBConfig.json ↔ PlainGetters d := by
    rw [List.map_inj_left, forall₂_congr fun c member => serializeConfig_eq_iff (few c member)]
    exact ⟨fun both => ⟨fun c member => (both c member).1, fun c member => (both c member).2⟩,
      fun plain c member => ⟨plain.maxPower c member, plain.interfaceId c member⟩⟩
  rw [← children]
  simp [serializeDevice, UsbDevice.json, UsbDevice.jsonWith]

/-- For a parsed device the two writers agree exactly if every configuration asks for no power and no
endpoint has an interface number above 127. -/
theorem writers_agree_iff (codec : Codec) (d : UsbDevice) (produced : d.Produced)
    (faithful : ∀ j ∈ d.jsonNodes, codec.Faithful j) : WritersAgree codec d ↔ PlainGetters d := by
  have same := serializeDevice_eq_iff fun c member => (produced.bounded.configs c member).counted
  rw [← same, ← UsbDevice.jsonObject_eq faithful]
  refine ⟨fun agree => agree.object, fun object => ⟨object, ?_⟩⟩
  rw [reported, object, UsbDevice.received, UsbDevice.getJsonString]

/-- A self-powered storage device. -/
theorem writers_agree_self_powered : ∃ codec : Codec, WritersAgree codec (storageDevice 0 0) := by
  refine ⟨_, (writers_agree_iff (.ofTrees (storageDevice 0 0).jsonNodes) _ (storageDevice_produced 0 0)
    (Codec.ofTrees_faithful (by decide +kernel))).2 ⟨?_, ?_⟩⟩
  · simp [storageDevice, storageTree, Descriptor.toConfigs, Descriptor.ConfigTree.toConfig]
  · simp [storageDevice, storageTree, Descriptor.toConfigs, Descriptor.ConfigTree.toConfig,
      Descriptor.InterfaceTree.toInterface, Descriptor.EndpointFields.toEndpoint]

/-- A storage device that asks for 500 mA, 250 units, is reported with 500 units. -/
theorem writers_disagree :
    (storageDevice 250 0).Produced ∧ (storageDevice 250 0).configs.map (·.maxPower) = [250] ∧
      (UsbDevice.ofJson (some (serializeDevice (storageDevice 250 0)))).configs.map (·.maxPower) = [500] ∧
      ∃ codec : Codec, (∀ j ∈ (storageDevice 250 0).jsonNodes, codec.Faithful j) ∧
        ((storageDevice 250 0).received codec).configs.map (·.maxPower) = [250] ∧
        ¬ WritersAgree codec (storageDevice 250 0) := by
  have faithful : ∀ j ∈ (storageDevice 250 0).jsonNodes, (Codec.ofTrees (storageDevice 250 0).jsonNodes).Faithful j :=
    Codec.ofTrees_faithful (by decide +kernel)
  have tool : (UsbDevice.ofJson (some (serializeDevice (storageDevice 250 0)))).configs.map (·.maxPower) = [500] := by
    decide +kernel
  have event : (UsbDevice.ofJson (some (storageDevice 250 0).json)).configs.map (·.maxPower) = [250] := by
    decide +kernel
  refine ⟨storageDevice_produced 250 0, by decide +kernel, tool, _, faithful, ?_, fun agree => ?_⟩
  · rw [UsbDevice.received_eq faithful]
    exact event
  · have object := agree.object
    rw [UsbDevice.jsonObject_eq faithful] at object
    rw [object] at tool
    exact absurd (tool.symm.trans event) (by decide)

end UsbManager.Cli
