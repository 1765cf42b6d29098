import UsbManager.Capi.DeviceList
import UsbManager.Napi.Values

/-!
# Devices as JavaScript objects

`getDevices` hands an application objects with the tree of each device, and the other functions of the
interface read a device, a configuration, an interface or an endpoint back from such an object. What is
read back is `throughJs`: the numbers that say what the object is about are all there, the texts are cut
to 32 bytes, the power of a configuration is the number of milliamperes, which counts again as units of
2 mA, and what the objects do not show is at its default.
-/

namespace UsbManager

/-- A `size_t` as an `int32_t` that counts a loop. -/
def asInt32 (size : Nat) : Nat := (Parcel.intOfUint32 (.ofNat size)).toNat

/-- A `size_t` as a `uint32_t` that counts a loop. -/
def asUint32 (size : Nat) : Nat := (UInt32.ofNat size).toNat

structure USBDevicePipe where
  busNum : UInt8 := 255
  devAddr : UInt8 := 255
  deriving DecidableEq, Repr

namespace Napi

open Parcel NapiUtil

variable {Number : Type}

def defaultDescriptionSize : Nat := 32

/-! ## Writing -/

section

variable (e : Engine Number)

def createUsbDevicePipe (pipe : USBDevicePipe) : JsValue Number :=
  .object [("busNum", setValueInt32 e pipe.busNum.toNat), ("devAddress", setValueInt32 e pipe.devAddr.toNat)]

def ctoJSUsbEndpoint (usbEndpoint : USBEndpoint) : JsValue Number :=
  .object [
    ("address", setValueUint32 e usbEndpoint.address),
    ("attributes", setValueUint32 e usbEndpoint.attributes),
    ("interval", setValueInt32 e usbEndpoint.interval),
    ("maxPacketSize", setValueInt32 e usbEndpoint.maxPacketSize),
    ("direction", setValueUint32 e usbEndpoint.direction),
    ("number", setValueUint32 e usbEndpoint.endpointNumber),
    ("type", setValueUint32 e usbEndpoint.type),
    ("interfaceId", setValueInt32 e usbEndpoint.getInterfaceId)]

def ctoJSUsbInterface (usbInterface : UsbInterface) : JsValue Number :=
  .object [
    ("id", setValueInt32 e usbInterface.id),
    ("protocol", setValueInt32 e usbInterface.protocol),
    ("clazz", setValueInt32 e usbInterface.klass),
    ("subClass", setValueInt32 e usbInterface.subClass),
    ("alternateSetting", setValueInt32 e usbInterface.alternateSetting),
    ("name", setValueUtf8String usbInterface.name),
    ("endpoints", .array ((usbInterface.endpoints.take (asInt32 usbInterface.endpoints.length)).map
      (ctoJSUsbEndpoint e)))]

def ctoJSUsbConfig (usbConfig : USBConfig) : JsValue Number :=
  .object [
    ("id", setValueInt32 e usbConfig.id),
    ("attributes", setValueUint32 e usbConfig.attributes),
    ("isRemoteWakeup", setValueBool usbConfig.isRemoteWakeup),
    ("isSelfPowered", setValueBool usbConfig.isSelfPowered),
    ("maxPower", setValueInt32 e usbConfig.getMaxPower),
    ("name", setValueUtf8String usbConfig.name),
    ("interfaces", .array ((usbConfig.interfaces.take (asUint32 usbConfig.interfaces.length)).map
      (ctoJSUsbInterface e)))]

def ctoJSUsbDevice (usbDevice : UsbDevice) : JsValue Number :=
  .object [
    ("name", setValueUtf8String usbDevice.name),
    ("serial", setValueUtf8String usbDevice.serial),
    ("manufacturerName", setValueUtf8String usbDevice.manufacturerName),
    ("productName", setValueUtf8String usbDevice.productName),
    ("version", setValueUtf8String usbDevice.version),
    ("vendorId", setValueInt32 e usbDevice.vendorId),
    ("productId", setValueInt32 e usbDevice.productId),
    ("clazz", setValueInt32 e usbDevice.baseClass),
    ("subClass", setValueInt32 e usbDevice.subClass),
    ("protocol", setValueInt32 e usbDevice.protocol),
    ("devAddress", setValueInt32 e usbDevice.devAddr.toNat),
    ("busNum", setValueInt32 e usbDevice.busNum.toNat),
    ("configs", .array ((usbDevice.configs.take (asInt32 usbDevice.configs.length)).map (ctoJSUsbConfig e)))]

/-! ## Reading -/

def parseUsbDevicePipe (obj : JsValue Number) : Except String USBDevicePipe := do
  if !obj.isObject then throw "The type of pipe must be USBDevicePipe."
  let busNum ← jsObjectToInt e obj "busNum" 0
  let devAddr ← jsObjectToInt e obj "devAddress" 0
  return { busNum := .ofInt busNum, devAddr := .ofInt devAddr }

/-- The direction is checked, with the message for an interface without endpoints, and then not used. -/
def parseEndpointObj (endpointObj : JsValue Number) : Except String USBEndpoint := do
  let address ← jsObjectToInt e endpointObj "address" 0
  let attributes ← jsObjectToInt e endpointObj "attributes" 0
  let interval ← jsObjectToInt e endpointObj "interval" 0
  let maxPacketSize ← jsObjectToInt e endpointObj "maxPacketSize" 0
  let direction ← jsObjectToInt e endpointObj "direction" 0
  if direction ≠ 0x80 ∧ direction ≠ 0 then throw "The interface should have the endpoints property."
  let _ ← jsObjectToInt e endpointObj "number" 0
  let _ ← jsObjectToInt e endpointObj "type" 0
  let interfaceId ← jsObjectToInt e endpointObj "interfaceId" 0
  return {
    address := uint32OfInt address
    attributes := uint32OfInt attributes
    interval := intOfUint32 (uint32OfInt interval)
    maxPacketSize := intOfUint32 (uint32OfInt maxPacketSize)
    interfaceId := .ofInt interfaceId }

def parseEndpointsObjs (interfaceObj : JsValue Number) : Except String (List USBEndpoint) :=
  match interfaceObj.namedProperty "endpoints" with
  | none => .error "The interface should have the endpoints property."
  | some (.array endpointsObjs) => endpointsObjs.mapM (parseEndpointObj e)
  | some _ => .error "The type of endpoints must be array."

/-- The constructor takes the name and does not keep it. -/
def parseInterfaceObj (interfaceObj : JsValue Number) : Except String UsbInterface := do
  let id ← jsObjectToInt e interfaceObj "id" 0
  let protocol ← jsObjectToInt e interfaceObj "protocol" 0
  let clzz ← jsObjectToInt e interfaceObj "clazz" 0
  let subClass ← jsObjectToInt e interfaceObj "subClass" 0
  let alternateSetting ← jsObjectToInt e interfaceObj "alternateSetting" 0
  let _ ← jsObjectToString e interfaceObj "name" defaultDescriptionSize ""
  let eps ← parseEndpointsObjs e interfaceObj
  return { id, protocol, klass := clzz, subClass, alternateSetting, endpoints := eps }

def parseInterfacesObjs (configObj : JsValue Number) : Except String (List UsbInterface) :=
  match configObj.namedProperty "interfaces" with
  | none => .error "The config should have the interfaces property."
  | some (.array interfacesObjs) => interfacesObjs.mapM (parseInterfaceObj e)
  | some _ => .error "The type of interfaces must be array."

def parseConfigObj (configObj : JsValue Number) : Except String USBConfig := do
  let id ← jsObjectToInt e configObj "id" 0
  let attributes ← jsObjectToInt e configObj "attributes" 0
  let maxPower ← jsObjectToInt e configObj "maxPower" 0
  let name ← jsObjectToString e configObj "name" defaultDescriptionSize ""
  let _ ← jsObjectToBool configObj "isRemoteWakeup" false
  let _ ← jsObjectToBool configObj "isSelfPowered" false
  let interfaces ← parseInterfacesObjs e configObj
  return {
    id := intOfUint32 (uint32OfInt id)
    attributes := uint32OfInt attributes
    interfaces
    maxPower := intOfUint32 (uint32OfInt maxPower)
    name }

/-- An object that is no array has no configurations. -/
def parseConfigsObjs (deviceObj : JsValue Number) : Except String (List USBConfig) :=
  match deviceObj.namedProperty "configs" with
  | none => .error "The device should have the configs property."
  | some configsObj =>
    if configsObj.isObject then configsObj.elements.mapM (parseConfigObj e)
    else .error "The type of configs must be object."

/-- The serial is read and not used. -/
def parseDeviceObj (deviceObj : JsValue Number) : Except String UsbDevice := do
  let name ← jsObjectToString e deviceObj "name" defaultDescriptionSize ""
  let manufacturerName ← jsObjectToString e deviceObj "manufacturerName" defaultDescriptionSize ""
  let productName ← jsObjectToString e deviceObj "productName" defaultDescriptionSize ""
  let version ← jsObjectToString e deviceObj "version" defaultDescriptionSize ""
  let _ ← jsObjectToString e deviceObj "serial" defaultDescriptionSize ""
  let devAddr ← jsObjectToInt e deviceObj "devAddress" 0
  let busNum ← jsObjectToInt e deviceObj "busNum" 0
  let vendorId ← jsObjectToInt e deviceObj "vendorId" 0
  let productId ← jsObjectToInt e deviceObj "productId" 0
  let clazz ← jsObjectToInt e deviceObj "clazz" 0
  let subClass ← jsObjectToInt e deviceObj "subClass" 0
  let protocol ← jsObjectToInt e deviceObj "protocol" 0
  let configs ← parseConfigsObjs e deviceObj
  return {
    name, manufacturerName, productName, version, devAddr := .ofInt devAddr, busNum := .ofInt busNum, vendorId,
    productId, baseClass := clazz, subClass, protocol, configs }

end

/-! ## What is read back -/

end Napi

/-- The constructor that the bindings use keeps no name. -/
def UsbInterface.throughJs (i : UsbInterface) : UsbInterface where
  id := i.id
  protocol := i.protocol
  klass := i.klass
  subClass := i.subClass
  alternateSetting := i.alternateSetting
  endpoints := i.endpoints.take (asInt32 i.endpoints.length)

section

variable {Number : Type} (e : Napi.Engine Number)

def USBConfig.throughJs (c : USBConfig) : USBConfig where
  id := c.id
  attributes := c.attributes
  interfaces := (c.interfaces.take (asUint32 c.interfaces.length)).map UsbInterface.throughJs
  maxPower := c.getMaxPower
  name := e.text Napi.defaultDescriptionSize c.name

def UsbDevice.throughJs (d : UsbDevice) : UsbDevice where
  name := e.text Napi.defaultDescriptionSize d.name
  manufacturerName := e.text Napi.defaultDescriptionSize d.manufacturerName
  productName := e.text Napi.defaultDescriptionSize d.productName
  version := e.text Napi.defaultDescriptionSize d.version
  devAddr := d.devAddr
  busNum := d.busNum
  vendorId := d.vendorId
  productId := d.productId
  baseClass := d.baseClass
  subClass := d.subClass
  protocol := d.protocol
  configs := (d.configs.take (asInt32 d.configs.length)).map (USBConfig.throughJs e)

end

/-! ### Numbers -/

theorem uint32OfInt_intOfUint32 (bits : UInt32) : Parcel.uint32OfInt (Parcel.intOfUint32 bits) = bits := by
  rw [Parcel.uint32OfInt, Parcel.intOfUint32, BitVec.ofInt_toInt]

theorem isInt32_toNat (n : UInt8) : Parcel.IsInt32 n.toNat := isInt32_of_isByte (isByte_toNat n)

theorem USBEndpoint.isInt32_getInterfaceId (ep : USBEndpoint) : Parcel.IsInt32 ep.getInterfaceId := by
  have low := ep.interfaceId.toBitVec.le_toInt
  have high := ep.interfaceId.toBitVec.toInt_lt
  unfold getInterfaceId
  constructor <;> omega

/-- The direction is a bit, clear or set. -/
theorem USBEndpoint.direction_cases (ep : USBEndpoint) : ep.direction = 0 ∨ ep.direction = 0x80 := by
  have bit : (ep.address &&& 0x80).toBitVec = ep.address.toBitVec &&& .twoPow 32 7 := rfl
  rw [BitVec.and_twoPow] at bit
  split at bit
  · exact .inr (UInt32.toBitVec_inj.1 bit)
  · exact .inl (UInt32.toBitVec_inj.1 bit)

namespace Napi

open Parcel NapiUtil Descriptor

variable {Number : Type}

@[simp] theorem ok_bind {α β : Type} (a : α) (next : α → Except String β) : (Except.ok a >>= next) = next a := rfl

/-- An array is read element by element. -/
theorem mapM_map {α β γ : Type} {read : β → Except String γ} {write : α → β} {image : α → γ} (items : List α)
    (each : ∀ x ∈ items, read (write x) = .ok (image x)) : (items.map write).mapM read = .ok (items.map image) := by
  induction items with
  | nil => rfl
  | cons x rest ih =>
    rw [List.map_cons, List.mapM_cons, each x List.mem_cons_self, ok_bind, ih fun y member => each y (.tail _ member)]
    rfl

section Documented

variable {e : Engine Number} (doc : e.Documented)

include doc

theorem parseUsbDevicePipe_create (pipe : USBDevicePipe) :
    parseUsbDevicePipe e (createUsbDevicePipe e pipe) = .ok pipe := by
  simp [parseUsbDevicePipe, createUsbDevicePipe, jsObjectToInt, property, setValueInt32, doc.int32 (isInt32_toNat _),
    ofInt_toNat]

theorem parseEndpointObj_ctoJS {ep : USBEndpoint} (ranged : ep.Ranged) :
    parseEndpointObj e (ctoJSUsbEndpoint e ep) = .ok ep := by
  have set : intOfUint32 0x80 = 0x80 := rfl
  have clear : intOfUint32 0 = 0 := rfl
  obtain direction | direction := ep.direction_cases <;>
    simp [parseEndpointObj, ctoJSUsbEndpoint, jsObjectToInt, property, setValueInt32, setValueUint32, doc.uint32,
      doc.int32 ranged.interval, doc.int32 ranged.maxPacketSize, doc.int32 ep.isInt32_getInterfaceId,
      uint32OfInt_intOfUint32, intOfUint32_uint32OfInt ranged.interval, intOfUint32_uint32OfInt ranged.maxPacketSize,
      Capi.ofInt_getInterfaceId, direction, set, clear]

theorem parseInterfaceObj_ctoJS {i : UsbInterface} (ranged : i.Ranged) :
    parseInterfaceObj e (ctoJSUsbInterface e i) = .ok i.throughJs := by
  have endpoints := mapM_map (i.endpoints.take (asInt32 i.endpoints.length)) fun ep member =>
    parseEndpointObj_ctoJS doc (ranged.endpoints ep (List.mem_of_mem_take member))
  rw [List.map_id'] at endpoints
  simp [parseInterfaceObj, ctoJSUsbInterface, parseEndpointsObjs, jsObjectToInt, jsObjectToString, property,
    setValueInt32, setValueUtf8String, doc.int32 ranged.id, doc.int32 ranged.protocol, doc.int32 ranged.klass,
    doc.int32 ranged.subClass, doc.int32 ranged.alternateSetting, endpoints, UsbInterface.throughJs, -List.map_take]

theorem parseConfigObj_ctoJS {c : USBConfig} (ranged : c.Ranged) (power : IsInt32 c.getMaxPower) :
    parseConfigObj e (ctoJSUsbConfig e c) = .ok (c.throughJs e) := by
  have interfaces := mapM_map (c.interfaces.take (asUint32 c.interfaces.length)) fun i member =>
    parseInterfaceObj_ctoJS doc (ranged.interfaces i (List.mem_of_mem_take member))
  simp [parseConfigObj, ctoJSUsbConfig, parseInterfacesObjs, jsObjectToInt, jsObjectToString, jsObjectToBool, property,
    setValueInt32, setValueUint32, setValueUtf8String, setValueBool, doc.uint32, doc.int32 ranged.id, doc.int32 power,
    uint32OfInt_intOfUint32, intOfUint32_uint32OfInt ranged.id, intOfUint32_uint32OfInt power, interfaces,
    USBConfig.throughJs, Engine.text, -List.map_take]

theorem parseDeviceObj_ctoJS {d : UsbDevice} (ranged : d.Ranged) (power : ∀ c ∈ d.configs, IsInt32 c.getMaxPower) :
    parseDeviceObj e (ctoJSUsbDevice e d) = .ok (d.throughJs e) := by
  have configs := mapM_map (d.configs.take (asInt32 d.configs.length)) fun c member =>
    have member := List.mem_of_mem_take member
    parseConfigObj_ctoJS doc (ranged.configs c member) (power c member)
  simp [parseDeviceObj, ctoJSUsbDevice, parseConfigsObjs, jsObjectToInt, jsObjectToString, property, setValueInt32,
    setValueUtf8String, doc.int32 ranged.vendorId, doc.int32 ranged.productId, doc.int32 ranged.baseClass,
    doc.int32 ranged.subClass, doc.int32 ranged.protocol, doc.int32 (isInt32_toNat _), ofInt_toNat, configs,
    UsbDevice.throughJs, Engine.text, -List.map_take]

end Documented

end Napi

/-! ## What is kept -/

theorem le_asInt32_iff {size : Nat} : size ≤ asInt32 size ↔ size < 2 ^ 31 := by
  have wrapped : Parcel.intOfUint32 (.ofNat size) = (size : Int).bmod (2 ^ 32) := BitVec.toInt_ofNat _
  unfold asInt32
  rw [wrapped, Int.bmod_def]
  split <;> omega

theorem le_asUint32_iff {size : Nat} : size ≤ asUint32 size ↔ size < 2 ^ 32 := by
  rw [asUint32, UInt32.toNat_ofNat']
  omega

/-- A loop over a list leaves it as it was if it runs to the end and changes no element. -/
theorem take_map_eq_iff {α : Type} {f : α → α} {items : List α} {n : Nat} :
    (items.take n).map f = items ↔ items.length ≤ n ∧ ∀ x ∈ items, f x = x := by
  constructor
  · intro same
    have long : items.length ≤ n := by
      have lengths := congrArg List.length same
      rw [List.length_map, List.length_take] at lengths
      omega
    rw [List.take_of_length_le long] at same
    exact ⟨long, List.map_inj_left.1 (same.trans (List.map_id items).symm)⟩
  · rintro ⟨long, each⟩
    rw [List.take_of_length_le long]
    exact (List.map_congr_left each).trans (List.map_id items)

/-- A text that C can read, with room in the buffer of the bindings. -/
def KeptText (str : String) : Prop := NulFree str ∧ str.utf8ByteSize ≤ Napi.defaultDescriptionSize

structure UsbInterface.KeptByJs (i : UsbInterface) : Prop where
  name : i.name = ""
  iInterface : i.iInterface = 255
  authorized : i.authorized = true
  counted : i.endpoints.length < 2 ^ 31

structure USBConfig.KeptByJs (c : USBConfig) : Prop where
  name : KeptText c.name
  maxPower : c.maxPower = 0
  iConfiguration : c.iConfiguration = 255
  counted : c.interfaces.length < 2 ^ 32
  interfaces : ∀ i ∈ c.interfaces, i.KeptByJs

/-- The devices that JavaScript hands back as they were. -/
structure UsbDevice.KeptByJs (d : UsbDevice) : Prop where
  name : KeptText d.name
  manufacturerName : KeptText d.manufacturerName
  productName : KeptText d.productName
  version : KeptText d.version
  serial : d.serial = ""
  authorizeStatus : d.authorizeStatus = .enabled
  descConfigCount : d.descConfigCount = 255
  bMaxPacketSize0 : d.bMaxPacketSize0 = 255
  bcdUSB : d.bcdUSB = 65535
  bcdDevice : d.bcdDevice = 65535
  iManufacturer : d.iManufacturer = 255
  iProduct : d.iProduct = 255
  iSerialNumber : d.iSerialNumber = 255
  counted : d.configs.length < 2 ^ 31
  configs : ∀ c ∈ d.configs, c.KeptByJs

theorem UsbInterface.throughJs_eq_iff {i : UsbInterface} : i.throughJs = i ↔ i.KeptByJs := by
  obtain ⟨id, protocol, klass, subClass, alternateSetting, name, endpoints, iInterface, authorized⟩ := i
  simp only [throughJs, mk.injEq, true_and, List.take_eq_self_iff]
  constructor
  · rintro ⟨rfl, long, rfl, rfl⟩
    exact ⟨rfl, rfl, rfl, le_asInt32_iff.1 long⟩
  · rintro ⟨name, iInterface, authorized, counted⟩
    exact ⟨name.symm, le_asInt32_iff.2 counted, iInterface.symm, authorized.symm⟩

section

variable {Number : Type} {e : Napi.Engine Number} (doc : e.Documented)

include doc

theorem USBConfig.throughJs_eq_iff {c : USBConfig} : c.throughJs e = c ↔ c.KeptByJs := by
  obtain ⟨id, attributes, interfaces, maxPower, name, iConfiguration⟩ := c
  simp only [throughJs, mk.injEq, true_and, take_map_eq_iff, le_asUint32_iff, Napi.text_eq_iff doc,
    UsbInterface.throughJs_eq_iff, getMaxPower]
  constructor
  · rintro ⟨⟨counted, interfaces⟩, power, text, rfl⟩
    exact ⟨text, show maxPower = 0 by omega, rfl, counted, interfaces⟩
  · rintro ⟨text, power, iConfiguration, counted, interfaces⟩
    have power : maxPower = 0 := power
    exact ⟨⟨counted, interfaces⟩, by omega, text, iConfiguration.symm⟩

theorem UsbDevice.throughJs_eq_iff {d : UsbDevice} : d.throughJs e = d ↔ d.KeptByJs := by
  obtain ⟨name, manufacturerName, productName, version, serial, authorizeStatus, devAddr, busNum, descConfigCount,
    bMaxPacketSize0, bcdUSB, bcdDevice, iManufacturer, iProduct, iSerialNumber, vendorId, productId, baseClass,
    subClass, protocol, configs⟩ := d
  simp only [throughJs, mk.injEq, true_and, take_map_eq_iff, le_asInt32_iff, Napi.text_eq_iff doc,
    USBConfig.throughJs_eq_iff doc]
  constructor
  · rintro ⟨name, manufacturerName, productName, version, rfl, rfl, rfl, rfl, rfl, rfl, rfl, rfl, rfl, counted, configs⟩
    exact ⟨name, manufacturerName, productName, version, rfl, rfl, rfl, rfl, rfl, rfl, rfl, rfl, rfl, counted, configs⟩
  · rintro ⟨name, manufacturerName, productName, version, serial, authorizeStatus, descConfigCount, bMaxPacketSize0,
      bcdUSB, bcdDevice, iManufacturer, iProduct, iSerialNumber, counted, configs⟩
    exact ⟨name, manufacturerName, productName, version, serial.symm, authorizeStatus.symm, descConfigCount.symm,
      bMaxPacketSize0.symm, bcdUSB.symm, bcdDevice.symm, iManufacturer.symm, iProduct.symm, iSerialNumber.symm,
      counted, configs⟩

/-- A device that is handed to JavaScript and back is `throughJs`, whatever its tree; and it is the device
as it was exactly if its texts are short, its configurations need no power and its interfaces are unnamed,
and the members that the objects do not show are at their defaults. -/
theorem device_through_js {d : UsbDevice} (ranged : d.Ranged)
    (power : ∀ c ∈ d.configs, Parcel.IsInt32 c.getMaxPower) :
    Napi.parseDeviceObj e (Napi.ctoJSUsbDevice e d) = .ok (d.throughJs e) ∧
      (Napi.parseDeviceObj e (Napi.ctoJSUsbDevice e d) = .ok d ↔ d.KeptByJs) := by
  have read := Napi.parseDeviceObj_ctoJS doc ranged power
  refine ⟨read, ?_⟩
  rw [read, Except.ok.injEq]
  exact UsbDevice.throughJs_eq_iff doc

end

/-- A storage device that needs 100 mA comes back as one that needs 200 mA. -/
theorem device_through_js_storage :
    ∃ d, Napi.parseDeviceObj Napi.integers (Napi.ctoJSUsbDevice Napi.integers (storageDevice 50 0)) = .ok d ∧
      d.configs.map USBConfig.getMaxPower = [200] ∧ ¬ (storageDevice 50 0).KeptByJs := by
  have ranged : (storageDevice 50 0).Ranged := ((storageDevice_produced 50 0).plain (storageDevice_nulFree 50 0)).toRanged
  obtain ⟨read, kept⟩ := device_through_js Napi.integers_documented ranged (by decide)
  refine ⟨_, read, rfl, fun all => ?_⟩
  exact absurd (all.configs _ (List.mem_singleton.2 rfl)).maxPower (by decide)

end UsbManager
