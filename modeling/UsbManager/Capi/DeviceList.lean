import UsbManager.Device.Produced

/-!
# The device list of the C interface

`OH_UsbManager_GetUsbDeviceList` copies the devices of the service into C structures, whose numbers are
of 8 or 16 bits, and whose lists come with a 32-bit count. Allocations succeed; a pointer and its count
are a list.

For devices from the parser all casts are exact but one: `GetMaxPower` returns twice the descriptor
byte, and the copy keeps 8 bits of it.
-/

namespace UsbManager.Capi

/-! ## The C structures -/

inductive ErrorCode where
  | success
  | errorNoMemory
  | errorPermissionDenied
  | errorServiceException
  | errorInvalidParameter
  deriving DecidableEq, Repr

structure UsbEndpoint where
  address : UInt8
  attributes : UInt8
  interval : UInt8
  maxPacketSize : UInt16
  /-- An enumeration with the values `0` and `0x80`. -/
  direction : UInt32
  number : UInt8
  type : UInt8
  interfaceId : UInt8
  deriving DecidableEq, Repr

structure UsbInterface where
  id : UInt8
  protocol : UInt8
  clazz : UInt8
  subClass : UInt8
  alternateSetting : UInt8
  name : String
  endpoints : List UsbEndpoint
  endpointCount : UInt32
  deriving DecidableEq, Repr

structure UsbConfig where
  id : UInt8
  attributes : UInt8
  maxPower : UInt8
  name : String
  isRemoteWakeup : Bool
  isSelfPowered : Bool
  interfaces : List UsbInterface
  interfaceCount : UInt32
  deriving DecidableEq, Repr

structure UsbDevice where
  busNum : UInt8
  devAddress : UInt8
  name : String
  manufacturerName : String
  productName : String
  version : String
  vendorId : UInt16
  productId : UInt16
  clazz : UInt8
  subClass : UInt8
  protocol : UInt8
  configs : List UsbConfig
  configCount : UInt32
  deriving DecidableEq, Repr

/-! ## The copy -/

/-- The elements that a loop over `uint32_t` indices below the stored size visits. -/
def counted {α : Type} (items : List α) : List α := items.take (UInt32.ofNat items.length).toNat

def copyEndpoint (ep : USBEndpoint) : UsbEndpoint where
  address := ep.address.toUInt8
  attributes := ep.attributes.toUInt8
  interval := .ofInt ep.interval
  maxPacketSize := .ofInt ep.maxPacketSize
  direction := ep.direction
  number := ep.number
  type := ep.type.toUInt8
  interfaceId := .ofInt ep.getInterfaceId

/-- The body of the loop of `CopyInterfaces`, with `CopyEndpoints`. -/
def copyInterface (i : UsbManager.UsbInterface) : UsbInterface where
  id := .ofInt i.id
  protocol := .ofInt i.protocol
  clazz := .ofInt i.klass
  subClass := .ofInt i.subClass
  alternateSetting := .ofInt i.alternateSetting
  name := cStr i.name
  endpoints := (counted i.endpoints).map copyEndpoint
  endpointCount := .ofNat i.endpoints.length

/-- The body of the loop of `CopyConfigs`. -/
def copyConfig (c : USBConfig) : UsbConfig where
  id := .ofInt c.id
  attributes := c.attributes.toUInt8
  maxPower := .ofInt c.getMaxPower
  name := cStr c.name
  isRemoteWakeup := c.isRemoteWakeup
  isSelfPowered := c.isSelfPowered
  interfaces := (counted c.interfaces).map copyInterface
  interfaceCount := .ofNat c.interfaces.length

/-- The body of the loop of `OH_UsbManager_GetUsbDeviceList`. -/
def copyDevice (d : UsbManager.UsbDevice) : UsbDevice where
  busNum := d.busNum
  devAddress := d.devAddr
  name := cStr d.name
  manufacturerName := cStr d.manufacturerName
  productName := cStr d.productName
  version := cStr d.version
  vendorId := .ofInt d.vendorId
  productId := .ofInt d.productId
  clazz := .ofInt d.baseClass
  subClass := .ofInt d.subClass
  protocol := .ofInt d.protocol
  configs := (counted d.configs).map copyConfig
  configCount := .ofNat d.configs.length

def convertErrCode (cppRet : UsbErrCode) : ErrorCode :=
  if cppRet = .uecOk then .success
  else if cppRet = .uecInterfaceNoMemory ∨ cppRet = .uecServiceNoMemory then .errorNoMemory
  else if cppRet = .uecInterfacePermissionDenied ∨ cppRet = .uecServicePermissionDenied then .errorPermissionDenied
  else .errorServiceException

/-- `OH_UsbManager_GetUsbDeviceList`, with what `GetDevices` answers; `devices` and `deviceCount` say that
the arguments are not null. -/
def getUsbDeviceList (devices deviceCount : Bool) (ret : UsbErrCode) (deviceList : List UsbManager.UsbDevice) :
    ErrorCode × List UsbDevice × UInt32 :=
  if !devices || !deviceCount then (.errorInvalidParameter, [], 0)
  else if ret ≠ .uecOk then (convertErrCode ret, [], 0)
  else if deviceList = [] then (.success, [], 0)
  else (.success, (counted deviceList).map copyDevice, .ofNat deviceList.length)

/-! ## Faithful copies -/

structure FaithfulEndpoint (c : UsbEndpoint) (ep : USBEndpoint) : Prop where
  address : c.address.toNat = ep.address.toNat
  attributes : c.attributes.toNat = ep.attributes.toNat
  interval : c.interval.toNat = ep.interval
  maxPacketSize : c.maxPacketSize.toNat = ep.maxPacketSize
  direction : c.direction.toNat = ep.direction.toNat
  number : c.number.toNat = ep.endpointNumber.toNat
  type : c.type.toNat = ep.type.toNat
  interfaceId : c.interfaceId = ep.interfaceId

structure FaithfulInterface (c : UsbInterface) (i : UsbManager.UsbInterface) : Prop where
  id : c.id.toNat = i.id
  protocol : c.protocol.toNat = i.protocol
  clazz : c.clazz.toNat = i.klass
  subClass : c.subClass.toNat = i.subClass
  alternateSetting : c.alternateSetting.toNat = i.alternateSetting
  endpoints : List.Forall₂ FaithfulEndpoint c.endpoints i.endpoints
  endpointCount : c.endpointCount.toNat = i.endpoints.length

structure FaithfulConfig (c : UsbConfig) (config : USBConfig) : Prop where
  id : c.id.toNat = config.id
  attributes : c.attributes.toNat = config.attributes.toNat
  maxPower : c.maxPower.toNat = config.getMaxPower
  isRemoteWakeup : c.isRemoteWakeup = config.isRemoteWakeup
  isSelfPowered : c.isSelfPowered = config.isSelfPowered
  interfaces : List.Forall₂ FaithfulInterface c.interfaces config.interfaces
  interfaceCount : c.interfaceCount.toNat = config.interfaces.length

structure FaithfulDevice (c : UsbDevice) (d : UsbManager.UsbDevice) : Prop where
  busNum : c.busNum = d.busNum
  devAddress : c.devAddress = d.devAddr
  vendorId : c.vendorId.toNat = d.vendorId
  productId : c.productId.toNat = d.productId
  clazz : c.clazz.toNat = d.baseClass
  subClass : c.subClass.toNat = d.subClass
  protocol : c.protocol.toNat = d.protocol
  configs : List.Forall₂ FaithfulConfig c.configs d.configs
  configCount : c.configCount.toNat = d.configs.length

/-- The array holds every device once, in order and with its own values, and the count is its length. -/
structure FaithfulList (result : ErrorCode × List UsbDevice × UInt32) (deviceList : List UsbManager.UsbDevice) :
    Prop where
  success : result.1 = .success
  devices : List.Forall₂ FaithfulDevice result.2.1 deviceList
  deviceCount : result.2.2.toNat = deviceList.length

/-! ### Casts -/

theorem toNat_ofInt8 (value : Int) : ((UInt8.ofInt value).toNat : Int) = value % 256 := by
  simp only [UInt8.ofInt, UInt8.toNat_ofNat']
  omega

theorem toNat_ofInt16 (value : Int) : ((UInt16.ofInt value).toNat : Int) = value % 65536 := by
  simp only [UInt16.ofInt, UInt16.toNat_ofNat']
  omega

theorem ofInt8_exact {value : Int} (byte : IsByte value) : ((UInt8.ofInt value).toNat : Int) = value := by
  obtain ⟨low, high⟩ := byte
  rw [toNat_ofInt8]
  omega

theorem ofInt16_exact {value : Int} (word : IsWord value) : ((UInt16.ofInt value).toNat : Int) = value := by
  obtain ⟨low, high⟩ := word
  rw [toNat_ofInt16]
  omega

theorem toUInt8_exact {value : UInt32} (byte : value < 256) : value.toUInt8.toNat = value.toNat := by
  rw [UInt32.lt_iff_toNat_lt] at byte
  rw [UInt32.toNat_toUInt8]
  exact Nat.mod_eq_of_lt byte

theorem and_lt {value mask : UInt32} (small : mask < 256) : value &&& mask < 256 := by
  rw [UInt32.lt_iff_toNat_lt] at small ⊢
  rw [UInt32.toNat_and]
  exact Nat.lt_of_le_of_lt Nat.and_le_right small

/-- The `int8_t` that `GetInterfaceId` returns is cast back to the member. -/
theorem ofInt_getInterfaceId (ep : USBEndpoint) : UInt8.ofInt ep.getInterfaceId = ep.interfaceId := by
  have range := ep.interfaceId.toNat_lt
  have member : (ep.interfaceId.toBitVec.toNat : Int) = ep.interfaceId.toNat := rfl
  apply UInt8.toNat_inj.1
  have cast := toNat_ofInt8 ep.getInterfaceId
  unfold USBEndpoint.getInterfaceId at cast ⊢
  rw [BitVec.toInt_eq_toNat_cond] at cast ⊢
  split at cast <;> split <;> omega

theorem counted_eq {α : Type} {items : List α} (few : items.length < 2 ^ 32) : counted items = items := by
  rw [counted, UInt32.toNat_ofNat', Nat.mod_eq_of_lt few, List.take_of_length_le (Nat.le_refl _)]

theorem toNat_count {n : Nat} (few : n < 2 ^ 32) : (UInt32.ofNat n).toNat = n := by
  rw [UInt32.toNat_ofNat', Nat.mod_eq_of_lt few]

theorem forall₂_map_same {α β : Type} {R : β → α → Prop} {f : α → β} {xs : List α} :
    List.Forall₂ R (xs.map f) xs ↔ ∀ x ∈ xs, R (f x) x := by
  rw [List.forall₂_map_left_iff, List.forall₂_same]

/-! ### One node -/

theorem copyEndpoint_faithful {ep : USBEndpoint} (bounded : ep.Bounded) : FaithfulEndpoint (copyEndpoint ep) ep where
  address := toUInt8_exact bounded.address
  attributes := toUInt8_exact bounded.attributes
  interval := ofInt8_exact bounded.interval
  maxPacketSize := ofInt16_exact bounded.maxPacketSize
  direction := rfl
  number := toUInt8_exact (and_lt (by decide))
  type := toUInt8_exact (and_lt (by decide))
  interfaceId := ofInt_getInterfaceId ep

theorem copyInterface_faithful {i : UsbManager.UsbInterface} (bounded : i.Bounded) :
    FaithfulInterface (copyInterface i) i where
  id := ofInt8_exact bounded.id
  protocol := ofInt8_exact bounded.protocol
  clazz := ofInt8_exact bounded.klass
  subClass := ofInt8_exact bounded.subClass
  alternateSetting := ofInt8_exact bounded.alternateSetting
  endpoints := by
    rw [copyInterface, counted_eq bounded.counted, forall₂_map_same]
    exact fun ep member => copyEndpoint_faithful (bounded.endpoints ep member)
  endpointCount := toNat_count bounded.counted

/-- The power is kept if its double fits 8 bits. -/
theorem maxPower_exact {c : USBConfig} (byte : IsByte c.maxPower) :
    ((UInt8.ofInt c.getMaxPower).toNat : Int) = c.getMaxPower ↔ c.maxPower ≤ 127 := by
  obtain ⟨low, high⟩ := byte
  rw [toNat_ofInt8, USBConfig.getMaxPower]
  omega

theorem copyConfig_faithful_iff {c : USBConfig} (bounded : c.Bounded) :
    FaithfulConfig (copyConfig c) c ↔ c.maxPower ≤ 127 := by
  constructor
  · intro faithful
    exact (maxPower_exact bounded.maxPower).1 faithful.maxPower
  · intro small
    refine ⟨ofInt8_exact bounded.id, toUInt8_exact bounded.attributes, (maxPower_exact bounded.maxPower).2 small,
      rfl, rfl, ?_, toNat_count bounded.counted⟩
    rw [copyConfig, counted_eq bounded.counted, forall₂_map_same]
    exact fun i member => copyInterface_faithful (bounded.interfaces i member)

theorem copyDevice_faithful_iff {d : UsbManager.UsbDevice} (bounded : d.Bounded) :
    FaithfulDevice (copyDevice d) d ↔ ∀ c ∈ d.configs, c.maxPower ≤ 127 := by
  have each : List.Forall₂ FaithfulConfig (copyDevice d).configs d.configs ↔ ∀ c ∈ d.configs, c.maxPower ≤ 127 := by
    rw [copyDevice, counted_eq bounded.counted, forall₂_map_same]
    exact forall₂_congr fun c member => copyConfig_faithful_iff (bounded.configs c member)
  refine ⟨fun faithful => each.1 faithful.configs, fun small => ?_⟩
  exact ⟨rfl, rfl, ofInt16_exact bounded.vendorId, ofInt16_exact bounded.productId, ofInt8_exact bounded.baseClass,
    ofInt8_exact bounded.subClass, ofInt8_exact bounded.protocol, each.2 small, toNat_count bounded.counted⟩

/-! ### The list -/

/-- The list of parsed devices is copied faithfully exactly if its length fits the count and no configuration
asks for more than 254 mA. -/
theorem device_list_faithful_iff (deviceList : List UsbManager.UsbDevice) (produced : ∀ d ∈ deviceList, d.Produced) :
    FaithfulList (getUsbDeviceList true true .uecOk deviceList) deviceList ↔
      deviceList.length < 2 ^ 32 ∧ ∀ d ∈ deviceList, ∀ c ∈ d.configs, c.maxPower ≤ 127 := by
  have copied : getUsbDeviceList true true .uecOk deviceList =
      (.success, (counted deviceList).map copyDevice, .ofNat deviceList.length) := by
    cases deviceList <;> simp [getUsbDeviceList, counted]
  rw [copied]
  have each : ∀ d ∈ deviceList, (FaithfulDevice (copyDevice d) d ↔ ∀ c ∈ d.configs, c.maxPower ≤ 127) :=
    fun d member => copyDevice_faithful_iff (produced d member).bounded
  constructor
  · intro faithful
    have few : deviceList.length < 2 ^ 32 := by
      rw [← faithful.deviceCount]
      exact UInt32.toNat_lt _
    have devices := faithful.devices
    rw [counted_eq few, forall₂_map_same] at devices
    exact ⟨few, fun d member => (each d member).1 (devices d member)⟩
  · rintro ⟨few, small⟩
    refine ⟨rfl, ?_, toNat_count few⟩
    rw [counted_eq few, forall₂_map_same]
    exact fun d member => (each d member).2 (small d member)

/-- A storage device that asks for 100 mA. -/
theorem device_list_faithful_small :
    FaithfulList (getUsbDeviceList true true .uecOk [storageDevice 50 0]) [storageDevice 50 0] := by
  refine (device_list_faithful_iff _ fun d member => ?_).2 ⟨by decide, ?_⟩
  · rw [List.mem_singleton.1 member]
    exact storageDevice_produced 50 0
  · simp [storageDevice, storageTree, Descriptor.toConfigs, Descriptor.ConfigTree.toConfig]

/-- A storage device that asks for 500 mA is reported with 244 mA. -/
theorem device_list_truncates_power :
    (storageDevice 250 0).Produced ∧ (storageDevice 250 0).configs.map USBConfig.getMaxPower = [500] ∧
      (getUsbDeviceList true true .uecOk [storageDevice 250 0]).2.1.map (fun d => d.configs.map (·.maxPower)) =
        [[244]] :=
  ⟨storageDevice_produced 250 0, by decide +kernel, by decide +kernel⟩

end UsbManager.Capi
