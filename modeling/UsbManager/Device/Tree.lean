import Mathlib.Algebra.Group.Nat.Defs
import Mathlib.Data.List.Basic

/-!
# The descriptor tree of a device

The data members of `USBEndpoint`, `UsbInterface`, `USBConfig` and `UsbDevice` that the modelled
functions use, with the defaults of their constructors. An `int32_t` member is an `Int`.
-/

namespace UsbManager

def invalidUsbIntValue : Int := -1

structure USBEndpoint where
  address : UInt32 := 0
  attributes : UInt32 := 0
  interval : Int := invalidUsbIntValue
  maxPacketSize : Int := invalidUsbIntValue
  interfaceId : UInt8 := 255
  deriving DecidableEq, Repr

structure UsbInterface where
  id : Int := 2147483647
  protocol : Int := 2147483647
  klass : Int := 2147483647
  subClass : Int := 2147483647
  alternateSetting : Int := 2147483647
  name : String := ""
  endpoints : List USBEndpoint := []
  iInterface : UInt8 := 255
  authorized : Bool := true
  deriving DecidableEq, Repr

structure USBConfig where
  id : Int := invalidUsbIntValue
  attributes : UInt32 := 0
  interfaces : List UsbInterface := []
  maxPower : Int := invalidUsbIntValue
  name : String := ""
  iConfiguration : UInt8 := 255
  deriving DecidableEq, Repr

inductive AuthorizeStatus where
  | disabled
  | enabled
  | newArrived
  deriving DecidableEq, Repr

structure UsbDevice where
  name : String := ""
  manufacturerName : String := ""
  productName : String := ""
  version : String := ""
  serial : String := ""
  authorizeStatus : AuthorizeStatus := .enabled
  devAddr : UInt8 := 255
  busNum : UInt8 := 255
  descConfigCount : UInt8 := 255
  bMaxPacketSize0 : UInt8 := 255
  bcdUSB : UInt16 := 65535
  bcdDevice : UInt16 := 65535
  iManufacturer : UInt8 := 255
  iProduct : UInt8 := 255
  iSerialNumber : UInt8 := 255
  vendorId : Int := invalidUsbIntValue
  productId : Int := invalidUsbIntValue
  baseClass : Int := invalidUsbIntValue
  subClass : Int := invalidUsbIntValue
  protocol : Int := invalidUsbIntValue
  configs : List USBConfig := []
  deriving DecidableEq, Repr

/-- `USBEndpoint::GetEndpointNumber`; number `0` is the control endpoint. -/
def USBEndpoint.endpointNumber (ep : USBEndpoint) : UInt32 := ep.address &&& 0x0f

/-- `USBEndpoint::GetNumber`. -/
def USBEndpoint.number (ep : USBEndpoint) : UInt8 := ep.endpointNumber.toUInt8

/-- `USBEndpoint::GetDirection`. -/
def USBEndpoint.direction (ep : USBEndpoint) : UInt32 := ep.address &&& 0x80

/-- `USBEndpoint::GetType`. -/
def USBEndpoint.type (ep : USBEndpoint) : UInt32 := ep.attributes &&& 0x03

/-- `USBEndpoint::GetInterfaceId`, which returns the `uint8_t` member as an `int8_t`. -/
def USBEndpoint.getInterfaceId (ep : USBEndpoint) : Int := ep.interfaceId.toBitVec.toInt

/-- `USBConfig::GetMaxPower`, in mA; the member counts units of 2 mA. -/
def USBConfig.getMaxPower (c : USBConfig) : Int := c.maxPower * 2

def USBConfig.isRemoteWakeup (c : USBConfig) : Bool := c.attributes &&& 0x20 ≠ 0

def USBConfig.isSelfPowered (c : USBConfig) : Bool := c.attributes &&& 0x80 ≠ 0

/-- What C reads of `std::string::c_str`: the text up to its first NUL. -/
def cStr (s : String) : String := .ofList (s.toList.takeWhile (· ≠ '\x00'))

end UsbManager
