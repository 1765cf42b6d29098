import UsbManager.Device.Tree
import UsbManager.Service.ErrCode

/-!
# The descriptor parser

`UsbDescriptorParser::ParseConfigDescriptors` and its helpers, and `ParseDeviceDescriptor`. A pointer into
the descriptor buffer is the rest of the buffer from there on, and reading a packed struct takes its bytes
from the front.
-/

namespace UsbManager

structure UsbdDescriptorHeader where
  bLength : UInt8
  bDescriptorType : UInt8

structure UsbdConfigDescriptor where
  bLength : UInt8
  bDescriptorType : UInt8
  wTotalLength : UInt16
  bNumInterfaces : UInt8
  bConfigurationValue : UInt8
  iConfiguration : UInt8
  bmAttributes : UInt8
  bMaxPower : UInt8

structure UsbdInterfaceDescriptor where
  bLength : UInt8
  bDescriptorType : UInt8
  bInterfaceNumber : UInt8
  bAlternateSetting : UInt8
  bNumEndpoints : UInt8
  bInterfaceClass : UInt8
  bInterfaceSubClass : UInt8
  bInterfaceProtocol : UInt8
  iInterface : UInt8

structure UsbdEndpointDescriptor where
  bLength : UInt8
  bDescriptorType : UInt8
  bEndpointAddress : UInt8
  bmAttributes : UInt8
  wMaxPacketSize : UInt16
  bInterval : UInt8

/-- A little-endian 16-bit field. -/
def word (low high : UInt8) : UInt16 := low.toUInt16 ||| (high.toUInt16 <<< 8)

/-- The byte `k` past a pointer. -/
def byteAt (ptr : List UInt8) (k : Nat) : UInt8 := ptr.getD k 0

def UsbdDescriptorHeader.read (ptr : List UInt8) : UsbdDescriptorHeader where
  bLength := byteAt ptr 0
  bDescriptorType := byteAt ptr 1

def UsbdConfigDescriptor.read (ptr : List UInt8) : UsbdConfigDescriptor where
  bLength := byteAt ptr 0
  bDescriptorType := byteAt ptr 1
  wTotalLength := word (byteAt ptr 2) (byteAt ptr 3)
  bNumInterfaces := byteAt ptr 4
  bConfigurationValue := byteAt ptr 5
  iConfiguration := byteAt ptr 6
  bmAttributes := byteAt ptr 7
  bMaxPower := byteAt ptr 8

def UsbdInterfaceDescriptor.read (ptr : List UInt8) : UsbdInterfaceDescriptor where
  bLength := byteAt ptr 0
  bDescriptorType := byteAt ptr 1
  bInterfaceNumber := byteAt ptr 2
  bAlternateSetting := byteAt ptr 3
  bNumEndpoints := byteAt ptr 4
  bInterfaceClass := byteAt ptr 5
  bInterfaceSubClass := byteAt ptr 6
  bInterfaceProtocol := byteAt ptr 7
  iInterface := byteAt ptr 8

def UsbdEndpointDescriptor.read (ptr : List UInt8) : UsbdEndpointDescriptor where
  bLength := byteAt ptr 0
  bDescriptorType := byteAt ptr 1
  bEndpointAddress := byteAt ptr 2
  bmAttributes := byteAt ptr 3
  wMaxPacketSize := word (byteAt ptr 4) (byteAt ptr 5)
  bInterval := byteAt ptr 6

/-- The code a parser function returns and the `configs` it leaves. -/
abbrev Parsed := UsbErrCode × List USBConfig

/-- `AddConfig`. -/
def addConfig (configs : List USBConfig) (descriptor : UsbdConfigDescriptor) : Parsed :=
  (.uecOk, configs ++ [{
    id := descriptor.bConfigurationValue.toNat
    attributes := descriptor.bmAttributes.toUInt32
    maxPower := descriptor.bMaxPower.toNat
    iConfiguration := descriptor.iConfiguration }])

/-- `AddInterface`. -/
def addInterface (configs : List USBConfig) (descriptor : UsbdInterfaceDescriptor) : Parsed :=
  match configs.getLast? with
  | none => (.uecServiceInvalidValue, configs)
  | some config =>
    let interface : UsbInterface := {
      id := descriptor.bInterfaceNumber.toNat
      protocol := descriptor.bInterfaceProtocol.toNat
      alternateSetting := descriptor.bAlternateSetting.toNat
      klass := descriptor.bInterfaceClass.toNat
      subClass := descriptor.bInterfaceSubClass.toNat
      iInterface := descriptor.iInterface }
    (.uecOk, configs.dropLast ++ [{ config with interfaces := config.interfaces ++ [interface] }])

/-- `AddEndpoint`; the interface id is narrowed to `uint8_t`. -/
def addEndpoint (configs : List USBConfig) (descriptor : UsbdEndpointDescriptor) : Parsed :=
  match configs.getLast? with
  | none => (.uecServiceInvalidValue, configs)
  | some config =>
    match config.interfaces.getLast? with
    | none => (.uecServiceInvalidValue, configs)
    | some interface =>
      let endpoint : USBEndpoint := {
        address := descriptor.bEndpointAddress.toUInt32
        attributes := descriptor.bmAttributes.toUInt32
        interval := descriptor.bInterval.toNat
        maxPacketSize := descriptor.wMaxPacketSize.toNat
        interfaceId := UInt8.ofInt interface.id }
      let interfaces :=
        config.interfaces.dropLast ++ [{ interface with endpoints := interface.endpoints ++ [endpoint] }]
      (.uecOk, configs.dropLast ++ [{ config with interfaces := interfaces }])

def descriptorTypeConfig : UInt8 := 2
def descriptorTypeInterface : UInt8 := 4
def descriptorTypeEndpoint : UInt8 := 5

/-- The `switch` on the descriptor type. Descriptors of other types are skipped. -/
def addDescriptor (ptr : List UInt8) (configs : List USBConfig) : Parsed :=
  let header := UsbdDescriptorHeader.read ptr
  if header.bDescriptorType = descriptorTypeConfig then
    if header.bLength ≠ 9 then (.uecServiceInvalidValue, configs)
    else addConfig configs (UsbdConfigDescriptor.read ptr)
  else if header.bDescriptorType = descriptorTypeInterface then
    if header.bLength ≠ 9 then (.uecServiceInvalidValue, configs)
    else addInterface configs (UsbdInterfaceDescriptor.read ptr)
  else if header.bDescriptorType = descriptorTypeEndpoint then
    if header.bLength ≠ 7 ∧ header.bLength ≠ 9 then (.uecServiceInvalidValue, configs)
    else addEndpoint configs (UsbdEndpointDescriptor.read ptr)
  else (.uecOk, configs)

/-- The loop of `ParseConfigDescriptors` from `cursor` on. -/
def parseLoop (buffer : List UInt8) (length cursor : Nat) (configs : List USBConfig) : Parsed :=
  if cursor < length then
    if length - cursor < 2 then (.uecOk, configs)
    else
      let ptr := buffer.drop cursor
      let bLength := (UsbdDescriptorHeader.read ptr).bLength.toNat
      if bLength < 2 ∨ length - cursor < bLength then (.uecOk, configs)
      else
        let parsed := addDescriptor ptr configs
        if parsed.1 ≠ .uecOk then parsed
        else parseLoop buffer length (cursor + bLength) parsed.2
  else (.uecOk, configs)
termination_by length - cursor
decreasing_by
  change length - (cursor + bLength) < length - cursor
  omega

/-- `UsbDescriptorParser::ParseConfigDescriptors`; `descriptor.size()` is stored in 32 bits. -/
def parseConfigDescriptors (descriptor : List UInt8) (offset : UInt32) (configs : List USBConfig) : Parsed :=
  parseLoop descriptor (descriptor.length % 2 ^ 32) offset.toNat configs

/-! ### The device descriptor -/

structure UsbdDeviceDescriptor where
  bLength : UInt8
  bDescriptorType : UInt8
  bcdUSB : UInt16
  bDeviceClass : UInt8
  bDeviceSubClass : UInt8
  bDeviceProtocol : UInt8
  bMaxPacketSize0 : UInt8
  idVendor : UInt16
  idProduct : UInt16
  bcdDevice : UInt16
  iManufacturer : UInt8
  iProduct : UInt8
  iSerialNumber : UInt8
  bNumConfigurations : UInt8

def deviceDescriptorSize : Nat := 18

def UsbdDeviceDescriptor.read (ptr : List UInt8) : UsbdDeviceDescriptor where
  bLength := byteAt ptr 0
  bDescriptorType := byteAt ptr 1
  bcdUSB := word (byteAt ptr 2) (byteAt ptr 3)
  bDeviceClass := byteAt ptr 4
  bDeviceSubClass := byteAt ptr 5
  bDeviceProtocol := byteAt ptr 6
  bMaxPacketSize0 := byteAt ptr 7
  idVendor := word (byteAt ptr 8) (byteAt ptr 9)
  idProduct := word (byteAt ptr 10) (byteAt ptr 11)
  bcdDevice := word (byteAt ptr 12) (byteAt ptr 13)
  iManufacturer := byteAt ptr 14
  iProduct := byteAt ptr 15
  iSerialNumber := byteAt ptr 16
  bNumConfigurations := byteAt ptr 17

/-- `UsbDescriptorParser::ParseDeviceDescriptor`; the caller passes the buffer's size as a `uint32_t`. -/
def parseDeviceDescriptor (buffer : List UInt8) (length : UInt32) (dev : UsbDevice) : UsbErrCode × UsbDevice :=
  if buffer = [] ∨ length = 0 then (.uecServiceInvalidValue, dev)
  else if length.toNat < deviceDescriptorSize then (.uecServiceInvalidValue, dev)
  else
    let descriptor := UsbdDeviceDescriptor.read buffer
    if descriptor.bLength.toNat ≠ deviceDescriptorSize then (.uecServiceInvalidValue, dev)
    else
      (.uecOk, { dev with
        vendorId := descriptor.idVendor.toNat
        productId := descriptor.idProduct.toNat
        baseClass := descriptor.bDeviceClass.toNat
        subClass := descriptor.bDeviceSubClass.toNat
        protocol := descriptor.bDeviceProtocol.toNat
        descConfigCount := descriptor.bNumConfigurations
        bMaxPacketSize0 := descriptor.bMaxPacketSize0
        bcdDevice := descriptor.bcdDevice
        bcdUSB := descriptor.bcdUSB
        iManufacturer := descriptor.iManufacturer
        iProduct := descriptor.iProduct
        iSerialNumber := descriptor.iSerialNumber })

end UsbManager
