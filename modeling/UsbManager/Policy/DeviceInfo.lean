import UsbManager.Device.ParserCorrect
import UsbManager.Device.Strings
import UsbManager.Policy.Handles

/-!
# What a device says

`GetDeviceInfo` reads the descriptors of a device and its strings, one request after the other, into one
`UsbDevice`. For a device whose descriptors are well formed, and whose strings are texts, this is the device:
every number and every string is found at the place where it belongs.
-/

namespace UsbManager.Policy

open Host Descriptor Framing

/-! ## Devices -/

/-- The fields of a device descriptor behind its length and its type. -/
structure DeviceFields where
  bcdUSB : UInt16
  bDeviceClass : UInt8
  bDeviceSubClass : UInt8
  bDeviceProtocol : UInt8
  bMaxPacketSize0 : UInt8
  idVendor : UInt16
  idProduct : UInt16
  bcdDevice : UInt16
  iManufacturer : UInt8
  iProduct : UInt8
  iSerialNumber : UInt8
  bNumConfigurations : UInt8

def DeviceFields.bytes (f : DeviceFields) : List UInt8 :=
  [18, 1] ++ unitBytes f.bcdUSB ++ [f.bDeviceClass, f.bDeviceSubClass, f.bDeviceProtocol, f.bMaxPacketSize0] ++
    unitBytes f.idVendor ++ unitBytes f.idProduct ++ unitBytes f.bcdDevice ++
    [f.iManufacturer, f.iProduct, f.iSerialNumber, f.bNumConfigurations]

def DeviceFields.fill (f : DeviceFields) (dev : UsbDevice) : UsbDevice :=
  { dev with
    vendorId := f.idVendor.toNat
    productId := f.idProduct.toNat
    baseClass := f.bDeviceClass.toNat
    subClass := f.bDeviceSubClass.toNat
    protocol := f.bDeviceProtocol.toNat
    descConfigCount := f.bNumConfigurations
    bMaxPacketSize0 := f.bMaxPacketSize0
    bcdDevice := f.bcdDevice
    bcdUSB := f.bcdUSB
    iManufacturer := f.iManufacturer
    iProduct := f.iProduct
    iSerialNumber := f.iSerialNumber }

/-- A device with its descriptors and the strings that they refer to. -/
structure PhysicalDevice where
  fields : DeviceFields
  tree : List ConfigTree
  frames : List (List UInt8)
  /-- What stands behind the descriptors. -/
  tail : List UInt8
  string : UInt8 → String
  /-- The length byte of a string descriptor. -/
  stringLength : UInt8 → UInt8
  encodes : Encodes tree frames
  stops : Stops tail
  size : (fields.bytes ++ (frames.flatten ++ tail)).length < 2 ^ 32

namespace PhysicalDevice

variable (p : PhysicalDevice)

def rawDescriptor : List UInt8 := p.fields.bytes ++ (p.frames.flatten ++ p.tail)

def stringDescriptor (idx : UInt8) : List UInt8 :=
  p.stringLength idx :: descriptorTypeString :: utf16leBytes (p.string idx).toList

/-- Index 0 is no string. -/
def name (charSigned : Bool) (idx : UInt8) : String :=
  if idx = 0 then " " else shownText charSigned (p.string idx).toList

/-- The device as the service keeps it; `dev` is the object that is filled. -/
def toUsbDevice (charSigned : Bool) (busNum devAddr : UInt8) (dev : UsbDevice) : UsbDevice :=
  { p.fields.fill { dev with busNum, devAddr, name := deviceName busNum devAddr } with
    version := bcdToString p.fields.bcdUSB
    manufacturerName := p.name charSigned p.fields.iManufacturer
    productName := p.name charSigned p.fields.iProduct
    serial := p.name charSigned p.fields.iSerialNumber
    configs := (toConfigs p.tree).map fun c => { c with
      name := p.name charSigned c.iConfiguration
      interfaces := c.interfaces.map fun i => { i with name := p.name charSigned i.iInterface } } }

end PhysicalDevice

/-- The driver answers the requests for a device with what it holds. -/
structure Answers (env : Env) (descriptors : Descriptors) (charSigned : Bool) (busNum devAddr : UInt8)
    (p : PhysicalDevice) : Prop where
  usbd : env.usbd = true
  openDevice : ∀ calls, env.answer calls (.openDevice busNum devAddr) = .uecOk
  closeDevice : ∀ calls, env.answer calls (.closeDevice busNum devAddr) = .uecOk
  getRawDescriptor : ∀ calls, env.answer calls (.getRawDescriptor busNum devAddr) = .uecOk
  getStringDescriptor : ∀ calls idx, env.answer calls (.getStringDescriptor busNum devAddr idx) = .uecOk
  raw : ∀ calls, descriptors.raw calls busNum devAddr = p.rawDescriptor
  text : ∀ calls idx, descriptors.text calls busNum devAddr idx = stringOfDescriptor charSigned (p.stringDescriptor idx)

namespace Answers

variable {env : Env} {descriptors : Descriptors} {charSigned : Bool} {busNum devAddr : UInt8} {p : PhysicalDevice}
  (answers : Answers env descriptors charSigned busNum devAddr p)

include answers

theorem callUsbd {call : HdiCall} (ok : ∀ calls, env.answer calls call = .uecOk) :
    Yields (Policy.callUsbd env call) .uecOk := by
  intro s
  rw [Policy.callUsbd, if_pos answers.usbd]
  exact ok _

theorem getDevStringValFromIdx (idx : UInt8) :
    Yields (Policy.getDevStringValFromIdx env descriptors busNum devAddr idx) (p.name charSigned idx) := by
  unfold Policy.getDevStringValFromIdx PhysicalDevice.name
  split_ifs
  · exact .pure _
  · refine .get fun s => .bind (answers.callUsbd (answers.getStringDescriptor · idx)) ?_
    rw [if_neg (not_not.2 rfl), answers.text, PhysicalDevice.stringDescriptor, stringOfDescriptor_encode]
    exact .pure _

theorem fillInterfaces : ∀ interfaces : List UsbInterface,
    Yields (Policy.fillInterfaces env descriptors busNum devAddr interfaces)
      (interfaces.map fun i => { i with name := p.name charSigned i.iInterface })
  | [] => .pure _
  | i :: rest => .bind (answers.getDevStringValFromIdx i.iInterface) (.bind (fillInterfaces rest) (.pure _))

theorem fillConfigs : ∀ configs : List USBConfig,
    Yields (Policy.fillConfigs env descriptors busNum devAddr configs)
      (configs.map fun c => { c with
        name := p.name charSigned c.iConfiguration
        interfaces := c.interfaces.map fun i => { i with name := p.name charSigned i.iInterface } })
  | [] => .pure _
  | c :: rest =>
    .bind (answers.getDevStringValFromIdx c.iConfiguration)
      (.bind (answers.fillInterfaces c.interfaces) (.bind (fillConfigs rest) (.pure _)))

end Answers

/-! ## The descriptors -/

theorem word_unitBytes (u : UInt16) : word (.ofNat u.toNat) (.ofNat (u.toNat / 256)) = u := by
  have small := u.toNat_lt
  have low : (UInt8.ofNat u.toNat).toNat < 2 ^ 8 := UInt8.toNat_lt _
  have high : (UInt8.ofNat (u.toNat / 256)).toNat < 2 ^ 8 := UInt8.toNat_lt _
  apply UInt16.toNat_inj.1
  rw [word, UInt16.toNat_or, UInt16.toNat_shiftLeft, UInt8.toNat_toUInt16, UInt8.toNat_toUInt16]
  change _ ||| ((UInt8.ofNat (u.toNat / 256)).toNat <<< 8) % 2 ^ 16 = _
  rw [Nat.mod_eq_of_lt (by rw [Nat.shiftLeft_eq]; omega), Nat.or_comm, ← Nat.shiftLeft_add_eq_or_of_lt low,
    Nat.shiftLeft_eq, UInt8.toNat_ofNat', UInt8.toNat_ofNat']
  omega

theorem parseDeviceDescriptor_bytes (f : DeviceFields) (rest : List UInt8) (dev : UsbDevice)
    (size : (f.bytes ++ rest).length < 2 ^ 32) :
    parseDeviceDescriptor (f.bytes ++ rest) (.ofNat (f.bytes ++ rest).length) dev =
      (.uecOk, f.fill dev) := by
  have length : (f.bytes ++ rest).length = 18 + rest.length := by
    rw [List.length_append]
    rfl
  have stored : (UInt32.ofNat (f.bytes ++ rest).length).toNat = 18 + rest.length := by
    rw [UInt32.toNat_ofNat', Nat.mod_eq_of_lt size, length]
  have there : ¬ (f.bytes ++ rest = [] ∨ UInt32.ofNat (f.bytes ++ rest).length = 0) := by
    rintro (empty | zero)
    · rw [empty, List.length_nil] at length
      omega
    · rw [zero, UInt32.toNat_zero] at stored
      omega
  rw [parseDeviceDescriptor, if_neg there, if_neg (by rw [stored, deviceDescriptorSize]; omega)]
  have read : UsbdDeviceDescriptor.read (f.bytes ++ rest) = ⟨18, 1, f.bcdUSB, f.bDeviceClass, f.bDeviceSubClass,
      f.bDeviceProtocol, f.bMaxPacketSize0, f.idVendor, f.idProduct, f.bcdDevice, f.iManufacturer, f.iProduct,
      f.iSerialNumber, f.bNumConfigurations⟩ := by
    change UsbdDeviceDescriptor.mk 18 1 (word _ _) _ _ _ _ (word _ _) (word _ _) (word _ _) _ _ _ _ = _
    simp only [byteAt, DeviceFields.bytes, unitBytes, List.cons_append, List.nil_append, List.getD_cons_succ,
      List.getD_cons_zero, word_unitBytes]
  dsimp only
  have right : ¬ (18 : UInt8).toNat ≠ deviceDescriptorSize := by decide
  rw [read, if_neg right]
  rfl

/-! ## GetDeviceInfo -/

theorem parsedRegion_rawDescriptor (p : PhysicalDevice) :
    parsedRegion p.rawDescriptor cursorInit = p.frames.flatten ++ p.tail := by
  have size : p.rawDescriptor.length < 2 ^ 32 := p.size
  rw [parsedRegion, Nat.mod_eq_of_lt size, List.take_length]
  rfl

theorem parseConfigDescriptors_rawDescriptor (p : PhysicalDevice) :
    parseConfigDescriptors p.rawDescriptor cursorInit [] = (.uecOk, toConfigs p.tree) := by
  have chain : IsChain (parsedRegion p.rawDescriptor cursorInit) p.frames p.tail :=
    ⟨parsedRegion_rawDescriptor p, p.encodes.framed, p.stops⟩
  rw [parseConfigDescriptors_frames chain]
  exact parseFrames_encoded p.encodes

namespace Answers

variable {env : Env} {descriptors : Descriptors} {charSigned : Bool} {busNum devAddr : UInt8} {p : PhysicalDevice}
  (answers : Answers env descriptors charSigned busNum devAddr p)

include answers

theorem getDeviceInfoDescriptor (dev : UsbDevice) :
    Yields (Policy.getDeviceInfoDescriptor env descriptors busNum devAddr dev)
      (.uecOk, p.rawDescriptor, p.fields.fill { dev with busNum, devAddr, name := deviceName busNum devAddr }) := by
  have raw : Yields (Policy.getRawDescriptor env descriptors busNum devAddr) (.uecOk, p.rawDescriptor) := by
    refine .get fun s => .bind (answers.callUsbd answers.getRawDescriptor) ?_
    rw [if_pos answers.usbd, answers.raw]
    exact .pure _
  refine .bind raw ?_
  let dev' := { dev with busNum, devAddr, name := deviceName busNum devAddr }
  have parsed : parseDeviceDescriptor p.rawDescriptor (.ofNat p.rawDescriptor.length) dev' =
      (.uecOk, p.fields.fill dev') := parseDeviceDescriptor_bytes p.fields _ dev' p.size
  have there : ¬ (p.rawDescriptor = [] ∨ UInt32.ofNat p.rawDescriptor.length = 0) := by
    intro none
    rw [parseDeviceDescriptor, if_pos none] at parsed
    cases parsed
  dsimp only
  rw [if_neg (not_not.2 rfl), if_neg there, parsed]
  exact .pure _

theorem getConfigDescriptor (dev : UsbDevice) (placed : dev.busNum = busNum ∧ dev.devAddr = devAddr) :
    Yields (Policy.getConfigDescriptor env descriptors dev p.rawDescriptor)
      (.uecOk, { dev with
        version := bcdToString dev.bcdUSB
        manufacturerName := p.name charSigned dev.iManufacturer
        productName := p.name charSigned dev.iProduct
        serial := p.name charSigned dev.iSerialNumber
        configs := (toConfigs p.tree).map fun c => { c with
          name := p.name charSigned c.iConfiguration
          interfaces := c.interfaces.map fun i => { i with name := p.name charSigned i.iInterface } } }) := by
  obtain ⟨rfl, rfl⟩ := placed
  rw [Policy.getConfigDescriptor, parseConfigDescriptors_rawDescriptor]
  exact .bind (answers.getDevStringValFromIdx _) (.bind (answers.getDevStringValFromIdx _)
    (.bind (answers.getDevStringValFromIdx _) (.bind (answers.fillConfigs _) (.pure _))))

end Answers

/-- A device is read as what it is. -/
theorem device_read_faithfully {env : Env} {descriptors : Descriptors} {charSigned : Bool} {busNum devAddr : UInt8}
    {p : PhysicalDevice} (answers : Answers env descriptors charSigned busNum devAddr p) (dev : UsbDevice) (s : State) :
    (getDeviceInfo env descriptors busNum devAddr dev s).1 =
      (.uecOk, p.toUsbDevice charSigned busNum devAddr dev) := by
  have read : Yields (getDeviceInfo env descriptors busNum devAddr dev)
      (.uecOk, p.toUsbDevice charSigned busNum devAddr dev) :=
    .bind (answers.callUsbd answers.openDevice) (.bind (answers.getDeviceInfoDescriptor dev)
      (.bind (answers.getConfigDescriptor _ ⟨rfl, rfl⟩) (.bind (answers.callUsbd answers.closeDevice) (.pure _))))
  exact read s

/-- A configuration with one interface and one endpoint, and a truncated descriptor behind them. -/
def keyboard : PhysicalDevice where
  fields := ⟨0x0200, 0, 0, 0, 64, 0x12D1, 0x1057, 0x0100, 1, 2, 0, 1⟩
  tree := [⟨⟨1, 0, 192, 50⟩, [⟨⟨3, 0, 255, 66, 1, 0⟩, [⟨129, 2, 512, 0⟩]⟩]⟩]
  frames := sampleFrames
  tail := [9]
  string idx := if idx = 1 then "USB" else "Tastatur \u00DF"
  stringLength _ := 0
  encodes := sample_encodes
  stops := .inl (by decide)
  size := Nat.lt_of_lt_of_le (by decide : 47 < 48) (by decide)

def keyboardDescriptors : Descriptors where
  raw _ _ _ := keyboard.rawDescriptor
  text _ _ _ idx := stringOfDescriptor false (keyboard.stringDescriptor idx)

theorem keyboard_answers : Answers (reporting 1) keyboardDescriptors false 1 2 keyboard where
  usbd := rfl
  openDevice _ := rfl
  closeDevice _ := rfl
  getRawDescriptor _ := rfl
  getStringDescriptor _ _ := rfl
  raw _ := rfl
  text _ _ := by simp only [keyboardDescriptors]

theorem device_read_faithfully_keyboard :
    (getDeviceInfo (reporting 1) keyboardDescriptors 1 2 {} {}).1 = (.uecOk, keyboard.toUsbDevice false 1 2 {}) :=
  device_read_faithfully keyboard_answers {} {}

end UsbManager.Policy
