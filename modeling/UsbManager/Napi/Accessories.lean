import UsbManager.Accessory.Client
import UsbManager.Napi.Devices

/-!
# Accessories as JavaScript objects

An application has its accessory from `getAccessoryList` and hands it to the functions for accessories,
which read it back from the object and send it to the service. The service compares it with the accessory
that is announced, so that it is known again if its strings have come through: those that the accessory
names, for the serial number is short.
-/

namespace UsbManager.Napi

open NapiUtil
open Accessory (USBAccessory UsbAccessoryManager serialValueHash Service OpenAnswers SerialHashed)

variable {Number : Type} (e : Engine Number)

def defaultAccessoryDescriptionSize : Nat := 256

def ctoJSUSBAccessory (accessory : USBAccessory) : JsValue Number :=
  .object [
    ("manufacturer", setValueUtf8String accessory.manufacturer),
    ("product", setValueUtf8String accessory.product),
    ("description", setValueUtf8String accessory.description),
    ("version", setValueUtf8String accessory.version),
    ("serialNumber", setValueUtf8String accessory.serialNumber)]

def parseAccessoryObj (accessoryObj : JsValue Number) : Except String USBAccessory := do
  let manufacturer ← jsObjectToString e accessoryObj "manufacturer" defaultAccessoryDescriptionSize ""
  let product ← jsObjectToString e accessoryObj "product" defaultAccessoryDescriptionSize ""
  let description ← jsObjectToString e accessoryObj "description" defaultAccessoryDescriptionSize ""
  let version ← jsObjectToString e accessoryObj "version" defaultAccessoryDescriptionSize ""
  let serialNumber ← jsObjectToString e accessoryObj "serialNumber" defaultAccessoryDescriptionSize ""
  return { manufacturer, product, description, version, serialNumber }

/-- The argument of `OpenAccessory` that `DeviceOpenAccessory` reads. -/
def deviceOpenAccessory (accessoryObj : JsValue Number) : Except String USBAccessory := do
  if !accessoryObj.isObject then throw "The type of device must be USBAccessory."
  parseAccessoryObj e accessoryObj

/-- The objects of `DeviceGetAccessoryList`. -/
def deviceGetAccessoryList (accessoryList : List USBAccessory) : List (JsValue Number) :=
  accessoryList.map ctoJSUSBAccessory

/-! ## What is read back -/

def throughJs (accessory : USBAccessory) : USBAccessory where
  manufacturer := e.text defaultAccessoryDescriptionSize accessory.manufacturer
  product := e.text defaultAccessoryDescriptionSize accessory.product
  description := e.text defaultAccessoryDescriptionSize accessory.description
  version := e.text defaultAccessoryDescriptionSize accessory.version
  serialNumber := e.text defaultAccessoryDescriptionSize accessory.serialNumber

theorem deviceOpenAccessory_ctoJS (accessory : USBAccessory) :
    deviceOpenAccessory e (ctoJSUSBAccessory accessory) = .ok (throughJs e accessory) := by
  simp [deviceOpenAccessory, parseAccessoryObj, ctoJSUSBAccessory, jsObjectToString, property, setValueUtf8String,
    throughJs, Engine.text]

/-- A text that C can read, with room in the buffer for accessories. -/
def KeptAccessoryText (str : String) : Prop := NulFree str ∧ str.utf8ByteSize ≤ defaultAccessoryDescriptionSize

/-! ### Serial numbers -/

theorem digit_of_mem_toDigits {n : Nat} {char : Char} (member : char ∈ Nat.toDigits 16 n) :
    ∃ d < 16, char = d.digitChar := by
  induction n using Nat.strongRecOn with
  | ind n ih =>
    rw [Nat.toDigits_eq_if (by decide)] at member
    split at member
    next small => exact ⟨n, small, List.mem_singleton.1 member⟩
    next large =>
      obtain front | last := List.mem_append.1 member
      · exact ih (n / 16) (by omega) front
      · exact ⟨n % 16, Nat.mod_lt _ (by decide), List.mem_singleton.1 last⟩

theorem utf8Len_eq_length {text : List Char} (ascii : ∀ char ∈ text, char.utf8Size = 1) :
    String.utf8Len text = text.length := by
  induction text with
  | nil => rfl
  | cons char rest ih =>
    rw [String.utf8Len_cons, ih fun c member => ascii c (.tail _ member), ascii char List.mem_cons_self,
      List.length_cons]

/-- The text of a hash is 16 bytes long. -/
theorem serialValueHash_text (hashValue : UInt32) :
    NulFree (serialValueHash hashValue) ∧ (serialValueHash hashValue).utf8ByteSize = 16 := by
  have digits : ∀ d < 16, d.digitChar ≠ '\x00' ∧ d.digitChar.utf8Size = 1 := by decide
  have plain : ∀ char ∈ (serialValueHash hashValue).toList, char ≠ '\x00' ∧ char.utf8Size = 1 := by
    intro char member
    rw [serialValueHash, String.toList_ofList] at member
    obtain zero | digit := List.mem_append.1 member
    · rw [List.eq_of_mem_replicate zero]
      decide
    · obtain ⟨d, small, rfl⟩ := digit_of_mem_toDigits digit
      exact digits d small
  refine ⟨fun nul => (plain _ nul).1 rfl, ?_⟩
  rw [← String.utf8Len_toList, utf8Len_eq_length fun char member => (plain char member).2,
    Accessory.length_serialValueHash]

/-! ### What the service makes of it -/

variable {e}

/-- The strings that the accessory names come through. -/
structure KeptAccessory (accessory : USBAccessory) : Prop where
  manufacturer : KeptAccessoryText accessory.manufacturer
  product : KeptAccessoryText accessory.product
  description : KeptAccessoryText accessory.description
  version : KeptAccessoryText accessory.version

theorem throughJs_eq_iff (doc : e.Documented) {accessory : USBAccessory}
    (serial : e.text defaultAccessoryDescriptionSize accessory.serialNumber = accessory.serialNumber) :
    throughJs e accessory = accessory ↔ KeptAccessory accessory := by
  have texts (str : String) : e.text defaultAccessoryDescriptionSize str = str ↔ KeptAccessoryText str :=
    text_eq_iff doc
  obtain ⟨manufacturer, product, description, version, serialNumber⟩ := accessory
  rw [throughJs, USBAccessory.mk.injEq, texts, texts, texts, texts]
  constructor
  · rintro ⟨manufacturer, product, description, version, -⟩
    exact ⟨manufacturer, product, description, version⟩
  · rintro ⟨manufacturer, product, description, version⟩
    exact ⟨manufacturer, product, description, version, serial⟩

theorem error_of_getAccessorySerialNumber {m : UsbAccessoryManager} {bundleName : String} {access : USBAccessory}
    {ret : UsbErrCode} (refused : m.getAccessorySerialNumber bundleName access = .error ret) :
    ret = .uecServiceAccessoryNotMatch := by
  unfold UsbAccessoryManager.getAccessorySerialNumber at refused
  split_ifs at refused <;> cases refused <;> rfl

/-- An accessory is refused as one that does not match exactly if it is not the one that is announced. -/
theorem mayOpenAccessory_not_match_iff {s : Service} {m : UsbAccessoryManager} (managed : s.usbAccessoryManager = some m)
    {a : OpenAnswers} {bundleName : String} (caller : a.callingInfo = some bundleName)
    (started : m.accStatus = .accStart) {access : USBAccessory} :
    s.mayOpenAccessory access a = .error .uecServiceAccessoryNotMatch ↔ ¬ m.Names bundleName access := by
  rw [Service.mayOpenAccessory, managed, caller]
  dsimp only
  cases found : m.getAccessorySerialNumber bundleName access with
  | error ret =>
    obtain rfl := error_of_getAccessorySerialNumber found
    refine ⟨fun _ names => ?_, fun _ => rfl⟩
    rw [(UsbAccessoryManager.getAccessorySerialNumber_iff started).2 ⟨names, rfl⟩] at found
    cases found
  | ok key =>
    have names := ((UsbAccessoryManager.getAccessorySerialNumber_iff started).1 found).1
    refine ⟨fun refused => ?_, fun unknown => absurd names unknown⟩
    dsimp only at refused
    split_ifs at refused
    cases refused

/-- The service announces accessories over any run of its manager. An application that hands an object of
`getAccessoryList` to `openAccessory` names the accessory as it was listed if its strings come through, and
otherwise it is told that the accessory does not match. -/
theorem accessory_through_js (doc : e.Documented) {guard : UsbAccessoryManager → Accessory.Action → Prop}
    {functions : UInt32} {m : UsbAccessoryManager}
    (run : Transition.Reach UsbAccessoryManager.step guard (.start functions) m) {bundleName : String}
    (plain : NulFree bundleName) (short : bundleName.utf8ByteSize ≤ 240) {accessoryObj : JsValue Number}
    (shown : accessoryObj ∈ deviceGetAccessoryList (m.getAccessoryList bundleName)) {s : Service}
    (managed : s.usbAccessoryManager = some m) {a : OpenAnswers} (caller : a.callingInfo = some bundleName) :
    ∃ access ∈ m.getAccessoryList bundleName, ∃ access', accessoryObj = ctoJSUSBAccessory access ∧
      deviceOpenAccessory e accessoryObj = .ok access' ∧
      (access' = access ↔ KeptAccessory m.accessory) ∧
      (s.mayOpenAccessory access' a = .error .uecServiceAccessoryNotMatch ↔ ¬ KeptAccessory m.accessory) := by
  obtain ⟨access, listed, rfl⟩ := List.mem_map.1 shown
  refine ⟨access, listed, _, rfl, deviceOpenAccessory_ctoJS e access, ?_⟩
  have started : m.accStatus = .accStart := by
    by_contra idle
    rw [UsbAccessoryManager.getAccessoryList, if_neg idle] at listed
    cases listed
  obtain ⟨hashValue, hashed⟩ := Accessory.announced_serial run started
  rw [UsbAccessoryManager.getAccessoryList, if_pos started, List.mem_singleton] at listed
  obtain ⟨free, size⟩ := serialValueHash_text hashValue
  have serial : e.text defaultAccessoryDescriptionSize access.serialNumber = access.serialNumber := by
    rw [listed]
    refine (text_eq_iff doc).2 ⟨nulFree_append plain (hashed ▸ free), ?_⟩
    rw [USBAccessory.setSerialNumber, hashed, String.utf8ByteSize_append, size, defaultAccessoryDescriptionSize]
    omega
  have kept : throughJs e access = access ↔ KeptAccessory m.accessory := by
    rw [throughJs_eq_iff doc serial, listed]
    constructor
    · rintro ⟨manufacturer, product, description, version⟩
      exact ⟨manufacturer, product, description, version⟩
    · rintro ⟨manufacturer, product, description, version⟩
      exact ⟨manufacturer, product, description, version⟩
  have names : m.Names bundleName (throughJs e access) ↔ throughJs e access = access := by
    constructor
    · rintro ⟨serialNumber, -, same⟩
      have number : (throughJs e access).serialNumber = access.serialNumber := serial
      rw [same] at number ⊢
      rw [listed] at number ⊢
      exact congrArg m.accessory.setSerialNumber number
    · intro same
      rw [same]
      exact ⟨_, .inr rfl, listed⟩
  rw [mayOpenAccessory_not_match_iff managed caller started, names, kept]
  exact ⟨Iff.rfl, Iff.rfl⟩

/-- The application asks to open an accessory, and may. -/
def dockAnswers : OpenAnswers := { callingInfo := some "com.example.dock", hasRight := fun _ => true, fd := 3 }

theorem shown_announced {m : UsbAccessoryManager} (started : m.accStatus = .accStart) :
    (ctoJSUSBAccessory (m.accessory.setSerialNumber ("com.example.dock" ++ m.accessory.serialNumber)) :
      JsValue Number) ∈ deviceGetAccessoryList (m.getAccessoryList "com.example.dock") := by
  rw [UsbAccessoryManager.getAccessoryList, if_pos started]
  exact List.mem_singleton.2 rfl

/-- A manufacturer of 300 letters does not come through, and a short one does. -/
theorem accessory_through_js_long :
    (∃ m accessoryObj access',
      Transition.Reach UsbAccessoryManager.step Transition.anyStep (.start Accessory.funAccessory) m ∧
      accessoryObj ∈ deviceGetAccessoryList (m.getAccessoryList "com.example.dock") ∧
      deviceOpenAccessory integers accessoryObj = .ok access' ∧
      (Service.start (some m)).mayOpenAccessory access' dockAnswers = .error .uecServiceAccessoryNotMatch) ∧
    ∃ m accessoryObj access',
      Transition.Reach UsbAccessoryManager.step Transition.anyStep (.start Accessory.funAccessory) m ∧
      accessoryObj ∈ deviceGetAccessoryList (m.getAccessoryList "com.example.dock") ∧
      deviceOpenAccessory integers accessoryObj = .ok access' ∧ access' ∈ m.getAccessoryList "com.example.dock" ∧
      (Service.start (some m)).mayOpenAccessory access' dockAnswers ≠ .error .uecServiceAccessoryNotMatch := by
  constructor
  · obtain ⟨m, run, started, accessory⟩ :=
      Accessory.reach_announced (.ofList (List.replicate 300 'a')) "Dock" "" "1.0" 7
    obtain ⟨access, -, access', -, read, -, refused⟩ := accessory_through_js integers_documented run (by decide)
      (by decide) (shown_announced started) (s := .start (some m)) rfl (a := dockAnswers) rfl
    refine ⟨m, _, access', run, shown_announced started, read, refused.2 fun kept => ?_⟩
    have ascii : ∀ char ∈ List.replicate 300 'a', char.utf8Size = 1 := fun char member => by
      rw [List.eq_of_mem_replicate member]
      rfl
    have short := kept.manufacturer.2
    rw [accessory, String.utf8ByteSize_ofList, utf8Len_eq_length ascii, List.length_replicate] at short
    exact absurd short (by decide)
  · obtain ⟨m, run, started, accessory⟩ := Accessory.reach_announced "Example" "Dock" "" "1.0" 7
    have kept : KeptAccessory m.accessory := by
      rw [accessory]
      exact ⟨⟨by decide, by decide⟩, ⟨by decide, by decide⟩, ⟨by decide, by decide⟩, ⟨by decide, by decide⟩⟩
    obtain ⟨access, listed, access', -, read, same, refused⟩ := accessory_through_js integers_documented run
      (by decide) (by decide) (shown_announced started) (s := .start (some m)) rfl (a := dockAnswers) rfl
    exact ⟨m, _, access', run, shown_announced started, read, same.2 kept ▸ listed, fun denied => refused.1 denied kept⟩

end UsbManager.Napi
