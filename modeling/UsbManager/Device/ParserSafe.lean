import UsbManager.Device.ParserCorrect
import UsbManager.Lib.Keeps

/-!
# Memory safety of the descriptor parser

The parser once more, over memory: it loads bytes from addresses, which are recorded, and its cursor and lengths
are 32-bit values that wrap around. The buffer starts at address 0, and the memory past its end is unknown. No
load leaves the buffer, nothing wraps, and what the parser returns is what it returns over lists.
-/

namespace UsbManager

open Descriptor

/-! ## Loads -/

abbrev Memory := Nat → UInt8

/-- A computation with the addresses that it has read, the last one first. -/
abbrev Reading := StateM (List Nat)

def load (memory : Memory) (address : Nat) : Reading UInt8 := fun reads => (memory address, address :: reads)

/-- All reads lie in a range. -/
def Within (lo hi : Nat) (reads : List Nat) : Prop := ∀ address ∈ reads, lo ≤ address ∧ address < hi

theorem within_nil (lo hi : Nat) : Within lo hi [] := fun _ none => by cases none

theorem within_load {lo hi address : Nat} (memory : Memory) (above : lo ≤ address) (below : address < hi) :
    Keeps (Within lo hi) (load memory address) := by
  intro reads within address' member
  obtain rfl | member := List.mem_cons.1 member
  · exact ⟨above, below⟩
  · exact within _ member

theorem Within.mono {lo hi lo' hi' : Nat} {reads : List Nat} (within : Within lo hi reads) (above : lo' ≤ lo)
    (below : hi ≤ hi') : Within lo' hi' reads :=
  fun address member =>
    ⟨Nat.le_trans above (within address member).1, Nat.lt_of_lt_of_le (within address member).2 below⟩

/-- The buffer is in memory. -/
def Holds (memory : Memory) (buffer : List UInt8) : Prop := ∀ k, k < buffer.length → memory k = byteAt buffer k

/-! ## The functions of the parser -/

section Functions

variable (memory : Memory)

/-- `AddConfig`; the number of interfaces is only logged. -/
def addConfigAt (configs : List USBConfig) (ptr : Nat) : Reading Parsed := do
  let bConfigurationValue ← load memory (ptr + 5)
  let bmAttributes ← load memory (ptr + 7)
  let bMaxPower ← load memory (ptr + 8)
  let iConfiguration ← load memory (ptr + 6)
  let _ ← load memory (ptr + 4)
  pure (.uecOk, configs ++ [{
    id := bConfigurationValue.toNat
    attributes := bmAttributes.toUInt32
    maxPower := bMaxPower.toNat
    iConfiguration := iConfiguration }])

/-- `AddInterface`; the number of endpoints is only logged. -/
def addInterfaceAt (configs : List USBConfig) (ptr : Nat) : Reading Parsed :=
  match configs.getLast? with
  | none => pure (.uecServiceInvalidValue, configs)
  | some config => do
    let bInterfaceNumber ← load memory (ptr + 2)
    let bInterfaceProtocol ← load memory (ptr + 7)
    let bAlternateSetting ← load memory (ptr + 3)
    let bInterfaceClass ← load memory (ptr + 5)
    let bInterfaceSubClass ← load memory (ptr + 6)
    let iInterface ← load memory (ptr + 8)
    let _ ← load memory (ptr + 4)
    let interface : UsbInterface := {
      id := bInterfaceNumber.toNat
      protocol := bInterfaceProtocol.toNat
      alternateSetting := bAlternateSetting.toNat
      klass := bInterfaceClass.toNat
      subClass := bInterfaceSubClass.toNat
      iInterface := iInterface }
    pure (.uecOk, configs.dropLast ++ [{ config with interfaces := config.interfaces ++ [interface] }])

/-- `AddEndpoint`; the maximal packet size has two bytes. -/
def addEndpointAt (configs : List USBConfig) (ptr : Nat) : Reading Parsed :=
  match configs.getLast? with
  | none => pure (.uecServiceInvalidValue, configs)
  | some config =>
    match config.interfaces.getLast? with
    | none => pure (.uecServiceInvalidValue, configs)
    | some interface => do
      let bEndpointAddress ← load memory (ptr + 2)
      let bmAttributes ← load memory (ptr + 3)
      let bInterval ← load memory (ptr + 6)
      let low ← load memory (ptr + 4)
      let high ← load memory (ptr + 5)
      let _ ← load memory (ptr + 2)
      let endpoint : USBEndpoint := {
        address := bEndpointAddress.toUInt32
        attributes := bmAttributes.toUInt32
        interval := bInterval.toNat
        maxPacketSize := (word low high).toNat
        interfaceId := UInt8.ofInt interface.id }
      let interfaces :=
        config.interfaces.dropLast ++ [{ interface with endpoints := interface.endpoints ++ [endpoint] }]
      pure (.uecOk, configs.dropLast ++ [{ config with interfaces := interfaces }])

/-- The `switch` on the descriptor type. -/
def addDescriptorAt (header : UsbdDescriptorHeader) (configs : List USBConfig) (ptr : Nat) : Reading Parsed :=
  if header.bDescriptorType = descriptorTypeConfig then
    if header.bLength ≠ 9 then pure (.uecServiceInvalidValue, configs) else addConfigAt memory configs ptr
  else if header.bDescriptorType = descriptorTypeInterface then
    if header.bLength ≠ 9 then pure (.uecServiceInvalidValue, configs) else addInterfaceAt memory configs ptr
  else if header.bDescriptorType = descriptorTypeEndpoint then
    if header.bLength ≠ 7 ∧ header.bLength ≠ 9 then pure (.uecServiceInvalidValue, configs)
    else addEndpointAt memory configs ptr
  else pure (.uecOk, configs)

inductive Iteration where
  | done (parsed : Parsed)
  | next (cursor : UInt32) (configs : List USBConfig)

def loadHeader (ptr : Nat) : Reading UsbdDescriptorHeader := do
  let bLength ← load memory ptr
  let bDescriptorType ← load memory (ptr + 1)
  pure { bLength, bDescriptorType }

/-- A round after the header. -/
def readDescriptor (length cursor : UInt32) (configs : List USBConfig) (header : UsbdDescriptorHeader) :
    Reading Iteration :=
  if header.bLength < 2 ∨ length - cursor < header.bLength.toUInt32 then pure (.done (.uecOk, configs))
  else do
    let parsed ← addDescriptorAt memory header configs cursor.toNat
    pure (if parsed.1 ≠ .uecOk then .done parsed else .next (cursor + header.bLength.toUInt32) parsed.2)

/-- One round of the loop of `ParseConfigDescriptors`. -/
def iteration (length cursor : UInt32) (configs : List USBConfig) : Reading Iteration :=
  if cursor < length then
    if length - cursor < 2 then pure (.done (.uecOk, configs))
    else loadHeader memory cursor.toNat >>= readDescriptor memory length cursor configs
  else pure (.done (.uecOk, configs))

/-- The loop, for some number of rounds. -/
def parseLoopAt (length : UInt32) : Nat → UInt32 → List USBConfig → Reading (Option Parsed)
  | 0, _, _ => pure none
  | rounds + 1, cursor, configs => do
    match ← iteration memory length cursor configs with
    | .done parsed => pure (some parsed)
    | .next cursor configs => parseLoopAt length rounds cursor configs

/-- The packed struct, of 18 bytes. -/
def loadDeviceDescriptor (ptr : Nat) : Reading UsbdDeviceDescriptor := do
  let bLength ← load memory ptr
  let bDescriptorType ← load memory (ptr + 1)
  let bcdUSB ← load memory (ptr + 2)
  let bcdUSBHigh ← load memory (ptr + 3)
  let bDeviceClass ← load memory (ptr + 4)
  let bDeviceSubClass ← load memory (ptr + 5)
  let bDeviceProtocol ← load memory (ptr + 6)
  let bMaxPacketSize0 ← load memory (ptr + 7)
  let idVendor ← load memory (ptr + 8)
  let idVendorHigh ← load memory (ptr + 9)
  let idProduct ← load memory (ptr + 10)
  let idProductHigh ← load memory (ptr + 11)
  let bcdDevice ← load memory (ptr + 12)
  let bcdDeviceHigh ← load memory (ptr + 13)
  let iManufacturer ← load memory (ptr + 14)
  let iProduct ← load memory (ptr + 15)
  let iSerialNumber ← load memory (ptr + 16)
  let bNumConfigurations ← load memory (ptr + 17)
  pure {
    bLength, bDescriptorType, bDeviceClass, bDeviceSubClass, bDeviceProtocol, bMaxPacketSize0, iManufacturer, iProduct,
    iSerialNumber, bNumConfigurations
    bcdUSB := word bcdUSB bcdUSBHigh
    idVendor := word idVendor idVendorHigh
    idProduct := word idProduct idProductHigh
    bcdDevice := word bcdDevice bcdDeviceHigh }

end Functions

/-- `ParseDeviceDescriptor`; the memory starts at the pointer, which may be null. -/
def parseDeviceDescriptorAt (buffer : Option Memory) (length : UInt32) (dev : UsbDevice) :
    Reading (UsbErrCode × UsbDevice) :=
  match buffer with
  | none => pure (.uecServiceInvalidValue, dev)
  | some memory =>
    if length = 0 then pure (.uecServiceInvalidValue, dev)
    else if length.toNat < deviceDescriptorSize then pure (.uecServiceInvalidValue, dev)
    else do
      let descriptor ← loadDeviceDescriptor memory 0
      if descriptor.bLength.toNat ≠ deviceDescriptorSize then pure (.uecServiceInvalidValue, dev)
      else
        pure (.uecOk, { dev with
          vendorId := descriptor.idVendor.toNat
          productId := descriptor.idProduct.toNat
          baseClass := descriptor.bDeviceClass.toNat
          subClass := descriptor.bDeviceSubClass.toNat
          protocol := descriptor.bDeviceProtocol.toNat
          descConfigCount := descriptor.bNumConfigurations
          bMaxPacketSize0 := descriptor.bMaxPacketSize0
          bcdDevice := descriptor.bcdDevice
          bcdUSB := descriptor.bcdUSB
          iManufacturer := descriptor.iManufacturer
          iProduct := descriptor.iProduct
          iSerialNumber := descriptor.iSerialNumber })

/-! ## Reads -/

section Reads

variable {memory : Memory} {lo hi ptr : Nat}

/-- A field of a struct. -/
theorem within_field {size k : Nat} (field : k < size) (above : lo ≤ ptr) (below : ptr + size ≤ hi) :
    Keeps (Within lo hi) (load memory (ptr + k)) :=
  within_load memory (by omega) (by omega)

theorem within_addConfigAt (configs : List USBConfig) (above : lo ≤ ptr) (below : ptr + 9 ≤ hi) :
    Keeps (Within lo hi) (addConfigAt memory configs ptr) := by
  have field : ∀ k, k < 9 → Keeps (Within lo hi) (load memory (ptr + k)) := fun k inside =>
    within_field inside above below
  exact .bind (field 5 (by decide)) fun _ => .bind (field 7 (by decide)) fun _ => .bind (field 8 (by decide)) fun _ =>
    .bind (field 6 (by decide)) fun _ => .bind (field 4 (by decide)) fun _ => .pure _

theorem within_addInterfaceAt (configs : List USBConfig) (above : lo ≤ ptr) (below : ptr + 9 ≤ hi) :
    Keeps (Within lo hi) (addInterfaceAt memory configs ptr) := by
  have field : ∀ k, k < 9 → Keeps (Within lo hi) (load memory (ptr + k)) := fun k inside =>
    within_field inside above below
  unfold addInterfaceAt
  split
  · exact .pure _
  · exact .bind (field 2 (by decide)) fun _ => .bind (field 7 (by decide)) fun _ =>
      .bind (field 3 (by decide)) fun _ => .bind (field 5 (by decide)) fun _ => .bind (field 6 (by decide)) fun _ =>
      .bind (field 8 (by decide)) fun _ => .bind (field 4 (by decide)) fun _ => .pure _

/-- The fields that are used lie in the seven bytes of the shorter endpoint descriptor. -/
theorem within_addEndpointAt (configs : List USBConfig) (above : lo ≤ ptr) (below : ptr + 7 ≤ hi) :
    Keeps (Within lo hi) (addEndpointAt memory configs ptr) := by
  have field : ∀ k, k < 7 → Keeps (Within lo hi) (load memory (ptr + k)) := fun k inside =>
    within_field inside above below
  unfold addEndpointAt
  split
  · exact .pure _
  · split
    · exact .pure _
    · exact .bind (field 2 (by decide)) fun _ => .bind (field 3 (by decide)) fun _ =>
        .bind (field 6 (by decide)) fun _ => .bind (field 4 (by decide)) fun _ => .bind (field 5 (by decide)) fun _ =>
        .bind (field 2 (by decide)) fun _ => .pure _

theorem seven_le {bLength : UInt8} (size : ¬ (bLength ≠ 7 ∧ bLength ≠ 9)) : 7 ≤ bLength.toNat := by
  rcases not_and_or.1 size with seven | nine
  · rw [not_not.1 seven]
    decide
  · rw [not_not.1 nine]
    decide

/-- A descriptor is read inside its length. -/
theorem within_addDescriptorAt (header : UsbdDescriptorHeader) (configs : List USBConfig) (above : lo ≤ ptr)
    (below : ptr + header.bLength.toNat ≤ hi) : Keeps (Within lo hi) (addDescriptorAt memory header configs ptr) := by
  refine .ite (fun _ => .ite (fun _ => .pure _) fun nine => ?_) fun _ =>
    .ite (fun _ => .ite (fun _ => .pure _) fun nine => ?_) fun _ =>
      .ite (fun _ => .ite (fun _ => .pure _) fun size => ?_) fun _ => .pure _
  · rw [not_not.1 nine] at below
    exact within_addConfigAt configs above below
  · rw [not_not.1 nine] at below
    exact within_addInterfaceAt configs above below
  · exact within_addEndpointAt configs above (Nat.le_trans (Nat.add_le_add_left (seven_le size) ptr) below)

/-- The header is what memory has. -/
theorem within_loadHeader {α : Type} {f : UsbdDescriptorHeader → Reading α} (above : lo ≤ ptr) (below : ptr + 2 ≤ hi)
    (next : Keeps (Within lo hi) (f ⟨memory ptr, memory (ptr + 1)⟩)) :
    Keeps (Within lo hi) (loadHeader memory ptr >>= f) := by
  have header : Keeps (Within lo hi) (loadHeader memory ptr) :=
    .bind (within_field (k := 0) (Nat.zero_lt_two) above below) fun _ =>
      .bind (within_field Nat.one_lt_two above below) fun _ => .pure _
  exact fun reads within => next _ (header reads within)

end Reads

/-! ## A round -/

section Round

variable {memory : Memory} {length cursor : UInt32} {configs : List USBConfig}

theorem toNat_rest (before : cursor < length) : (length - cursor).toNat = length.toNat - cursor.toNat :=
  UInt32.toNat_sub_of_le _ _ (UInt32.le_of_lt before)

/-- The length of a descriptor is at least that of a header, and no more than what is left. -/
theorem fits_iff {bLength : UInt8} (before : cursor < length) :
    ¬ (bLength < 2 ∨ length - cursor < bLength.toUInt32) ↔
      2 ≤ bLength.toNat ∧ cursor.toNat + bLength.toNat ≤ length.toNat := by
  rw [not_or, UInt8.not_lt, UInt8.le_iff_toNat_le, UInt32.not_lt, UInt32.le_iff_toNat_le, toNat_rest before,
    UInt8.toNat_toUInt32]
  rw [UInt32.lt_iff_toNat_lt] at before
  change 2 ≤ _ ∧ _ ↔ _
  omega

theorem two_iff (before : cursor < length) : ¬ length - cursor < 2 ↔ cursor.toNat + 2 ≤ length.toNat := by
  rw [UInt32.lt_iff_toNat_lt, toNat_rest before]
  rw [UInt32.lt_iff_toNat_lt] at before
  change ¬ _ < 2 ↔ _
  omega

theorem toNat_behind {bLength : UInt8} (inside : cursor.toNat + bLength.toNat ≤ length.toNat) :
    (cursor + bLength.toUInt32).toNat = cursor.toNat + bLength.toNat := by
  have bound := length.toNat_lt
  rw [UInt32.toNat_add, UInt8.toNat_toUInt32]
  exact Nat.mod_eq_of_lt (by omega)

/-- A round reads a header, and then no more than the descriptor. -/
theorem within_iteration {lo hi : Nat} (above : lo ≤ cursor.toNat)
    (header : cursor.toNat + 2 ≤ length.toNat → cursor.toNat + 2 ≤ hi)
    (descriptor : 2 ≤ (memory cursor.toNat).toNat → cursor.toNat + (memory cursor.toNat).toNat ≤ length.toNat →
      cursor.toNat + (memory cursor.toNat).toNat ≤ hi) :
    Keeps (Within lo hi) (iteration memory length cursor configs) := by
  refine .ite (fun before => .ite (fun _ => .pure _) fun two => ?_) fun _ => .pure _
  refine within_loadHeader above (header ((two_iff before).1 two)) (.ite (fun _ => .pure _) fun fits => ?_)
  obtain ⟨size, inside⟩ := (fits_iff before).1 fits
  exact .bind (within_addDescriptorAt _ configs above (descriptor size inside)) fun _ => .pure _

/-- A round goes on behind the descriptor, and nothing wraps. -/
theorem iteration_next {reads : List Nat} {cursor' : UInt32} {configs' : List USBConfig}
    (next : (iteration memory length cursor configs reads).1 = .next cursor' configs') :
    cursor'.toNat = cursor.toNat + (memory cursor.toNat).toNat ∧ 2 ≤ (memory cursor.toNat).toNat ∧
      cursor'.toNat ≤ length.toNat := by
  unfold iteration at next
  split_ifs at next with before two
  · cases next
  · rw [stateM_bind] at next
    unfold readDescriptor at next
    split_ifs at next with fits
    · cases next
    · rw [stateM_bind] at next
      obtain ⟨size, inside⟩ := (fits_iff before).1 fits
      change (if _ then Iteration.done _ else .next (cursor + (memory cursor.toNat).toUInt32) _) = _ at next
      change 2 ≤ (memory cursor.toNat).toNat at size
      change cursor.toNat + (memory cursor.toNat).toNat ≤ length.toNat at inside
      split_ifs at next
      obtain ⟨rfl, -⟩ := Iteration.next.inj next
      rw [toNat_behind inside]
      exact ⟨rfl, size, inside⟩
  · cases next

/-! ## What is returned -/

theorem addConfigAt_value {bytes : List UInt8} {ptr : Nat} (agree : ∀ k, k < 9 → memory (ptr + k) = byteAt bytes k)
    (reads : List Nat) :
    (addConfigAt memory configs ptr reads).1 = addConfig configs (UsbdConfigDescriptor.read bytes) := by
  simp only [addConfig, UsbdConfigDescriptor.read, ← agree 5 (by decide), ← agree 6 (by decide), ← agree 7 (by decide),
    ← agree 8 (by decide)]
  rfl

theorem addInterfaceAt_value {bytes : List UInt8} {ptr : Nat} (agree : ∀ k, k < 9 → memory (ptr + k) = byteAt bytes k)
    (reads : List Nat) :
    (addInterfaceAt memory configs ptr reads).1 = addInterface configs (UsbdInterfaceDescriptor.read bytes) := by
  cases last : configs.getLast? with
  | none =>
    simp only [addInterfaceAt, addInterface, last]
    rfl
  | some config =>
    simp only [addInterfaceAt, addInterface, last, UsbdInterfaceDescriptor.read, ← agree 2 (by decide),
      ← agree 3 (by decide), ← agree 5 (by decide), ← agree 6 (by decide), ← agree 7 (by decide), ← agree 8 (by decide)]
    rfl

theorem addEndpointAt_value {bytes : List UInt8} {ptr : Nat} (agree : ∀ k, k < 7 → memory (ptr + k) = byteAt bytes k)
    (reads : List Nat) :
    (addEndpointAt memory configs ptr reads).1 = addEndpoint configs (UsbdEndpointDescriptor.read bytes) := by
  cases last : configs.getLast? with
  | none =>
    simp only [addEndpointAt, addEndpoint, last]
    rfl
  | some config =>
    cases interface : config.interfaces.getLast? with
    | none =>
      simp only [addEndpointAt, addEndpoint, last, interface]
      rfl
    | some i =>
      simp only [addEndpointAt, addEndpoint, last, interface, UsbdEndpointDescriptor.read, ← agree 2 (by decide),
        ← agree 3 (by decide), ← agree 4 (by decide), ← agree 5 (by decide), ← agree 6 (by decide)]
      rfl

/-- The bytes of the descriptor decide. -/
theorem addDescriptorAt_value {bytes : List UInt8} {ptr : Nat} (two : 2 ≤ (memory ptr).toNat)
    (agree : ∀ k, k < (memory ptr).toNat → memory (ptr + k) = byteAt bytes k) (reads : List Nat) :
    (addDescriptorAt memory ⟨memory ptr, memory (ptr + 1)⟩ configs ptr reads).1 = addDescriptor bytes configs := by
  have bLength : memory ptr = byteAt bytes 0 := agree 0 (by omega)
  have bDescriptorType : memory (ptr + 1) = byteAt bytes 1 := agree 1 (by omega)
  unfold addDescriptorAt addDescriptor UsbdDescriptorHeader.read
  dsimp only
  rw [← bLength, ← bDescriptorType]
  split_ifs with config nine interface nine endpoint size
  · rfl
  · exact addConfigAt_value (fun k inside => agree k (by rw [not_not.1 nine]; exact inside)) reads
  · rfl
  · exact addInterfaceAt_value (fun k inside => agree k (by rw [not_not.1 nine]; exact inside)) reads
  · rfl
  · exact addEndpointAt_value (fun k inside => agree k (Nat.lt_of_lt_of_le inside (seven_le size))) reads
  · rfl

/-- A round does what the loop over a list does. -/
theorem iteration_parses {buffer : List UInt8} (holds : Holds memory buffer) (size : length.toNat = buffer.length)
    (reads : List Nat) :
    parseLoop buffer length.toNat cursor.toNat configs =
      match (iteration memory length cursor configs reads).1 with
      | .done parsed => parsed
      | .next cursor' configs' => parseLoop buffer length.toNat cursor'.toNat configs' := by
  have agree : ∀ k, cursor.toNat + k < length.toNat →
      memory (cursor.toNat + k) = byteAt (buffer.drop cursor.toNat) k := by
    intro k inside
    rw [holds _ (by omega)]
    simp [byteAt]
  conv_lhs => unfold parseLoop
  by_cases before : cursor < length
  · rw [iteration, if_pos before, if_pos (UInt32.lt_iff_toNat_lt.1 before)]
    by_cases two : length - cursor < 2
    · have short : length.toNat - cursor.toNat < 2 := by
        rw [UInt32.lt_iff_toNat_lt, toNat_rest before] at two
        exact two
      rw [if_pos two, if_pos short]
      rfl
    · have long := (two_iff before).1 two
      have header : loadHeader memory cursor.toNat reads =
        (⟨memory cursor.toNat, memory (cursor.toNat + 1)⟩, (cursor.toNat + 1) :: cursor.toNat :: reads) := rfl
      have bLength : (UsbdDescriptorHeader.read (buffer.drop cursor.toNat)).bLength = memory cursor.toNat :=
        (agree 0 (by omega)).symm
      rw [if_neg two, if_neg (by omega), stateM_bind, header]
      dsimp only
      rw [bLength, readDescriptor]
      by_cases fits : memory cursor.toNat < 2 ∨ length - cursor < (memory cursor.toNat).toUInt32
      · have broken : (memory cursor.toNat).toNat < 2 ∨ length.toNat - cursor.toNat < (memory cursor.toNat).toNat := by
          by_contra whole
          exact (fits_iff before).2 (by rw [UInt32.lt_iff_toNat_lt] at before; omega) fits
        rw [if_pos fits, if_pos broken]
        rfl
      · obtain ⟨least, inside⟩ := (fits_iff before).1 fits
        have parsed : ∀ reads, (addDescriptorAt memory ⟨memory cursor.toNat, memory (cursor.toNat + 1)⟩ configs
            cursor.toNat reads).1 = addDescriptor (buffer.drop cursor.toNat) configs :=
          addDescriptorAt_value least fun k within => agree k (by omega)
        rw [if_neg fits, if_neg (by omega), stateM_bind, parsed, ← toNat_behind inside]
        change _ = match (if _ then Iteration.done _ else .next _ _) with
          | .done parsed => parsed
          | .next cursor' configs' => parseLoop buffer length.toNat cursor'.toNat configs'
        split_ifs <;> rfl
  · rw [iteration, if_neg before, if_neg fun less => before (UInt32.lt_iff_toNat_lt.2 less)]
    rfl

/-! ## The loop -/

/-- Every round goes on by two bytes at least, so there are fewer rounds than bytes. -/
theorem parseLoopAt_parses {buffer : List UInt8} (holds : Holds memory buffer) (size : length.toNat = buffer.length)
    {rounds : Nat} (enough : length.toNat - cursor.toNat < rounds) (reads : List Nat) :
    (parseLoopAt memory length rounds cursor configs reads).1 =
      some (parseLoop buffer length.toNat cursor.toNat configs) := by
  induction rounds generalizing cursor configs reads with
  | zero => exact absurd enough (Nat.not_lt_zero _)
  | succ rounds ih =>
    rw [parseLoopAt, stateM_bind, iteration_parses holds size reads]
    cases round : (iteration memory length cursor configs reads).1 with
    | done parsed => rfl
    | next cursor' configs' =>
      obtain ⟨behind, least, inside⟩ := iteration_next round
      exact ih (by omega) _

theorem within_parseLoopAt (rounds : Nat) :
    Keeps (Within 0 length.toNat) (parseLoopAt memory length rounds cursor configs) := by
  induction rounds generalizing cursor configs with
  | zero => exact .pure _
  | succ rounds ih =>
    refine .bind (within_iteration (Nat.zero_le _) id fun _ => id) fun round => ?_
    cases round with
    | done parsed => exact .pure _
    | next cursor' configs' => exact ih

end Round

/-! ## The device descriptor -/

theorem within_loadDeviceDescriptor (memory : Memory) {hi : Nat} (size : deviceDescriptorSize ≤ hi) :
    Keeps (Within 0 hi) (loadDeviceDescriptor memory 0) := by
  have field : ∀ k, k < 18 → Keeps (Within 0 hi) (load memory (0 + k)) := fun k inside =>
    within_field inside (Nat.le_refl 0) (by rw [Nat.zero_add]; exact size)
  refine .bind (field 0 (by decide)) fun _ => .bind (field 1 (by decide)) fun _ => .bind (field 2 (by decide)) fun _ =>
    .bind (field 3 (by decide)) fun _ => .bind (field 4 (by decide)) fun _ => .bind (field 5 (by decide)) fun _ => ?_
  refine .bind (field 6 (by decide)) fun _ => .bind (field 7 (by decide)) fun _ => .bind (field 8 (by decide)) fun _ =>
    .bind (field 9 (by decide)) fun _ => .bind (field 10 (by decide)) fun _ => .bind (field 11 (by decide)) fun _ => ?_
  exact .bind (field 12 (by decide)) fun _ => .bind (field 13 (by decide)) fun _ =>
    .bind (field 14 (by decide)) fun _ => .bind (field 15 (by decide)) fun _ => .bind (field 16 (by decide)) fun _ =>
    .bind (field 17 (by decide)) fun _ => .pure _

theorem within_parseDeviceDescriptorAt (buffer : Option Memory) (length : UInt32) (dev : UsbDevice) :
    Keeps (Within 0 length.toNat) (parseDeviceDescriptorAt buffer length dev) := by
  cases buffer with
  | none => exact .pure _
  | some memory =>
    refine .ite (fun _ => .pure _) fun _ => .ite (fun _ => .pure _) fun long => ?_
    exact .bind (within_loadDeviceDescriptor memory (Nat.not_lt.1 long)) fun _ =>
      .ite (fun _ => .pure _) fun _ => .pure _

theorem parseDeviceDescriptorAt_value {memory : Memory} {bytes : List UInt8} (holds : Holds memory bytes)
    {length : UInt32} (size : length.toNat ≤ bytes.length) (dev : UsbDevice) (reads : List Nat) :
    (parseDeviceDescriptorAt (some memory) length dev reads).1 = parseDeviceDescriptor bytes length dev := by
  unfold parseDeviceDescriptorAt parseDeviceDescriptor
  dsimp only
  by_cases zero : length = 0
  · rw [if_pos zero, if_pos (.inr zero)]
    rfl
  · have positive : length.toNat ≠ 0 := fun none => zero (UInt32.toNat_inj.1 none)
    have nonempty : ¬ (bytes = [] ∨ length = 0) := by
      rintro (rfl | zero')
      · exact positive (Nat.le_zero.1 size)
      · exact zero zero'
    rw [if_neg zero, if_neg nonempty]
    by_cases short : length.toNat < deviceDescriptorSize
    · rw [if_pos short, if_pos short]
      rfl
    · have read : ∀ reads, (loadDeviceDescriptor memory 0 reads).1 = UsbdDeviceDescriptor.read bytes := by
        intro reads
        have agree : ∀ k, k < 18 → memory (0 + k) = byteAt bytes k := fun k inside => by
          rw [Nat.zero_add]
          exact holds k (by change ¬ _ < 18 at short; omega)
        simp only [UsbdDeviceDescriptor.read, ← agree 0 (by decide), ← agree 1 (by decide), ← agree 2 (by decide),
          ← agree 3 (by decide), ← agree 4 (by decide), ← agree 5 (by decide), ← agree 6 (by decide),
          ← agree 7 (by decide), ← agree 8 (by decide), ← agree 9 (by decide), ← agree 10 (by decide),
          ← agree 11 (by decide), ← agree 12 (by decide), ← agree 13 (by decide), ← agree 14 (by decide),
          ← agree 15 (by decide), ← agree 16 (by decide), ← agree 17 (by decide)]
        rfl
      rw [if_neg short, if_neg short, stateM_bind, read]
      split_ifs <;> rfl

/-- After an error the device is as it was. -/
theorem parseDeviceDescriptorAt_error {buffer : Option Memory} {length : UInt32} {dev : UsbDevice} {reads : List Nat}
    (error : (parseDeviceDescriptorAt buffer length dev reads).1.1 ≠ .uecOk) :
    (parseDeviceDescriptorAt buffer length dev reads).1.2 = dev := by
  cases buffer with
  | none => rfl
  | some memory =>
    unfold parseDeviceDescriptorAt at error ⊢
    dsimp only at error ⊢
    split_ifs at error ⊢ with zero short
    · rfl
    · rfl
    · rw [stateM_bind] at error ⊢
      split_ifs at error ⊢
      · rfl
      · exact absurd rfl error

/-! ## Safety -/

/-- The parser reads bytes of the buffer only, in every round those of one descriptor; every round goes on without
wrapping, and the rounds end with the result of the parser over lists. The device descriptor is read inside its
length, and an error leaves the device alone. -/
theorem descriptor_parser_safe {descriptor : List UInt8} (size : descriptor.length < 2 ^ 32) {memory : Memory}
    (holds : Holds memory descriptor) (offset : UInt32) (configs : List USBConfig) :
    let length : UInt32 := .ofNat descriptor.length
    (∀ cursor configs,
      let round := iteration memory length cursor configs []
      let bLength := (memory cursor.toNat).toNat
      Within cursor.toNat (min descriptor.length (cursor.toNat + max 2 bLength)) round.2 ∧
        ∀ cursor' configs', round.1 = .next cursor' configs' →
          cursor'.toNat = cursor.toNat + bLength ∧ cursor.toNat + 2 ≤ cursor'.toNat ∧
            cursor'.toNat ≤ descriptor.length) ∧
      (∀ rounds, descriptor.length < rounds →
        let run := parseLoopAt memory length rounds offset configs []
        Within 0 descriptor.length run.2 ∧ run.1 = some (parseConfigDescriptors descriptor offset configs)) ∧
      ∀ buffer length dev,
        let run := parseDeviceDescriptorAt buffer length dev []
        Within 0 length.toNat run.2 ∧ (run.1.1 ≠ .uecOk → run.1.2 = dev) ∧
          ∀ memory bytes, buffer = some memory → Holds memory bytes → length.toNat ≤ bytes.length →
            run.1 = parseDeviceDescriptor bytes length dev := by
  intro length
  have toNat : length.toNat = descriptor.length := UInt32.toNat_ofNat_of_lt' size
  refine ⟨fun cursor configs => ⟨?_, fun cursor' configs' next => ?_⟩, fun rounds enough => ⟨?_, ?_⟩,
    fun buffer length dev => ⟨?_, parseDeviceDescriptorAt_error, ?_⟩⟩
  · exact within_iteration (Nat.le_refl _) (by omega) (by omega) [] (within_nil _ _)
  · obtain ⟨behind, least, inside⟩ := iteration_next next
    exact ⟨behind, by omega, toNat ▸ inside⟩
  · rw [← toNat]
    exact within_parseLoopAt rounds [] (within_nil _ _)
  · rw [parseLoopAt_parses holds toNat (by omega), parseConfigDescriptors, Nat.mod_eq_of_lt size, toNat]
  · exact within_parseDeviceDescriptorAt buffer length dev [] (within_nil _ _)
  · rintro memory bytes rfl holds size
    exact parseDeviceDescriptorAt_value holds size dev []

/-- A buffer with a configuration, and other bytes behind it. -/
theorem descriptor_parser_safe_sample :
    let memory : Memory := fun k => if k < sampleBuffer.length then byteAt sampleBuffer k else 0xff
    let run := parseLoopAt memory (.ofNat sampleBuffer.length) 100 2 [] []
    Within 0 sampleBuffer.length run.2 ∧ run.1 = some (parseConfigDescriptors sampleBuffer 2 []) ∧
      run.1 = some (.uecOk, toConfigs sampleTree) := by
  have size : sampleBuffer.length < 2 ^ 32 := by decide
  have enough : sampleBuffer.length < 100 := by decide
  have holds : Holds (fun k => if k < sampleBuffer.length then byteAt sampleBuffer k else 0xff) sampleBuffer :=
    fun k inside => if_pos inside
  have safe := (descriptor_parser_safe size holds 2 []).2.1 100 enough
  exact ⟨safe.1, safe.2, by decide +kernel⟩

end UsbManager
