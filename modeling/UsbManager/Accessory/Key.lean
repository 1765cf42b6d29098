import UsbManager.Accessory.Configuring

/-!
# The key of the accessory right

A right to an accessory is stored under the string that `GetAccessorySerialNumber` composes of the
caller's accessory object: manufacturer, product, version and serial number, one after the other. The
object may carry the serial number of the accessory or, as `GetAccessoryList` hands it out, the same
number behind the caller's bundle name. The two spellings give two keys, and without separators the
first three strings may be cut elsewhere.

The serial number of an announced accessory is the text of a hash, 16 characters long, so that the keys
of accessories with the same three strings differ.
-/

namespace UsbManager.Accessory

open Timer Transition

def compare (s1 s2 : String) : Bool := if s1 = "" then s2 = "" else s1 = s2

theorem compare_iff {s1 s2 : String} : compare s1 s2 = true ↔ s1 = s2 := by
  unfold compare
  split
  next empty => simp [empty, eq_comm]
  next => simp

namespace UsbAccessoryManager

variable (m : UsbAccessoryManager) (bundleName : String)

/-- The accessory as a caller of this bundle sees it. -/
def getAccessoryList : List USBAccessory :=
  if m.accStatus = .accStart then [m.accessory.setSerialNumber (bundleName ++ m.accessory.serialNumber)] else []

def getAccessorySerialNumber (access : USBAccessory) : Except UsbErrCode String :=
  if m.accStatus ≠ .accStart then .error .uecServiceAccessoryNotMatch
  else if compare m.accessory.manufacturer access.manufacturer && compare m.accessory.product access.product &&
      compare m.accessory.description access.description && compare m.accessory.manufacturer access.manufacturer &&
      compare m.accessory.version access.version &&
      (compare m.accessory.serialNumber access.serialNumber ||
        compare (bundleName ++ m.accessory.serialNumber) access.serialNumber) then
    .ok (access.manufacturer ++ access.product ++ access.version ++ access.serialNumber)
  else .error .uecServiceAccessoryNotMatch

/-- The accessory objects that are accepted in this bundle. -/
def Names (access : USBAccessory) : Prop :=
  ∃ serialNumber, (serialNumber = m.accessory.serialNumber ∨ serialNumber = bundleName ++ m.accessory.serialNumber) ∧
    access = m.accessory.setSerialNumber serialNumber

/-- The three strings in front of the serial number. -/
def product3 : String := m.accessory.manufacturer ++ m.accessory.product ++ m.accessory.version

variable {m bundleName} {access : USBAccessory} {key : String}

/-- What is accepted, and under which key. -/
theorem getAccessorySerialNumber_iff (started : m.accStatus = .accStart) :
    m.getAccessorySerialNumber bundleName access = .ok key ↔
      m.Names bundleName access ∧ key = m.product3 ++ access.serialNumber := by
  unfold getAccessorySerialNumber
  rw [if_neg (by simp [started])]
  simp only [Bool.and_eq_true, Bool.or_eq_true, compare_iff]
  constructor
  · intro accepted
    split at accepted
    next same =>
      obtain ⟨⟨⟨⟨⟨manufacturer, product⟩, description⟩, -⟩, version⟩, serial⟩ := same
      refine ⟨⟨access.serialNumber, serial.imp Eq.symm Eq.symm, ?_⟩, ?_⟩
      · rw [USBAccessory.setSerialNumber, manufacturer, product, description, version]
      · rw [product3, manufacturer, product, version]
        exact (Except.ok.inj accepted).symm
    next => cases accepted
  · rintro ⟨⟨serialNumber, spelled, rfl⟩, rfl⟩
    rw [if_pos ⟨⟨⟨⟨⟨rfl, rfl⟩, rfl⟩, rfl⟩, rfl⟩, spelled.imp Eq.symm Eq.symm⟩]
    rfl

/-- The objects of `GetAccessoryList` are accepted. -/
theorem names_of_getAccessoryList (listed : access ∈ m.getAccessoryList bundleName) : m.Names bundleName access := by
  unfold getAccessoryList at listed
  split at listed
  · exact ⟨_, .inr rfl, List.mem_singleton.1 listed⟩
  · cases listed

end UsbAccessoryManager

/-! ## Announced accessories -/

theorem length_serialValueHash (hashValue : UInt32) : (serialValueHash hashValue).toList.length = 16 := by
  have short : (Nat.toDigits 16 hashValue.toNat).length ≤ 8 :=
    (Nat.length_toDigits_le_iff (by decide) (by decide)).2 hashValue.toNat_lt
  simp only [serialValueHash, String.toList_ofList, List.length_append, List.length_replicate]
  omega

/-- While an accessory is announced its serial number is the text of a hash. -/
def SerialHashed (m : UsbAccessoryManager) : Prop :=
  m.accStatus = .accStart → ∃ hashValue, m.accessory.serialNumber = serialValueHash hashValue

theorem serialHashed_handled {m m' : UsbAccessoryManager} {a : Answers} {mode : AccessoryMode}
    (handled : m.Handled a mode m') (hashed : SerialHashed m) : SerialHashed m' := by
  cases handled with
  | none | ignored | unread | again | early | refused => exact hashed
  | announced => exact fun _ => ⟨a.hashValue, rfl⟩
  | configured | stopped => exact nofun
  | sent =>
    intro started
    have sending : (m.processAccessorySend a).clock.accStatus = .accSend := by
      rw [UsbAccessoryManager.clock_processAccessorySend]
      rfl
    cases sending.symm.trans started

theorem serialHashed_handleEvent {m : UsbAccessoryManager} {a : Answers} (present : m.usbDeviceInterface = true)
    (hashed : SerialHashed m) (status : Gadget.Status) (delayProcess : Bool) :
    SerialHashed (m.handleEvent a status delayProcess) := by
  rcases UsbAccessoryManager.handleEvent_eq (a := a) present status delayProcess with ⟨-, later⟩ | ⟨-, now⟩
  · rw [later]
    exact hashed
  · rw [now]
    exact serialHashed_handled (UsbAccessoryManager.handled a (m := m.noted status delayProcess) present _) hashed

theorem announced_serial {guard : UsbAccessoryManager → Action → Prop} {functions : UInt32} {m : UsbAccessoryManager}
    (run : Reach UsbAccessoryManager.step guard (.start functions) m) : SerialHashed m := by
  induction run with
  | init => exact nofun
  | @step m m' action before _ taken hashed =>
    have timed := UsbAccessoryManager.reach_timed before
    cases UsbAccessoryManager.stepped timed.present taken with
    | handled => exact serialHashed_handleEvent timed.present hashed _ _
    | @shaken timer a timers fired =>
      exact serialHashed_handleEvent (m := { m with timers := timers }) timed.present hashed _ _
    | restored => exact nofun
    | others => exact hashed

/-- Any accessory that a driver can name may be announced. -/
theorem reach_announced (manufacturer product description version : String) (hashValue : UInt32) :
    ∃ m, Reach UsbAccessoryManager.step anyStep (.start funAccessory) m ∧ m.accStatus = .accStart ∧
      m.accessory = ⟨manufacturer, product, description, version, serialValueHash hashValue⟩ := by
  have run : Reach UsbAccessoryManager.step anyStep (.start funAccessory) _ :=
    .step (a := .handleEvent .actAccessoryUp true
        { accessorys := [manufacturer, product, description, version, ""], hashValue := hashValue })
      .init trivial rfl
  exact ⟨_, run, rfl, rfl⟩

/-! ## Keys -/

/-- Two accessories that are to have different keys. -/
def USBAccessory.Differs (a b : USBAccessory) : Prop :=
  a.manufacturer ≠ b.manufacturer ∨ a.product ≠ b.product ∨ a.version ≠ b.version ∨ a.serialNumber ≠ b.serialNumber

/-- All accessory objects that are accepted have one key. -/
def OneKey (m : UsbAccessoryManager) (bundleName : String) : Prop :=
  ∀ access access' key key', m.getAccessorySerialNumber bundleName access = .ok key →
    m.getAccessorySerialNumber bundleName access' = .ok key' → key = key'

/-- No other accessory that may be announced has a key of this one. -/
def OwnKey (m : UsbAccessoryManager) (bundleName : String) : Prop :=
  ∀ functions m', Reach UsbAccessoryManager.step anyStep (.start functions) m' → m'.accStatus = .accStart →
    m.accessory.Differs m'.accessory →
      ∀ access access' key key', m.getAccessorySerialNumber bundleName access = .ok key →
        m'.getAccessorySerialNumber bundleName access' = .ok key' → key ≠ key'

section Keys

variable {m m' : UsbAccessoryManager} {bundleName : String}

/-- The two spellings of the serial number have one key exactly if the bundle name is empty. -/
theorem oneKey_iff (started : m.accStatus = .accStart) : OneKey m bundleName ↔ bundleName = "" := by
  constructor
  · intro one
    have same := one _ _ _ _
      ((UsbAccessoryManager.getAccessorySerialNumber_iff started).2 ⟨⟨_, .inl rfl, rfl⟩, rfl⟩)
      ((UsbAccessoryManager.getAccessorySerialNumber_iff started).2 ⟨⟨_, .inr rfl, rfl⟩, rfl⟩)
    exact String.append_eq_right_iff.1 ((String.append_right_inj _).1 same).symm
  · rintro rfl access access' key key' accepted accepted'
    obtain ⟨⟨serial, spelled, rfl⟩, rfl⟩ := (UsbAccessoryManager.getAccessorySerialNumber_iff started).1 accepted
    obtain ⟨⟨serial', spelled', rfl⟩, rfl⟩ := (UsbAccessoryManager.getAccessorySerialNumber_iff started).1 accepted'
    rw [String.empty_append, or_self] at spelled spelled'
    rw [spelled, spelled']

/-- The last 16 characters of a key of one bundle-less spelling are the serial number. -/
theorem key_inj {a b : USBAccessory} {hash hash' : UInt32} {front front' : String}
    (own : a.serialNumber = serialValueHash hash) (own' : b.serialNumber = serialValueHash hash')
    (same : front ++ a.serialNumber = front' ++ b.serialNumber) : front = front' ∧ a.serialNumber = b.serialNumber := by
  have lists := congrArg String.toList same
  rw [String.toList_append, String.toList_append] at lists
  have lengths : a.serialNumber.toList.length = b.serialNumber.toList.length := by
    rw [own, own', length_serialValueHash, length_serialValueHash]
  obtain ⟨fronts, serials⟩ := List.append_inj' lists lengths
  exact ⟨String.toList_inj.1 fronts, String.toList_inj.1 serials⟩

/-- The three strings cut elsewhere. -/
theorem exists_other_cut (manufacturer product version : String) (some_text : manufacturer ++ product ++ version ≠ "") :
    ∃ manufacturer' product', manufacturer' ++ product' ++ "" = manufacturer ++ product ++ version ∧
      (manufacturer ≠ manufacturer' ∨ product ≠ product') := by
  by_cases first : manufacturer = manufacturer ++ product ++ version
  · refine ⟨"", manufacturer ++ product ++ version, by simp, .inl ?_⟩
    rwa [first]
  · exact ⟨manufacturer ++ product ++ version, "", by simp, .inl first⟩

/-- Without a bundle name, no other accessory has the key exactly if there is nothing to cut. -/
theorem ownKey_iff {functions : UInt32} (run : Reach UsbAccessoryManager.step anyStep (.start functions) m)
    (started : m.accStatus = .accStart) : OwnKey m "" ↔ m.product3 = "" := by
  obtain ⟨hash, own⟩ := announced_serial run started
  constructor
  · intro alone
    by_contra some_text
    obtain ⟨manufacturer, product, cut, differs⟩ := exists_other_cut _ _ _ some_text
    obtain ⟨m', run', started', other⟩ := reach_announced manufacturer product "" "" hash
    refine alone _ m' run' started' ?_ m.accessory m'.accessory _ _
      ((UsbAccessoryManager.getAccessorySerialNumber_iff started).2 ⟨⟨_, .inl rfl, rfl⟩, rfl⟩)
      ((UsbAccessoryManager.getAccessorySerialNumber_iff started').2 ⟨⟨_, .inl rfl, rfl⟩, rfl⟩) ?_
    · rw [other]
      exact differs.imp id .inl
    · rw [UsbAccessoryManager.product3, UsbAccessoryManager.product3, other, own, cut]
  · intro empty functions' m' run' started' differs access access' key key' accepted accepted' same
    obtain ⟨hash', own'⟩ := announced_serial run' started'
    obtain ⟨⟨serial, spelled, rfl⟩, rfl⟩ := (UsbAccessoryManager.getAccessorySerialNumber_iff started).1 accepted
    obtain ⟨⟨serial', spelled', rfl⟩, rfl⟩ := (UsbAccessoryManager.getAccessorySerialNumber_iff started').1 accepted'
    rw [String.empty_append, or_self] at spelled spelled'
    subst spelled spelled'
    obtain ⟨fronts, serials⟩ := key_inj own own' same
    have empty' : m'.product3 = "" := fronts.symm.trans empty
    simp only [UsbAccessoryManager.product3, String.append_eq_empty_iff] at empty empty'
    obtain ⟨⟨manufacturer, product⟩, version⟩ := empty
    obtain ⟨⟨manufacturer', product'⟩, version'⟩ := empty'
    rcases differs with differ | differ | differ | differ
    · exact differ (manufacturer.trans manufacturer'.symm)
    · exact differ (product.trans product'.symm)
    · exact differ (version.trans version'.symm)
    · exact differ serials

end Keys

/-- The key of an announced accessory does not depend on the spelling and belongs to it alone exactly if
the bundle name and the strings before the serial number are empty. -/
theorem accessory_key_iff {functions : UInt32} {m : UsbAccessoryManager}
    (run : Reach UsbAccessoryManager.step anyStep (.start functions) m) (started : m.accStatus = .accStart)
    (bundleName : String) :
    OneKey m bundleName ∧ OwnKey m bundleName ↔
      bundleName = "" ∧ m.accessory.manufacturer = "" ∧ m.accessory.product = "" ∧ m.accessory.version = "" := by
  rw [oneKey_iff started]
  constructor
  · rintro ⟨rfl, alone⟩
    have empty := (ownKey_iff run started).1 alone
    simp only [UsbAccessoryManager.product3, String.append_eq_empty_iff] at empty
    exact ⟨rfl, empty.1.1, empty.1.2, empty.2⟩
  · rintro ⟨rfl, manufacturer, product, version⟩
    refine ⟨rfl, (ownKey_iff run started).2 ?_⟩
    rw [UsbAccessoryManager.product3, manufacturer, product, version]
    rfl

/-- A shell, which has no bundle name, and an accessory with a description only. -/
theorem accessory_key_iff_shell :
    ∃ m, Reach UsbAccessoryManager.step anyStep (.start funAccessory) m ∧ m.accStatus = .accStart ∧
      OneKey m "" ∧ OwnKey m "" := by
  obtain ⟨m, run, started, accessory⟩ := reach_announced "" "" "dock" "" 7
  have empty : m.accessory.manufacturer = "" ∧ m.accessory.product = "" ∧ m.accessory.version = "" := by
    rw [accessory]
    exact ⟨rfl, rfl, rfl⟩
  exact ⟨m, run, started, (accessory_key_iff run started "").2 ⟨rfl, empty⟩⟩

/-- The serial number as `GetAccessoryList` hands it out gives another key than the serial number itself;
and two accessories whose manufacturer and product are cut elsewhere have one key. -/
theorem accessory_key_ambiguous :
    ∃ m m', Reach UsbAccessoryManager.step anyStep (.start funAccessory) m ∧
      Reach UsbAccessoryManager.step anyStep (.start funAccessory) m' ∧
      m.accStatus = .accStart ∧ m'.accStatus = .accStart ∧ m.accessory.Differs m'.accessory ∧
      ¬ OneKey m "com.example.app" ∧
      ∃ key, m.getAccessorySerialNumber "com.example.app" m.accessory = .ok key ∧
        m'.getAccessorySerialNumber "com.example.app" m'.accessory = .ok key := by
  obtain ⟨m, run, started, accessory⟩ := reach_announced "maker" "dock" "" "1" 7
  obtain ⟨m', run', started', accessory'⟩ := reach_announced "make" "rdock" "" "1" 7
  refine ⟨m, m', run, run', started, started', ?_, ?_, m.product3 ++ m.accessory.serialNumber, ?_, ?_⟩
  · rw [accessory, accessory']
    exact .inl (by decide)
  · rw [oneKey_iff started]
    decide
  · exact (UsbAccessoryManager.getAccessorySerialNumber_iff started).2 ⟨⟨_, .inl rfl, rfl⟩, rfl⟩
  · refine (UsbAccessoryManager.getAccessorySerialNumber_iff started').2 ⟨⟨_, .inl rfl, rfl⟩, ?_⟩
    rw [UsbAccessoryManager.product3, UsbAccessoryManager.product3, accessory, accessory']
    rfl

end UsbManager.Accessory
