import UsbManager.Host.Permission
import UsbManager.Right.StoreCorrect
import UsbManager.Transfer.Isolation

/-!
# The identity behind a permission

A permission is checked against the identity in `deviceVidPidMap_`, and used on the device in
`devices_`. The two agree through a run as long as no attach finds another device at its address. An
attach that does replaces the device and leaves the identity, so that a right for the device that is
gone opens the one that took over.
-/

namespace UsbManager.Host

open Rdb Separator

/-- Vendor, product and serial number of a device. -/
structure Identity where
  vendorId : Int
  productId : Int
  serial : String
  deriving DecidableEq

def identity (dev : UsbDevice) : Identity := ⟨dev.vendorId, dev.productId, dev.serial⟩

def Identity.uniqueName (i : Identity) : String := toString i.vendorId ++ "-" ++ toString i.productId ++ "-" ++ i.serial

/-- Vendor and product are unsigned 16-bit numbers in a device descriptor. -/
def Identity.Unsigned (i : Identity) : Prop := 0 ≤ i.vendorId ∧ 0 ≤ i.productId

theorem Identity.toList_uniqueName {i : Identity} (unsigned : i.Unsigned) :
    i.uniqueName.toList =
      digits i.vendorId.toNat ++ '-' :: (digits i.productId.toNat ++ '-' :: i.serial.toList) := by
  obtain ⟨vendorId, productId, serial⟩ := i
  obtain ⟨vendor, product⟩ := unsigned
  obtain ⟨v, rfl⟩ := Int.eq_ofNat_of_zero_le vendor
  obtain ⟨p, rfl⟩ := Int.eq_ofNat_of_zero_le product
  have numeral (n : Nat) : (n : Int).repr = n.repr := rfl
  simp [Identity.uniqueName, digits, numeral]

theorem Identity.uniqueName_inj {i j : Identity} (unsigned : i.Unsigned) (unsigned' : j.Unsigned) :
    i.uniqueName = j.uniqueName ↔ i = j := by
  rw [← String.toList_inj, Identity.toList_uniqueName unsigned, Identity.toList_uniqueName unsigned',
    append_cons_inj (dash_notMem_digits _) (dash_notMem_digits _),
    append_cons_inj (dash_notMem_digits _) (dash_notMem_digits _), digits_inj, digits_inj, String.toList_inj]
  obtain ⟨vendor, product⟩ := unsigned
  obtain ⟨vendor', product'⟩ := unsigned'
  constructor
  · rintro ⟨sameVendor, sameProduct, sameSerial⟩
    rw [Identity.mk.injEq]
    exact ⟨by omega, by omega, sameSerial⟩
  · rintro rfl
    exact ⟨rfl, rfl, rfl⟩

/-! ### The identities in `devices_` -/

namespace Devices

variable {h : Devices}

def identityAt (h : Devices) (name : String) : Option Identity := (h.devices[name]?).map fun o => identity (h.heap o)

/-- The devices and their identities are the same. -/
structure SameDevices (h h' : Devices) : Prop where
  devices : h'.devices = h.devices
  allocated : h'.allocated = h.allocated
  identity : ∀ o, identity (h'.heap o) = identity (h.heap o)

theorem SameDevices.refl (h : Devices) : SameDevices h h := ⟨rfl, rfl, fun _ => rfl⟩

theorem SameDevices.trans {h₁ h₂ h₃ : Devices} (first : SameDevices h₁ h₂) (second : SameDevices h₂ h₃) :
    SameDevices h₁ h₃ :=
  ⟨second.devices.trans first.devices, second.allocated.trans first.allocated,
    fun o => (second.identity o).trans (first.identity o)⟩

theorem SameDevices.identityAt_eq {h' : Devices} (same : SameDevices h h') (name : String) :
    h'.identityAt name = h.identityAt name := by
  simp only [identityAt, same.devices, same.identity]

theorem SameDevices.numbered {h' : Devices} (same : SameDevices h h') (numbered : h.Numbered) : h'.Numbered := by
  intro name o found
  rw [same.devices] at found
  rw [same.allocated]
  exact numbered name o found

theorem setAuthorizeStatus_same (o : Nat) (status : AuthorizeStatus) :
    SameDevices h (h.setAuthorizeStatus o status) := by
  refine ⟨rfl, rfl, fun o' => ?_⟩
  simp only [setAuthorizeStatus]
  split_ifs with own
  · rw [own]
    rfl
  · rfl

theorem publishCommonEvent_same (event : DeviceEvent) (o : Nat) : SameDevices h (h.publishCommonEvent event o) :=
  ⟨rfl, rfl, fun _ => rfl⟩

theorem usbDeviceAuthorize_same (busNum devAddr : UInt8) (authorized : Bool) (ret : Option UsbErrCode) :
    SameDevices h (h.usbDeviceAuthorize busNum devAddr authorized ret).2 := by
  unfold usbDeviceAuthorize publishAuthorized
  repeat' split
  all_goals first
    | exact .refl h
    | exact (publishCommonEvent_same _ _).trans (setAuthorizeStatus_same _ _)
    | exact setAuthorizeStatus_same _ _

theorem authorize_same (calls : List Authorization) : SameDevices h (h.authorize calls) := by
  induction calls generalizing h with
  | nil => exact .refl h
  | cons call calls ih => exact (usbDeviceAuthorize_same _ _ _ _).trans ih

theorem announce_same (name : String) : SameDevices h (h.announce name) := by
  unfold announce
  split
  · exact .refl h
  · exact (setAuthorizeStatus_same _ _).trans (publishCommonEvent_same _ _)

theorem addDevice_same (dev : UsbDevice) (strategy : List Authorization) :
    SameDevices (h.insertDevice dev) (h.addDevice dev strategy) :=
  (authorize_same strategy).trans (announce_same _)

theorem addDevice_identityAt (numbered : h.Numbered) (dev : UsbDevice) (strategy : List Authorization) (name : String) :
    (h.addDevice dev strategy).identityAt name =
      if name = deviceName dev.busNum dev.devAddr then some (identity dev) else h.identityAt name := by
  rw [(addDevice_same dev strategy).identityAt_eq, identityAt, insertDevice_getElem?]
  split_ifs with same
  · simp [insertDevice, identity]
  · unfold identityAt
    cases found : h.devices[name]? with
    | none => rfl
    | some o =>
      have before : o ≠ h.allocated := Nat.ne_of_lt (numbered name o found)
      simp [insertDevice, before]

theorem Numbered.addDevice (numbered : h.Numbered) (dev : UsbDevice) (strategy : List Authorization) :
    (h.addDevice dev strategy).Numbered :=
  (addDevice_same dev strategy).numbered (numbered.insertDevice dev)

theorem delDevice_identityAt (busNum devNum : UInt8) (name : String) :
    (h.delDevice busNum devNum).2.identityAt name =
      if name = deviceName busNum devNum then none else h.identityAt name := by
  rw [identityAt, delDevice_getElem?, delDevice_heap]
  split_ifs <;> rfl

end Devices

/-! ### The two maps -/

namespace UsbService

variable {db : Right.UsbRightDataBase} {s : UsbService}

def identityAt (s : UsbService) (name : String) : Option Identity := s.usbHostManager.bind (·.identityAt name)

theorem identityAt_eq (s : UsbService) (name : String) : s.identityAt name = (s.deviceAt name).map identity := by
  unfold identityAt deviceAt Devices.identityAt
  cases s.usbHostManager <;> simp [Function.comp_def]

/-- Every device in `devices_` has its own identity in `deviceVidPidMap_`. -/
def Agrees (s : UsbService) : Prop :=
  ∀ (name : String) dev, s.deviceAt name = some dev → s.deviceVidPidMap[name]? = some (uniqueName dev)

theorem agrees_iff : s.Agrees ↔
    ∀ (name : String) i, s.identityAt name = some i → s.deviceVidPidMap[name]? = some i.uniqueName := by
  constructor
  · intro agrees name i found
    rw [identityAt_eq] at found
    obtain ⟨dev, stored, rfl⟩ := Option.map_eq_some_iff.1 found
    exact agrees name dev stored
  · intro agrees name dev stored
    refine agrees name (identity dev) ?_
    rw [identityAt_eq, stored]
    rfl

/-- What holds in every run, whatever is attached where. -/
structure Kept (s : UsbService) : Prop where
  numbered : ∀ h, s.usbHostManager = some h → h.Numbered
  known : ∀ (name : String), s.identityAt name = none → s.deviceVidPidMap[name]? = none
  unsigned : ∀ (name : String) i, s.identityAt name = some i → i.Unsigned

/-- No other device is at the address of an attach. -/
def Orderly (s : UsbService) : ServiceEvent → Prop
  | .attach busNum devAddr reading _ =>
    ∀ old new, s.deviceAt (deviceName busNum devAddr) = some old → getDeviceInfo busNum devAddr reading = some new →
      old.vendorId = new.vendorId ∧ old.productId = new.productId ∧ old.serial = new.serial
  | _ => True

/-- What an event does to the two maps. -/
inductive Change (s : UsbService) : ServiceEvent → UsbService → Prop where
  | attached {busNum devAddr : UInt8} {reading : Option DeviceReading} {strategy : List Authorization} {dev : UsbDevice}
      {s' : UsbService} (device : getDeviceInfo busNum devAddr reading = some dev)
      (identities : ∀ name, s'.identityAt name =
        if name = deviceName busNum devAddr then some (identity dev) else s.identityAt name)
      (map : s'.deviceVidPidMap = s.deviceVidPidMap.insertIfNew (deviceName busNum devAddr) (uniqueName dev)) :
      Change s (.attach busNum devAddr reading strategy) s'
  | detached {busNum devAddr : UInt8} {p : Right.Platform} {s' : UsbService}
      (identities : ∀ name, s'.identityAt name = if name = deviceName busNum devAddr then none else s.identityAt name)
      (map : s'.deviceVidPidMap = s.deviceVidPidMap.erase (deviceName busNum devAddr)) :
      Change s (.detach busNum devAddr p) s'
  | unchanged {event : ServiceEvent} {s' : UsbService} (orderly : s.Orderly event)
      (identities : ∀ name, s'.identityAt name = s.identityAt name) (map : s'.deviceVidPidMap = s.deviceVidPidMap) :
      Change s event s'

theorem addDevice_change (kept : s.Kept) (busNum devAddr : UInt8) (reading : Option DeviceReading)
    (strategy : List Authorization) :
    Change s (.attach busNum devAddr reading strategy) (s.addDevice busNum devAddr reading strategy).2 := by
  unfold addDevice
  split
  · next null =>
    refine .unchanged (fun old new stored => ?_) (fun _ => rfl) rfl
    simp [deviceAt, null] at stored
  · next h there =>
    split
    · next failed =>
      refine .unchanged (fun old new _ read => ?_) (fun _ => rfl) rfl
      rw [failed] at read
      cases read
    · next dev read =>
      refine .attached read (fun name => ?_) rfl
      have address : dev.busNum = busNum ∧ dev.devAddr = devAddr := by
        obtain ⟨_, -, rfl⟩ := Option.map_eq_some_iff.1 read
        exact ⟨rfl, rfl⟩
      change (h.addDevice dev strategy).identityAt name = _
      rw [Devices.addDevice_identityAt (kept.numbered h there), address.1, address.2]
      simp [identityAt, there]

theorem delDevice_change (busNum devAddr : UInt8) (p : Right.Platform) :
    Change s (.detach busNum devAddr p) (s.delDevice db busNum devAddr p).2 := by
  unfold delDevice
  split
  · next h rights there _ =>
    refine .detached (fun name => ?_) rfl
    change (h.delDevice busNum devAddr).2.identityAt name = _
    rw [Devices.delDevice_identityAt]
    simp [identityAt, there]
  · exact .unchanged trivial (fun _ => rfl) rfl

theorem step_change (kept : s.Kept) (event : ServiceEvent) : Change s event (s.step db event) := by
  cases event with
  | attach busNum devAddr reading strategy => exact addDevice_change kept busNum devAddr reading strategy
  | detach busNum devAddr p => exact delDevice_change busNum devAddr p
  | authorize calls =>
    refine .unchanged trivial (fun name => ?_) rfl
    simp only [step, identityAt]
    cases s.usbHostManager with
    | none => rfl
    | some h => exact (Devices.authorize_same calls).identityAt_eq name
  | right op => exact .unchanged trivial (fun _ => rfl) rfl

theorem getDeviceInfo_unsigned {busNum devAddr : UInt8} {reading : Option DeviceReading} {dev : UsbDevice}
    (read : getDeviceInfo busNum devAddr reading = some dev) : (identity dev).Unsigned := by
  obtain ⟨_, -, rfl⟩ := Option.map_eq_some_iff.1 read
  exact ⟨Int.natCast_nonneg _, Int.natCast_nonneg _⟩

theorem Kept.numbered_step (kept : s.Kept) (event : ServiceEvent) {h : Devices}
    (there : (s.step db event).usbHostManager = some h) : h.Numbered := by
  have numbered := kept.numbered
  cases event with
  | attach busNum devAddr reading strategy =>
    simp only [step, addDevice] at there
    split at there
    · exact numbered h there
    · next old before =>
      split at there
      · exact numbered h there
      · cases there
        exact (numbered old before).addDevice _ _
  | detach busNum devAddr p =>
    simp only [step, delDevice] at there
    split at there
    · next old rights before _ =>
      cases there
      exact (numbered old before).delDevice _ _
    · exact numbered h there
  | authorize calls =>
    obtain ⟨old, before, rfl⟩ := Option.map_eq_some_iff.1 there
    exact (Devices.authorize_same calls).numbered (numbered old before)
  | right op => exact numbered h there

theorem Kept.step (kept : s.Kept) (event : ServiceEvent) : (s.step db event).Kept := by
  refine ⟨fun h there => kept.numbered_step event there, fun name absent => ?_, fun name i found => ?_⟩
  · cases step_change kept event with
    | attached read identities map =>
      rw [identities] at absent
      rw [map, Std.ExtTreeMap.getElem?_insertIfNew]
      split_ifs at absent with same
      grind [kept.known name absent]
    | detached identities map =>
      rw [identities] at absent
      rw [map, Std.ExtTreeMap.getElem?_erase]
      grind [kept.known name]
    | unchanged _ identities map =>
      rw [identities] at absent
      rw [map]
      exact kept.known name absent
  · cases step_change kept event with
    | attached read identities map =>
      rw [identities] at found
      split_ifs at found
      · cases found
        exact getDeviceInfo_unsigned read
      · exact kept.unsigned name i found
    | detached identities map =>
      rw [identities] at found
      split_ifs at found
      exact kept.unsigned name i found
    | unchanged _ identities map =>
      rw [identities] at found
      exact kept.unsigned name i found

theorem agrees_of_same {s' : UsbService} (identities : ∀ name, s'.identityAt name = s.identityAt name)
    (map : s'.deviceVidPidMap = s.deviceVidPidMap) (agrees : s.Agrees) : s'.Agrees := by
  rw [agrees_iff] at agrees ⊢
  intro name i found
  rw [identities] at found
  rw [map]
  exact agrees name i found

/-- An attach keeps the maps in agreement iff no other device is at its address. -/
theorem attached_agrees {s' : UsbService} {busNum devAddr : UInt8} {dev : UsbDevice} (kept : s.Kept) (agrees : s.Agrees)
    (unsigned : (identity dev).Unsigned)
    (identities : ∀ name, s'.identityAt name =
      if name = deviceName busNum devAddr then some (identity dev) else s.identityAt name)
    (map : s'.deviceVidPidMap = s.deviceVidPidMap.insertIfNew (deviceName busNum devAddr) (uniqueName dev)) :
    s'.Agrees ↔ ∀ i, s.identityAt (deviceName busNum devAddr) = some i → i = identity dev := by
  rw [agrees_iff] at agrees ⊢
  have elsewhere : ∀ name, name ≠ deviceName busNum devAddr → s'.deviceVidPidMap[name]? = s.deviceVidPidMap[name]? := by
    intro name different
    rw [map, Std.ExtTreeMap.getElem?_insertIfNew]
    grind
  constructor
  · intro after i before
    have entry := agrees _ i before
    have now := after (deviceName busNum devAddr) (identity dev) (by rw [identities, if_pos rfl])
    rw [map, Std.ExtTreeMap.getElem?_insertIfNew] at now
    have same : i.uniqueName = (identity dev).uniqueName := by grind
    exact (Identity.uniqueName_inj (kept.unsigned _ i before) unsigned).1 same
  · intro alone name i found
    rw [identities] at found
    split_ifs at found with same
    · subst same
      cases found
      rw [map, Std.ExtTreeMap.getElem?_insertIfNew]
      have named : uniqueName dev = (identity dev).uniqueName := rfl
      cases before : s.identityAt (deviceName busNum devAddr) with
      | none =>
        have absent := kept.known _ before
        grind
      | some i =>
        have entry := agrees _ i before
        rw [alone i before] at entry
        grind
    · rw [elsewhere name same]
      exact agrees name i found

/-- From a state in which the maps agree, a step keeps them so exactly if it is orderly. -/
theorem step_agrees (kept : s.Kept) (agrees : s.Agrees) (event : ServiceEvent) :
    (s.step db event).Agrees ↔ s.Orderly event := by
  have change : Change s event (s.step db event) := step_change kept event
  cases change with
  | @attached busNum devAddr reading strategy dev _ read identities map =>
    rw [attached_agrees kept agrees (getDeviceInfo_unsigned read) identities map]
    simp only [identityAt_eq, Orderly]
    constructor
    · intro alone old new stored read'
      rw [read] at read'
      cases read'
      have same := alone (identity old) (by rw [stored]; rfl)
      simp only [identity, Identity.mk.injEq] at same
      exact same
    · intro alone i found
      obtain ⟨old, stored, rfl⟩ := Option.map_eq_some_iff.1 found
      have same := alone old dev stored read
      simp only [identity, Identity.mk.injEq]
      exact same
  | detached identities map =>
    refine ⟨fun _ => trivial, fun _ => ?_⟩
    rw [agrees_iff] at agrees ⊢
    intro name i found
    rw [identities] at found
    split_ifs at found with same
    rw [map, Std.ExtTreeMap.getElem?_erase]
    have entry := agrees name i found
    grind
  | unchanged orderly identities map => exact ⟨fun _ => orderly, fun _ => agrees_of_same identities map agrees⟩

/-! ### Runs -/

/-- Every event of the run is orderly where it happens. -/
def OrderlyRun (db : Right.UsbRightDataBase) : UsbService → List ServiceEvent → Prop
  | _, [] => True
  | s, event :: events => s.Orderly event ∧ OrderlyRun db (s.step db event) events

theorem run_agrees (kept : s.Kept) (agrees : s.Agrees) (events : List ServiceEvent) :
    (∀ before, before <+: events → (s.run db before).Agrees) ↔ OrderlyRun db s events := by
  induction events generalizing s with
  | nil =>
    refine ⟨fun _ => trivial, fun _ before inside => ?_⟩
    rw [List.prefix_nil.1 inside]
    exact agrees
  | cons event events ih =>
    constructor
    · intro always
      have first : (s.step db event).Agrees := always [event] ⟨events, rfl⟩
      refine ⟨(step_agrees kept agrees event).1 first, (ih (kept.step event) first).1 fun before inside => ?_⟩
      exact always (event :: before) (List.cons_prefix_cons.2 ⟨rfl, inside⟩)
    · rintro ⟨orderly, rest⟩ before inside
      have first : (s.step db event).Agrees := (step_agrees kept agrees event).2 orderly
      rcases List.prefix_cons_iff.1 inside with rfl | ⟨tail, rfl, within⟩
      · exact agrees
      · exact (ih (kept.step event) first).2 rest tail within

theorem started_kept (hostManager rightManager : Bool) : (started hostManager rightManager).Kept := by
  have empty : ∀ name, (started hostManager rightManager).identityAt name = none := by
    intro name
    cases hostManager <;> simp [started, identityAt, Devices.identityAt]
  refine ⟨fun h there => ?_, fun name _ => ?_, fun name i found => ?_⟩
  · cases hostManager with
    | false => cases there
    | true =>
      cases there
      intro name o found
      simp at found
  · simp [started]
  · rw [empty] at found
    cases found

theorem started_agrees (hostManager rightManager : Bool) : (started hostManager rightManager).Agrees := by
  intro name dev stored
  cases hostManager <;> simp [started, deviceAt] at stored

/-- The rights of a run are those of its operations on rights. -/
theorem run_rights (events : List ServiceEvent) :
    (s.run db events).usbRightManager =
      s.usbRightManager.map fun rights => (rightOps db s events).foldl (fun rights op => op.exec db rights) rights := by
  induction events generalizing s with
  | nil => simp [run, rightOps]
  | cons event events ih =>
    change ((s.step db event).run db events).usbRightManager = _
    have first : (s.step db event).usbRightManager =
        s.usbRightManager.map fun rights =>
          ((s.rightOp event).toList).foldl (fun rights op => op.exec db rights) rights := by
      cases event with
      | attach busNum devAddr reading strategy =>
        simp only [step, addDevice, rightOp]
        repeat' split
        all_goals simp
      | detach busNum devAddr p =>
        simp only [step, delDevice, rightOp]
        split
        · next there there' => simp [there, there', Right.Op.exec]
        · next missing =>
          rw [if_neg]
          · simp
          · intro both
            obtain ⟨h, there⟩ := Option.isSome_iff_exists.1 both.1
            obtain ⟨rights, there'⟩ := Option.isSome_iff_exists.1 both.2
            exact missing h rights there there'
      | authorize calls => simp [step, rightOp]
      | right op => simp [step, rightOp]
    rw [ih, first, Option.map_map]
    simp only [rightOps, List.foldl_append]
    rfl

/-! ### Permissions -/

/-- The caller may use the device with that name of its identity: it is a system application, or it has
a right for the name, which was granted by one of `ops` if the store does not fail. -/
def Authorised (db : Right.UsbRightDataBase) (s : UsbService) (ops : List Right.Op) (now : Right.ClockReading)
    (caller : Caller) (deviceName : String) : Prop :=
  caller.isSystemAppOrSa = true ∨
    ∃ bundleName tokenId userId rights, caller.getCallingInfo = some (bundleName, tokenId, userId) ∧
      s.usbRightManager = some rights ∧
      (Right.hasRight db now deviceName bundleName tokenId userId rights).1 = true ∧
      (db.Succeeds → userId ≠ Right.usbRightUseridConsole →
        ∃ t0, Right.LastGrant db ⟨userId, deviceName, bundleName, tokenId⟩ t0 ops ∧
          Right.Valid t0 now.getCurrentTimestamp)

end UsbService

theorem Access.ReachesDriver.permitted {permitted : Bool} {b d : UInt8} {access : Access}
    (reaches : access.ReachesDriver permitted b d) : permitted = true := by
  rw [← Bool.not_eq_false]
  rintro rfl
  cases access with
  | openDevice host => exact reaches rfl
  | claimInterface => exact reaches rfl
  | claimInterfaceExclusive => exact reaches rfl
  | transfer tokenId call env table =>
    have isolated : Transfer.Isolated (call.exec tokenId b d { env with permitted := false } table) :=
      (call.isolated_iff tokenId b d _ table).2 (.inl (.inl rfl))
    exact reaches isolated.1

section Permissions

variable {db : Right.UsbRightDataBase} {s : UsbService}

theorem UsbService.checkDevicePermission_cases {now : Right.ClockReading} {caller : Caller} {b d : UInt8}
    (granted : s.checkDevicePermission db now caller b d = true) :
    ∃ rights deviceVidPidSerialNum, s.usbRightManager = some rights ∧
      s.deviceVidPidMap[deviceName b d]? = some deviceVidPidSerialNum ∧
      (caller.isSystemAppOrSa = true ∨
        ∃ bundleName tokenId userId, caller.getCallingInfo = some (bundleName, tokenId, userId) ∧
          (Right.hasRight db now deviceVidPidSerialNum bundleName tokenId userId rights).1 = true) := by
  unfold checkDevicePermission hasRight at granted
  split at granted
  · cases granted
  · next rights there =>
    split at granted
    · cases granted
    · next deviceVidPidSerialNum entry =>
      refine ⟨rights, deviceVidPidSerialNum, there, entry, ?_⟩
      split at granted
      · next system => exact .inl system
      · split at granted
        · cases granted
        · next bundleName tokenId userId info => exact .inr ⟨bundleName, tokenId, userId, info, granted⟩

/-- In a run from the start, a right that is found has been granted. -/
theorem UsbService.granted_of_hasRight {hostManager rightManager : Bool} {events : List ServiceEvent}
    {rights : Store Right.Row} {now : Right.ClockReading} {k : Right.Key} (ok : db.Succeeds)
    (user : k.uid ≠ Right.usbRightUseridConsole)
    (there : ((started hostManager rightManager).run db events).usbRightManager = some rights)
    (has : (Right.hasRight db now k.deviceName k.bundleName k.tokenId k.uid rights).1 = true) :
    ∃ t0, Right.LastGrant db k t0 (rightOps db (started hostManager rightManager) events) ∧
      Right.Valid t0 now.getCurrentTimestamp := by
  rw [run_rights] at there
  obtain ⟨empty, start, rfl⟩ := Option.map_eq_some_iff.1 there
  cases rightManager with
  | false => cases start
  | true =>
    cases start
    obtain ⟨kept, held⟩ := Right.run_held ok user (rightOps db (started hostManager true) events)
    obtain ⟨t0, holds, valid⟩ := (Right.hasRight_iff_held ok kept user now).1 has
    exact ⟨t0, (held t0).1 holds, valid⟩

/-- In every run, the maps agree throughout exactly if no attach finds another device at its address.
In such a run an access that reaches the driver is authorised for the device stored at the address. -/
theorem identities_agree (db : Right.UsbRightDataBase) (hostManager rightManager : Bool) (events : List ServiceEvent) :
    ((∀ before, before <+: events → ((UsbService.started hostManager rightManager).run db before).Agrees) ↔
      UsbService.OrderlyRun db (.started hostManager rightManager) events) ∧
    (UsbService.OrderlyRun db (.started hostManager rightManager) events →
      ∀ now caller b d dev access,
        ((UsbService.started hostManager rightManager).run db events).deviceAt (deviceName b d) = some dev →
        Access.ReachesDriver
          (((UsbService.started hostManager rightManager).run db events).checkDevicePermission db now caller b d)
          b d access →
        ((UsbService.started hostManager rightManager).run db events).Authorised db
          (UsbService.rightOps db (.started hostManager rightManager) events) now caller (uniqueName dev)) := by
  have runs := @UsbService.run_agrees db _ (UsbService.started_kept hostManager rightManager)
    (UsbService.started_agrees hostManager rightManager) events
  refine ⟨runs, fun orderly now caller b d dev access stored reaches => ?_⟩
  have agrees := runs.2 orderly events (List.prefix_refl _)
  obtain ⟨rights, number, there, entry, allowed⟩ := UsbService.checkDevicePermission_cases reaches.permitted
  rw [agrees _ dev stored] at entry
  cases entry
  rcases allowed with system | ⟨bundleName, tokenId, userId, info, has⟩
  · exact .inl system
  · refine .inr ⟨bundleName, tokenId, userId, rights, info, there, has, fun ok user => ?_⟩
    exact UsbService.granted_of_hasRight (k := ⟨userId, uniqueName dev, bundleName, tokenId⟩) ok user there has

end Permissions

/-- The device that `sampleKey` is a right for. -/
def sampleReading : DeviceReading := { idVendor := 4817, idProduct := 4258, serial := "A1" }

def otherReading : DeviceReading := { idVendor := 1046, idProduct := 4097, serial := "B7" }

/-- The first device is detached before another one takes over its address. -/
def replug : List ServiceEvent :=
  [.attach 1 2 (some sampleReading) [], .detach 1 2 (Right.samplePlatform true), .attach 1 2 (some otherReading) []]

theorem identities_agree_replug : ((UsbService.started true true).run Right.sampleDataBase replug).Agrees := by
  have orderly : UsbService.OrderlyRun Right.sampleDataBase (.started true true) replug := by
    refine ⟨fun old new stored => ?_, trivial, fun old new stored => ?_, trivial⟩
    · cases stored
    · cases stored
  exact (identities_agree Right.sampleDataBase true true replug).1.2 orderly replug (List.prefix_refl _)

/-- The application of `sampleKey`. -/
def sampleCaller : Caller := ⟨537, false, some ("com.example.scanner", 100)⟩

/-- The first device gets a right, and another one takes over its address. -/
def takeOver : List ServiceEvent :=
  [.attach 1 2 (some sampleReading) [], .right (.addDeviceRight (Right.samplePlatform true) Right.sampleKey),
    .attach 1 2 (some otherReading) []]

/-- The right for the first device opens the second one, for which the caller has none. -/
theorem replaced_device_opened :
    (¬ ∀ db events, ((UsbService.started true true).run db events).Agrees) ∧
    ∃ dev rights,
      ((UsbService.started true true).run Right.sampleDataBase takeOver).deviceAt (deviceName 1 2) = some dev ∧
      ((UsbService.started true true).run Right.sampleDataBase takeOver).usbRightManager = some rights ∧
      Access.ReachesDriver
        (((UsbService.started true true).run Right.sampleDataBase takeOver).checkDevicePermission Right.sampleDataBase
          Right.sampleReading sampleCaller 1 2) 1 2 (.openDevice (.driver fun _ => .uecOk)) ∧
      Right.Key.hasRight { Right.sampleKey with deviceName := uniqueName dev } Right.sampleDataBase Right.sampleReading
        rights = false := by
  refine ⟨fun always => ?_, _, _, rfl, rfl, ?_, ?_⟩
  · have entry := always Right.sampleDataBase takeOver (deviceName 1 2) _ rfl
    exact absurd entry (by decide +kernel)
  · have granted : ((UsbService.started true true).run Right.sampleDataBase takeOver).checkDevicePermission
        Right.sampleDataBase Right.sampleReading sampleCaller 1 2 = true := by decide +kernel
    rw [granted]
    exact List.cons_ne_nil _ _
  · decide +kernel

end UsbManager.Host
