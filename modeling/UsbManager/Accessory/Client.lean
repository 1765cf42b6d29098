import UsbManager.Accessory.Key
import Mathlib.Data.List.Nodup

/-!
# The clients of the accessory

`OpenAccessory` records the session of its caller in `accessoryClientMap_`, under the handle of the
driver and the token of the caller. `CloseAccessory` drops the record of its caller, if there is one,
and closes the driver's accessory whether there is one or not; the death of a client runs it again
under whatever identity the callback has.

`history` is what the clients and the driver have seen, the last event first. A session is open from
the `OpenAccessory` that reported it to the close that its client or its death made and the driver
accepted.
-/

namespace UsbManager.Accessory

open Transition

/-! ## The service -/

/-- A recipient is registered with the remote object of its client until it is removed or fires. -/
structure AccessoryDeathRecipient where
  id : Nat
  fd : Int
  tokenId : UInt32
  deriving DecidableEq, Repr

/-- Why the driver's accessory is closed. -/
inductive Cause where
  | client
  | death
  | failedOpen
  deriving DecidableEq, Repr

inductive Event where
  /-- The driver opens the accessory for a call of the client. -/
  | hdiOpened (fd : Int) (tokenId : UInt32)
  /-- `OpenAccessory` returns `UEC_OK`. -/
  | opened (fd : Int) (tokenId : UInt32)
  /-- The driver is asked to close, for the client or on its behalf. -/
  | hdiClosed (cause : Cause) (fd : Int) (tokenId : UInt32) (ret : UsbErrCode)
  deriving DecidableEq, Repr

/-- The number of the recipient that an entry holds. -/
abbrev ClientMap := List ((Int × UInt32) × Nat)

structure Service where
  usbAccessoryManager : Option UsbAccessoryManager
  accessoryClientMap : ClientMap := []
  recipients : List AccessoryDeathRecipient := []
  nextRecipient : Nat := 0
  history : List Event := []

/-- What an `OpenAccessory` meets. -/
structure OpenAnswers where
  /-- The bundle name that `GetCallingInfo` finds. -/
  callingInfo : Option String
  usbRightManager : Bool := true
  /-- `HasRight` of the right manager for the caller, by key. -/
  hasRight : String → Bool
  openRet : UsbErrCode := .uecOk
  fd : Int
  /-- `accessoryRemote != nullptr`. -/
  accessoryRemote : Bool := true
  addDeathRecipient : Bool := true
  closeRet : UsbErrCode := .uecOk

/-- The driver's answer when the accessory is open already. -/
def accessoryIsBusy : UsbErrCode := .hdf (-16)

/-- `UsbAccessoryManager::OpenAccessory`, of the driver's answer. -/
def UsbAccessoryManager.openAccessory (m : UsbAccessoryManager) (openRet : UsbErrCode) : UsbErrCode :=
  if m.usbDeviceInterface then
    if openRet = .uecOk then .uecOk
    else if openRet = accessoryIsBusy then .uecServiceAccessoryReopen
    else .uecServiceAccessoryOpenNativeNodeFailed
  else .uecServiceInvalidValue

namespace Service

variable (s : Service)

def record (event : Event) : Service := { s with history := event :: s.history }

def removeAccessoryClientInfo (fd : Int) (tokenId : UInt32) : Service :=
  match s.accessoryClientMap.lookup (fd, tokenId) with
  | some recipient =>
    { s with
      accessoryClientMap := s.accessoryClientMap.filter (·.1 ≠ (fd, tokenId))
      recipients := s.recipients.filter (·.id ≠ recipient) }
  | none => s

/-- `UsbAccessoryManager::CloseAccessory`: the driver closes the accessory of the node, whatever `fd` is. -/
def hdiClose (cause : Cause) (fd : Int) (tokenId : UInt32) (closeRet : UsbErrCode) : UsbErrCode × Service :=
  match s.usbAccessoryManager with
  | some m =>
    if m.usbDeviceInterface then (closeRet, s.record (.hdiClosed cause fd tokenId closeRet))
    else (.uecServiceInvalidValue, s)
  | none => (.uecServiceInvalidValue, s)

/-- `CloseAccessory` for the caller `caller`. The close is on behalf of `tokenId`: the caller itself, or
the client that has died. -/
def closeAccessory (cause : Cause) (caller : UInt32) (fd : Int) (tokenId : UInt32) (closeRet : UsbErrCode) :
    UsbErrCode × Service :=
  if s.usbAccessoryManager.isNone then (.uecServiceInvalidValue, s)
  else (s.removeAccessoryClientInfo fd caller).hdiClose cause fd tokenId closeRet

/-- `HasAccessoryRight`: its code and `result`. -/
def hasAccessoryRight (access : USBAccessory) (a : OpenAnswers) : UsbErrCode × Bool :=
  match s.usbAccessoryManager, a.usbRightManager with
  | some m, true =>
    match a.callingInfo with
    | none => (.uecServiceGetTokenInfoFailed, false)
    | some bundleName =>
      match m.getAccessorySerialNumber bundleName access with
      | .error ret => (ret, false)
      | .ok serialNum => (.uecOk, a.hasRight serialNum)
  | _, _ => (.uecServiceInvalidValue, false)

/-- `OpenAccessory` up to the call to the driver. -/
def mayOpenAccessory (access : USBAccessory) (a : OpenAnswers) : Except UsbErrCode UsbAccessoryManager :=
  match s.usbAccessoryManager with
  | none => .error .uecServiceInvalidValue
  | some m =>
    match a.callingInfo with
    | none => .error .uecServiceGetTokenInfoFailed
    | some bundleName =>
      match m.getAccessorySerialNumber bundleName access with
      | .error ret => .error ret
      | .ok _ =>
        let (ret, result) := s.hasAccessoryRight access a
        if ret ≠ .uecOk || !result then .error .uecServicePermissionDenied else .ok m

/-- Its result is the code and the handle, where the code gives one a meaning. -/
def openAccessory (caller : UInt32) (access : USBAccessory) (a : OpenAnswers) : (UsbErrCode × Option Int) × Service :=
  match s.mayOpenAccessory access a with
  | .error ret => ((ret, none), s)
  | .ok m =>
    let ret := m.openAccessory a.openRet
    if ret ≠ .uecOk then ((ret, none), s)
    else
      let opened := s.record (.hdiOpened a.fd caller)
      if !a.accessoryRemote || !a.addDeathRecipient then
        ((.uecServiceInvalidValue, some (-1)), (opened.closeAccessory .failedOpen caller a.fd caller a.closeRet).2)
      else
        let recipient : AccessoryDeathRecipient := ⟨opened.nextRecipient, a.fd, caller⟩
        ((.uecOk, some a.fd),
          { opened with
            accessoryClientMap :=
              ((a.fd, caller), recipient.id) :: opened.accessoryClientMap.filter (·.1 ≠ (a.fd, caller))
            recipients := recipient :: opened.recipients
            nextRecipient := opened.nextRecipient + 1 }.record (.opened a.fd caller))

/-- `OnRemoteDied` of a recipient, in a callback that `IPCSkeleton` takes for `callingToken`. -/
def onRemoteDied (recipient : AccessoryDeathRecipient) (callingToken : UInt32) (closeRet : UsbErrCode) : Service :=
  ((s.removeAccessoryClientInfo recipient.fd recipient.tokenId).closeAccessory .death callingToken recipient.fd
    recipient.tokenId closeRet).2

/-! ## Runs -/

inductive Call where
  | openAccessory (caller : UInt32) (access : USBAccessory) (a : OpenAnswers)
  | closeAccessory (caller : UInt32) (fd : Int) (closeRet : UsbErrCode)
  /-- The remote object of a registered recipient has died. -/
  | remoteDied (recipient : AccessoryDeathRecipient) (callingToken : UInt32) (closeRet : UsbErrCode)
  /-- The accessory manager goes on by itself. -/
  | manager (action : Action)

def start (m : Option UsbAccessoryManager) : Service := { usbAccessoryManager := m }

def step : Call → Option Service
  | .openAccessory caller access a => some (s.openAccessory caller access a).2
  | .closeAccessory caller fd closeRet => some (s.closeAccessory .client caller fd caller closeRet).2
  | .remoteDied recipient callingToken closeRet =>
    if recipient ∈ s.recipients then
      some ({ s with recipients := s.recipients.erase recipient }.onRemoteDied recipient callingToken closeRet)
    else none
  | .manager action =>
    (s.usbAccessoryManager.bind (·.step action)).map fun m => { s with usbAccessoryManager := some m }

/-! ## Sessions -/

end Service

/-- The session is open by the history. -/
def IsOpen : List Event → Int → UInt32 → Prop
  | [], _, _ => False
  | .opened fd' tokenId' :: rest, fd, tokenId => fd = fd' ∧ tokenId = tokenId' ∨ IsOpen rest fd tokenId
  | .hdiClosed cause fd' tokenId' ret :: rest, fd, tokenId =>
    IsOpen rest fd tokenId ∧ ¬ (cause ≠ .failedOpen ∧ ret = .uecOk ∧ fd = fd' ∧ tokenId = tokenId')
  | .hdiOpened _ _ :: rest, fd, tokenId => IsOpen rest fd tokenId

/-- The driver is asked to close for a session that is open, or by the call that it has just opened the
accessory for. -/
def Rightful : List Event → Prop
  | [] => True
  | .hdiClosed cause fd tokenId _ :: rest =>
    (if cause = .failedOpen then rest.head? = some (.hdiOpened fd tokenId) else IsOpen rest fd tokenId) ∧ Rightful rest
  | .hdiOpened _ _ :: rest | .opened _ _ :: rest => Rightful rest

namespace Service

variable (s : Service)

def Recorded (fd : Int) (tokenId : UInt32) : Prop := (fd, tokenId) ∈ s.accessoryClientMap.map Prod.fst

instance (fd : Int) (tokenId : UInt32) : Decidable (s.Recorded fd tokenId) :=
  inferInstanceAs (Decidable (_ ∈ s.accessoryClientMap.map Prod.fst))

/-- There is a driver to call. -/
def bound : Bool :=
  match s.usbAccessoryManager with
  | some m => m.usbDeviceInterface
  | none => false

/-- A client closes the sessions that it has, and the driver lets it; the callback of a death does not run
under the identity of another client with the handle; the driver gives a client a new handle. -/
def Proper : Call → Prop
  | .openAccessory caller access a =>
    (s.mayOpenAccessory access a).isOk = true → a.openRet = .uecOk → ¬ s.Recorded a.fd caller
  | .closeAccessory caller fd closeRet => s.bound = true → s.Recorded fd caller ∧ closeRet = .uecOk
  | .remoteDied recipient callingToken closeRet =>
    closeRet = .uecOk ∧ (callingToken ≠ recipient.tokenId → ¬ s.Recorded recipient.fd callingToken)
  | .manager _ => True

/-- The sessions recorded are those that are open, and each registered recipient is that of its session. -/
structure Owned : Prop where
  rightful : Rightful s.history
  sessions : ∀ fd tokenId, s.Recorded fd tokenId ↔ IsOpen s.history fd tokenId
  keys : (s.accessoryClientMap.map Prod.fst).Nodup
  registered : ∀ r ∈ s.recipients, ((r.fd, r.tokenId), r.id) ∈ s.accessoryClientMap
  driver : ∀ fd tokenId, s.Recorded fd tokenId → s.bound = true

variable {s} {fd : Int} {tokenId : UInt32}

/-! ### What an operation does to the records -/

theorem removeAccessoryClientInfo_of_not_recorded (unknown : ¬ s.Recorded fd tokenId) :
    s.removeAccessoryClientInfo fd tokenId = s := by
  have absent : s.accessoryClientMap.lookup (fd, tokenId) = none := by
    refine List.lookup_eq_none_iff.2 fun entry member => ?_
    rw [bne_iff_ne]
    rintro same
    exact unknown (List.mem_map.2 ⟨entry, member, same.symm⟩)
  rw [removeAccessoryClientInfo, absent]

/-- The record of the session goes, with its recipient. -/
theorem removeAccessoryClientInfo_of_recorded (known : s.Recorded fd tokenId) :
    ∃ recipient, ((fd, tokenId), recipient) ∈ s.accessoryClientMap ∧
      s.removeAccessoryClientInfo fd tokenId =
        { s with
          accessoryClientMap := s.accessoryClientMap.filter (·.1 ≠ (fd, tokenId))
          recipients := s.recipients.filter (·.id ≠ recipient) } := by
  cases found : s.accessoryClientMap.lookup (fd, tokenId) with
  | none =>
    obtain ⟨entry, member, same⟩ := List.mem_map.1 known
    have differs := List.lookup_eq_none_iff.1 found entry member
    rw [same] at differs
    simp at differs
  | some recipient =>
    obtain ⟨before, rest, cut, -⟩ := List.lookup_eq_some_iff.1 found
    refine ⟨recipient, ?_, ?_⟩
    · rw [cut]
      simp
    · rw [removeAccessoryClientInfo, found]

/-- The sessions left when one has been dropped. -/
theorem recorded_removeAccessoryClientInfo {fd' : Int} {tokenId' : UInt32} :
    (s.removeAccessoryClientInfo fd' tokenId').Recorded fd tokenId ↔
      s.Recorded fd tokenId ∧ (fd, tokenId) ≠ (fd', tokenId') := by
  by_cases known : s.Recorded fd' tokenId'
  · obtain ⟨recipient, -, removed⟩ := removeAccessoryClientInfo_of_recorded known
    rw [removed]
    simp only [Recorded, List.mem_map, List.mem_filter]
    constructor
    · rintro ⟨entry, ⟨member, other⟩, same⟩
      exact ⟨⟨entry, member, same⟩, same ▸ of_decide_eq_true other⟩
    · rintro ⟨⟨entry, member, same⟩, other⟩
      exact ⟨entry, ⟨member, decide_eq_true (same ▸ other)⟩, same⟩
  · rw [removeAccessoryClientInfo_of_not_recorded known]
    constructor
    · intro recorded
      refine ⟨recorded, fun same => known ?_⟩
      obtain ⟨rfl, rfl⟩ := Prod.mk.inj same
      exact recorded
    · exact And.left

@[simp]
theorem history_removeAccessoryClientInfo (fd : Int) (tokenId : UInt32) :
    (s.removeAccessoryClientInfo fd tokenId).history = s.history := by
  unfold removeAccessoryClientInfo
  split <;> rfl

@[simp]
theorem manager_removeAccessoryClientInfo (fd : Int) (tokenId : UInt32) :
    (s.removeAccessoryClientInfo fd tokenId).usbAccessoryManager = s.usbAccessoryManager := by
  unfold removeAccessoryClientInfo
  split <;> rfl

theorem closeAccessory_bound (bound : s.bound = true) (cause : Cause) (caller : UInt32) (closeRet : UsbErrCode) :
    (s.closeAccessory cause caller fd tokenId closeRet).2 =
      (s.removeAccessoryClientInfo fd caller).record (.hdiClosed cause fd tokenId closeRet) := by
  cases found : s.usbAccessoryManager with
  | none => simp [Service.bound, found] at bound
  | some m =>
    have present : m.usbDeviceInterface = true := by simpa [Service.bound, found] using bound
    simp [closeAccessory, hdiClose, found, present]

theorem closeAccessory_unbound (unbound : s.bound = false) (cause : Cause) {caller : UInt32}
    (unknown : ¬ s.Recorded fd caller) (closeRet : UsbErrCode) :
    (s.closeAccessory cause caller fd tokenId closeRet).2 = s := by
  rw [closeAccessory, removeAccessoryClientInfo_of_not_recorded unknown, hdiClose]
  cases found : s.usbAccessoryManager with
  | none => simp
  | some m =>
    have absent : m.usbDeviceInterface = false := by simpa [Service.bound, found] using unbound
    simp [absent]

/-! ### Every call keeps the sessions -/

/-- The driver accepts the close of a session: its record and its recipient go with it. -/
theorem Owned.finish (owned : s.Owned) (known : s.Recorded fd tokenId) {cause : Cause} (own : cause ≠ .failedOpen) :
    ((s.removeAccessoryClientInfo fd tokenId).record (.hdiClosed cause fd tokenId .uecOk)).Owned := by
  obtain ⟨recipient, entry, removed⟩ := removeAccessoryClientInfo_of_recorded known
  have sessions (fd' : Int) (tokenId' : UInt32) :
      (s.removeAccessoryClientInfo fd tokenId).Recorded fd' tokenId' ↔
        IsOpen s.history fd' tokenId' ∧ ¬ (fd' = fd ∧ tokenId' = tokenId) := by
    rw [recorded_removeAccessoryClientInfo, owned.sessions, ne_eq, Prod.mk.injEq]
  refine ⟨?_, fun fd' tokenId' => ?_, ?_, fun r member => ?_, fun fd' tokenId' recorded => ?_⟩
  · refine ⟨?_, ?_⟩
    · rw [if_neg own, history_removeAccessoryClientInfo]
      exact (owned.sessions fd tokenId).1 known
    · rw [history_removeAccessoryClientInfo]
      exact owned.rightful
  · refine (sessions fd' tokenId').trans ?_
    simp [record, IsOpen, own]
  · rw [removed]
    exact owned.keys.sublist (List.filter_sublist.map Prod.fst)
  · rw [removed] at member ⊢
    obtain ⟨old, other⟩ := List.mem_filter.1 member
    have booked := owned.registered r old
    refine List.mem_filter.2 ⟨booked, decide_eq_true fun same => ?_⟩
    -- a session has one recipient
    have one := List.inj_on_of_nodup_map owned.keys booked entry same
    exact of_decide_eq_true other (Prod.mk.inj one).2
  · have before := owned.driver fd' tokenId' (recorded_removeAccessoryClientInfo.1 recorded).1
    rwa [bound, record, manager_removeAccessoryClientInfo]

/-- An attempt that fails after the driver has opened closes what it has opened. -/
theorem Owned.undo (owned : s.Owned) (fd : Int) (tokenId : UInt32) (closeRet : UsbErrCode) :
    ((s.record (.hdiOpened fd tokenId)).record (.hdiClosed .failedOpen fd tokenId closeRet)).Owned := by
  refine ⟨⟨rfl, owned.rightful⟩, fun fd' tokenId' => ?_, owned.keys, owned.registered, owned.driver⟩
  refine (owned.sessions fd' tokenId').trans ?_
  simp [record, IsOpen]

/-- A session with a new handle. -/
theorem Owned.begin (owned : s.Owned) (bound : s.bound = true) (fresh : ¬ s.Recorded fd tokenId) (recipient : Nat)
    (nextRecipient : Nat) :
    Service.Owned ({ s.record (.hdiOpened fd tokenId) with
      accessoryClientMap := ((fd, tokenId), recipient) :: s.accessoryClientMap.filter (·.1 ≠ (fd, tokenId))
      recipients := ⟨recipient, fd, tokenId⟩ :: s.recipients
      nextRecipient := nextRecipient }.record (.opened fd tokenId)) := by
  have untouched : s.accessoryClientMap.filter (·.1 ≠ (fd, tokenId)) = s.accessoryClientMap := by
    refine List.filter_eq_self.2 fun entry member => decide_eq_true fun same => ?_
    exact fresh (List.mem_map.2 ⟨entry, member, same⟩)
  rw [untouched]
  refine ⟨owned.rightful, fun fd' tokenId' => ?_, ?_, fun r member => ?_, fun _ _ _ => bound⟩
  · have before := owned.sessions fd' tokenId'
    simp only [Recorded, record, List.map_cons, List.mem_cons, Prod.mk.injEq, IsOpen] at before ⊢
    rw [before]
  · exact List.nodup_cons.2 ⟨fresh, owned.keys⟩
  · rcases List.mem_cons.1 member with rfl | old
    · exact List.mem_cons_self ..
    · exact List.mem_cons_of_mem _ (owned.registered r old)

theorem manager_of_mayOpenAccessory {m : UsbAccessoryManager} {access : USBAccessory} {a : OpenAnswers}
    (may : s.mayOpenAccessory access a = .ok m) : s.usbAccessoryManager = some m := by
  unfold mayOpenAccessory at may
  split at may
  next => cases may
  next m' found =>
    split at may
    next => cases may
    next =>
      split at may
      next => cases may
      next =>
        dsimp only at may
        split at may
        · cases may
        · cases may
          exact found

theorem bound_of_openAccessory {m : UsbAccessoryManager} {access : USBAccessory} {a : OpenAnswers}
    (may : s.mayOpenAccessory access a = .ok m) (opened : m.openAccessory a.openRet = .uecOk) :
    s.bound = true ∧ a.openRet = .uecOk := by
  have found := manager_of_mayOpenAccessory may
  unfold UsbAccessoryManager.openAccessory at opened
  split at opened
  next present =>
    refine ⟨by simp [bound, found, present], ?_⟩
    split at opened
    next answered => exact answered
    next =>
      split at opened
      · cases opened
      · cases opened
  next => cases opened

theorem Owned.openAccessory (owned : s.Owned) {caller : UInt32} {access : USBAccessory} {a : OpenAnswers}
    (proper : s.Proper (.openAccessory caller access a)) : (s.openAccessory caller access a).2.Owned := by
  unfold Service.openAccessory
  cases may : s.mayOpenAccessory access a with
  | error ret => exact owned
  | ok m =>
    dsimp only
    by_cases opened : m.openAccessory a.openRet = .uecOk
    · rw [if_neg (by simp [opened])]
      obtain ⟨bound, answered⟩ := bound_of_openAccessory may opened
      have fresh : ¬ s.Recorded a.fd caller := proper (by rw [may]; rfl) answered
      split
      · rw [closeAccessory_bound (s := s.record _) bound,
          removeAccessoryClientInfo_of_not_recorded (s := s.record _) fresh]
        exact owned.undo a.fd caller a.closeRet
      · exact owned.begin bound fresh _ _
    · rw [if_pos opened]
      exact owned

theorem Owned.closeAccessory (owned : s.Owned) {caller : UInt32} {closeRet : UsbErrCode}
    (proper : s.Proper (.closeAccessory caller fd closeRet)) :
    (s.closeAccessory .client caller fd caller closeRet).2.Owned := by
  cases bound : s.bound with
  | true =>
    obtain ⟨known, rfl⟩ := proper bound
    rw [closeAccessory_bound bound]
    exact owned.finish known (by decide)
  | false =>
    rw [closeAccessory_unbound bound .client fun known => ?_]
    · exact owned
    · rw [owned.driver _ _ known] at bound
      cases bound

theorem Owned.remoteDied (owned : s.Owned) {recipient : AccessoryDeathRecipient} {callingToken : UInt32}
    {closeRet : UsbErrCode} (registered : recipient ∈ s.recipients)
    (proper : s.Proper (.remoteDied recipient callingToken closeRet)) :
    Service.Owned
      ({ s with recipients := s.recipients.erase recipient }.onRemoteDied recipient callingToken closeRet) := by
  obtain ⟨rfl, other⟩ := proper
  have known : s.Recorded recipient.fd recipient.tokenId :=
    List.mem_map.2 ⟨_, owned.registered recipient registered, rfl⟩
  have bound := owned.driver _ _ known
  -- the recipient has fired
  have fired : Service.Owned { s with recipients := s.recipients.erase recipient } :=
    ⟨owned.rightful, owned.sessions, owned.keys, fun r member => owned.registered r (List.mem_of_mem_erase member),
      owned.driver⟩
  unfold onRemoteDied
  rw [closeAccessory_bound, removeAccessoryClientInfo_of_not_recorded]
  · exact fired.finish known (by decide)
  · rw [recorded_removeAccessoryClientInfo]
    rintro ⟨recorded, differs⟩
    refine other (fun same => differs ?_) recorded
    rw [same]
  · rwa [Service.bound, manager_removeAccessoryClientInfo]

/-- No event loses the driver. -/
theorem present_handled {m m' : UsbAccessoryManager} {a : Answers} {mode : AccessoryMode}
    (handled : m.Handled a mode m') (present : m.usbDeviceInterface = true) : m'.usbDeviceInterface = true := by
  cases handled with
  | none | ignored | unread | announced | again | early | refused | configured | stopped => exact present
  | sent =>
    have kept := congrArg Clock.usbDeviceInterface (UsbAccessoryManager.clock_processAccessorySend (m := m) (a := a))
    exact kept.trans present

theorem present_handleEvent {m : UsbAccessoryManager} (present : m.usbDeviceInterface = true) (a : Answers)
    (status : Gadget.Status) (delayProcess : Bool) :
    (m.handleEvent a status delayProcess).usbDeviceInterface = true := by
  rcases UsbAccessoryManager.handleEvent_eq (a := a) present status delayProcess with ⟨-, later⟩ | ⟨-, now⟩
  · rw [later]
    exact present
  · rw [now]
    exact present_handled (UsbAccessoryManager.handled a (m := m.noted status delayProcess) present _) present

theorem present_step {m m' : UsbAccessoryManager} (present : m.usbDeviceInterface = true) {action : Action}
    (taken : m.step action = some m') : m'.usbDeviceInterface = true := by
  cases UsbAccessoryManager.stepped present taken with
  | handled => exact present_handleEvent present _ _ _
  | @shaken timer a timers fired => exact present_handleEvent (m := { m with timers := timers }) present _ _ _
  | restored => exact present
  | others => exact present

theorem Owned.manager {action : Action} {s' : Service} (owned : s.Owned)
    (taken : s.step (.manager action) = some s') : s'.Owned := by
  obtain ⟨m', goes, rfl⟩ := Option.map_eq_some_iff.1 taken
  obtain ⟨m, found, moved⟩ := Option.bind_eq_some_iff.1 goes
  refine ⟨owned.rightful, owned.sessions, owned.keys, owned.registered, fun fd tokenId recorded => ?_⟩
  have before := owned.driver fd tokenId recorded
  have present : m.usbDeviceInterface = true := by simpa [bound, found] using before
  exact present_step present moved

theorem Owned.step {call : Call} {s' : Service} (owned : s.Owned) (proper : s.Proper call)
    (taken : s.step call = some s') : s'.Owned := by
  cases call with
  | openAccessory caller access a =>
    cases taken
    exact owned.openAccessory proper
  | closeAccessory caller fd closeRet =>
    cases taken
    exact owned.closeAccessory proper
  | remoteDied recipient callingToken closeRet =>
    obtain ⟨registered, rfl⟩ : recipient ∈ s.recipients ∧ _ = s' := by
      simpa [Service.step] using taken
    exact owned.remoteDied registered proper
  | manager action => exact owned.manager taken

theorem owned_start (m : Option UsbAccessoryManager) : (start m).Owned where
  rightful := trivial
  sessions _ _ := ⟨nofun, nofun⟩
  keys := List.nodup_nil
  registered := nofun
  driver := nofun

end Service

/-- While every close is by the client that has the session, and the driver accepts it, nobody else's session
is closed and the records are those of the open sessions. -/
theorem accessory_sessions_owned (m : Option UsbAccessoryManager) {s : Service}
    (reached : Reach Service.step Service.Proper (.start m) s) :
    Rightful s.history ∧ ∀ fd tokenId, s.Recorded fd tokenId ↔ IsOpen s.history fd tokenId := by
  have owned : s.Owned := reached.invariant Service.Owned (Service.owned_start m) fun _ _ _ owned => owned.step
  exact ⟨owned.rightful, owned.sessions⟩

/-- A dock is announced and opened: the first two calls of a run. -/
def openedDock (caller : UInt32) (fd : Int) : List Service.Call :=
  [.manager (.handleEvent .actAccessoryUp true { accessorys := ["", "", "dock", "", ""], hashValue := 7 }),
    .openAccessory caller ⟨"", "", "dock", "", serialValueHash 7⟩
      { callingInfo := some "", hasRight := fun _ => true, fd := fd }]

/-- Client 5 opens the accessory and closes it. -/
theorem accessory_sessions_owned_once :
    ∃ s, Reach Service.step Service.Proper (.start (some (.start funAccessory))) s ∧
      s.history = [.hdiClosed .client 9 5 .uecOk, .opened 9 5, .hdiOpened 9 5] ∧ Rightful s.history ∧
      ∀ fd tokenId, s.Recorded fd tokenId ↔ IsOpen s.history fd tokenId := by
  have run : Reach Service.step Service.Proper (.start (some (.start funAccessory))) _ :=
    .step (a := .closeAccessory 5 9 .uecOk)
      (.step (a := .openAccessory 5 ⟨"", "", "dock", "", serialValueHash 7⟩
          { callingInfo := some "", hasRight := fun _ => true, fd := 9 })
        (.step (a := .manager (.handleEvent .actAccessoryUp true
          { accessorys := ["", "", "dock", "", ""], hashValue := 7 })) .init trivial rfl)
        (fun _ _ => by decide) rfl)
      (fun _ => by decide) rfl
  exact ⟨_, run, rfl, accessory_sessions_owned _ run⟩

/-- Client 6 closes the accessory that client 5 has open, and the record of client 5 stays; or the driver does
not close the accessory for client 5, and its record goes. -/
theorem accessory_closed_by_other :
    (∃ s, Reach Service.step anyStep (.start (some (.start funAccessory))) s ∧
      s.history = [.hdiClosed .client 9 6 .uecOk, .opened 9 5, .hdiOpened 9 5] ∧ s.Recorded 9 5 ∧
      ¬ Rightful s.history) ∧
    ∃ s, Reach Service.step anyStep (.start (some (.start funAccessory))) s ∧
      IsOpen s.history 9 5 ∧ ¬ s.Recorded 9 5 := by
  have other : Reach Service.step anyStep (.start (some (.start funAccessory))) _ := reach_of_runFrom
    (openedDock 5 9 ++ [.closeAccessory 6 9 .uecOk]) (fun _ _ _ => trivial) .init rfl
  have refused : Reach Service.step anyStep (.start (some (.start funAccessory))) _ := reach_of_runFrom
    (openedDock 5 9 ++ [.closeAccessory 5 9 .hdfFailure]) (fun _ _ _ => trivial) .init rfl
  refine ⟨⟨_, other, rfl, by decide, ?_⟩, _, refused, ⟨.inl ⟨rfl, rfl⟩, ?_⟩, by decide⟩
  · rintro ⟨own, -⟩
    rw [if_neg (by decide)] at own
    rcases own with ⟨-, wrong⟩ | impossible
    · cases wrong
    · exact impossible
  · rintro ⟨-, failed, -⟩
    cases failed

end UsbManager.Accessory
