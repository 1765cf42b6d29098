import UsbManager.Accessory.Client
import UsbManager.Right.Answers
import UsbManager.Right.StoreCorrect
import UsbManager.Serial.Service

/-!
# What the service tells applications of their rights

An application asks for a right, gives one up or asks whether it has one: to a device, to the accessory
or to a serial port. The answers of the functions are compared with what the check says afterwards.
-/

namespace UsbManager.Accessory

open Rdb
open Host (Caller)

/-- The part of the service that the rights to the accessory depend on; a manager that is null is `none`. -/
structure UsbService where
  usbAccessoryManager : Option UsbAccessoryManager
  usbRightManager : Option (Store Right.Row)

namespace UsbService

variable (db : Right.UsbRightDataBase) (s : UsbService) (now : Right.ClockReading) (caller : Caller)
  (access : USBAccessory)

/-- How `HasAccessoryRight`, `RequestAccessoryRight` and `CancelAccessoryRight` find the right they are about. -/
def accessoryRight : Except UsbErrCode (Store Right.Row × Right.Key) :=
  match s.usbRightManager, s.usbAccessoryManager with
  | some rights, some m =>
    match caller.getCallingInfo with
    | none => .error .uecServiceGetTokenInfoFailed
    | some (bundleName, tokenId, userId) =>
      match m.getAccessorySerialNumber bundleName access with
      | .error ret => .error ret
      | .ok serialNum => .ok (rights, ⟨userId, serialNum, bundleName, tokenId⟩)
  | _, _ => .error .uecServiceInvalidValue

/-- Its result is the code and `result`. -/
def hasAccessoryRight : UsbErrCode × Bool :=
  match s.accessoryRight caller access with
  | .error ret => (ret, false)
  | .ok (rights, k) => (.uecOk, k.hasRight db now rights)

/-- Its result is the code and `result`; `dialog` is what becomes of the rights while the user is asked. -/
def requestAccessoryRight (dialog : Store Right.Row → Option (Store Right.Row)) : (UsbErrCode × Bool) × UsbService :=
  match s.accessoryRight caller access with
  | .error ret => ((ret, false), s)
  | .ok (rights, k) =>
    let asked := Right.requestRight db now dialog k.deviceName k.bundleName k.tokenId k.uid rights
    ((.uecOk, asked.1), { s with usbRightManager := some asked.2 })

def cancelAccessoryRight : UsbErrCode × UsbService :=
  match s.accessoryRight caller access with
  | .error ret => (ret, s)
  | .ok (rights, k) =>
    let cancelled := Right.cancelDeviceRight db k.deviceName k.bundleName k.tokenId k.uid rights
    (if cancelled.1 ≠ .uecOk then .uecServiceDatabaseOperationFailed else .uecOk,
      { s with usbRightManager := some cancelled.2 })

end UsbService

/-- `OpenAccessory` asks the same check. -/
theorem Service.hasAccessoryRight_eq {db : Right.UsbRightDataBase} {now : Right.ClockReading} {caller : Caller}
    (s : Service) (access : USBAccessory) (a : OpenAnswers) (rights : Option (Store Right.Row))
    (manager : a.usbRightManager = rights.isSome) (info : a.callingInfo = caller.getCallingInfo.map (·.1))
    (has : ∀ there ∈ rights, ∀ bundleName tokenId userId serialNum,
      caller.getCallingInfo = some (bundleName, tokenId, userId) →
        a.hasRight serialNum = Right.Key.hasRight ⟨userId, serialNum, bundleName, tokenId⟩ db now there) :
    s.hasAccessoryRight access a =
      UsbService.hasAccessoryRight db ⟨s.usbAccessoryManager, rights⟩ now caller access := by
  unfold Service.hasAccessoryRight UsbService.hasAccessoryRight UsbService.accessoryRight
  rw [manager, info]
  cases rights with
  | none => cases s.usbAccessoryManager <;> rfl
  | some there =>
    cases s.usbAccessoryManager with
    | none => rfl
    | some m =>
      cases called : caller.getCallingInfo with
      | none => rfl
      | some found =>
        obtain ⟨bundleName, tokenId, userId⟩ := found
        simp only [Option.isSome_some, Option.map_some]
        cases m.getAccessorySerialNumber bundleName access with
        | error ret => rfl
        | ok serialNum =>
          exact congrArg (Prod.mk UsbErrCode.uecOk) (has there rfl bundleName tokenId userId serialNum called)

end UsbManager.Accessory

namespace UsbManager.Service

open Rdb
open Host (Caller)

/-- An application without system rights, of a user. -/
structure Application where
  token : UInt32
  bundleName : String
  userId : Int32
  user : userId ≠ Right.usbRightUseridConsole

namespace Application

variable (app : Application)

/-- The application as a caller; `known` tells whether the token service finds it. -/
def caller (known : Bool) : Caller where
  token := app.token
  isSystemAppOrSa := false
  hapTokenInfo := if known then some (app.bundleName, app.userId) else none

/-- The application's right to a device. -/
def key (device : String) : Right.Key := ⟨app.userId, device, app.bundleName, toString app.token.toNat⟩

@[simp] theorem caller_known :
    (app.caller true).getCallingInfo = some (app.bundleName, toString app.token.toNat, app.userId) := rfl

end Application

variable {db later : Right.UsbRightDataBase} {now : Right.ClockReading} {app : Application} {known : Bool}

/-! ### Devices -/

section Devices

variable {s : Host.UsbService} {name : String}

theorem hasRight_of_missing (missing : s.usbRightManager = none ∨ s.deviceVidPidMap[name]? = none) (caller : Caller) :
    s.hasRight later now caller name = false := by
  unfold Host.UsbService.hasRight
  obtain none | none := missing
  · rw [none]
  · rw [none]
    cases s.usbRightManager <;> rfl

theorem hasRight_of_found {rights : Store Right.Row} {device : String} (manager : s.usbRightManager = some rights)
    (found : s.deviceVidPidMap[name]? = some device) :
    s.hasRight later now (app.caller true) name = (app.key device).hasRight later now rights := by
  unfold Host.UsbService.hasRight
  rw [manager, found]
  rfl

/-- `RequestRight` reports a right that the check does not find exactly if the token service does not know the
application. -/
theorem requestRight_truthful_iff (ok : later.Succeeds) (s : Host.UsbService)
    (dialog : Store Right.Row → Option (Store Right.Row)) (name : String) :
    ((s.requestRight db now dialog (app.caller known) name).1 = .uecOk →
        (s.requestRight db now dialog (app.caller known) name).2.hasRight later now (app.caller true) name = true) ↔
      (known = true ∨ s.usbRightManager = none ∨ s.deviceVidPidMap[name]? = none ∨
        s.hasRight later now (app.caller true) name = true) := by
  unfold Host.UsbService.requestRight
  cases manager : s.usbRightManager with
  | none => exact ⟨fun _ => .inr (.inl rfl), fun _ => nofun⟩
  | some rights =>
    cases found : s.deviceVidPidMap[name]? with
    | none => exact ⟨fun _ => .inr (.inr (.inl rfl)), fun _ => nofun⟩
    | some device =>
      cases known with
      | false =>
        constructor
        · exact fun truthful => .inr (.inr (.inr (truthful rfl)))
        · rintro (impossible | impossible | impossible | has)
          · cases impossible
          · cases impossible
          · cases impossible
          · exact fun _ => has
      | true =>
        refine ⟨fun _ => .inl rfl, fun _ asked => ?_⟩
        have granted : (Right.requestRight db now dialog device app.bundleName (toString app.token.toNat) app.userId
            rights).1 = true := by
          by_contra denied
          cases (if_neg denied).symm.trans asked
        refine (hasRight_of_found (s := { s with usbRightManager := some _ }) rfl found).trans ?_
        exact Right.requestRight_found (k := app.key device) app.user granted ok

/-- `RemoveRight` reports the end of a right that the check still finds exactly if the token service does not know
the application. -/
theorem removeRight_truthful_iff (ok : later.Succeeds) (s : Host.UsbService) (name : String) :
    ((s.removeRight db (app.caller known) name).1 = .uecOk →
        (s.removeRight db (app.caller known) name).2.hasRight later now (app.caller true) name = false) ↔
      (known = true ∨ s.hasRight later now (app.caller true) name = false) := by
  unfold Host.UsbService.removeRight
  cases manager : s.usbRightManager with
  | none => exact ⟨fun _ => .inr (hasRight_of_missing (.inl manager) _), fun _ => nofun⟩
  | some rights =>
    cases found : s.deviceVidPidMap[name]? with
    | none => exact ⟨fun _ => .inr (hasRight_of_missing (.inr found) _), fun _ => nofun⟩
    | some device =>
      cases known with
      | false =>
        constructor
        · exact fun truthful => .inr (truthful rfl)
        · rintro (impossible | none)
          · cases impossible
          · exact fun _ => none
      | true =>
        refine ⟨fun _ => .inl rfl, fun _ asked => ?_⟩
        have removed : (Right.removeDeviceRight db device app.bundleName (toString app.token.toNat) app.userId
            rights).1 = true := by
          by_contra kept
          cases (if_neg kept).symm.trans asked
        refine (hasRight_of_found (s := { s with usbRightManager := some _ }) rfl found).trans ?_
        exact Right.removeDeviceRight_gone (k := app.key device) app.user removed ok now

end Devices

/-! ### The accessory -/

section Accessory

open Accessory

variable {s : UsbService} {access : USBAccessory}

theorem accessoryRight_unknown (s : UsbService) (access : USBAccessory) :
    ∃ ret, s.accessoryRight (app.caller false) access = .error ret ∧ ret ≠ .uecOk := by
  unfold UsbService.accessoryRight
  cases s.usbRightManager with
  | none => exact ⟨_, rfl, nofun⟩
  | some rights =>
    cases s.usbAccessoryManager with
    | none => exact ⟨_, rfl, nofun⟩
    | some m => exact ⟨_, rfl, nofun⟩

/-- An error is a code of its own, and a right that is found is one of the application. -/
theorem accessoryRight_cases (s : UsbService) (access : USBAccessory) :
    (∃ ret, s.accessoryRight (app.caller true) access = .error ret ∧ ret ≠ .uecOk) ∨
      ∃ m rights serialNum, s.usbAccessoryManager = some m ∧ s.usbRightManager = some rights ∧
        m.getAccessorySerialNumber app.bundleName access = .ok serialNum ∧
        s.accessoryRight (app.caller true) access = .ok (rights, app.key serialNum) := by
  unfold UsbService.accessoryRight
  cases manager : s.usbRightManager with
  | none => exact .inl ⟨_, rfl, nofun⟩
  | some rights =>
    cases accessory : s.usbAccessoryManager with
    | none => exact .inl ⟨_, rfl, nofun⟩
    | some m =>
      simp only [Application.caller_known]
      cases named : m.getAccessorySerialNumber app.bundleName access with
      | error ret =>
        refine .inl ⟨ret, rfl, ?_⟩
        rintro rfl
        unfold UsbAccessoryManager.getAccessorySerialNumber at named
        split_ifs at named <;> cases named
      | ok serialNum => exact .inr ⟨m, rights, serialNum, rfl, rfl, named, rfl⟩

/-- The rights change, and the accessory does not. -/
theorem accessoryRight_of_rights {m : UsbAccessoryManager} {serialNum : String} {rights : Store Right.Row}
    (accessory : s.usbAccessoryManager = some m)
    (named : m.getAccessorySerialNumber app.bundleName access = .ok serialNum) :
    UsbService.accessoryRight { s with usbRightManager := some rights } (app.caller true) access =
      .ok (rights, app.key serialNum) := by
  unfold UsbService.accessoryRight
  simp only [accessory, Application.caller_known, named, Application.key]

theorem requestAccessoryRight_truthful (ok : later.Succeeds) (s : UsbService)
    (dialog : Store Right.Row → Option (Store Right.Row)) (access : USBAccessory)
    (granted : (s.requestAccessoryRight db now (app.caller known) access dialog).1.2 = true) :
    ((s.requestAccessoryRight db now (app.caller known) access dialog).2.hasAccessoryRight later now (app.caller true)
      access).2 = true := by
  unfold UsbService.requestAccessoryRight at granted ⊢
  cases known with
  | false =>
    obtain ⟨ret, error, -⟩ := accessoryRight_unknown s access
    rw [error] at granted
    cases granted
  | true =>
    obtain ⟨ret, error, -⟩ | ⟨m, rights, serialNum, accessory, manager, named, found⟩ := accessoryRight_cases s access
    · rw [error] at granted
      cases granted
    · rw [found] at granted ⊢
      unfold UsbService.hasAccessoryRight
      rw [accessoryRight_of_rights accessory named]
      exact Right.requestRight_found app.user granted ok

/-- `CancelAccessoryRight` reports the end of a right that the check still finds exactly if there was one and the
store has refused to delete it. -/
theorem cancelAccessoryRight_truthful_iff (ok : later.Succeeds) (s : UsbService) (access : USBAccessory) :
    ((s.cancelAccessoryRight db (app.caller known) access).1 = .uecOk →
        ((s.cancelAccessoryRight db (app.caller known) access).2.hasAccessoryRight later now (app.caller true)
          access).2 = false) ↔
      (known = false ∨ (s.hasAccessoryRight later now (app.caller true) access).2 = false ∨
        ∀ rights ∈ s.usbRightManager, ¬ Right.Restored db rights) := by
  unfold UsbService.cancelAccessoryRight
  cases known with
  | false =>
    obtain ⟨ret, error, failed⟩ := accessoryRight_unknown s access
    rw [error]
    exact ⟨fun _ => .inl rfl, fun _ done => absurd done failed⟩
  | true =>
    unfold UsbService.hasAccessoryRight
    obtain ⟨ret, error, failed⟩ | ⟨m, rights, serialNum, accessory, manager, named, found⟩ :=
      accessoryRight_cases s access
    · rw [error]
      exact ⟨fun _ => .inr (.inl rfl), fun _ done => absurd done failed⟩
    · have has := Right.cancelDeviceRight_has db rights (k := app.key serialNum) app.user ok now
      rw [found]
      dsimp only
      rw [accessoryRight_of_rights accessory named, manager]
      have done := Right.cancelDeviceRight_code db rights (k := app.key serialNum) app.user
      constructor
      · intro truthful
        have gone := truthful (if_neg (not_not.2 done))
        by_cases had : (app.key serialNum).hasRight later now rights = true
        · refine .inr (.inr fun rights' same restored => ?_)
          obtain rfl := Option.some.inj same
          exact Bool.false_ne_true (gone.symm.trans (has.2 ⟨had, restored⟩))
        · exact .inr (.inl (Bool.eq_false_iff.2 had))
      · rintro (impossible | none | kept) -
        · cases impossible
        · exact Bool.eq_false_iff.2 fun still => Bool.false_ne_true (none.symm.trans (has.1 still).1)
        · exact Bool.eq_false_iff.2 fun still => kept rights rfl (has.1 still).2

end Accessory

/-! ### Serial ports -/

section Serial

open Serial

theorem hasSerialRight_of_found {s : UsbService} {env : Env} {portId : Int} {rights : Store Right.Row}
    {entry : String × String} (manager : s.usbRightManager = some rights)
    (found : s.portDevice env portId = .ok entry) (caller : env.caller = app.caller true) :
    s.hasSerialRight later env portId = (.uecOk, (app.key entry.2).hasRight later env.now rights) := by
  unfold UsbService.hasSerialRight
  rw [manager]
  dsimp only
  rw [found, caller]
  rfl

theorem portDevice_failed {s : UsbService} {env : Env} {portId : Int} {ret : UsbErrCode}
    (error : s.portDevice env portId = .error ret) : ret ≠ .uecOk := by
  unfold UsbService.portDevice UsbService.getDeviceVidPidSerialNumber at error
  split_ifs at error with port ability
  · rwa [← Except.error.inj error]
  · rwa [← Except.error.inj error]
  · cases recorded : s.serialVidPidMap[portId]? with
    | none =>
      rw [recorded] at error
      rw [← Except.error.inj error]
      nofun
    | some entry =>
      rw [recorded] at error
      cases error

/-- The identity of a port is the recorded one. -/
theorem recorded_of_portDevice {s : UsbService} {env : Env} {portId : Int} {entry : String × String}
    (found : s.portDevice env portId = .ok entry) : s.serialVidPidMap[portId]? = some entry := by
  unfold UsbService.portDevice UsbService.getDeviceVidPidSerialNumber at found
  split_ifs at found
  cases recorded : s.serialVidPidMap[portId]? with
  | none =>
    rw [recorded] at found
    cases found
  | some entry' =>
    rw [recorded] at found
    rw [Except.ok.inj found]

/-- Its answer is that of `requestSerialRight` with the rights that the dialog leaves. -/
theorem requestSerialRightDialog_eq (db : Right.UsbRightDataBase) (s : UsbService) (env : Env) (portId : Int)
    (dialog : Store Right.Row → Option (Store Right.Row)) :
    ∃ shown, (s.requestSerialRightDialog db env portId dialog).1 = s.requestSerialRight db env portId shown := by
  unfold UsbService.requestSerialRightDialog UsbService.requestSerialRight
  cases s.usbRightManager with
  | none => exact ⟨none, rfl⟩
  | some rights =>
    cases s.portDevice env portId with
    | error ret => exact ⟨none, rfl⟩
    | ok entry =>
      by_cases system : env.caller.isSystemAppOrSa = true
      · refine ⟨none, ?_⟩
        simp only [if_pos system]
      · cases called : env.caller.getCallingInfo with
        | none =>
          refine ⟨none, ?_⟩
          simp only [if_neg system]
        | some info =>
          obtain ⟨bundleName, tokenId, userId⟩ := info
          refine ⟨dialog (Right.hasRight db env.now entry.2 bundleName tokenId userId rights).2, ?_⟩
          simp only [if_neg system]
          exact congrArg (Prod.mk UsbErrCode.uecOk) (Right.requestRight_eq db env.now dialog
            ⟨userId, entry.2, bundleName, tokenId⟩ rights)

theorem requestSerialRight_truthful (ok : later.Succeeds) (s : UsbService) (env : Env) (portId : Int)
    (dialog : Store Right.Row → Option (Store Right.Row))
    (granted : (s.requestSerialRightDialog db { env with caller := app.caller known } portId dialog).1.2 = true) :
    ((s.requestSerialRightDialog db { env with caller := app.caller known } portId dialog).2.hasSerialRight later
      { env with caller := app.caller true } portId).2 = true := by
  unfold UsbService.requestSerialRightDialog at granted ⊢
  cases manager : s.usbRightManager with
  | none =>
    rw [manager] at granted
    cases granted
  | some rights =>
    rw [manager] at granted
    dsimp only at granted ⊢
    cases device : s.portDevice { env with caller := app.caller known } portId with
    | error ret =>
      rw [device] at granted
      cases granted
    | ok entry =>
      rw [device] at granted
      cases known with
      | false => cases granted
      | true =>
        have found : s.portDevice { env with caller := app.caller true } portId = .ok entry := device
        refine (congrArg Prod.snd (hasSerialRight_of_found (s := { s with usbRightManager := some _ }) rfl found
          rfl)).trans ?_
        exact Right.requestRight_found (k := app.key entry.2) app.user granted ok

/-- A cancellation that succeeds has removed a right of the application. -/
theorem cancelSerialRight_done {s : UsbService} {env : Env} {portId closeRet : Int}
    (cancelled : (s.cancelSerialRight db { env with caller := app.caller known } portId closeRet).1 = .uecOk) :
    ∃ rights entry, s.serialVidPidMap[portId]? = some entry ∧
      (Right.removeDeviceRight db entry.2 app.bundleName (toString app.token.toNat) app.userId rights).1 = true ∧
      (s.cancelSerialRight db { env with caller := app.caller known } portId closeRet).2.2.usbRightManager =
        some (Right.removeDeviceRight db entry.2 app.bundleName (toString app.token.toNat) app.userId rights).2 ∧
      (s.cancelSerialRight db { env with caller := app.caller known } portId closeRet).2.2.serialVidPidMap =
        s.serialVidPidMap := by
  unfold UsbService.cancelSerialRight at cancelled ⊢
  cases manager : s.usbRightManager with
  | none =>
    rw [manager] at cancelled
    cases cancelled
  | some rights =>
    rw [manager] at cancelled
    dsimp only at cancelled ⊢
    cases device : s.portDevice { env with caller := app.caller known } portId with
    | error ret =>
      rw [device] at cancelled
      exact absurd cancelled (portDevice_failed device)
    | ok entry =>
      rw [device] at cancelled
      cases known with
      | false => cases cancelled
      | true =>
        have removed : (Right.removeDeviceRight db entry.2 app.bundleName (toString app.token.toNat) app.userId
            rights).1 = true := by
          by_contra kept
          cases (congrArg Prod.fst (if_neg kept)).symm.trans cancelled
        refine ⟨rights, entry, recorded_of_portDevice device, removed, ?_⟩
        simp only [Application.caller_known, removed, if_true]
        exact ⟨rfl, rfl⟩

theorem cancelSerialRight_truthful (ok : later.Succeeds) (s : UsbService) (env : Env) (portId closeRet : Int)
    (cancelled : (s.cancelSerialRight db { env with caller := app.caller known } portId closeRet).1 = .uecOk)
    (after : Right.ClockReading) :
    ((s.cancelSerialRight db { env with caller := app.caller known } portId closeRet).2.2.hasSerialRight later
      { env with caller := app.caller true, now := after } portId).2 = false := by
  obtain ⟨rights, entry, recorded, removed, manager, map⟩ := cancelSerialRight_done cancelled
  generalize (s.cancelSerialRight db { env with caller := app.caller known } portId closeRet).2.2 = s' at manager map
  cases device : s'.portDevice { env with caller := app.caller true, now := after } portId with
  | error ret =>
    unfold UsbService.hasSerialRight
    rw [manager]
    dsimp only
    rw [device]
  | ok entry' =>
    rw [hasSerialRight_of_found manager device rfl]
    have same := recorded_of_portDevice device
    rw [map, recorded] at same
    obtain rfl := Option.some.inj same
    exact Right.removeDeviceRight_gone (k := app.key entry.2) app.user removed ok after

end Serial

/-! ### All together -/

/-- What the service reports of a grant or of the end of a right, against what the check finds afterwards: for which
calls the report is true. The grants for the accessory and for a port, and the end of a right to a port, are always
reported truthfully. -/
theorem rights_reports_truthful (db : Right.UsbRightDataBase) {later : Right.UsbRightDataBase} (ok : later.Succeeds)
    (now : Right.ClockReading) (app : Application) (known : Bool) :
    (∀ (s : Host.UsbService) dialog name,
      ((s.requestRight db now dialog (app.caller known) name).1 = .uecOk →
          (s.requestRight db now dialog (app.caller known) name).2.hasRight later now (app.caller true) name = true) ↔
        (known = true ∨ s.usbRightManager = none ∨ s.deviceVidPidMap[name]? = none ∨
          s.hasRight later now (app.caller true) name = true)) ∧
    (∀ (s : Host.UsbService) name,
      ((s.removeRight db (app.caller known) name).1 = .uecOk →
          (s.removeRight db (app.caller known) name).2.hasRight later now (app.caller true) name = false) ↔
        (known = true ∨ s.hasRight later now (app.caller true) name = false)) ∧
    (∀ (s : Accessory.UsbService) access dialog,
      (s.requestAccessoryRight db now (app.caller known) access dialog).1.2 = true →
        ((s.requestAccessoryRight db now (app.caller known) access dialog).2.hasAccessoryRight later now
          (app.caller true) access).2 = true) ∧
    (∀ (s : Accessory.UsbService) access,
      ((s.cancelAccessoryRight db (app.caller known) access).1 = .uecOk →
          ((s.cancelAccessoryRight db (app.caller known) access).2.hasAccessoryRight later now (app.caller true)
            access).2 = false) ↔
        (known = false ∨ (s.hasAccessoryRight later now (app.caller true) access).2 = false ∨
          ∀ rights ∈ s.usbRightManager, ¬ Right.Restored db rights)) ∧
    (∀ (s : Serial.UsbService) (env : Serial.Env) portId dialog,
      (s.requestSerialRightDialog db { env with caller := app.caller known } portId dialog).1.2 = true →
        ((s.requestSerialRightDialog db { env with caller := app.caller known } portId dialog).2.hasSerialRight later
          { env with caller := app.caller true } portId).2 = true) ∧
    ∀ (s : Serial.UsbService) (env : Serial.Env) portId closeRet,
      (s.cancelSerialRight db { env with caller := app.caller known } portId closeRet).1 = .uecOk →
        ((s.cancelSerialRight db { env with caller := app.caller known } portId closeRet).2.2.hasSerialRight later
          { env with caller := app.caller true, now := now } portId).2 = false := by
  refine ⟨?_, ?_, ?_, ?_, ?_, ?_⟩
  · exact fun s dialog name => requestRight_truthful_iff ok s dialog name
  · exact fun s name => removeRight_truthful_iff ok s name
  · exact fun s access dialog granted => requestAccessoryRight_truthful ok s dialog access granted
  · exact fun s access => cancelAccessoryRight_truthful_iff ok s access
  · exact fun s env portId dialog granted => requestSerialRight_truthful ok s env portId dialog granted
  · exact fun s env portId closeRet cancelled => cancelSerialRight_truthful ok s env portId closeRet cancelled now

/-- The application of `Right.sampleKey`. -/
def scannerApp : Application := ⟨537, "com.example.scanner", 100, by decide⟩

/-- The rights of `scannerApp` to one device. -/
def scannerRights (deviceName : String) : Store Right.Row where
  rows := [Right.grantRow (Right.samplePlatform true) (scannerApp.key deviceName) 1]

/-- One device is attached. -/
def scannerService (rights : Store Right.Row) : Host.UsbService where
  usbHostManager := none
  usbRightManager := some rights
  deviceVidPidMap := (∅ : Std.ExtTreeMap String String).insert "1-2" "4817-4258-A1"

/-- The accessory of product `dock` is started. -/
def dockService : Accessory.UsbService where
  usbAccessoryManager := some { accStatus := .accStart, accessory := ⟨"", "dock", "", "", ""⟩ }
  usbRightManager := some (scannerRights "dock")

/-- The application gives up its right. -/
theorem rights_reports_truthful_removed :
    ((scannerService (scannerRights "4817-4258-A1")).removeRight Right.sampleDataBase (scannerApp.caller true)
        "1-2").2.hasRight Right.sampleDataBase Right.sampleReading (scannerApp.caller true) "1-2" = false := by
  have truthful := (rights_reports_truthful Right.sampleDataBase Right.sampleDataBase_succeeds Right.sampleReading
    scannerApp true).2.1 (scannerService (scannerRights "4817-4258-A1")) "1-2"
  exact truthful.2 (.inl rfl) (by decide +kernel)

/-- The second call fails: the deletion. -/
def failsSecond : Right.UsbRightDataBase := { Right.sampleDataBase with answers := fun n => n ≠ 1 }

/-- While the token service does not know it, an application is told that it has got a right and that it has lost one,
and neither is so; and when the deletion fails it is told that its right to the accessory is gone. -/
theorem rights_reports_wrong :
    (((scannerService {}).requestRight Right.sampleDataBase Right.sampleReading (fun _ => none)
        (scannerApp.caller false) "1-2").1 = .uecOk ∧
      ((scannerService {}).requestRight Right.sampleDataBase Right.sampleReading (fun _ => none)
        (scannerApp.caller false) "1-2").2.hasRight Right.sampleDataBase Right.sampleReading (scannerApp.caller true)
          "1-2" = false) ∧
    (((scannerService (scannerRights "4817-4258-A1")).removeRight Right.sampleDataBase (scannerApp.caller false)
        "1-2").1 = .uecOk ∧
      ((scannerService (scannerRights "4817-4258-A1")).removeRight Right.sampleDataBase (scannerApp.caller false)
        "1-2").2.hasRight Right.sampleDataBase Right.sampleReading (scannerApp.caller true) "1-2" = true) ∧
    (dockService.cancelAccessoryRight failsSecond (scannerApp.caller true) ⟨"", "dock", "", "", ""⟩).1 = .uecOk ∧
      ((dockService.cancelAccessoryRight failsSecond (scannerApp.caller true)
        ⟨"", "dock", "", "", ""⟩).2.hasAccessoryRight Right.sampleDataBase Right.sampleReading (scannerApp.caller true)
          ⟨"", "dock", "", "", ""⟩).2 = true := by
  refine ⟨⟨?_, ?_⟩, ⟨?_, ?_⟩, ?_, ?_⟩ <;> decide +kernel

end UsbManager.Service
