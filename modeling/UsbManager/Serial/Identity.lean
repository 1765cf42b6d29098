import UsbManager.Host.Identity
import UsbManager.Lib.Transition
import UsbManager.Serial.Service

/-!
# The identity behind a serial port

Two maps keep what the driver has listed: `serialPortMap_` of the serial manager, which only grows, and
`serialVidPidMap_` of the service, which is filled anew by `SerialGetPortList` but not by the host manager's
`AddUsbSerialDevice`. They agree with the last list in runs in which no port goes away, and in which the
host manager finds the ports that the service has found.
-/

namespace UsbManager.Serial

open Std (ExtTreeMap)
open Rdb Transition

/-! ## Lists of ports -/

/-- The identity of the device that a list reports at a port. -/
def identityAt (ports : List SerialPort) (portId : Int) : Option String :=
  (ports.find? (·.portId = portId)).map (·.deviceInfo.vidPidSerialNum)

theorem isSome_identityAt {ports : List SerialPort} {portId : Int} :
    (identityAt ports portId).isSome = true ↔ portId ∈ ports.map SerialPort.portId := by
  simp [identityAt, List.find?_isSome]

theorem contains_foldl_insert (portId : Int) : ∀ (ports : List SerialPort) (map : ExtTreeMap Int SerialPort),
    (ports.foldl (fun map port => map.insert port.portId port) map).contains portId =
      (map.contains portId || (identityAt ports portId).isSome) := by
  intro ports
  induction ports with
  | nil => simp [identityAt]
  | cons port rest ih =>
    intro map
    rw [List.foldl_cons, ih, ExtTreeMap.contains_insert]
    by_cases same : port.portId = portId
    · simp [identityAt, same]
    · have differs : (compare port.portId portId == .eq) = false := by simpa using same
      simp [identityAt, same, differs]

/-- Of two entries for a port the first stays. -/
theorem getElem?_foldl_insertIfNew {β : Type} (f : SerialPort → β) (portId : Int) :
    ∀ (ports : List SerialPort) (map : ExtTreeMap Int β),
      (ports.foldl (fun map port => map.insertIfNew port.portId (f port)) map)[portId]? =
        map[portId]?.or ((ports.find? (·.portId = portId)).map f) := by
  intro ports
  induction ports with
  | nil => simp
  | cons port rest ih =>
    intro map
    rw [List.foldl_cons, ih, ExtTreeMap.getElem?_insertIfNew]
    by_cases same : port.portId = portId
    · subst same
      cases found : map[port.portId]? with
      | none =>
        have absent : port.portId ∉ map := by
          rw [← ExtTreeMap.isSome_getElem?_iff_mem, found]
          simp
        simp [absent]
      | some entry =>
        have present : port.portId ∈ map := by
          rw [← ExtTreeMap.isSome_getElem?_iff_mem, found]
          rfl
        simp [present]
    · simp [same]

/-! ## What the service knows -/

namespace UsbService

variable {s : UsbService} {m : SerialManager} {portId : Int}

/-- The identity in `serialVidPidMap_`. -/
def recordedIdentity (s : UsbService) (portId : Int) : Option String := (s.serialVidPidMap[portId]?).map Prod.snd

/-- The identity that the functions of the rights use for a port. -/
def usedIdentity (s : UsbService) (env : Env) (portId : Int) : Option String :=
  (s.portDevice env portId).toOption.map Prod.snd

theorem recordedIdentity_updateDeviceVidPidMap (ports : List SerialPort) (portId : Int) :
    (s.updateDeviceVidPidMap ports).recordedIdentity portId = identityAt ports portId := by
  rw [recordedIdentity, updateDeviceVidPidMap, getElem?_foldl_insertIfNew, identityAt]
  simp [Function.comp_def]

theorem isPortIdExist_updateSerialPortMap (ports : List SerialPort) (portId : Int) :
    (m.updateSerialPortMap ports).isPortIdExist portId =
      (m.isPortIdExist portId || (identityAt ports portId).isSome) :=
  contains_foldl_insert portId ports m.serialPortMap

/-- The functions of the rights use what is recorded of a port that exists. -/
theorem usedIdentity_eq {env : Env} (helper : env.dbHelper = true) :
    s.usedIdentity env portId = if s.isPortIdExist portId then s.recordedIdentity portId else none := by
  unfold usedIdentity portDevice validateUsbSerialManagerAndPort isPortIdExist
  cases s.usbSerialManager with
  | none => rfl
  | some m =>
    dsimp only
    by_cases known : m.isPortIdExist portId = true
    · simp only [known, checkDbAbility, helper, getDeviceVidPidSerialNumber, recordedIdentity]
      cases s.serialVidPidMap[portId]? <;> rfl
    · simp only [known]
      rfl

/-- Without the database there is no identity. -/
theorem dbHelper_of_usedIdentity {env : Env} {identity : String} (used : s.usedIdentity env portId = some identity) :
    env.dbHelper = true := by
  cases helper : env.dbHelper with
  | true => rfl
  | false =>
    unfold usedIdentity portDevice at used
    split at used
    · cases used
    · rw [checkDbAbility, helper, if_pos (by decide)] at used
      cases used

/-! ### The functions of the rights -/

section Rights

variable {db : Right.UsbRightDataBase} {env : Env}

/-- A caller has a right to the identity, or needs none. -/
def MayUse (db : Right.UsbRightDataBase) (env : Env) (rights : Store Right.Row) (identity : String) : Prop :=
  env.caller.isSystemAppOrSa = true ∨
    ∃ bundleName tokenId userId, env.caller.getCallingInfo = some (bundleName, tokenId, userId) ∧
      (Right.hasRight db env.now identity bundleName tokenId userId rights).1 = true

theorem hasSerialRight_cases (has : (s.hasSerialRight db env portId).2 = true) :
    ∃ rights identity, s.usbRightManager = some rights ∧ s.usedIdentity env portId = some identity ∧
      MayUse db env rights identity := by
  unfold hasSerialRight at has
  split at has
  next => cases has
  next rights there =>
    split at has
    next => cases has
    next name identity found =>
      refine ⟨rights, identity, there, by rw [usedIdentity, found]; rfl, ?_⟩
      split at has
      next system => exact .inl system
      next =>
        split at has
        next => cases has
        next bundleName tokenId userId info => exact .inr ⟨bundleName, tokenId, userId, info, has⟩

theorem requestSerialRight_cases {dialog : Option (Store Right.Row)}
    (has : (s.requestSerialRight db env portId dialog).2 = true) :
    ∃ rights identity, (s.usbRightManager = some rights ∨ dialog = some rights) ∧
      s.usedIdentity env portId = some identity ∧ MayUse db env rights identity := by
  unfold requestSerialRight at has
  split at has
  next => cases has
  next rights there =>
    split at has
    next => cases has
    next name identity found =>
      have used : s.usedIdentity env portId = some identity := by rw [usedIdentity, found]; rfl
      split at has
      next system => exact ⟨rights, identity, .inl there, used, .inl system⟩
      next =>
        split at has
        next => cases has
        next bundleName tokenId userId info =>
          rcases (Bool.or_eq_true _ _).mp has with before | after
          · exact ⟨rights, identity, .inl there, used, .inr ⟨bundleName, tokenId, userId, info, before⟩⟩
          · obtain ⟨later, shown, granted⟩ := (Option.any_eq_true ..).1 after
            exact ⟨later, identity, .inr shown, used, .inr ⟨bundleName, tokenId, userId, info, granted⟩⟩

theorem addSerialRight_cases {tokenId : UInt32} {op : Right.Op}
    (done : (s.addSerialRight db env portId tokenId).2.1 = some op) :
    ∃ identity, s.usedIdentity env portId = some identity ∧
      op = .addDeviceRightOfToken env.platform identity (toString tokenId.toNat) := by
  unfold addSerialRight at done
  split at done
  next => cases done
  next rights there =>
    split at done
    next => cases done
    next =>
      split at done
      next => cases done
      next helper =>
        split at done
        next => cases done
        next valid =>
          split at done
          next => cases done
          next name identity found =>
            refine ⟨identity, ?_, (Option.some.inj done).symm⟩
            rw [usedIdentity, portDevice, if_neg valid, if_neg helper, found]
            rfl

theorem cancelSerialRight_cases {closeRet : Int} {op : Right.Op}
    (done : (s.cancelSerialRight db env portId closeRet).2.1 = some op) :
    ∃ identity bundleName tokenId userId, s.usedIdentity env portId = some identity ∧
      op = .removeDeviceRight ⟨userId, identity, bundleName, tokenId⟩ := by
  unfold cancelSerialRight at done
  split at done
  next => cases done
  next rights there =>
    split at done
    next => cases done
    next name identity found =>
      split at done
      next => cases done
      next =>
        split at done
        next => cases done
        next bundleName tokenId userId info =>
          refine ⟨identity, bundleName, tokenId, userId, by rw [usedIdentity, found]; rfl, ?_⟩
          dsimp only at done
          split at done
          · exact (Option.some.inj done).symm
          · exact (Option.some.inj done).symm

end Rights

end UsbService

/-! ## What the calls do -/

/-- The list that a refresh gets from the driver of a manager. -/
def SerialManager.lists (m : SerialManager) (list : Except UsbErrCode (List SerialPort)) : Option (List SerialPort) :=
  if m.serial then list.toOption else none

namespace UsbService

variable {s : UsbService} {m : SerialManager} {list : Except UsbErrCode (List SerialPort)} {ports : List SerialPort}

theorem serialGetPortList_of_none (unlisted : m.lists list = none) :
    ∃ ret, m.serialGetPortList list = (.error ret, m) := by
  unfold SerialManager.lists at unlisted
  unfold SerialManager.serialGetPortList
  cases bound : m.serial with
  | false => exact ⟨_, rfl⟩
  | true =>
    cases list with
    | error ret => exact ⟨ret, rfl⟩
    | ok ports =>
      rw [bound] at unlisted
      cases unlisted

theorem serialGetPortList_of_some (listed : m.lists list = some ports) :
    m.serialGetPortList list = (.ok ports, m.updateSerialPortMap ports) := by
  unfold SerialManager.lists at listed
  unfold SerialManager.serialGetPortList
  cases bound : m.serial with
  | false =>
    rw [bound] at listed
    cases listed
  | true =>
    rw [bound] at listed
    cases list with
    | error ret => cases listed
    | ok ports' =>
      obtain rfl := Option.some.inj listed
      rfl

theorem refresh_of_none (unlisted : m.lists list = none) :
    (s.refresh m list).2 = { s with usbSerialManager := some m } := by
  obtain ⟨ret, failed⟩ := serialGetPortList_of_none unlisted
  rw [refresh, failed]

theorem refresh_of_some (listed : m.lists list = some ports) :
    (s.refresh m list).2 =
      { s with usbSerialManager := some (m.updateSerialPortMap ports) }.updateDeviceVidPidMap ports := by
  rw [refresh, serialGetPortList_of_some listed]

/-- The ports are as before, and the rights are those after `op`. -/
structure SamePorts (db : Right.UsbRightDataBase) (s : UsbService) (op : Option Right.Op) (s' : UsbService) : Prop where
  ports : ∀ portId, s'.isPortIdExist portId = s.isPortIdExist portId
  recorded : s'.serialVidPidMap = s.serialVidPidMap
  rights : s'.usbRightManager =
    s.usbRightManager.map fun rights => op.toList.foldl (fun rights op => op.exec db rights) rights

variable {db : Right.UsbRightDataBase} {env : Env} {portId : Int}

theorem SamePorts.refl : SamePorts db s none s := ⟨fun _ => rfl, rfl, by simp⟩

theorem addSerialRight_same (tokenId : UInt32) :
    SamePorts db s (s.addSerialRight db env portId tokenId).2.1 (s.addSerialRight db env portId tokenId).2.2 := by
  unfold addSerialRight
  split
  next => exact .refl
  next rights there =>
    split
    next => exact .refl
    next =>
      split
      next => exact .refl
      next =>
        split
        next => exact .refl
        next =>
          split
          next => exact .refl
          next name identity found =>
            refine ⟨fun _ => rfl, rfl, ?_⟩
            rw [there]
            rfl

theorem isPortIdExist_serialClose (tokenId : UInt32) (closed : Int) (closeRet : Int) :
    (m.serialClose tokenId closed closeRet).2.2.isPortIdExist portId = m.isPortIdExist portId := by
  unfold SerialManager.serialClose SerialManager.operate
  split
  next => split <;> rfl
  next => rfl

theorem cancelSerialRight_same (closeRet : Int) :
    SamePorts db s (s.cancelSerialRight db env portId closeRet).2.1
      (s.cancelSerialRight db env portId closeRet).2.2 := by
  unfold cancelSerialRight
  split
  next => exact .refl
  next rights there =>
    split
    next => exact .refl
    next name identity found =>
      split
      next => exact .refl
      next =>
        split
        next => exact .refl
        next bundleName tokenId userId info =>
          dsimp only
          split
          · refine ⟨fun portId' => ?_, rfl, ?_⟩
            · unfold isPortIdExist
              cases s.usbSerialManager with
              | none => rfl
              | some m => exact isPortIdExist_serialClose ..
            · rw [there]
              rfl
          · refine ⟨fun _ => rfl, rfl, ?_⟩
            rw [there]
            rfl

end UsbService

/-! ## Runs -/

structure Registry where
  service : UsbService
  /-- The list that the driver has reported last. -/
  latest : List SerialPort := []
  /-- The operations on the rights, the first one first. -/
  ops : List Right.Op := []

inductive Change where
  | serialGetPortList (checkForTtyUSB serial : Bool) (list : Except UsbErrCode (List SerialPort))
  | addUsbSerialDevice (list : Except UsbErrCode (List SerialPort))
  | addSerialRight (env : Env) (portId : Int) (tokenId : UInt32)
  | cancelSerialRight (env : Env) (portId : Int) (closeRet : Int)
  /-- Any other operation on the rights. -/
  | right (op : Right.Op)

namespace Registry

variable (db : Right.UsbRightDataBase) (w : Registry)

def start (serialManager : Option Bool) (rightManager : Bool) : Registry where
  service := .started serialManager rightManager

/-- The list that the driver reports in a step, if it is asked and answers. -/
def obtained : Change → Option (List SerialPort)
  | .serialGetPortList checkForTtyUSB serial list =>
    match w.service.usbSerialManager with
    | some m => m.lists list
    | none => if checkForTtyUSB then SerialManager.lists { serial := serial } list else none
  | .addUsbSerialDevice list => w.service.usbSerialManager.bind (·.lists list)
  | .addSerialRight .. | .cancelSerialRight .. | .right _ => none

/-- The operation on the rights that a step makes, and the service after the step. -/
def perform : Change → Option Right.Op × UsbService
  | .serialGetPortList checkForTtyUSB serial list =>
    (none, (w.service.serialGetPortList checkForTtyUSB serial list).2)
  | .addUsbSerialDevice list => (none, w.service.addUsbSerialDevice list)
  | .addSerialRight env portId tokenId => (w.service.addSerialRight db env portId tokenId).2
  | .cancelSerialRight env portId closeRet => (w.service.cancelSerialRight db env portId closeRet).2
  | .right op =>
    (some op, { w.service with usbRightManager := w.service.usbRightManager.map fun rights => op.exec db rights })

def step (action : Change) : Option Registry :=
  some {
    service := (w.perform db action).2
    latest := (w.obtained action).getD w.latest
    ops := w.ops ++ (w.perform db action).1.toList }

/-- The ports are those of the last list, and the identity used for each of them is the one listed. -/
structure Current : Prop where
  ports : ∀ portId, w.service.isPortIdExist portId = true ↔ portId ∈ w.latest.map SerialPort.portId
  identities : ∀ env : Env, env.dbHelper = true → ∀ portId,
    w.service.usedIdentity env portId = identityAt w.latest portId

/-- No port goes away; what the host manager finds is what was listed last. -/
def Steady (action : Change) : Prop :=
  ∀ ports, w.obtained action = some ports →
    match action with
    | .serialGetPortList .. => ∀ portId ∈ w.latest.map SerialPort.portId, portId ∈ ports.map SerialPort.portId
    | _ => ∀ portId, identityAt ports portId = identityAt w.latest portId

/-- Both maps have the last list. -/
structure Kept : Prop where
  ports : ∀ portId, w.service.isPortIdExist portId = (identityAt w.latest portId).isSome
  recorded : ∀ portId, w.service.recordedIdentity portId = identityAt w.latest portId

variable {db w} {w' : Registry}

theorem Kept.current (kept : w.Kept) : w.Current := by
  refine ⟨fun portId => ?_, fun env helper portId => ?_⟩
  · rw [kept.ports, isSome_identityAt]
  · rw [UsbService.usedIdentity_eq helper, kept.ports, kept.recorded]
    cases identityAt w.latest portId <;> rfl

/-! ### One step -/

/-- `SerialGetPortList` does nothing, or asks a manager that knows the ports of the service. -/
theorem serialGetPortList_cases (checkForTtyUSB serial : Bool) (list : Except UsbErrCode (List SerialPort)) :
    (w.obtained (.serialGetPortList checkForTtyUSB serial list) = none ∧
        (w.service.serialGetPortList checkForTtyUSB serial list).2 = w.service) ∨
      ∃ m : SerialManager, (∀ portId, m.isPortIdExist portId = w.service.isPortIdExist portId) ∧
        w.obtained (.serialGetPortList checkForTtyUSB serial list) = m.lists list ∧
        w.service.serialGetPortList checkForTtyUSB serial list = w.service.refresh m list := by
  unfold obtained UsbService.serialGetPortList UsbService.isPortIdExist
  cases w.service.usbSerialManager with
  | some m => exact .inr ⟨m, fun _ => rfl, rfl, rfl⟩
  | none =>
    cases checkForTtyUSB with
    | false => exact .inl ⟨rfl, rfl⟩
    | true => exact .inr ⟨{ serial := serial }, fun _ => ExtTreeMap.contains_empty, rfl, rfl⟩

theorem perform_unobtained {action : Change} (unlisted : w.obtained action = none) :
    (∀ portId, (w.perform db action).2.isPortIdExist portId = w.service.isPortIdExist portId) ∧
      (w.perform db action).2.serialVidPidMap = w.service.serialVidPidMap := by
  cases action with
  | serialGetPortList checkForTtyUSB serial list =>
    simp only [perform]
    rcases w.serialGetPortList_cases checkForTtyUSB serial list with ⟨-, same⟩ | ⟨m, known, lists, asks⟩
    · rw [same]
      exact ⟨fun _ => rfl, rfl⟩
    · rw [asks, UsbService.refresh_of_none (lists.symm.trans unlisted)]
      exact ⟨known, rfl⟩
  | addUsbSerialDevice list =>
    simp only [obtained, perform, UsbService.addUsbSerialDevice] at unlisted ⊢
    cases there : w.service.usbSerialManager with
    | none => exact ⟨fun _ => rfl, rfl⟩
    | some m =>
      rw [there] at unlisted
      obtain ⟨ret, failed⟩ := UsbService.serialGetPortList_of_none unlisted
      dsimp only
      rw [failed]
      refine ⟨fun portId => ?_, rfl⟩
      rw [UsbService.isPortIdExist, UsbService.isPortIdExist, there]
  | addSerialRight env portId tokenId =>
    have same : UsbService.SamePorts db w.service (w.service.addSerialRight db env portId tokenId).2.1 _ :=
      UsbService.addSerialRight_same tokenId
    exact ⟨same.ports, same.recorded⟩
  | cancelSerialRight env portId closeRet =>
    have same : UsbService.SamePorts db w.service (w.service.cancelSerialRight db env portId closeRet).2.1 _ :=
      UsbService.cancelSerialRight_same closeRet
    exact ⟨same.ports, same.recorded⟩
  | right op => exact ⟨fun _ => rfl, rfl⟩

/-- What a refresh leaves of the recorded identities: those listed, or those there were. -/
def recordedAfter (action : Change) (ports : List SerialPort) (portId : Int) : Option String :=
  match action with
  | .serialGetPortList .. => identityAt ports portId
  | _ => w.service.recordedIdentity portId

theorem perform_obtained {action : Change} {ports : List SerialPort} (listed : w.obtained action = some ports) :
    (∀ portId, (w.perform db action).2.isPortIdExist portId =
      (w.service.isPortIdExist portId || (identityAt ports portId).isSome)) ∧
    ∀ portId, (w.perform db action).2.recordedIdentity portId = w.recordedAfter action ports portId := by
  cases action with
  | serialGetPortList checkForTtyUSB serial list =>
    simp only [perform]
    rcases w.serialGetPortList_cases checkForTtyUSB serial list with ⟨unlisted, -⟩ | ⟨m, known, lists, asks⟩
    · cases unlisted.symm.trans listed
    · rw [asks, UsbService.refresh_of_some (lists.symm.trans listed)]
      refine ⟨fun portId => ?_, UsbService.recordedIdentity_updateDeviceVidPidMap ports⟩
      rw [← known]
      exact UsbService.isPortIdExist_updateSerialPortMap ports portId
  | addUsbSerialDevice list =>
    simp only [obtained, perform, UsbService.addUsbSerialDevice] at listed ⊢
    obtain ⟨m, there, lists⟩ := Option.bind_eq_some_iff.1 listed
    rw [there]
    dsimp only
    rw [UsbService.serialGetPortList_of_some lists]
    refine ⟨fun portId => ?_, fun _ => rfl⟩
    rw [UsbService.isPortIdExist, UsbService.isPortIdExist, there]
    exact UsbService.isPortIdExist_updateSerialPortMap ports portId
  | addSerialRight | cancelSerialRight | right => cases listed

theorem Kept.isPortIdExist_iff (kept : w.Kept) (portId : Int) :
    w.service.isPortIdExist portId = true ↔ portId ∈ w.latest.map SerialPort.portId := by
  rw [kept.ports, isSome_identityAt]

/-- A steady refresh keeps the ports and leaves the identities that it lists. -/
theorem Kept.of_steady (kept : w.Kept) {action : Change} {ports : List SerialPort}
    (listed : w.obtained action = some ports) (steady : w.Steady action) :
    (∀ portId, w.service.isPortIdExist portId = true → (identityAt ports portId).isSome = true) ∧
      ∀ portId, w.recordedAfter action ports portId = identityAt ports portId := by
  simp only [kept.isPortIdExist_iff, isSome_identityAt]
  cases action with
  | serialGetPortList checkForTtyUSB serial list => exact ⟨steady ports listed, fun _ => rfl⟩
  | addUsbSerialDevice list =>
    have same := steady ports listed
    refine ⟨fun portId before => ?_, fun portId => (kept.recorded portId).trans (same portId).symm⟩
    rwa [← isSome_identityAt, same, isSome_identityAt]
  | addSerialRight | cancelSerialRight | right => cases listed

theorem Kept.steady_of (kept : w.Kept) {action : Change} {ports : List SerialPort}
    (listed : w.obtained action = some ports)
    (grows : ∀ portId, w.service.isPortIdExist portId = true → (identityAt ports portId).isSome = true)
    (agrees : ∀ portId, (identityAt ports portId).isSome = true →
      w.recordedAfter action ports portId = identityAt ports portId) : w.Steady action := by
  simp only [kept.isPortIdExist_iff, isSome_identityAt] at grows agrees
  intro ports' listed'
  obtain rfl := Option.some.inj (listed.symm.trans listed')
  cases action with
  | serialGetPortList checkForTtyUSB serial list => exact grows
  | addUsbSerialDevice list =>
    intro portId
    by_cases now : portId ∈ ports.map SerialPort.portId
    · exact (agrees portId now).symm.trans (kept.recorded portId)
    · have gone : portId ∉ w.latest.map SerialPort.portId := fun before => now (grows portId before)
      rw [← isSome_identityAt, Option.not_isSome_iff_eq_none] at now gone
      rw [now, gone]
  | addSerialRight | cancelSerialRight | right => cases listed

theorem Kept.step (kept : w.Kept) {action : Change} (steady : w.Steady action) (taken : w.step db action = some w') :
    w'.Kept := by
  obtain rfl := Option.some.inj taken
  cases listed : w.obtained action with
  | none =>
    obtain ⟨exist, same⟩ := @perform_unobtained db w action listed
    refine ⟨fun portId => (exist portId).trans (kept.ports portId), fun portId => ?_⟩
    rw [UsbService.recordedIdentity, same]
    exact kept.recorded portId
  | some ports =>
    obtain ⟨exist, recorded⟩ := @perform_obtained db w action ports listed
    obtain ⟨grows, agrees⟩ := kept.of_steady listed steady
    refine ⟨fun portId => (exist portId).trans ?_, fun portId => (recorded portId).trans (agrees portId)⟩
    cases before : w.service.isPortIdExist portId with
    | true => exact (grows portId before).symm
    | false => rfl

/-- Surroundings in which the rights can be looked up. -/
def anyEnv : Env where
  caller := ⟨0, false, none⟩
  now := Right.sampleReading
  platform := Right.samplePlatform true

theorem Kept.current_iff (kept : w.Kept) {action : Change} (taken : w.step db action = some w') :
    w'.Current ↔ w.Steady action := by
  refine ⟨fun current => ?_, fun steady => (kept.step steady taken).current⟩
  obtain rfl := Option.some.inj taken
  cases listed : w.obtained action with
  | none =>
    intro ports listed'
    cases listed.symm.trans listed'
  | some ports =>
    obtain ⟨exist, recorded⟩ := @perform_obtained db w action ports listed
    have last : ((w.obtained action).getD w.latest) = ports := by rw [listed]; rfl
    have shown := current.ports
    have used := current.identities anyEnv rfl
    simp only [last, exist, ← isSome_identityAt, @UsbService.usedIdentity_eq _ _ anyEnv rfl, recorded] at shown used
    refine kept.steady_of listed (fun portId before => ?_) fun portId now => ?_
    · exact (shown portId).1 (by rw [before]; rfl)
    · have both := used portId
      rwa [now, Bool.or_true, if_pos rfl] at both

/-! ### Rights -/

theorem perform_rights (action : Change) :
    (w.perform db action).2.usbRightManager = w.service.usbRightManager.map fun rights =>
      (w.perform db action).1.toList.foldl (fun rights op => op.exec db rights) rights := by
  cases action with
  | serialGetPortList checkForTtyUSB serial list =>
    simp only [perform]
    rcases w.serialGetPortList_cases checkForTtyUSB serial list with ⟨-, same⟩ | ⟨m, -, -, asks⟩
    · rw [same]
      simp
    · rw [asks]
      cases listed : m.lists list with
      | none =>
        rw [UsbService.refresh_of_none listed]
        simp
      | some ports =>
        rw [UsbService.refresh_of_some listed, UsbService.updateDeviceVidPidMap]
        simp
  | addUsbSerialDevice list =>
    simp only [perform, UsbService.addUsbSerialDevice]
    split <;> simp
  | addSerialRight env portId tokenId => exact (UsbService.addSerialRight_same tokenId).rights
  | cancelSerialRight env portId closeRet => exact (UsbService.cancelSerialRight_same closeRet).rights
  | right op => rfl

/-- The rights are those that the operations leave. -/
theorem rights_eq_run {serialManager : Option Bool} {rightManager : Bool} {guard : Registry → Change → Prop}
    (reached : Reach (Registry.step db) guard (.start serialManager rightManager) w) :
    ∀ rights, w.service.usbRightManager = some rights → rights = Right.run db w.ops := by
  induction reached with
  | init =>
    intro rights there
    cases rightManager with
    | true => exact (Option.some.inj there).symm
    | false => cases there
  | step _ _ taken ih =>
    intro rights there
    obtain rfl := Option.some.inj taken
    obtain ⟨before, held, rfl⟩ := Option.map_eq_some_iff.1 ((perform_rights _).symm.trans there)
    rw [ih before held, Right.run, Right.run, List.foldl_append]

variable (db w) in
/-- The caller may use the device of this identity: it is a system application, or it has a right to it, which
was granted by one of the operations if the store does not fail. -/
def Authorised (env : Env) (identity : String) : Prop :=
  env.caller.isSystemAppOrSa = true ∨
    ∃ bundleName tokenId userId rights, env.caller.getCallingInfo = some (bundleName, tokenId, userId) ∧
      w.service.usbRightManager = some rights ∧
      (Right.hasRight db env.now identity bundleName tokenId userId rights).1 = true ∧
      (db.Succeeds → userId ≠ Right.usbRightUseridConsole →
        ∃ t0, Right.LastGrant db ⟨userId, identity, bundleName, tokenId⟩ t0 w.ops ∧
          Right.Valid t0 env.now.getCurrentTimestamp)

variable (db w) in
/-- Every function of the rights works on the identity of the device that the last list reports. -/
structure RightsCurrent : Prop where
  hasSerialRight : ∀ env portId, (w.service.hasSerialRight db env portId).2 = true →
    ∃ identity, identityAt w.latest portId = some identity ∧ w.Authorised db env identity
  requestSerialRight : ∀ env portId dialog, (w.service.requestSerialRight db env portId dialog).2 = true →
    ∃ identity rights, identityAt w.latest portId = some identity ∧
      (w.service.usbRightManager = some rights ∨ dialog = some rights) ∧ UsbService.MayUse db env rights identity
  addSerialRight : ∀ env portId tokenId op, (w.service.addSerialRight db env portId tokenId).2.1 = some op →
    ∃ identity, identityAt w.latest portId = some identity ∧
      op = .addDeviceRightOfToken env.platform identity (toString tokenId.toNat)
  cancelSerialRight : ∀ env portId closeRet op, (w.service.cancelSerialRight db env portId closeRet).2.1 = some op →
    ∃ identity bundleName tokenId userId, identityAt w.latest portId = some identity ∧
      op = .removeDeviceRight ⟨userId, identity, bundleName, tokenId⟩

theorem Current.listed (current : w.Current) {env : Env} {portId : Int} {identity : String}
    (used : w.service.usedIdentity env portId = some identity) : identityAt w.latest portId = some identity := by
  rw [← current.identities env (UsbService.dbHelper_of_usedIdentity used), used]

theorem Current.rights (current : w.Current)
    (stored : ∀ rights, w.service.usbRightManager = some rights → rights = Right.run db w.ops) :
    w.RightsCurrent db where
  hasSerialRight env portId has := by
    obtain ⟨rights, identity, there, used, system | ⟨bundleName, tokenId, userId, info, granted⟩⟩ :=
      UsbService.hasSerialRight_cases has
    · exact ⟨identity, current.listed used, .inl system⟩
    · refine ⟨identity, current.listed used, .inr ⟨bundleName, tokenId, userId, rights, info, there, granted, ?_⟩⟩
      intro ok user
      rw [stored rights there] at granted
      obtain ⟨kept, held⟩ := Right.run_held (k := ⟨userId, identity, bundleName, tokenId⟩) ok user w.ops
      obtain ⟨t0, holds, valid⟩ :=
        (Right.hasRight_iff_held (k := ⟨userId, identity, bundleName, tokenId⟩) ok kept user env.now).1 granted
      exact ⟨t0, (held t0).1 holds, valid⟩
  requestSerialRight env portId dialog has := by
    obtain ⟨rights, identity, there, used, may⟩ := UsbService.requestSerialRight_cases has
    exact ⟨identity, rights, current.listed used, there, may⟩
  addSerialRight env portId tokenId op done := by
    obtain ⟨identity, used, same⟩ := UsbService.addSerialRight_cases done
    exact ⟨identity, current.listed used, same⟩
  cancelSerialRight env portId closeRet op done := by
    obtain ⟨identity, bundleName, tokenId, userId, used, same⟩ := UsbService.cancelSerialRight_cases done
    exact ⟨identity, bundleName, tokenId, userId, current.listed used, same⟩

theorem kept_start (serialManager : Option Bool) (rightManager : Bool) : (start serialManager rightManager).Kept := by
  refine ⟨fun portId => ?_, fun portId => ?_⟩
  · cases serialManager with
    | none => rfl
    | some serial => exact (ExtTreeMap.contains_empty : (∅ : ExtTreeMap Int SerialPort).contains portId = false)
  · rw [UsbService.recordedIdentity]
    simp [start, UsbService.started, identityAt]

end Registry

/-- In a run of steady refreshes the service knows exactly the ports of the last list, and checks, grants and
cancels the rights of the devices listed there; a step keeps this exactly if it is steady. -/
theorem serial_identity_current (db : Right.UsbRightDataBase) (serialManager : Option Bool) (rightManager : Bool)
    {w : Registry} (reached : Reach (Registry.step db) Registry.Steady (.start serialManager rightManager) w) :
    w.Current ∧ w.RightsCurrent db ∧ ∀ action w', w.step db action = some w' → (w'.Current ↔ w.Steady action) := by
  have kept : w.Kept := reached.invariant Registry.Kept (Registry.kept_start serialManager rightManager)
    fun _ _ _ kept => kept.step
  exact ⟨kept.current, kept.current.rights (Registry.rights_eq_run reached), fun _ _ => kept.current_iff⟩

/-- A scanner, with the identity of the sample key, and another device. -/
def scanner : DeviceInfo := ⟨1, 2, 4817, 4258, "A1"⟩
def modem : DeviceInfo := ⟨1, 2, 1046, 4097, "B7"⟩

/-- A second device is plugged in beside the first, and the host manager finds the same two. -/
theorem serial_identity_current_plugged :
    ∃ w, Reach (Registry.step Right.sampleDataBase) Registry.Steady (.start (some true) true) w ∧
      w.latest = [⟨0, scanner⟩, ⟨1, modem⟩] ∧ w.Current := by
  have run : Reach (Registry.step Right.sampleDataBase) Registry.Steady (.start (some true) true) _ :=
    .step (a := .addUsbSerialDevice (.ok [⟨0, scanner⟩, ⟨1, modem⟩]))
      (.step (a := .serialGetPortList false true (.ok [⟨0, scanner⟩, ⟨1, modem⟩]))
        (.step (a := .serialGetPortList false true (.ok [⟨0, scanner⟩])) .init
          (fun _ _ => nofun) rfl)
        (fun ports listed => by
          cases listed
          decide) rfl)
      (fun ports listed portId => by
        cases listed
        rfl) rfl
  exact ⟨_, run, rfl, (serial_identity_current _ _ _ run).1⟩

/-- The application of the sample key calls, and the token service knows it. -/
def scannerEnv : Env where
  caller := Host.sampleCaller
  now := Right.sampleReading
  platform := { Right.samplePlatform true with hapTokenInfo := fun _ => some ("com.example.scanner", 100) }

/-- The application gets the right to the first device, another device takes its port, and the host manager finds
it there. -/
def portReused : List Change :=
  [.serialGetPortList false true (.ok [⟨0, scanner⟩]), .addSerialRight scannerEnv 0 537,
    .addUsbSerialDevice (.ok [⟨0, modem⟩])]

/-- An unplugged port is still there; and when another device has taken the port, the right to the first device
is good for it. -/
theorem serial_identity_stale :
    (∃ w, Reach (Registry.step Right.sampleDataBase) anyStep (.start (some true) true) w ∧ w.latest = [] ∧
      w.service.isPortIdExist 0 = true) ∧
    ∃ w rights, Reach (Registry.step Right.sampleDataBase) anyStep (.start (some true) true) w ∧
      w.latest = [⟨0, modem⟩] ∧ (w.service.hasSerialRight Right.sampleDataBase scannerEnv 0).2 = true ∧
      w.service.usbRightManager = some rights ∧
      Right.Key.hasRight { Right.sampleKey with deviceName := modem.vidPidSerialNum } Right.sampleDataBase
        Right.sampleReading rights = false := by
  have unplugged : Reach (Registry.step Right.sampleDataBase) anyStep (.start (some true) true) _ := reach_of_runFrom
    [.serialGetPortList false true (.ok [⟨0, scanner⟩]), .serialGetPortList false true (.ok [])]
    (fun _ _ _ => trivial) .init rfl
  have reused : Reach (Registry.step Right.sampleDataBase) anyStep (.start (some true) true) _ :=
    reach_of_runFrom portReused (fun _ _ _ => trivial) .init rfl
  refine ⟨⟨_, unplugged, rfl, by decide +kernel⟩, _, _, reused, rfl, ?_, rfl, ?_⟩
  · decide +kernel
  · decide +kernel

end UsbManager.Serial
