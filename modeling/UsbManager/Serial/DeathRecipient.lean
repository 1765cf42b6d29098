import UsbManager.Right.Answers
import UsbManager.Serial.Identity

/-!
# The death of a client with a serial port

`SerialDeathRecipient::OnRemoteDied` makes two calls. `FreeTokenId` gets the token of the client that has
died. `CancelSerialRight` gets the port only, and asks who is calling: in the callback that is whoever the
IPC thread reports, the service itself or the client whose call is still on the thread. It removes the right
of that caller, and closes the port if that caller has it. The right is that to the identity in
`serialVidPidMap_`, which can be another than that of the device at the port, or none.
-/

namespace UsbManager.Serial

open Rdb
open Std (ExtTreeMap)

/-! ## The callback -/

def HdiCall.portId : HdiCall → Int
  | serialOpen _ portId | operation _ _ portId => portId

namespace UsbService

variable (db : Right.UsbRightDataBase) (s : UsbService) (env : Env) (portId : Int)

/-- The service with its serial manager. -/
def managed (m : SerialManager) : UsbService := { s with usbSerialManager := some m }

/-- What `CancelSerialRight` asks of the driver: a close, once the right has been removed. -/
def cancelSerialRightCalls (closeRet : Int) : List HdiCall :=
  match s.cancelSerialRight db env portId closeRet with
  | (.uecOk, some _, _) =>
    (s.usbSerialManager.map fun m => (m.serialClose env.caller.token portId closeRet).2.1).getD []
  | _ => []

/-- `OnRemoteDied` of the recipient for `portId` and `tokenId`, with its calls to the driver. The recipient was made
when the manager `m` was there, and a manager stays. -/
def onRemoteDied (m : SerialManager) (tokenId : UInt32) (closeRet : Int) : List HdiCall × UsbService :=
  let freed := m.freeTokenId tokenId portId
  let s := s.managed freed.2
  (freed.1 ++ s.cancelSerialRightCalls db env portId closeRet, (s.cancelSerialRight db env portId closeRet).2.2)

/-- The token that has the port. -/
def portOwner : Option UInt32 := s.usbSerialManager.bind (·.portTokenMap[portId]?)

def storedRights : List Right.Row := (s.usbRightManager.map Store.stored).getD []

/-- The right that `CancelSerialRight` removes, if it comes that far. -/
def cancelKey : Option Right.Key :=
  match s.usbRightManager, s.portDevice env portId with
  | some _, .ok (_, identity) =>
    if env.caller.isSystemAppOrSa then none
    else env.caller.getCallingInfo.map fun (bundleName, tokenId, userId) => ⟨userId, identity, bundleName, tokenId⟩
  | _, _ => none

end UsbService

/-- The identity of the device that was listed last at a port. -/
def SerialManager.deviceIdentity (m : SerialManager) (portId : Int) : Option String :=
  m.serialPortMap[portId]?.map (·.deviceInfo.vidPidSerialNum)

/-- An application that has opened a port, with its bundle and its user. -/
structure Client where
  tokenId : UInt32
  bundleName : String
  userId : Int32

namespace Client

variable (client : Client)

def tokenIdStr : String := toString client.tokenId.toNat

/-- The right of the application to a device. -/
def key (identity : String) : Right.Key := ⟨client.userId, identity, client.bundleName, client.tokenIdStr⟩

end Client

/-! ## What the callback does -/

namespace UsbService

variable {db : Right.UsbRightDataBase} {s : UsbService} {env : Env} {portId : Int} {closeRet : Int} {m : SerialManager}

theorem cancelSerialRight_of_none (none : s.cancelKey env portId = none) :
    (s.cancelSerialRight db env portId closeRet).2 = (Option.none, s) ∧
      s.cancelSerialRightCalls db env portId closeRet = [] := by
  have unchanged : (s.cancelSerialRight db env portId closeRet).2 = (Option.none, s) := by
    unfold cancelKey at none
    unfold cancelSerialRight
    cases manager : s.usbRightManager with
    | none => rfl
    | some rights =>
      rw [manager] at none
      cases device : s.portDevice env portId with
      | error ret => rfl
      | ok entry =>
        rw [device] at none
        dsimp only at none ⊢
        split_ifs at none ⊢ with system
        · rfl
        · rw [Option.map_eq_none_iff.1 none]
  refine ⟨unchanged, ?_⟩
  unfold cancelSerialRightCalls
  split
  next code op left answered =>
    rw [answered] at unchanged
    cases unchanged
  next => rfl

theorem cancelKey_cases {k : Right.Key} (found : s.cancelKey env portId = some k) :
    ∃ rights name, s.usbRightManager = some rights ∧ s.portDevice env portId = .ok (name, k.deviceName) ∧
      env.caller.isSystemAppOrSa = false ∧ env.caller.getCallingInfo = some (k.bundleName, k.tokenId, k.uid) := by
  unfold cancelKey at found
  cases manager : s.usbRightManager with
  | none =>
    rw [manager] at found
    cases found
  | some rights =>
    rw [manager] at found
    cases device : s.portDevice env portId with
    | error ret =>
      rw [device] at found
      cases found
    | ok entry =>
      rw [device] at found
      dsimp only at found
      split_ifs at found with system
      obtain ⟨info, called, rfl⟩ := Option.map_eq_some_iff.1 found
      exact ⟨rights, entry.1, rfl, rfl, Bool.eq_false_iff.2 system, called⟩

/-- The token of the right is that of the caller. -/
theorem tokenId_of_cancelKey {k : Right.Key} (found : s.cancelKey env portId = some k) :
    k.tokenId = toString env.caller.token.toNat := by
  obtain ⟨-, -, -, -, -, called⟩ := cancelKey_cases found
  obtain ⟨info, -, same⟩ := Option.map_eq_some_iff.1 called
  exact (congrArg (·.2.1) same).symm

/-- The identity of the right is the recorded one. -/
theorem recordedIdentity_of_cancelKey {k : Right.Key} (found : s.cancelKey env portId = some k) :
    s.recordedIdentity portId = some k.deviceName := by
  obtain ⟨-, name, -, device, -, -⟩ := cancelKey_cases found
  unfold portDevice getDeviceVidPidSerialNumber at device
  split_ifs at device
  split at device
  next => cases device
  next entry recorded =>
    cases device
    rw [recordedIdentity, recorded]
    rfl

/-- What is left of the service and what the driver is asked, once the right has been asked to go. -/
def cancelled (s : UsbService) (env : Env) (portId closeRet : Int) (removed : Bool × Store Right.Row) :
    List HdiCall × UsbService :=
  if removed.1 then
    ((s.usbSerialManager.map fun m => (m.serialClose env.caller.token portId closeRet).2.1).getD [],
      { s with
        usbRightManager := some removed.2
        usbSerialManager := s.usbSerialManager.map fun m => (m.serialClose env.caller.token portId closeRet).2.2 })
  else ([], { s with usbRightManager := some removed.2 })

theorem cancelSerialRight_of_some {k : Right.Key} (found : s.cancelKey env portId = some k) :
    ∃ rights, s.usbRightManager = some rights ∧
      (s.cancelSerialRightCalls db env portId closeRet, (s.cancelSerialRight db env portId closeRet).2.2) =
        s.cancelled env portId closeRet
          (Right.removeDeviceRight db k.deviceName k.bundleName k.tokenId k.uid rights) := by
  obtain ⟨rights, name, manager, device, system, called⟩ := cancelKey_cases found
  refine ⟨rights, manager, ?_⟩
  unfold cancelSerialRightCalls cancelSerialRight cancelled
  rw [manager]
  dsimp only
  rw [device]
  dsimp only
  rw [system, called]
  dsimp only
  cases (Right.removeDeviceRight db k.deviceName k.bundleName k.tokenId k.uid rights).1 with
  | true => rfl
  | false => rfl

end UsbService

/-! ### The port -/

namespace SerialManager

variable {m : SerialManager} {tokenId caller : UInt32} {portId q : Int} {closeRet : Int}

theorem freeTokenId_held (held : m.portTokenMap[portId]? = some tokenId) :
    (m.freeTokenId tokenId portId).2 = m.disown portId ∧
      ∀ call ∈ (m.freeTokenId tokenId portId).1, call.portId = portId := by
  unfold freeTokenId
  rw [if_pos held]
  refine ⟨rfl, fun call member => ?_⟩
  split at member
  · obtain rfl := List.mem_singleton.1 member
    rfl
  · cases member

theorem freeTokenId_other (other : m.portTokenMap[portId]? ≠ some tokenId) : m.freeTokenId tokenId portId = ([], m) :=
  if_neg other

theorem portTokenMap_disown : (m.disown portId).portTokenMap[q]? = if q = portId then none else m.portTokenMap[q]? := by
  unfold disown
  rw [ExtTreeMap.getElem?_erase]
  by_cases same : portId = q
  · simp [same]
  · have differs : compare portId q ≠ .eq := by simpa using same
    rw [if_neg differs, if_neg (Ne.symm same)]

/-- A close that is refused does nothing. -/
theorem serialClose_refused (refused : m.checkPortAndTokenId caller portId ≠ .uecOk) :
    (m.serialClose caller portId closeRet).2 = ([], m) := by
  unfold serialClose operate
  split
  next accepted => exact absurd accepted refused
  next => rfl

theorem serialClose_accepted (accepted : m.checkPortAndTokenId caller portId = .uecOk) :
    .operation .serialClose caller portId ∈ (m.serialClose caller portId closeRet).2.1 := by
  unfold serialClose operate
  rw [accepted]
  dsimp only
  split <;> exact List.mem_singleton_self _

theorem owner_of_accepted (accepted : m.checkPortAndTokenId caller portId = .uecOk) :
    m.portTokenMap[portId]? = some caller := by
  unfold checkPortAndTokenId checkTokenIdValidity at accepted
  split at accepted
  next => cases accepted
  next =>
    split at accepted
    next own => exact of_decide_eq_true own
    next => cases accepted

/-- After `FreeTokenId` of a token, its close is refused. -/
theorem freed_refuses : (m.freeTokenId tokenId portId).2.checkPortAndTokenId tokenId portId ≠ .uecOk := by
  intro accepted
  have own := owner_of_accepted accepted
  by_cases held : m.portTokenMap[portId]? = some tokenId
  · rw [(freeTokenId_held held).1, portTokenMap_disown, if_pos rfl] at own
    cases own
  · rw [freeTokenId_other held] at own
    exact held own

/-- It does not let another token close the port that could not before. -/
theorem freed_refuses_other (refused : m.checkPortAndTokenId caller portId ≠ .uecOk) :
    (m.freeTokenId tokenId portId).2.checkPortAndTokenId caller portId ≠ .uecOk := by
  by_cases held : m.portTokenMap[portId]? = some tokenId
  · intro accepted
    have own := owner_of_accepted accepted
    rw [(freeTokenId_held held).1, portTokenMap_disown, if_pos rfl] at own
    cases own
  · rwa [freeTokenId_other held]

theorem serialPortMap_freeTokenId : (m.freeTokenId tokenId portId).2.serialPortMap = m.serialPortMap := by
  unfold freeTokenId
  split <;> rfl

end SerialManager

/-! ## What is promised -/

namespace UsbService

variable (db : Right.UsbRightDataBase) (s : UsbService) (env : Env) (portId : Int) (m : SerialManager) (client : Client)

/-- After the death of `client`, which had opened `portId`, the port is free if the client had it, its right to the
device at the port is gone, and nothing of others has changed. -/
structure CleanedUp (result : List HdiCall × UsbService) : Prop where
  freed : m.portTokenMap[portId]? = some client.tokenId → result.2.portOwner portId = none
  ports : ∀ q, m.portTokenMap[q]? ≠ some client.tokenId →
    result.2.portOwner q = m.portTokenMap[q]? ∧ ∀ call ∈ result.1, call.portId ≠ q
  removed : ∀ identity ∈ m.deviceIdentity portId, result.2.storedRights.any (client.key identity).isRecord = false
  rights : result.2.storedRights.filter (·.tokenId ≠ some client.tokenIdStr) =
    s.storedRights.filter (·.tokenId ≠ some client.tokenIdStr)

/-- The caller who is reported is the client, and the identity that is recorded that of the device at the port, unless
there is nothing that the call could do to anybody. -/
structure ReportedRight : Prop where
  own : ∀ identity ∈ m.deviceIdentity portId, s.storedRights.any (client.key identity).isRecord = true →
    s.recordedIdentity portId = some identity ∧
      (s.managed m).cancelKey env portId = some (client.key identity) ∧
      client.userId ≠ Right.usbRightUseridConsole ∧ ∀ rights ∈ s.usbRightManager, Right.Commits db rights
  others : env.caller.token ≠ client.tokenId → ∀ k ∈ (s.managed m).cancelKey env portId,
    if k.uid = Right.usbRightUseridConsole then m.checkPortAndTokenId env.caller.token portId ≠ .uecOk
    else ∀ rights ∈ s.usbRightManager, Right.Commits db rights → rights.stored.any k.isRecord = false

end UsbService

/-! ## The proof -/

namespace UsbService

variable {db : Right.UsbRightDataBase} {s : UsbService} {env : Env} {portId closeRet : Int} {m : SerialManager}
  {client : Client}

theorem portDevice_managed {m' : SerialManager} (same : m'.serialPortMap = m.serialPortMap) :
    (s.managed m').portDevice env portId = (s.managed m).portDevice env portId := by
  have valid : (s.managed m').validateUsbSerialManagerAndPort portId =
      (s.managed m).validateUsbSerialManagerAndPort portId := by
    have known : m'.isPortIdExist portId = m.isPortIdExist portId := by
      unfold SerialManager.isPortIdExist
      rw [same]
    exact congrArg (fun b => if b = true then UsbErrCode.uecOk else .uecSerialPortNotExist) known
  unfold portDevice
  rw [valid]
  rfl

theorem cancelKey_managed {m' : SerialManager} (same : m'.serialPortMap = m.serialPortMap) :
    (s.managed m').cancelKey env portId = (s.managed m).cancelKey env portId := by
  unfold cancelKey
  rw [portDevice_managed same]
  rfl

/-- The manager and the calls of `FreeTokenId`, for the ports of others. -/
theorem freed_ports {tokenId : UInt32} {q : Int} (other : m.portTokenMap[q]? ≠ some tokenId) :
    (m.freeTokenId tokenId portId).2.portTokenMap[q]? = m.portTokenMap[q]? ∧
      ∀ call ∈ (m.freeTokenId tokenId portId).1, call.portId ≠ q := by
  by_cases held : m.portTokenMap[portId]? = some tokenId
  · have apart : q ≠ portId := by
      rintro rfl
      exact other held
    obtain ⟨left, calls⟩ := SerialManager.freeTokenId_held held
    rw [left, SerialManager.portTokenMap_disown, if_neg apart]
    exact ⟨rfl, fun call member => by rw [calls call member]; exact Ne.symm apart⟩
  · rw [SerialManager.freeTokenId_other held]
    exact ⟨rfl, nofun⟩

theorem freed_port {tokenId : UInt32} (held : m.portTokenMap[portId]? = some tokenId) :
    (m.freeTokenId tokenId portId).2.portTokenMap[portId]? = none := by
  rw [(SerialManager.freeTokenId_held held).1, SerialManager.portTokenMap_disown, if_pos rfl]

/-- A close that is refused leaves the removal alone. -/
theorem cancelled_refused {removed : Bool × Store Right.Row}
    (refused : removed.1 = true → m.checkPortAndTokenId env.caller.token portId ≠ .uecOk) :
    (s.managed m).cancelled env portId closeRet removed =
      ([], { s.managed m with usbRightManager := some removed.2 }) := by
  unfold cancelled
  split
  next done =>
    have nothing : (m.serialClose env.caller.token portId closeRet).2 = ([], m) :=
      SerialManager.serialClose_refused (refused done)
    unfold managed
    simp only [Option.map_some, nothing, Option.getD_some]
  next => rfl

/-- `FreeTokenId` does not change which right would be removed. -/
theorem cancelKey_freed (tokenId : UInt32) :
    (s.managed (m.freeTokenId tokenId portId).2).cancelKey env portId = (s.managed m).cancelKey env portId :=
  cancelKey_managed SerialManager.serialPortMap_freeTokenId

theorem onRemoteDied_of_none {tokenId : UInt32} (none : (s.managed m).cancelKey env portId = none) :
    s.onRemoteDied db env portId m tokenId closeRet =
      ((m.freeTokenId tokenId portId).1, s.managed (m.freeTokenId tokenId portId).2) := by
  rw [← cancelKey_freed tokenId] at none
  obtain ⟨left, calls⟩ := @cancelSerialRight_of_none db _ _ _ closeRet none
  unfold onRemoteDied
  dsimp only
  rw [left, calls, List.append_nil]

theorem onRemoteDied_of_some {tokenId : UInt32} {k : Right.Key} (found : (s.managed m).cancelKey env portId = some k) :
    ∃ rights, s.usbRightManager = some rights ∧
      let freed := m.freeTokenId tokenId portId
      let cancelled := (s.managed freed.2).cancelled env portId closeRet
        (Right.removeDeviceRight db k.deviceName k.bundleName k.tokenId k.uid rights)
      s.onRemoteDied db env portId m tokenId closeRet = (freed.1 ++ cancelled.1, cancelled.2) := by
  rw [← cancelKey_freed tokenId] at found
  obtain ⟨rights, manager, done⟩ := @cancelSerialRight_of_some db _ _ _ closeRet _ found
  refine ⟨rights, manager, ?_⟩
  unfold onRemoteDied
  dsimp only
  rw [← done]

/-- What a death leaves behind: the port freed for `tokenId`, and `rows` stored. -/
structure Freed (s : UsbService) (portId : Int) (m : SerialManager) (tokenId : UInt32) (rows : List Right.Row)
    (result : List HdiCall × UsbService) : Prop where
  calls : result.1 = (m.freeTokenId tokenId portId).1
  owner : ∀ q, result.2.portOwner q = (m.freeTokenId tokenId portId).2.portTokenMap[q]?
  stored : result.2.storedRights = rows

/-- The rows after a removal of `k`'s records, which only a commit makes. -/
def rowsWithout (db : Right.UsbRightDataBase) (s : UsbService) (k : Right.Key) : List Right.Row :=
  if k.uid ≠ Right.usbRightUseridConsole ∧ ∀ rights ∈ s.usbRightManager, Right.Commits db rights then
    s.storedRights.filter fun row => !k.isRecord row
  else s.storedRights

theorem mem_rowsWithout {k : Right.Key} {row : Right.Row} (kept : row ∈ rowsWithout db s k) : row ∈ s.storedRights := by
  unfold rowsWithout at kept
  split at kept
  · exact List.mem_of_mem_filter kept
  · exact kept

section Removal

variable {k : Right.Key} {rights : Store Right.Row}

theorem storedRights_of_manager (manager : s.usbRightManager = some rights) : s.storedRights = rights.stored := by
  unfold storedRights
  rw [manager]
  rfl

/-- The removal leaves these rows. -/
theorem removed_stored (manager : s.usbRightManager = some rights) :
    (Right.removeDeviceRight db k.deviceName k.bundleName k.tokenId k.uid rights).2.stored = rowsWithout db s k := by
  have stored := storedRights_of_manager manager
  have only : (∀ there ∈ s.usbRightManager, Right.Commits db there) ↔ Right.Commits db rights := by
    rw [manager]
    simp
  unfold rowsWithout
  by_cases console : k.uid = Right.usbRightUseridConsole
  · rw [Right.removeDeviceRight_console console, if_neg fun both => both.1 console, stored]
  · rw [(Right.removeDeviceRight_stored console).1]
    simp only [ne_eq, console, not_false_eq_true, true_and, only, stored]

/-- It reports success without the table for the console, else if it is committed and has found a record. -/
theorem removed_iff :
    (Right.removeDeviceRight db k.deviceName k.bundleName k.tokenId k.uid rights).1 = true ↔
      k.uid = Right.usbRightUseridConsole ∨
        (k.uid ≠ Right.usbRightUseridConsole ∧ Right.Commits db rights ∧ rights.stored.any k.isRecord = true) := by
  by_cases console : k.uid = Right.usbRightUseridConsole
  · rw [Right.removeDeviceRight_console console]
    simp [console]
  · rw [(Right.removeDeviceRight_stored console).2]
    simp [console]

end Removal

theorem freed_of_none {tokenId : UInt32} (none : (s.managed m).cancelKey env portId = none) :
    Freed s portId m tokenId s.storedRights (s.onRemoteDied db env portId m tokenId closeRet) := by
  rw [onRemoteDied_of_none none]
  exact ⟨rfl, fun _ => rfl, rfl⟩

theorem storedRights_of_some {tokenId : UInt32} {k : Right.Key} (found : (s.managed m).cancelKey env portId = some k) :
    (s.onRemoteDied db env portId m tokenId closeRet).2.storedRights = rowsWithout db s k := by
  obtain ⟨rights, manager, done⟩ := @onRemoteDied_of_some db _ _ _ closeRet _ tokenId _ found
  rw [done, ← removed_stored manager]
  unfold cancelled storedRights
  split <;> rfl

theorem freed_of_some {tokenId : UInt32} {k : Right.Key} (found : (s.managed m).cancelKey env portId = some k)
    (refused : ∀ rights ∈ s.usbRightManager,
      (Right.removeDeviceRight db k.deviceName k.bundleName k.tokenId k.uid rights).1 = true →
        (m.freeTokenId tokenId portId).2.checkPortAndTokenId env.caller.token portId ≠ .uecOk) :
    Freed s portId m tokenId (rowsWithout db s k) (s.onRemoteDied db env portId m tokenId closeRet) := by
  have stored := @storedRights_of_some db _ _ _ closeRet _ tokenId _ found
  obtain ⟨rights, manager, done⟩ := @onRemoteDied_of_some db _ _ _ closeRet _ tokenId _ found
  dsimp only at done
  rw [cancelled_refused (refused rights manager)] at done
  refine ⟨?_, ?_, stored⟩
  · rw [done, List.append_nil]
  · rw [done]
    exact fun _ => rfl

/-- What is promised of the ports. -/
theorem Freed.cleanedUp {rows : List Right.Row} {result : List HdiCall × UsbService}
    (freed : Freed s portId m client.tokenId rows result)
    (removed : ∀ identity ∈ m.deviceIdentity portId, rows.any (client.key identity).isRecord = false)
    (rights : rows.filter (·.tokenId ≠ some client.tokenIdStr) =
      s.storedRights.filter (·.tokenId ≠ some client.tokenIdStr)) :
    s.CleanedUp portId m client result := by
  obtain ⟨calls, owner, stored⟩ := freed
  refine ⟨fun held => ?_, fun q other => ?_, ?_, ?_⟩
  · rw [owner, freed_port held]
  · rw [owner, calls]
    exact freed_ports other
  · rw [stored]
    exact removed
  · rw [stored]
    exact rights

/-- The removal of the client's own records is no change for others. -/
theorem rowsWithout_filter {k : Right.Key} (own : k.tokenId = client.tokenIdStr) :
    (rowsWithout db s k).filter (·.tokenId ≠ some client.tokenIdStr) =
      s.storedRights.filter (·.tokenId ≠ some client.tokenIdStr) := by
  unfold rowsWithout
  split
  · rw [List.filter_filter]
    refine List.filter_congr fun row _ => ?_
    by_cases mine : row.tokenId = some client.tokenIdStr
    · simp [mine]
    · have other : k.isRecord row = false := by
        rw [Bool.eq_false_iff]
        intro record
        have token := (Right.isRecord_iff.1 record).2.2.2
        rw [own] at token
        exact mine token
      simp [other]
  · rfl

/-- The removal takes the records of one key, that of `own` or another. -/
theorem rowsWithout_any_iff {k own : Right.Key} :
    (rowsWithout db s k).any own.isRecord = false ↔
      (s.storedRights.any own.isRecord = true →
        k = own ∧ k.uid ≠ Right.usbRightUseridConsole ∧ ∀ rights ∈ s.usbRightManager, Right.Commits db rights) := by
  constructor
  · intro gone has
    obtain ⟨row, member, record⟩ := List.any_eq_true.1 has
    rw [rowsWithout] at gone
    split at gone
    next both =>
      have removed : k.isRecord row = true := by
        by_contra stays
        have still := List.any_eq_false.1 gone row (List.mem_filter.2 ⟨member, by simpa using stays⟩)
        exact still record
      exact ⟨Right.isRecord_inj removed record, both⟩
    next =>
      rw [has] at gone
      cases gone
  · intro promised
    rw [Bool.eq_false_iff]
    intro has
    obtain ⟨row, kept, record⟩ := List.any_eq_true.1 has
    obtain ⟨rfl, both⟩ := promised (List.any_eq_true.2 ⟨row, mem_rowsWithout kept, record⟩)
    rw [rowsWithout, if_pos both] at kept
    have gone := (List.mem_filter.1 kept).2
    rw [record] at gone
    cases gone

/-- The removal of the records of another token is no change if there are none. -/
theorem rowsWithout_filter_iff {k : Right.Key} (apart : k.tokenId ≠ client.tokenIdStr) :
    (rowsWithout db s k).filter (·.tokenId ≠ some client.tokenIdStr) =
        s.storedRights.filter (·.tokenId ≠ some client.tokenIdStr) ↔
      (k.uid ≠ Right.usbRightUseridConsole →
        ∀ rights ∈ s.usbRightManager, Right.Commits db rights → rights.stored.any k.isRecord = false) := by
  constructor
  · intro kept user rights manager commits
    rw [Bool.eq_false_iff]
    intro any
    obtain ⟨row, member, record⟩ := List.any_eq_true.1 any
    rw [← storedRights_of_manager (Option.mem_def.1 manager)] at member
    have all : ∀ there ∈ s.usbRightManager, Right.Commits db there := by
      intro there same
      obtain rfl := Option.mem_unique manager same
      exact commits
    have token : row.tokenId ≠ some client.tokenIdStr := by
      rw [(Right.isRecord_iff.1 record).2.2.2]
      exact fun same => apart (Option.some.inj same)
    have before : row ∈ s.storedRights.filter (·.tokenId ≠ some client.tokenIdStr) :=
      List.mem_filter.2 ⟨member, by simpa using token⟩
    rw [← kept, rowsWithout, if_pos ⟨user, all⟩] at before
    have gone := (List.mem_filter.1 (List.mem_of_mem_filter before)).2
    rw [record] at gone
    cases gone
  · intro none
    unfold rowsWithout
    split
    next both =>
      refine congrArg (List.filter _) (List.filter_eq_self.2 fun row member => ?_)
      cases manager : s.usbRightManager with
      | none =>
        rw [storedRights, manager] at member
        cases member
      | some rights =>
        rw [storedRights_of_manager manager] at member
        have record := List.any_eq_false.1 (none both.1 rights manager (both.2 rights manager)) row member
        simpa using record
    next => rfl

/-- A caller with another token has other records. -/
theorem tokenId_of_other {k : Right.Key} (found : (s.managed m).cancelKey env portId = some k)
    (other : env.caller.token ≠ client.tokenId) : k.tokenId ≠ client.tokenIdStr := by
  rw [tokenId_of_cancelKey found, Client.tokenIdStr, ne_eq, Separator.toString_inj, UInt32.toNat_inj]
  exact other

theorem cleanedUp_of_reportedRight (right : s.ReportedRight db env portId m client) :
    s.CleanedUp portId m client (s.onRemoteDied db env portId m client.tokenId closeRet) := by
  cases found : (s.managed m).cancelKey env portId with
  | none =>
    refine (freed_of_none found).cleanedUp (fun identity listed => ?_) rfl
    rw [Bool.eq_false_iff]
    intro has
    have key := (right.own identity listed has).2.1
    rw [found] at key
    cases key
  | some k =>
    -- whoever is reported, the port is not closed a second time
    have refused : ∀ rights ∈ s.usbRightManager,
        (Right.removeDeviceRight db k.deviceName k.bundleName k.tokenId k.uid rights).1 = true →
          (m.freeTokenId client.tokenId portId).2.checkPortAndTokenId env.caller.token portId ≠ .uecOk := by
      intro rights manager removed
      by_cases own : env.caller.token = client.tokenId
      · rw [own]
        exact SerialManager.freed_refuses
      · have others := right.others own k found
        rcases removed_iff.1 removed with console | ⟨user, commits, any⟩
        · rw [if_pos console] at others
          exact SerialManager.freed_refuses_other others
        · rw [if_neg user] at others
          rw [others rights manager commits] at any
          cases any
    refine (freed_of_some found refused).cleanedUp (fun identity listed => ?_) ?_
    · refine rowsWithout_any_iff.2 fun has => ?_
      obtain ⟨-, key, user, commits⟩ := right.own identity listed has
      obtain rfl := Option.some.inj (found.symm.trans key)
      exact ⟨rfl, user, commits⟩
    · by_cases own : env.caller.token = client.tokenId
      · refine rowsWithout_filter ?_
        rw [tokenId_of_cancelKey found, own]
        rfl
      · refine (rowsWithout_filter_iff (tokenId_of_other found own)).2 fun user => ?_
        have others := right.others own k found
        rwa [if_neg user] at others

theorem reportedRight_of_cleanedUp
    (cleaned : s.CleanedUp portId m client (s.onRemoteDied db env portId m client.tokenId closeRet)) :
    s.ReportedRight db env portId m client := by
  constructor
  case own =>
    intro identity listed has
    have gone := cleaned.removed identity listed
    cases found : (s.managed m).cancelKey env portId with
    | none =>
      have freed := @freed_of_none db _ _ _ closeRet _ client.tokenId found
      rw [freed.stored, has] at gone
      cases gone
    | some k =>
      rw [storedRights_of_some found] at gone
      obtain ⟨rfl, both⟩ := rowsWithout_any_iff.1 gone has
      exact ⟨recordedIdentity_of_cancelKey found, rfl, both⟩
  case others =>
    intro other k found
    split
    next console =>
      intro accepted
      have own := SerialManager.owner_of_accepted accepted
      have foreign : m.portTokenMap[portId]? ≠ some client.tokenId := by
        rw [own]
        exact fun same => other (Option.some.inj same)
      obtain ⟨rights, manager, done⟩ := @onRemoteDied_of_some db _ _ _ closeRet _ client.tokenId _ found
      have removed : (Right.removeDeviceRight db k.deviceName k.bundleName k.tokenId k.uid rights).1 = true :=
        removed_iff.2 (.inl console)
      have none := (cleaned.ports portId foreign).2
      rw [done, SerialManager.freeTokenId_other foreign] at none
      dsimp only at none
      rw [cancelled, if_pos removed] at none
      exact none _ (SerialManager.serialClose_accepted accepted) rfl
    next user =>
      have kept := cleaned.rights
      rw [storedRights_of_some found] at kept
      exact (rowsWithout_filter_iff (tokenId_of_other found other)).1 kept user

end UsbService

/-- The death of a client cleans up after the client and nobody else exactly if the caller who is reported is the
client and the recorded identity the right one, or the call can do nothing. -/
theorem serial_death_cleaned_iff (db : Right.UsbRightDataBase) (s : UsbService) (env : Env) (portId closeRet : Int)
    (m : SerialManager) (client : Client) :
    s.CleanedUp portId m client (s.onRemoteDied db env portId m client.tokenId closeRet) ↔
      s.ReportedRight db env portId m client :=
  ⟨UsbService.reportedRight_of_cleanedUp, UsbService.cleanedUp_of_reportedRight⟩

/-! ## Another caller -/

def scannerClient : Client := ⟨537, "com.example.scanner", 100⟩

/-- Another application of the user calls. -/
def terminalEnv : Env where
  caller := ⟨600, false, some ("com.example.terminal", 100)⟩
  now := Right.sampleReading
  platform := { Right.samplePlatform true with hapTokenInfo := fun _ => some ("com.example.terminal", 100) }

/-- The callback runs with the identity of the service. -/
def serviceEnv : Env := { scannerEnv with caller := ⟨1, true, none⟩ }

/-- Both applications have the right to the port. -/
def shared : UsbService :=
  let listed := ((UsbService.started (some true) true).serialGetPortList false true (.ok [⟨0, scanner⟩])).2
  let granted := (listed.addSerialRight Right.sampleDataBase scannerEnv 0 537).2.2
  (granted.addSerialRight Right.sampleDataBase terminalEnv 0 600).2.2

/-- The first application has the port open. -/
def opened (m : SerialManager) : SerialManager := (m.serialOpen 537 0 0).2.2

/-- It has closed the port, and the second one has opened it. -/
def reopened (m : SerialManager) : SerialManager := (((opened m).serialClose 537 0 0).2.2.serialOpen 600 0 0).2.2

/-- The driver has listed no port since. -/
def unlisted : UsbService := (shared.serialGetPortList true true (.ok [])).2

/-- The first application dies while this caller is reported. -/
def died (s : UsbService) (env : Env) (m : SerialManager) : List HdiCall × UsbService :=
  s.onRemoteDied Right.sampleDataBase env 0 m scannerClient.tokenId 0

/-- With the second application reported, its port is closed and its right removed. With the service reported, the
right of the first one stays, and so it does where the first one is reported and no identity is recorded. -/
theorem serial_death_misattributed :
    ∃ m, shared.usbSerialManager = some m ∧ (reopened m).portTokenMap[(0 : Int)]? = some 600 ∧
      (died shared terminalEnv (reopened m)).2.portOwner 0 = none ∧
      (died shared terminalEnv (reopened m)).2.storedRights.map (·.tokenId) = [some "537"] ∧
      ¬ shared.CleanedUp 0 (reopened m) scannerClient (died shared terminalEnv (reopened m)) ∧
      (died shared serviceEnv (opened m)).2.storedRights.map (·.tokenId) = [some "537", some "600"] ∧
      ¬ shared.CleanedUp 0 (opened m) scannerClient (died shared serviceEnv (opened m)) ∧
      unlisted.usbSerialManager = some m ∧
      (died unlisted scannerEnv (opened m)).2.storedRights.map (·.tokenId) = [some "537", some "600"] ∧
      ¬ unlisted.CleanedUp 0 (opened m) scannerClient (died unlisted scannerEnv (opened m)) := by
  refine ⟨_, rfl, by decide +kernel, by decide +kernel, by decide +kernel, fun cleaned => ?_, by decide +kernel,
    fun cleaned => ?_, rfl, by decide +kernel, fun cleaned => ?_⟩
  · have kept := (cleaned.ports 0 (by decide +kernel)).1
    revert kept
    decide +kernel
  · have gone := cleaned.removed scanner.vidPidSerialNum (by decide +kernel)
    revert gone
    decide +kernel
  · have gone := cleaned.removed scanner.vidPidSerialNum (by decide +kernel)
    revert gone
    decide +kernel

end UsbManager.Serial
