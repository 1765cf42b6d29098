import UsbManager.Host.Identity
import UsbManager.Lib.Transition
import UsbManager.Right.TokenString

/-!
# The dialog that asks for a right

A request for a right that the application does not have asks the user. `dialogRunning_` lets one request at a
time do so: it stores what the dialog shows in `usbDialogParams_`, resets the semaphore `waitDialogDisappear_`,
has the ability manager connect to the dialog and waits for the semaphore. The connection is told
`OnAbilityConnectDone`, which sends the parameters, and `OnAbilityDisconnectDone`, which posts the semaphore. What
the user allows arrives as one more request, which finds the device by its address.

Requests, device events, operations on rights and callbacks of connections interleave. For each connection that it
has agreed to make, the ability manager makes at most one call of `OnAbilityConnectDone` and, after it or without
it, at most one of `OnAbilityDisconnectDone`. A connection can end at any time: when a device goes, `UnShowUsbDialog` asks
for it.
-/

namespace UsbManager.Host.UsbService

/-- `UsbService::AddAccessRight`; `checked` is the answer of `CheckSysApiPermission`. -/
def addAccessRight (db : Right.UsbRightDataBase) (s : UsbService) (p : Right.Platform) (checked : UsbErrCode)
    (tokenId deviceName : String) : UsbErrCode × UsbService :=
  match s.usbRightManager with
  | none => (.uecServiceInvalidValue, s)
  | some rights =>
    if checked ≠ .uecOk then (checked, s)
    else
      match s.deviceVidPidMap[deviceName]? with
      | none => (.uecInterfaceInvalidValue, s)
      | some deviceVidPidSerialNum =>
        let added := Right.addDeviceRightOfToken db p deviceVidPidSerialNum tokenId rights
        (if added.1 then .uecOk else .uecServiceInnerErr, { s with usbRightManager := some added.2 })

end UsbManager.Host.UsbService

namespace UsbManager.Dialog

open Std (ExtTreeMap)
open Rdb Transition

abbrev Params := ExtTreeMap String String

/-- What a right is asked for. -/
inductive Subject where
  | device (busDev : String)
  /-- `text` is what `GetJsonString` makes of the accessory. -/
  | accessory (product text : String)
  | serial (portId : Int32)
  deriving DecidableEq

/-- The arguments of `UsbRightManager::RequestRight`. -/
structure Request where
  subject : Subject
  deviceName : String
  bundleName : String
  tokenId : UInt32
  userId : Int32
  deriving DecidableEq

namespace Request

variable (r : Request)

/-- The right that it asks for. -/
def key : Right.Key := ⟨r.userId, r.deviceName, r.bundleName, toString r.tokenId.toNat⟩

/-- `usbDialogParams_` for the answers of `GetAppName` and `GetProductName`; `none` is a port's dialog that is not
shown, since the token is no `int32_t`. -/
def usbDialogParams (appName productName : Option String) : Option Params :=
  let appName := appName.getD r.bundleName
  let tokenId := toString r.tokenId.toNat
  match r.subject with
  | .device busDev =>
    some ((((((∅ : Params).insert "bundleName" r.bundleName).insert "deviceName" busDev).insert "tokenId" tokenId).insert
      "appName" appName).insert "productName" (productName.getD busDev))
  | .accessory product text =>
    some (((((((∅ : Params).insert "bundleName" r.bundleName).insert "deviceName" r.deviceName).insert
      "tokenId" tokenId).insert "appName" appName).insert "productName" product).insert "accessory" text)
  | .serial portId =>
    let castId := r.tokenId.toInt32
    if castId < 0 then none
    else
      some (((((((∅ : Params).insert "portId" (toString portId.toInt)).insert "tokenId" (toString castId.toInt)).insert
        "bundleName" "com.example.serial").insert "deviceName" "1-1").insert "appName" appName).insert
        "productName" ("COM" ++ toString portId.toInt))

/-- The parameters are those of the request, for some names of the application and the product. -/
def Asks (params : Params) : Prop := ∃ appName productName, r.usbDialogParams appName productName = some params

end Request

/-- How far the request is that holds `dialogRunning_`. -/
inductive Phase where
  | preparing
  | stored
  /-- Past `sem_init`. -/
  | ready
  | waiting (connection : Nat)
  | woken
  deriving DecidableEq

/-- A connection between the agreement of the ability manager and `OnAbilityDisconnectDone`. -/
inductive Connection where
  | connecting
  /-- There is no remote object, or it has not taken the parameters. -/
  | failed
  | shown (params : Params)
  /-- The user has allowed, and the dialog ends. -/
  | allowed

def Connection.isConnecting : Connection → Bool
  | .connecting => true
  | _ => false

structure World where
  service : Host.UsbService
  /-- The requests before `dialogRunning_`. -/
  asking : List Request := []
  dialogRunning : Option (Request × Phase) := none
  usbDialogParams : Params := ∅
  waitDialogDisappear : Nat := 0
  connected : Nat := 0
  connections : List (Nat × Connection) := []
  /-- The requests that have come back, and whether they found the right. -/
  answers : List (Request × Bool) := []

namespace World

variable (db : Right.UsbRightDataBase) (s : World)

/-- `HasRight` and the world after it. -/
def hasRight (now : Right.ClockReading) (k : Right.Key) : Bool × World :=
  match s.service.usbRightManager with
  | none => (false, s)
  | some rights =>
    let has := Right.hasRight db now k.deviceName k.bundleName k.tokenId k.uid rights
    (has.1, { s with service := { s.service with usbRightManager := some has.2 } })

def answer (r : Request) (result : Bool) : World := { s with answers := (r, result) :: s.answers }

/-- `RequestRight` up to its dialog. -/
def ask (now : Right.ClockReading) (r : Request) : World :=
  let (has, s) := s.hasRight db now r.key
  if has then s.answer r true else { s with asking := r :: s.asking }

def goOn (id : Nat) (next : Connection) : World :=
  { s with connections := s.connections.map fun c => if c.1 = id then (id, next) else c }

/-- What the dialog of a connection shows while the user can answer it. -/
def shown (id : Nat) : Option Params :=
  s.connections.findSome? fun c =>
    match c with
    | (other, .shown params) => if other = id then some params else none
    | _ => none

/-- The button of the dialog: `addDeviceAccessRight`, `addAccessoryRight` or `addSerialRight`. The last two read the
token as a number; `named` is the name that the accessory manager or the map of the ports has for their argument. -/
def allow (p : Right.Platform) (checked : UsbErrCode) (named : Option String) (params : Params) : Host.UsbService :=
  let tokenId := (params["tokenId"]?).getD ""
  if params["accessory"]? = none ∧ params["portId"]? = none then
    (s.service.addAccessRight db p checked tokenId ((params["deviceName"]?).getD "")).2
  else if checked ≠ .uecOk then s.service
  else
    match s.service.usbRightManager, named with
    | some rights, some name =>
      let number := toString (UInt32.ofNat (Right.decimalValue tokenId)).toNat
      { s.service with usbRightManager := some (Right.addDeviceRightOfToken db p name number rights).2 }
    | _, _ => s.service

inductive Action where
  | service (event : Host.ServiceEvent)
  /-- `UsbService::RequestRight`. -/
  | requestRight (now : Right.ClockReading) (caller : Host.Caller) (busDev : String)
  /-- A request for a right to the accessory or a port. -/
  | requestOther (now : Right.ClockReading) (r : Request)
  | lock (r : Request)
  | storeParams (appName productName : Option String)
  | semInit
  | connectAbility (agreed : Bool)
  /-- `taken` is whether there is a remote object and it takes the parameters. -/
  | onAbilityConnectDone (id : Nat) (taken : Bool)
  | allow (id : Nat) (p : Right.Platform) (checked : UsbErrCode) (named : Option String)
  | onAbilityDisconnectDone (id : Nat)
  | wake
  | check (now : Right.ClockReading)

def step (s : World) : Action → Option World
  | .service event => some { s with service := s.service.step db event }
  | .requestRight now caller busDev =>
    match s.service.usbRightManager, s.service.deviceVidPidMap[busDev]? with
    | some _, some deviceVidPidSerialNum =>
      if caller.isSystemAppOrSa then some s
      else
        match caller.hapTokenInfo with
        | none => some s
        | some (bundleName, userId) =>
          some (s.ask db now ⟨.device busDev, deviceVidPidSerialNum, bundleName, caller.token, userId⟩)
    | _, _ => some s
  | .requestOther now r =>
    match r.subject with
    | .device _ => none
    | _ => some (s.ask db now r)
  | .lock r =>
    if r ∈ s.asking ∧ s.dialogRunning = none then
      some { s with asking := s.asking.erase r, dialogRunning := some (r, .preparing) }
    else none
  | .storeParams appName productName =>
    match s.dialogRunning with
    | some (r, .preparing) =>
      match r.usbDialogParams appName productName with
      | none => some ({ s with dialogRunning := none }.answer r false)
      | some params => some { s with usbDialogParams := params, dialogRunning := some (r, .stored) }
    | _ => none
  | .semInit =>
    match s.dialogRunning with
    | some (r, .stored) => some { s with waitDialogDisappear := 0, dialogRunning := some (r, .ready) }
    | _ => none
  | .connectAbility agreed =>
    match s.dialogRunning with
    | some (r, .ready) =>
      if agreed then
        some { s with
          dialogRunning := some (r, .waiting s.connected)
          connected := s.connected + 1
          connections := (s.connected, .connecting) :: s.connections }
      else some ({ s with dialogRunning := none }.answer r false)
    | _ => none
  | .onAbilityConnectDone id taken =>
    if s.connections.any fun c => c.1 = id ∧ c.2.isConnecting then
      some (s.goOn id (if taken then .shown s.usbDialogParams else .failed))
    else none
  | .allow id p checked named =>
    match s.shown id with
    | some params => some { s.goOn id .allowed with service := s.allow db p checked named params }
    | none => none
  | .onAbilityDisconnectDone id =>
    if s.connections.any fun c => c.1 = id then
      some { s with
        connections := s.connections.filter fun c => c.1 ≠ id
        waitDialogDisappear := s.waitDialogDisappear + 1 }
    else none
  | .wake =>
    match s.dialogRunning with
    | some (r, .waiting _) =>
      if 0 < s.waitDialogDisappear then
        some { s with waitDialogDisappear := s.waitDialogDisappear - 1, dialogRunning := some (r, .woken) }
      else none
    | _ => none
  | .check now =>
    match s.dialogRunning with
    | some (r, .woken) =>
      let (has, s) := s.hasRight db now r.key
      some ({ s with dialogRunning := none }.answer r has)
    | _ => none

/-! ## What a step can do -/

/-- Nothing that a dialog depends on has changed. -/
structure Apart (s s' : World) : Prop where
  dialogRunning : s'.dialogRunning = s.dialogRunning
  usbDialogParams : s'.usbDialogParams = s.usbDialogParams
  waitDialogDisappear : s'.waitDialogDisappear = s.waitDialogDisappear
  connections : s'.connections = s.connections

/-- The addresses are those of before, but for a device event. -/
def Addressed (db : Right.UsbRightDataBase) (s : World) (action : Action) (service : Host.UsbService) : Prop :=
  (∃ event, action = .service event ∧ service = s.service.step db event) ∨
    service.deviceVidPidMap = s.service.deviceVidPidMap

/-- The requests in line after a step that answers none of them, and the answers. -/
inductive Asked (s s' : World) : Prop where
  | same (asking : s'.asking = s.asking) (answers : s'.answers = s.answers)
  | inLine (r : Request) (asking : s'.asking = r :: s.asking) (answers : s'.answers = s.answers)
      (named : ∀ busDev, r.subject = .device busDev → s'.service.deviceVidPidMap[busDev]? = some r.deviceName)
  | found (r : Request) (asking : s'.asking = s.asking) (answers : s'.answers = (r, true) :: s.answers)

inductive Stepped (db : Right.UsbRightDataBase) (s : World) (action : Action) (s' : World) : Prop where
  | apart (apart : s.Apart s') (asked : s.Asked s') (addressed : s.Addressed db action s'.service)
  | locked (r : Request) (member : r ∈ s.asking) (free : s.dialogRunning = none)
      (same : s' = { s with asking := s.asking.erase r, dialogRunning := some (r, .preparing) })
  | answered (r : Request) (phase : Phase) (running : s.dialogRunning = some (r, phase))
      (between : phase = .preparing ∨ phase = .ready ∨ phase = .woken) (result : Bool) (service : Host.UsbService)
      (addressed : s.Addressed db action service)
      (same : s' = { s with service := service, dialogRunning := none, answers := (r, result) :: s.answers })
  | stored (r : Request) (params : Params) (running : s.dialogRunning = some (r, .preparing)) (asks : r.Asks params)
      (same : s' = { s with usbDialogParams := params, dialogRunning := some (r, .stored) })
  | ready (r : Request) (running : s.dialogRunning = some (r, .stored))
      (same : s' = { s with waitDialogDisappear := 0, dialogRunning := some (r, .ready) })
  | connected (r : Request) (running : s.dialogRunning = some (r, .ready))
      (same : s' = { s with
        dialogRunning := some (r, .waiting s.connected)
        connected := s.connected + 1
        connections := (s.connected, .connecting) :: s.connections })
  | moved (id : Nat) (next : Connection) (there : ∃ c ∈ s.connections, c.1 = id) (service : Host.UsbService)
      (addressed : s.Addressed db action service)
      (shows : ∀ params, next = .shown params → params = s.usbDialogParams)
      (same : s' = { s.goOn id next with service := service })
  | disconnected (id : Nat) (ended : action = .onAbilityDisconnectDone id) (there : ∃ c ∈ s.connections, c.1 = id)
      (same : s' = { s with
        connections := s.connections.filter fun c => c.1 ≠ id
        waitDialogDisappear := s.waitDialogDisappear + 1 })
  | woken (r : Request) (id : Nat) (running : s.dialogRunning = some (r, .waiting id))
      (posted : 0 < s.waitDialogDisappear)
      (same : s' = { s with
        waitDialogDisappear := s.waitDialogDisappear - 1, dialogRunning := some (r, .woken) })

section Step

variable {db : Right.UsbRightDataBase} {s s' : World}

theorem hasRight_eq (now : Right.ClockReading) (k : Right.Key) :
    ∃ has service, service.deviceVidPidMap = s.service.deviceVidPidMap ∧
      s.hasRight db now k = (has, { s with service := service }) := by
  unfold hasRight
  split
  · exact ⟨_, s.service, rfl, rfl⟩
  · exact ⟨_, { s.service with usbRightManager := some _ }, rfl, rfl⟩

theorem stepped_ask (action : Action) (now : Right.ClockReading) (r : Request)
    (named : ∀ busDev, r.subject = .device busDev → s.service.deviceVidPidMap[busDev]? = some r.deviceName) :
    Stepped db s action (s.ask db now r) := by
  obtain ⟨has, service, map, same⟩ := @hasRight_eq db s now r.key
  unfold ask
  rw [same]
  cases has with
  | true => exact .apart ⟨rfl, rfl, rfl, rfl⟩ (.found r rfl rfl) (.inr map)
  | false =>
    have named' : ∀ busDev, r.subject = .device busDev → service.deviceVidPidMap[busDev]? = some r.deviceName :=
      fun busDev subject => map ▸ named busDev subject
    exact .apart ⟨rfl, rfl, rfl, rfl⟩ (.inLine r rfl rfl named') (.inr map)

theorem allow_map (p : Right.Platform) (checked : UsbErrCode) (named : Option String) (params : Params) :
    (s.allow db p checked named params).deviceVidPidMap = s.service.deviceVidPidMap := by
  unfold allow Host.UsbService.addAccessRight
  repeat' split
  all_goals rfl

theorem mem_of_shown {id : Nat} {params : Params} (shown : s.shown id = some params) :
    (id, .shown params) ∈ s.connections := by
  obtain ⟨c, member, found⟩ := List.exists_of_findSome?_eq_some shown
  split at found
  next other there =>
    split_ifs at found with same
    cases found
    rwa [← same]
  next => cases found

theorem stepped {action : Action} (taken : s.step db action = some s') : Stepped db s action s' := by
  have nothing : Stepped db s action s := .apart ⟨rfl, rfl, rfl, rfl⟩ (.same rfl rfl) (.inr rfl)
  cases action with
  | service event =>
    obtain rfl := Option.some.inj taken
    exact .apart ⟨rfl, rfl, rfl, rfl⟩ (.same rfl rfl) (.inl ⟨event, rfl, rfl⟩)
  | requestRight now caller busDev =>
    simp only [step] at taken
    split at taken
    next found =>
      split_ifs at taken
      · exact Option.some.inj taken ▸ nothing
      · split at taken
        · exact Option.some.inj taken ▸ nothing
        · refine Option.some.inj taken ▸ stepped_ask _ now _ fun other same => ?_
          cases same
          exact found
    next => exact Option.some.inj taken ▸ nothing
  | requestOther now r =>
    simp only [step] at taken
    split at taken
    next => cases taken
    next other =>
      exact Option.some.inj taken ▸ stepped_ask _ now r fun busDev same => absurd same (other busDev)
  | lock r =>
    simp only [step] at taken
    split_ifs at taken with enabled
    exact .locked r enabled.1 enabled.2 (Option.some.inj taken).symm
  | storeParams appName productName =>
    simp only [step] at taken
    split at taken
    next r running =>
      split at taken
      next => exact .answered r .preparing running (.inl rfl) false s.service (.inr rfl) (Option.some.inj taken).symm
      next params asked => exact .stored r params running ⟨_, _, asked⟩ (Option.some.inj taken).symm
    next => cases taken
  | semInit =>
    simp only [step] at taken
    split at taken
    next r running => exact .ready r running (Option.some.inj taken).symm
    next => cases taken
  | connectAbility agreed =>
    simp only [step] at taken
    split at taken
    next r running =>
      split_ifs at taken
      · exact .connected r running (Option.some.inj taken).symm
      · exact .answered r .ready running (.inr (.inl rfl)) false s.service (.inr rfl) (Option.some.inj taken).symm
    next => cases taken
  | onAbilityConnectDone id accepted =>
    simp only [step] at taken
    split_ifs at taken with enabled shown
    · obtain ⟨c, member, same⟩ := List.any_eq_true.1 enabled
      refine .moved id (.shown s.usbDialogParams) ⟨c, member, (of_decide_eq_true same).1⟩ s.service (.inr rfl) ?_
        (Option.some.inj taken).symm
      exact fun params same => (Connection.shown.inj same).symm
    · obtain ⟨c, member, same⟩ := List.any_eq_true.1 enabled
      exact .moved id .failed ⟨c, member, (of_decide_eq_true same).1⟩ s.service (.inr rfl)
        (fun _ same => by cases same) (Option.some.inj taken).symm
  | allow id p checked named =>
    simp only [step] at taken
    split at taken
    next params shown =>
      exact .moved id .allowed ⟨_, mem_of_shown shown, rfl⟩ _ (.inr (allow_map p checked named params))
        (fun _ same => by cases same) (Option.some.inj taken).symm
    next => cases taken
  | onAbilityDisconnectDone id =>
    simp only [step] at taken
    split_ifs at taken with enabled
    obtain ⟨c, member, same⟩ := List.any_eq_true.1 enabled
    exact .disconnected id rfl ⟨c, member, of_decide_eq_true same⟩ (Option.some.inj taken).symm
  | wake =>
    simp only [step] at taken
    split at taken
    next r id running =>
      split_ifs at taken with posted
      exact .woken r id running posted (Option.some.inj taken).symm
    next => cases taken
  | check now =>
    simp only [step] at taken
    split at taken
    next r running =>
      obtain ⟨has, service, map, same⟩ := @hasRight_eq db s now r.key
      rw [same] at taken
      exact .answered r .woken running (.inr (.inr rfl)) has service (.inr map) (Option.some.inj taken).symm
    next => cases taken

end Step

/-! ## One dialog at a time -/

/-- What the connections and the semaphore are at each point of the request that holds `dialogRunning_`. -/
inductive InTurn (s : World) : Prop where
  | free (running : s.dialogRunning = none) (none : s.connections = [])
  | preparing (r : Request) (running : s.dialogRunning = some (r, .preparing)) (none : s.connections = [])
  | stored (r : Request) (running : s.dialogRunning = some (r, .stored)) (none : s.connections = [])
      (asks : r.Asks s.usbDialogParams)
  | ready (r : Request) (running : s.dialogRunning = some (r, .ready)) (none : s.connections = [])
      (asks : r.Asks s.usbDialogParams) (drained : s.waitDialogDisappear = 0)
  | opened (r : Request) (id : Nat) (c : Connection) (running : s.dialogRunning = some (r, .waiting id))
      (one : s.connections = [(id, c)]) (asks : r.Asks s.usbDialogParams) (drained : s.waitDialogDisappear = 0)
      (shows : ∀ params, c = .shown params → r.Asks params)
  | closed (r : Request) (id : Nat) (running : s.dialogRunning = some (r, .waiting id)) (none : s.connections = [])
      (posted : s.waitDialogDisappear = 1)
  | woken (r : Request) (running : s.dialogRunning = some (r, .woken)) (none : s.connections = [])

section Turn

variable {db : Right.UsbRightDataBase} {s s' : World} {r : Request}

/-- A connection is the only one, and that of the request that waits. -/
theorem InTurn.of_mem (turn : s.InTurn) {c : Nat × Connection} (member : c ∈ s.connections) :
    ∃ r, s.dialogRunning = some (r, .waiting c.1) ∧ s.connections = [c] ∧ r.Asks s.usbDialogParams ∧
      s.waitDialogDisappear = 0 ∧ ∀ params, c.2 = .shown params → r.Asks params := by
  cases turn with
  | opened r id own running one asks drained shows =>
    rw [one] at member
    obtain rfl := List.mem_singleton.1 member
    exact ⟨r, running, one, asks, drained, shows⟩
  | _ =>
    rename_i none
    simp_all

/-- Only a request that waits has a connection. -/
theorem InTurn.none_of_running (turn : s.InTurn) {phase : Phase} (running : s.dialogRunning = some (r, phase))
    (other : ∀ id, phase ≠ .waiting id) : s.connections = [] := by
  rw [List.eq_nil_iff_forall_not_mem]
  intro c member
  obtain ⟨r', waiting, -⟩ := turn.of_mem member
  rw [running] at waiting
  exact other c.1 (congrArg Prod.snd (Option.some.inj waiting))

theorem InTurn.apart (turn : s.InTurn) (apart : s.Apart s') : s'.InTurn := by
  obtain ⟨running', params', drained', connections'⟩ := apart
  cases turn with
  | free running none => exact .free (running' ▸ running) (connections' ▸ none)
  | preparing r running none => exact .preparing r (running' ▸ running) (connections' ▸ none)
  | stored r running none asks => exact .stored r (running' ▸ running) (connections' ▸ none) (params' ▸ asks)
  | ready r running none asks drained =>
    exact .ready r (running' ▸ running) (connections' ▸ none) (params' ▸ asks) (drained' ▸ drained)
  | opened r id c running one asks drained shows =>
    exact .opened r id c (running' ▸ running) (connections' ▸ one) (params' ▸ asks) (drained' ▸ drained) shows
  | closed r id running none posted =>
    exact .closed r id (running' ▸ running) (connections' ▸ none) (drained' ▸ posted)
  | woken r running none => exact .woken r (running' ▸ running) (connections' ▸ none)

theorem InTurn.stepped {action : Action} (turn : s.InTurn) (stepped : Stepped db s action s') : s'.InTurn := by
  cases stepped with
  | apart apart _ _ => exact turn.apart apart
  | locked r _ free same =>
    subst same
    refine .preparing r rfl ?_
    rw [List.eq_nil_iff_forall_not_mem]
    intro c member
    obtain ⟨_, waiting, -⟩ := turn.of_mem member
    rw [free] at waiting
    cases waiting
  | answered r phase running between _ _ _ same =>
    subst same
    refine .free rfl (turn.none_of_running running fun id waiting => ?_)
    rw [waiting] at between
    simp at between
  | stored r params running asks same =>
    subst same
    exact .stored r rfl (turn.none_of_running running (by simp)) asks
  | ready r running same =>
    subst same
    cases turn with
    | stored r' running' none asks =>
      rw [running] at running'
      cases running'
      exact .ready r rfl none asks rfl
    | _ => simp_all
  | connected r running same =>
    subst same
    cases turn with
    | ready r' running' none asks drained =>
      rw [running] at running'
      cases running'
      exact .opened r s.connected .connecting rfl (by rw [none]) asks drained (by simp)
    | _ => simp_all
  | moved id next there _ _ shows same =>
    subst same
    obtain ⟨c, member, rfl⟩ := there
    obtain ⟨r, running, one, asks, drained, -⟩ := turn.of_mem member
    refine .opened r c.1 next running ?_ asks drained fun params shown => shows params shown ▸ asks
    simp [goOn, one]
  | disconnected id _ there same =>
    subst same
    obtain ⟨c, member, rfl⟩ := there
    obtain ⟨r, running, one, -, drained, -⟩ := turn.of_mem member
    exact .closed r c.1 running (by simp [one]) (by rw [drained])
  | woken r id running posted same =>
    subst same
    cases turn with
    | closed r' id' running' none _ =>
      rw [running] at running'
      cases running'
      exact .woken r rfl none
    | opened r' id' c running' one asks drained shows => exact absurd posted (by omega)
    | _ => simp_all

/-- A service that starts, whatever is attached to it and stored in it. -/
def start (service : Host.UsbService) : World := { service := service }

variable {service : Host.UsbService}

theorem inTurn_of_reach (reached : Reach (step db) anyStep (start service) s) : s.InTurn :=
  reached.invariant InTurn (.free rfl rfl) fun _ _ _ turn _ taken => turn.stepped (stepped taken)

/-- At every moment of every run there is at most one connection. It is that of the request that waits, and shows
what that request asks; the request can go on if and only if its connection is gone. -/
theorem dialogs_in_turn (reached : Reach (step db) anyStep (start service) s) :
    (∀ id c, (id, c) ∈ s.connections → s.connections = [(id, c)] ∧
      ∃ r, s.dialogRunning = some (r, .waiting id) ∧ ∀ params, c = .shown params → r.Asks params) ∧
    ∀ r id, s.dialogRunning = some (r, .waiting id) → (0 < s.waitDialogDisappear ↔ s.connections = []) := by
  have turn := inTurn_of_reach reached
  refine ⟨fun id c member => ?_, fun r id waiting => ?_⟩
  · obtain ⟨r, running, one, -, -, shows⟩ := turn.of_mem member
    exact ⟨one, r, running, shows⟩
  · cases turn with
    | opened r' id' c running one asks drained shows => simp [one, drained]
    | closed r' id' running none posted => simp [none, posted]
    | _ => simp_all

/-! ### A dialog whose device goes -/

/-- The scanner's application asks for a right to the device. -/
def scannerRequest : Request := ⟨.device "1-2", "4817-4258-A1", "com.example.scanner", 537, 100⟩

def scannerPlatform : Right.Platform :=
  { Right.samplePlatform true with hapTokenInfo := fun _ => some ("com.example.scanner", 100) }

/-- While the dialog is open another device takes the address. -/
def swap : List Action :=
  [.service (.attach 1 2 (some Host.sampleReading) []), .requestRight Right.sampleReading Host.sampleCaller "1-2",
    .lock scannerRequest, .storeParams none (some "Scanner"), .semInit, .connectAbility true,
    .onAbilityConnectDone 0 true, .service (.detach 1 2 scannerPlatform),
    .service (.attach 1 2 (some Host.otherReading) [])]

def swapped : Option World := runFrom (step Right.sampleDataBase) (start (.started true true)) swap

theorem swapped_open :
    ∃ s params, swapped = some s ∧ Reach (step Right.sampleDataBase) anyStep (start (.started true true)) s ∧
      s.shown 0 = some params ∧ s.dialogRunning = some (scannerRequest, .waiting 0) := by
  have seen : swapped.map (fun s => ((s.shown 0).isSome, s.dialogRunning)) =
      some (true, some (scannerRequest, .waiting 0)) := by decide +kernel
  obtain ⟨s, ended, same⟩ := Option.map_eq_some_iff.1 seen
  obtain ⟨isShown, running⟩ := Prod.mk.inj same
  obtain ⟨params, shown⟩ := Option.isSome_iff_exists.1 isShown
  exact ⟨s, params, ended, reach_of_runFrom _ (fun _ _ _ => trivial) .init ended, shown, running⟩

theorem dialogs_in_turn_swapped :
    ∃ s params, swapped = some s ∧ s.connections = [(0, .shown params)] ∧ scannerRequest.Asks params := by
  obtain ⟨s, params, ended, reached, shown, running⟩ := swapped_open
  obtain ⟨one, r, waiting, shows⟩ := (dialogs_in_turn reached).1 0 _ (mem_of_shown shown)
  rw [running] at waiting
  cases waiting
  exact ⟨s, params, ended, one, shows params rfl⟩

/-! ## Whether a request comes back -/

/-- From here the request that holds `dialogRunning_` can end and the others stay in line. -/
def Ends (db : Right.UsbRightDataBase) (s : World) : Prop :=
  ∃ s', Leads (step db) s s' ∧ s'.dialogRunning = none ∧ s'.asking = s.asking

theorem Ends.of_step {action : Action} (taken : s.step db action = some s') (asking : s'.asking = s.asking)
    (ends : Ends db s') : Ends db s := by
  obtain ⟨last, leads, free, line⟩ := ends
  exact ⟨last, (Leads.of_step taken).trans leads, free, line.trans asking⟩

theorem ends_of_free (free : s.dialogRunning = none) : Ends db s := ⟨s, .refl, free, rfl⟩

theorem ends_of_woken (running : s.dialogRunning = some (r, .woken)) : Ends db s := by
  obtain ⟨has, service, -, same⟩ := @hasRight_eq db s ⟨0, by decide⟩ r.key
  have taken : s.step db (.check ⟨0, by decide⟩) =
      some ({ { s with service := service } with dialogRunning := none }.answer r has) := by
    simp only [step, running, same]
  exact .of_step taken rfl (ends_of_free rfl)

theorem ends_of_waiting (turn : s.InTurn) {id : Nat} (running : s.dialogRunning = some (r, .waiting id)) :
    Ends db s := by
  have posted {s : World} (running : s.dialogRunning = some (r, .waiting id)) (posted : 0 < s.waitDialogDisappear) :
      Ends db s := by
    have taken : s.step db .wake =
        some { s with
          waitDialogDisappear := s.waitDialogDisappear - 1, dialogRunning := some (r, .woken) } := by
      simp only [step, running, if_pos posted]
    exact .of_step taken rfl (ends_of_woken rfl)
  cases turn with
  | opened r' id' c running' one asks drained shows =>
    have there : s.connections.any (fun c => c.1 = id') = true := by simp [one]
    have taken : s.step db (.onAbilityDisconnectDone id') =
        some { s with
          connections := s.connections.filter (·.1 ≠ id'), waitDialogDisappear := s.waitDialogDisappear + 1 } :=
      if_pos there
    exact .of_step taken rfl (posted running (Nat.succ_pos _))
  | closed r' id' running' none once => exact posted running (by omega)
  | _ => simp_all

theorem ends_of_ready (running : s.dialogRunning = some (r, .ready)) : Ends db s := by
  have taken : s.step db (.connectAbility false) = some ({ s with dialogRunning := none }.answer r false) := by
    simp only [step, running, if_neg Bool.false_ne_true]
  exact .of_step taken rfl (ends_of_free rfl)

theorem ends_of_stored (running : s.dialogRunning = some (r, .stored)) : Ends db s := by
  have taken : s.step db .semInit =
      some { s with waitDialogDisappear := 0, dialogRunning := some (r, .ready) } := by
    simp only [step, running]
  exact .of_step taken rfl (ends_of_ready rfl)

theorem ends_of_preparing (running : s.dialogRunning = some (r, .preparing)) : Ends db s := by
  cases asked : r.usbDialogParams none none with
  | none =>
    have taken : s.step db (.storeParams none none) = some ({ s with dialogRunning := none }.answer r false) := by
      simp only [step, running, asked]
    exact .of_step taken rfl (ends_of_free rfl)
  | some params =>
    have taken : s.step db (.storeParams none none) =
        some { s with usbDialogParams := params, dialogRunning := some (r, .stored) } := by
      simp only [step, running, asked]
    exact .of_step taken rfl (ends_of_stored rfl)

theorem InTurn.ends (turn : s.InTurn) : Ends db s := by
  cases running : s.dialogRunning with
  | none => exact ends_of_free running
  | some current =>
    obtain ⟨r, phase⟩ := current
    cases phase with
    | preparing => exact ends_of_preparing running
    | stored => exact ends_of_stored running
    | ready => exact ends_of_ready running
    | waiting id => exact ends_of_waiting turn running
    | woken => exact ends_of_woken running

theorem InTurn.leads (turn : s.InTurn) (leads : Leads (step db) s s') : s'.InTurn := by
  induction leads with
  | refl => exact turn
  | tail _ next ih =>
    obtain ⟨action, taken⟩ := next
    exact ih.stepped (World.stepped taken)

/-- Every request in line can have its turn. -/
theorem InTurn.leads_idle (turn : s.InTurn) :
    ∃ s', Leads (step db) s s' ∧ s'.asking = [] ∧ s'.dialogRunning = none := by
  generalize count : s.asking.length = n
  induction n generalizing s with
  | zero =>
    obtain ⟨idle, leads, free, line⟩ : Ends db s := turn.ends
    exact ⟨idle, leads, line.trans (List.eq_nil_of_length_eq_zero count), free⟩
  | succ n ih =>
    obtain ⟨idle, leads, free, line⟩ : Ends db s := turn.ends
    obtain ⟨r, rest, some⟩ := List.exists_cons_of_length_eq_add_one (line.symm ▸ count)
    have taken : idle.step db (.lock r) =
        Option.some { idle with asking := idle.asking.erase r, dialogRunning := Option.some (r, .preparing) } :=
      if_pos ⟨some ▸ List.mem_cons_self, free⟩
    have turn' := (turn.leads leads).stepped (World.stepped taken)
    have size : rest.length = n := by
      rw [← line, some] at count
      simpa using count
    obtain ⟨last, more, done⟩ := ih turn' (by simp [some, size])
    exact ⟨last, leads.trans ((Leads.of_step taken).trans more), done⟩

/-- The requests before and after, while the dialog of `s` is open. -/
structure Blocked (s s' : World) : Prop where
  dialogRunning : s'.dialogRunning = s.dialogRunning
  asking : ∃ more, s'.asking = more ++ s.asking
  answers : ∃ more, s'.answers = more ++ s.answers ∧ ∀ answer ∈ more, answer.2 = true

/-- Requests that have come back can be answered at once only. -/
theorem Blocked.asked {s₀ : World} (blocked : s₀.Blocked s) (running : s'.dialogRunning = s.dialogRunning)
    (asked : s.Asked s') : s₀.Blocked s' := by
  obtain ⟨running₀, ⟨more, line⟩, found, answered, all⟩ := blocked
  cases asked with
  | same asking answers =>
    exact ⟨running.trans running₀, ⟨more, asking.trans line⟩, found, answers.trans answered, all⟩
  | inLine r asking answers _ =>
    refine ⟨running.trans running₀, ⟨r :: more, ?_⟩, found, answers.trans answered, all⟩
    rw [asking, line, List.cons_append]
  | found r asking answers =>
    refine ⟨running.trans running₀, ⟨more, asking.trans line⟩, (r, true) :: found, ?_, ?_⟩
    · rw [answers, answered, List.cons_append]
    · exact List.forall_mem_cons.2 ⟨rfl, all⟩

/-- While a connection is there, its request waits and the others stay in line. -/
theorem blocked_of_reach {id : Nat} (turn : s.InTurn) (there : ∃ c ∈ s.connections, c.1 = id)
    (reached : Reach (step db) (fun _ action => action ≠ .onAbilityDisconnectDone id) s s') :
    s.Blocked s' ∧ s'.InTurn ∧ ∃ c ∈ s'.connections, c.1 = id := by
  refine reached.invariant (fun s' => s.Blocked s' ∧ s'.InTurn ∧ ∃ c ∈ s'.connections, c.1 = id) ?_ ?_
  · exact ⟨⟨rfl, ⟨[], rfl⟩, [], rfl, nofun⟩, turn, there⟩
  rintro s₁ action s₂ ⟨blocked, turn, there⟩ allowed taken
  have moved := stepped taken
  have turn' := turn.stepped moved
  obtain ⟨c, member, rfl⟩ := there
  obtain ⟨r, waiting, one, -, drained, -⟩ := turn.of_mem member
  cases moved with
  | apart apart asked _ =>
    refine ⟨blocked.asked apart.dialogRunning asked, turn', c, ?_, rfl⟩
    rw [apart.connections]
    exact member
  | moved id next _ service _ _ same =>
    subst same
    refine ⟨blocked.asked rfl (.same rfl rfl), turn', ?_⟩
    by_cases own : c.1 = id <;> simp [goOn, one, own]
  | disconnected id ended there _ =>
    obtain ⟨other, member', rfl⟩ := there
    rw [one] at member'
    obtain rfl := List.mem_singleton.1 member'
    exact absurd ended allowed
  | woken r' id running posted _ => omega
  | locked r' _ free _ =>
    rw [free] at waiting
    cases waiting
  | answered r' phase running between _ _ _ _ =>
    rw [waiting] at running
    cases running
    simp at between
  | stored r' _ running _ _ =>
    rw [waiting] at running
    cases running
  | ready r' running _ =>
    rw [waiting] at running
    cases running
  | connected r' running _ =>
    rw [waiting] at running
    cases running

/-- All requests can always come back. But while a connection is there that the ability manager does not end, its
request waits, the requests in line stay there, and only those are answered that find their right at once. -/
theorem dialogs_answered (reached : Reach (step db) anyStep (start service) s) :
    (∃ s', Leads (step db) s s' ∧ s'.asking = [] ∧ s'.dialogRunning = none) ∧
    ∀ id c s', (id, c) ∈ s.connections →
      Reach (step db) (fun _ action => action ≠ .onAbilityDisconnectDone id) s s' →
        s'.dialogRunning = s.dialogRunning ∧ (∃ more, s'.asking = more ++ s.asking) ∧
        ∃ more, s'.answers = more ++ s.answers ∧ ∀ answer ∈ more, answer.2 = true := by
  have turn := inTurn_of_reach reached
  refine ⟨turn.leads_idle, fun id c s' member rest => ?_⟩
  obtain ⟨⟨running, line, answered⟩, -, -⟩ := blocked_of_reach turn ⟨_, member, rfl⟩ rest
  exact ⟨running, line, answered⟩

/-- The dialog of the device that is gone can end, and until it does nobody else has a dialog. -/
theorem dialogs_answered_swapped :
    ∃ s, swapped = some s ∧ (∃ s', Leads (step Right.sampleDataBase) s s' ∧ s'.asking = [] ∧ s'.dialogRunning = none) ∧
      ∀ s', Reach (step Right.sampleDataBase) (fun _ action => action ≠ .onAbilityDisconnectDone 0) s s' →
        s'.dialogRunning = some (scannerRequest, .waiting 0) := by
  obtain ⟨s, params, ended, reached, shown, running⟩ := swapped_open
  have answered := dialogs_answered reached
  exact ⟨s, ended, answered.1, fun s' rest => (answered.2 0 _ s' (mem_of_shown shown) rest).1.trans running⟩

end Turn

/-! ## What the user allows -/

section Allow

variable {db later : Right.UsbRightDataBase} {s s' : World} {r : Request} {params : Params} {p : Right.Platform}
  {now : Right.ClockReading}

/-- The name under which the button adds a right for the request. -/
def nameNow (s : World) (r : Request) (named : Option String) : Option String :=
  match r.subject with
  | .device busDev => s.service.deviceVidPidMap[busDev]?
  | _ => named

theorem toInt_toInt32 {tokenId : UInt32} (nonneg : ¬ tokenId.toInt32 < 0) : tokenId.toInt32.toInt = tokenId.toNat := by
  have bound := tokenId.toNat_lt
  have value : tokenId.toInt32.toInt = tokenId.toBitVec.toInt := rfl
  rw [Int32.lt_iff_toInt_lt, value, BitVec.toInt_eq_toNat_cond] at nonneg
  rw [value, BitVec.toInt_eq_toNat_cond]
  simp at nonneg ⊢
  omega

theorem getElem?_stored (params : Params) (name value other : String) :
    (params.insert name value)[other]? = if name = other then some value else params[other]? := by
  rw [ExtTreeMap.getElem?_insert]
  simp only [Std.compare_eq_iff_eq]

theorem asks_tokenId (asks : r.Asks params) : params["tokenId"]? = some (toString r.tokenId.toNat) := by
  obtain ⟨appName, productName, stored⟩ := asks
  unfold Request.usbDialogParams at stored
  cases subject : r.subject with
  | device busDev =>
    rw [subject] at stored
    cases stored
    simp only [getElem?_stored, String.reduceEq, if_true, if_false]
  | accessory product text =>
    rw [subject] at stored
    cases stored
    simp only [getElem?_stored, String.reduceEq, if_true, if_false]
  | serial portId =>
    rw [subject] at stored
    dsimp only at stored
    split_ifs at stored with negative
    cases stored
    simp only [getElem?_stored, String.reduceEq, if_true, if_false, toInt_toInt32 negative]
    rfl

/-- The parameters of a request for a device, and those of no other request, lead to `addDeviceAccessRight`. -/
theorem asks_device {busDev : String} (asks : r.Asks params) (subject : r.subject = .device busDev) :
    params["accessory"]? = none ∧ params["portId"]? = none ∧ params["deviceName"]? = some busDev := by
  obtain ⟨appName, productName, stored⟩ := asks
  unfold Request.usbDialogParams at stored
  rw [subject] at stored
  cases stored
  simp only [getElem?_stored, String.reduceEq, if_true, if_false]
  simp

theorem asks_other (asks : r.Asks params) (subject : ∀ busDev, r.subject ≠ .device busDev) :
    ¬ (params["accessory"]? = none ∧ params["portId"]? = none) := by
  obtain ⟨appName, productName, stored⟩ := asks
  unfold Request.usbDialogParams at stored
  rintro ⟨accessory, port⟩
  cases kind : r.subject with
  | device busDev => exact subject busDev kind
  | accessory product text =>
    rw [kind] at stored
    cases stored
    simp at accessory
  | serial portId =>
    rw [kind] at stored
    dsimp only at stored
    split_ifs at stored with negative
    cases stored
    simp only [getElem?_stored, String.reduceEq, if_true, if_false] at port
    cases port

/-- The button adds a right of the request's token, under the name that is there now. -/
theorem allow_eq (asks : r.Asks params) (named : Option String) :
    s.allow db p .uecOk named params =
      match s.service.usbRightManager, s.nameNow r named with
      | some rights, some name =>
        { s.service with
          usbRightManager := some (Right.addDeviceRightOfToken db p name (toString r.tokenId.toNat) rights).2 }
      | _, _ => s.service := by
  have number : toString (UInt32.ofNat (Right.decimalValue (toString r.tokenId.toNat))).toNat =
      toString r.tokenId.toNat := by
    rw [Right.decimalValue_toString, UInt32.ofNat_toNat]
  unfold allow nameNow
  rw [asks_tokenId asks, Option.getD_some]
  cases subject : r.subject with
  | device busDev =>
    obtain ⟨accessory, port, device⟩ := asks_device asks subject
    rw [if_pos ⟨accessory, port⟩, device]
    unfold Host.UsbService.addAccessRight
    cases s.service.usbRightManager with
    | none => rfl
    | some rights =>
      dsimp only [Option.getD_some]
      cases s.service.deviceVidPidMap[busDev]? <;> rfl
  | _ =>
    have other : ∀ busDev, r.subject ≠ .device busDev := by simp [subject]
    rw [if_neg (asks_other asks other), number]
    rfl

theorem passes_toString (tokenId : UInt32) : Right.Passes (toString tokenId.toNat) := by
  have bound := tokenId.toNat_lt
  have numeral : (toString tokenId.toNat).toList = Nat.toDigits 10 tokenId.toNat := by simp
  constructor
  · unfold Right.isAllDigits
    rw [numeral, List.all_eq_true]
    exact fun c member => Nat.isDigit_of_mem_toDigits (by decide) (by decide) member
  · have some : (toString tokenId.toNat).isEmpty = false := by
      rw [Bool.eq_false_iff]
      intro empty
      have none : Nat.toDigits 10 tokenId.toNat = [] := by
        rw [← numeral, String.isEmpty_iff.1 empty]
        rfl
      exact Nat.toDigits_ne_nil none
    unfold Right.isWithinUint64Range
    rw [some, if_neg Bool.false_ne_true, Right.decimalValue_toString]
    exact decide_eq_true (by omega)

variable {rights rights' : Store Right.Row} {k : Right.Key} {id : Int64}

/-- After a grant the rights are those of before and that of its key. -/
theorem hasRight_granted_iff (ok : later.Succeeds) (user : k.uid ≠ Right.usbRightUseridConsole) (given : Right.Key)
    (quiet : rights.Quiet)
    (ended : Ended rights (Right.granted given.uid given.deviceName given.bundleName given.tokenId
      (p.grantInfo given.uid given.bundleName) id rights.rows) rights')
    (valid : Right.Valid (p.clock 2).getCurrentTimestamp now.getCurrentTimestamp) :
    k.hasRight later now rights' = true ↔ k.hasRight later now rights = true ∨ k = given := by
  by_cases own : k = given
  · subst own
    exact ⟨fun _ => .inr rfl, fun _ => Right.hasRight_granted user ended ok valid⟩
  · have same : k.hasRight later now rights' = k.hasRight later now rights := by
      rw [Right.hasRight_eq ok ended.quiet user, Right.hasRight_eq ok quiet user, ended.rows_eq,
        Right.ofKey_granted_other own]
    rw [same]
    exact ⟨.inl, fun has => has.resolve_right own⟩

/-- What the button does to the rights, if the token service knows the application and the store takes the record. -/
theorem allow_rights (asks : r.Asks params) {named : Option String} (manager : s.service.usbRightManager = some rights)
    (known : p.hapTokenInfo r.tokenId = some (r.bundleName, r.userId))
    (console : r.userId ≠ Right.usbRightUseridConsole)
    (accepts : ∀ name, s.nameNow r named = some name → Right.Accepts db rights { r.key with deviceName := name }) :
    ∃ rights', (s.allow db p .uecOk named params).usbRightManager = some rights' ∧
      ∀ (later : Right.UsbRightDataBase) (now : Right.ClockReading) (k : Right.Key), later.Succeeds →
        Right.Valid (p.clock 2).getCurrentTimestamp now.getCurrentTimestamp → k.uid ≠ Right.usbRightUseridConsole →
          (k.hasRight later now rights' = true ↔ k.hasRight later now rights = true ∨
            ∃ name, s.nameNow r named = some name ∧ k = { r.key with deviceName := name }) := by
  rw [allow_eq asks, manager]
  cases found : s.nameNow r named with
  | none => exact ⟨rights, manager, fun _ _ _ _ _ _ => by simp⟩
  | some name =>
    refine ⟨_, rfl, fun later now k ok valid user => ?_⟩
    have taken := accepts name found
    have passes := passes_toString r.tokenId
    have hap : p.hapTokenInfo (UInt32.ofNat (Right.decimalValue (toString r.tokenId.toNat))) =
        some (r.bundleName, r.userId) := by
      rw [Right.decimalValue_toString, UInt32.ofNat_toNat, known]
    rw [Right.addDeviceRightOfToken_granted passes hap console]
    obtain ⟨refused, -⟩ | ⟨-, id, ended⟩ := Right.addOrUpdateRightRecord_taken db rights
      { r.key with deviceName := name } (p.grantInfo r.userId r.bundleName)
    · exact absurd taken refused
    · refine (hasRight_granted_iff ok user { r.key with deviceName := name } taken.quiet ended valid).trans ?_
      simp

/-! ### Whose right it is -/

/-- The request has asked for a dialog and has not come back. -/
def InFlight (s : World) (r : Request) : Prop := r ∈ s.asking ∨ ∃ phase, s.dialogRunning = some (r, phase)

theorem InFlight.before {r' : Request} {phase next : Phase} (inFlight : s'.InFlight r)
    (running : s.dialogRunning = some (r', phase)) (running' : s'.dialogRunning = some (r', next))
    (asking : s'.asking = s.asking) : s.InFlight r := by
  obtain line | ⟨later, held⟩ := inFlight
  · exact .inl (asking ▸ line)
  · rw [running'] at held
    cases held
    exact .inr ⟨phase, running⟩

/-- No device is detached while a right to it is asked for. -/
def Undetached (s : World) (action : Action) : Prop :=
  ∀ busNum devAddr platform, action = .service (.detach busNum devAddr platform) →
    ∀ r, s.InFlight r → r.subject ≠ .device (Host.deviceName busNum devAddr)

/-- The address of a device that is asked for still has the name under which the right is asked for. -/
def Named (s : World) : Prop :=
  ∀ r busDev, s.InFlight r → r.subject = .device busDev → s.service.deviceVidPidMap[busDev]? = some r.deviceName

/-- A device event leaves a name alone that is there, if it is no detach of the device. -/
theorem step_deviceVidPidMap (event : Host.ServiceEvent) (service : Host.UsbService) {busDev name : String}
    (there : service.deviceVidPidMap[busDev]? = some name)
    (attached : ∀ busNum devAddr platform, event = .detach busNum devAddr platform →
      busDev ≠ Host.deviceName busNum devAddr) :
    (service.step db event).deviceVidPidMap[busDev]? = some name := by
  cases event with
  | attach busNum devAddr reading strategy =>
    simp only [Host.UsbService.step, Host.UsbService.addDevice]
    repeat' split
    all_goals try exact there
    rw [ExtTreeMap.getElem?_insertIfNew]
    split_ifs with new
    · rw [Std.compare_eq_iff_eq.1 new.1] at new
      exact absurd (ExtTreeMap.mem_iff_isSome_getElem?.2 (by rw [there]; rfl)) new.2
    · exact there
  | detach busNum devAddr platform =>
    simp only [Host.UsbService.step, Host.UsbService.delDevice]
    split
    · rw [ExtTreeMap.getElem?_erase, if_neg, there]
      exact fun same => attached busNum devAddr platform rfl (Std.compare_eq_iff_eq.1 same).symm
    · exact there
  | authorize calls => exact there
  | right op => exact there

theorem Named.stepped {action : Action} (named : s.Named) (allowed : s.Undetached action)
    (stepped : Stepped db s action s') : s'.Named := by
  have kept {service : Host.UsbService} (addressed : s.Addressed db action service) {r : Request} {busDev : String}
      (inFlight : s.InFlight r) (subject : r.subject = .device busDev) :
      service.deviceVidPidMap[busDev]? = some r.deviceName := by
    obtain ⟨event, rfl, rfl⟩ | same := addressed
    · refine step_deviceVidPidMap event s.service (named r busDev inFlight subject) ?_
      rintro busNum devAddr platform rfl rfl
      exact allowed busNum devAddr platform rfl r inFlight subject
    · rw [same]
      exact named r busDev inFlight subject
  rintro r busDev inFlight subject
  cases stepped with
  | apart apart asked addressed =>
    have running : s'.dialogRunning = s.dialogRunning := apart.dialogRunning
    cases asked with
    | same asking _ => exact kept addressed (by simpa only [InFlight, asking, running] using inFlight) subject
    | found _ asking _ => exact kept addressed (by simpa only [InFlight, asking, running] using inFlight) subject
    | inLine new asking _ found =>
      simp only [InFlight, asking, running, List.mem_cons] at inFlight
      obtain (rfl | member) | held := inFlight
      · exact found busDev subject
      · exact kept addressed (.inl member) subject
      · exact kept addressed (.inr held) subject
  | locked r' member _ same =>
    subst same
    refine kept (.inr rfl) (r := r) ?_ subject
    rcases inFlight with line | ⟨phase, running⟩
    · exact .inl (List.mem_of_mem_erase line)
    · cases running
      exact .inl member
  | answered r' phase _ _ _ service addressed same =>
    subst same
    refine kept addressed (r := r) ?_ subject
    rcases inFlight with line | ⟨phase, running⟩
    · exact .inl line
    · cases running
  | stored r' _ running _ same =>
    subst same
    exact kept (.inr rfl) (inFlight.before running rfl rfl) subject
  | ready r' running same =>
    subst same
    exact kept (.inr rfl) (inFlight.before running rfl rfl) subject
  | connected r' running same =>
    subst same
    exact kept (.inr rfl) (inFlight.before running rfl rfl) subject
  | moved id next _ service addressed _ same =>
    subst same
    exact kept addressed inFlight subject
  | disconnected id _ _ same =>
    subst same
    exact kept (.inr rfl) inFlight subject
  | woken r' id running _ same =>
    subst same
    exact kept (.inr rfl) (inFlight.before running rfl rfl) subject

/-- The button adds exactly the right of the application that has asked under the name that the device, the accessory
or the port has when the user allows; for a device this is the name that was asked for, if no device is detached while
a right to it is asked for. -/
theorem allowed_right {service : Host.UsbService} {named : Option String} {id : Nat}
    (reached : Reach (step db) anyStep (start service) s) (shown : s.shown id = some params)
    (taken : s.step db (.allow id p .uecOk named) = some s') :
    ∃ r, s.dialogRunning = some (r, .waiting id) ∧
      (∀ rights, s.service.usbRightManager = some rights → p.hapTokenInfo r.tokenId = some (r.bundleName, r.userId) →
        r.userId ≠ Right.usbRightUseridConsole →
        (∀ name, s.nameNow r named = some name → Right.Accepts db rights { r.key with deviceName := name }) →
          ∃ rights', s'.service.usbRightManager = some rights' ∧
            ∀ (later : Right.UsbRightDataBase) (now : Right.ClockReading) (k : Right.Key), later.Succeeds →
              Right.Valid (p.clock 2).getCurrentTimestamp now.getCurrentTimestamp →
              k.uid ≠ Right.usbRightUseridConsole →
                (k.hasRight later now rights' = true ↔ k.hasRight later now rights = true ∨
                  ∃ name, s.nameNow r named = some name ∧ k = { r.key with deviceName := name })) ∧
      (Reach (step db) Undetached (start service) s → ∀ busDev, r.subject = .device busDev →
        s.nameNow r named = some r.deviceName) := by
  obtain ⟨r, running, -, -, -, shows⟩ := (inTurn_of_reach reached).of_mem (mem_of_shown shown)
  simp only [step, shown] at taken
  obtain rfl := Option.some.inj taken
  refine ⟨r, running, fun rights manager known console accepts => ?_, fun undetached busDev subject => ?_⟩
  · exact allow_rights (shows params rfl) manager known console accepts
  · have named : s.Named := undetached.invariant Named (fun _ _ inFlight _ => by simp [InFlight, start] at inFlight)
      fun _ _ _ named allowed taken => named.stepped allowed (stepped taken)
    unfold nameNow
    rw [subject]
    exact named r busDev (.inr ⟨_, running⟩) subject

/-- The user allows the device that is gone, and the application has a right to the other one. -/
theorem allowed_right_swapped :
    ∃ s s' rights', Reach (step Right.sampleDataBase) anyStep (start (.started true true)) s ∧
      s.dialogRunning = some (scannerRequest, .waiting 0) ∧
      s.step Right.sampleDataBase (.allow 0 scannerPlatform .uecOk none) = some s' ∧
      s'.service.usbRightManager = some rights' ∧
      scannerRequest.key.hasRight Right.sampleDataBase Right.sampleReading rights' = false ∧
      Right.Key.hasRight { scannerRequest.key with deviceName := "1046-4097-B7" } Right.sampleDataBase
        Right.sampleReading rights' = true := by
  have stored : swapped.map (fun s => (s.service.deviceVidPidMap["1-2"]?, s.service.usbRightManager.map fun rights =>
      (rights.saved.isNone, rights.calls,
        scannerRequest.key.hasRight Right.sampleDataBase Right.sampleReading rights))) =
      some (some "1046-4097-B7", some (true, 18, false)) := by decide +kernel
  obtain ⟨s, params, ended, reached, shown, running⟩ := swapped_open
  rw [ended, Option.map_some, Option.some.injEq, Prod.mk.injEq] at stored
  obtain ⟨name, rightsSame⟩ := stored
  obtain ⟨rights, manager, has⟩ := Option.map_eq_some_iff.1 rightsSame
  simp only [Prod.mk.injEq, Option.isNone_iff_eq_none] at has
  obtain ⟨quiet, calls, has⟩ := has
  have taken : s.step Right.sampleDataBase (.allow 0 scannerPlatform .uecOk none) =
      some { s.goOn 0 .allowed with service := s.allow Right.sampleDataBase scannerPlatform .uecOk none params } := by
    simp only [step, shown]
  obtain ⟨r, waiting, effect, -⟩ := allowed_right reached shown taken
  rw [running] at waiting
  obtain rfl : scannerRequest = r := congrArg Prod.fst (Option.some.inj waiting)
  have accepts (name : String) :
      Right.Accepts Right.sampleDataBase rights { scannerRequest.key with deviceName := name } :=
    ⟨quiet, rfl, rfl, rfl, rfl, rfl, fun _ => by rw [calls]; decide, rfl⟩
  obtain ⟨rights', manager', now⟩ := effect rights manager rfl (by decide) fun name _ => accepts name
  have valid : Right.Valid (scannerPlatform.clock 2).getCurrentTimestamp Right.sampleReading.getCurrentTimestamp :=
    ⟨by decide, by decide⟩
  have after (k : Right.Key) := now Right.sampleDataBase Right.sampleReading k Right.sampleDataBase_succeeds valid
  refine ⟨s, _, rights', reached, running, taken, manager', ?_, ?_⟩
  · rw [Bool.eq_false_iff]
    intro got
    obtain old | ⟨other, found, given⟩ := (after _ (by decide)).1 got
    · rw [has] at old
      cases old
    · have other : other = "1046-4097-B7" := Option.some.inj (found.symm.trans name)
      rw [other] at given
      exact absurd given (by decide)
  · exact (after _ (by decide)).2 (.inr ⟨_, name, rfl⟩)

end Allow

end World

end UsbManager.Dialog
