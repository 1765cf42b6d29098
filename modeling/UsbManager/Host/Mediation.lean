import UsbManager.Host.Requests

/-!
# Every request has a warrant

A run of the service with any number of clients. A call is two steps: its permission check, and the
rest of it, before which rights can be withdrawn and devices can go. The death notifications of
`UsbSubmitTransferDeathRecipient` and of `ClaimDeathRecipient` send requests too and ask no
permission. Where does the request of a step come from? Apart from the two queries of the system
applications, from a check that its client has passed, just now or before it died.
-/

namespace UsbManager.Host

open Claim (TokenId Callback ClaimTable)

/-- `UsbSubmitTransferDeathRecipient::OnRemoteDied`: the host manager is asked, not the service. -/
def SubmitRecipient.onRemoteDied (recipient : SubmitRecipient) (host : HostManager HostRequest) : List HostRequest :=
  let (ret, cancelled) := host.call (.device recipient.busNum recipient.devAddr (.usbCancelTransfer recipient.endpoint))
  if ret = .uecOk then cancelled ++ (host.call (.claim (.closeDevice recipient.busNum recipient.devAddr))).2 else cancelled

theorem SubmitRecipient.mem_onRemoteDied {recipient : SubmitRecipient} {host : HostManager HostRequest}
    {request : HostRequest} (sent : request ∈ recipient.onRemoteDied host) :
    request = .device recipient.busNum recipient.devAddr (.usbCancelTransfer recipient.endpoint) ∨
      request = .claim (.closeDevice recipient.busNum recipient.devAddr) := by
  unfold onRemoteDied at sent
  dsimp only at sent
  split at sent
  · rcases List.mem_append.1 sent with cancelled | closed
    · exact .inl (HostManager.mem_call cancelled)
    · exact .inr (HostManager.mem_call closed)
  · exact .inl (HostManager.mem_call sent)

/-- A check that is passed was passed for the identity that the address has in `deviceVidPidMap_`, and
in an orderly run this is the device stored there. -/
theorem UsbService.checkDevicePermission_authorised {db : Right.UsbRightDataBase} {hostManager rightManager : Bool}
    {events : List ServiceEvent} {now : Right.ClockReading} {caller : Caller} {b d : UInt8}
    (granted : ((started hostManager rightManager).run db events).checkDevicePermission db now caller b d = true) :
    ∃ deviceVidPidSerialNum,
      ((started hostManager rightManager).run db events).Authorised db
        (rightOps db (started hostManager rightManager) events) now caller deviceVidPidSerialNum ∧
      (OrderlyRun db (started hostManager rightManager) events → ∀ dev,
        ((started hostManager rightManager).run db events).deviceAt (deviceName b d) = some dev →
          deviceVidPidSerialNum = uniqueName dev) := by
  obtain ⟨rights, number, there, entry, allowed⟩ := checkDevicePermission_cases granted
  refine ⟨number, ?_, fun orderly dev stored => ?_⟩
  · rcases allowed with system | ⟨bundleName, tokenId, userId, info, has⟩
    · exact .inl system
    · refine .inr ⟨bundleName, tokenId, userId, rights, info, there, has, fun ok user => ?_⟩
      exact granted_of_hasRight (k := ⟨userId, number, bundleName, tokenId⟩) ok user there has
  · have agrees := (run_agrees (started_kept hostManager rightManager) (started_agrees hostManager rightManager)
      events).2 orderly events List.prefix_rfl
    rw [agrees _ dev stored] at entry
    exact (Option.some.inj entry).symm

namespace Mediation

/-- A client, as the token service knows it. -/
structure Client where
  tokenId : TokenId
  isSystemAppOrSa : Bool
  hapTokenInfo : Option (String × Int32)

def Client.caller (client : Client) : Caller := ⟨client.tokenId, client.isSystemAppOrSa, client.hapTokenInfo⟩

structure World where
  service : UsbService
  claims : ClaimTable := {}
  /-- The calls that are past their permission check. -/
  checks : List Check := []
  /-- The recipients of the accepted submissions. -/
  recipients : List SubmitRecipient := []

/-- What the driver answers; without an interface it is `none`. -/
abbrev Driver := Option (HostRequest → UsbErrCode)

inductive Event where
  | service (event : ServiceEvent)
  | check (client : Client) (now : Right.ClockReading) (busNum devAddr : UInt8)
  /-- The rest of the call whose check is at `index`. -/
  | proceed (index : Nat) (call : HostCall) (driver : Driver) (ashmem addDeathRecipient : Bool) (reading : InfoReading)
  | query (query : Query) (usbd isSystemAppOrSa verifyPermission : Bool) (driver : Driver)
  /-- The sweep at the start of `DelDevice`; its `Close` is a call like any other. -/
  | removeAllClaimByDevice (busNum devAddr : UInt8)
  | submitterDied (index : Nat) (driver : Driver)
  | claimantDied (cb : Callback) (recipient : Claim.ClaimDeathRecipient) (driver : Driver)

namespace World

def started (hostManager rightManager : Bool) : World where
  service := .started hostManager rightManager

variable (db : Right.UsbRightDataBase) (w : World)

def host (driver : Driver) : HostManager HostRequest :=
  match w.service.usbHostManager, driver with
  | none, _ => .null
  | some _, none => .noInterface
  | some _, some answer => .driver answer

/-- `devices_` with the objects in it. -/
def devices : Std.ExtTreeMap String UsbDevice :=
  match w.service.usbHostManager with
  | none => ∅
  | some h => h.devices.map fun _ object => h.heap object

/-- The rest of a call, as it finds the service. -/
def proceed (check : Check) (call : HostCall) (driver : Driver) (ashmem addDeathRecipient : Bool)
    (reading : InfoReading) : CallOutcome :=
  call.exec check ⟨w.host driver, w.devices, ashmem, addDeathRecipient, reading⟩ w.claims

/-- A step, with the requests that it sends to the driver. -/
def step : Event → List HostRequest × World
  | .service event => ([], { w with service := w.service.step db event })
  | .check client now b d =>
    let check : Check :=
      { tokenId := client.tokenId
        busNum := b
        devAddr := d
        permitted := w.service.checkDevicePermission db now client.caller b d
        known := w.service.deviceVidPidMap.contains (deviceName b d) }
    ([], { w with checks := w.checks ++ [check] })
  | .proceed index call driver ashmem addDeathRecipient reading =>
    match w.checks[index]? with
    | none => ([], w)
    | some check =>
      let outcome := w.proceed check call driver ashmem addDeathRecipient reading
      (outcome.requests,
        { w with
          claims := outcome.table
          checks := w.checks.eraseIdx index
          recipients := w.recipients ++ outcome.recipients })
  | .query query usbd isSystemAppOrSa verifyPermission driver =>
    ((query.exec ⟨usbd, isSystemAppOrSa, verifyPermission, w.host driver⟩ w.service.usbRightManager.isSome).2, w)
  | .removeAllClaimByDevice b d => ([], { w with claims := Claim.removeAllClaimByDevice b d w.claims })
  | .submitterDied index driver =>
    match w.recipients[index]? with
    | none => ([], w)
    | some recipient =>
      (recipient.onRemoteDied (w.host driver), { w with recipients := w.recipients.eraseIdx index })
  | .claimantDied cb recipient driver =>
    let outcome := Claim.onRemoteDied cb recipient ⟨true, (w.host driver).comap .claim, true⟩ w.claims
    (outcome.effects.filterMap fun
        | .hdi call => some (.claim call)
        | .onConflict .. => none,
      { w with claims := outcome.table })

def run (events : List Event) : World := events.foldl (fun w event => (w.step db event).2) w

theorem run_snoc (events : List Event) (event : Event) :
    w.run db (events ++ [event]) = ((w.run db events).step db event).2 := by
  simp [run]

/-- The events of the service in a run. -/
def serviceEvents (events : List Event) : List ServiceEvent :=
  events.filterMap fun
    | .service event => some event
    | _ => none

theorem step_service (event : Event) :
    (w.step db event).2.service =
      match event with
      | .service event => w.service.step db event
      | _ => w.service := by
  cases event with
  | proceed index =>
    simp only [step]
    cases w.checks[index]? <;> rfl
  | submitterDied index =>
    simp only [step]
    cases w.recipients[index]? <;> rfl
  | _ => rfl

/-- The calls leave the rights and the devices alone. -/
theorem run_service (events : List Event) :
    (w.run db events).service = w.service.run db (serviceEvents events) := by
  induction events using List.reverseRecOn with
  | nil => rfl
  | append_singleton events event ih =>
    rw [run_snoc, step_service, ih]
    cases event <;> simp [serviceEvents, UsbService.run]

end World

/-! ### Warrants -/

section Warrants

variable (db : Right.UsbRightDataBase) (start : World)

/-- In the run, a client with that token has passed the permission check for the device. -/
def Passed (events : List Event) (tokenId : TokenId) (b d : UInt8) : Prop :=
  ∃ earlier client now, earlier ++ [.check client now b d] <+: events ∧ client.tokenId = tokenId ∧
    (start.run db earlier).service.checkDevicePermission db now client.caller b d = true

/-- In the run, a client with that token made the call after it had passed the check for the device,
and the request went to the driver. -/
def Made (events : List Event) (tokenId : TokenId) (b d : UInt8) (call : HostCall) (request : HostRequest) : Prop :=
  ∃ earlier index driver ashmem addDeathRecipient reading,
    earlier ++ [.proceed index call driver ashmem addDeathRecipient reading] <+: events ∧
      request ∈ ((start.run db earlier).step db (.proceed index call driver ashmem addDeathRecipient reading)).1 ∧
      Passed db start earlier tokenId b d

/-- Why a step may send a request. -/
inductive Warranted (events : List Event) : Event → HostRequest → Prop where
  | caller {index : Nat} {call : HostCall} {driver : Driver} {ashmem addDeathRecipient : Bool} {reading : InfoReading}
      {request : HostRequest} (check : Check) (pending : (start.run db events).checks[index]? = some check)
      (target : request.target = (check.busNum, check.devAddr))
      (passed : Passed db start events check.tokenId check.busNum check.devAddr) :
      Warranted events (.proceed index call driver ashmem addDeathRecipient reading) request
  | systemApp {query : Query} {driver : Driver} :
      Warranted events (.query query true true true driver) query.request
  | submission {index : Nat} {driver : Driver} {request : HostRequest} (recipient : SubmitRecipient) (tokenId : TokenId)
      (param : Transfer.UsbTransInfo) (there : Bool) (fd memSize : Int32)
      (pending : (start.run db events).recipients[index]? = some recipient)
      (endpoint : param.endpoint = recipient.endpoint)
      (made : Made db start events tokenId recipient.busNum recipient.devAddr
        (.transfer (.usbSubmitTransfer param there fd memSize) recipient.cb)
        (.data (.usbSubmitTransfer recipient.busNum recipient.devAddr param fd memSize)))
      (sent : request = .device recipient.busNum recipient.devAddr (.usbCancelTransfer recipient.endpoint) ∨
        request = .claim (.closeDevice recipient.busNum recipient.devAddr)) :
      Warranted events (.submitterDied index driver) request
  | claim {cb : Callback} {recipient : Claim.ClaimDeathRecipient} {driver : Driver} (force : UInt8) (notified : Callback)
      (made : Made db start events recipient.tokenId recipient.busNum recipient.devAddr
        (.claimInterfaceExclusive recipient.interfaceid force (some notified))
        (.claim (.claimInterface recipient.busNum recipient.devAddr recipient.interfaceid force))) :
      Warranted events (.claimantDied cb recipient driver)
        (.claim (.releaseInterface recipient.busNum recipient.devAddr recipient.interfaceid))

/-- What the state of a run remembers goes back to calls of the run. -/
structure Remembers (events : List Event) (w : World) : Prop where
  checks : ∀ check ∈ w.checks, check.permitted = true →
    Passed db start events check.tokenId check.busNum check.devAddr
  recipients : ∀ recipient ∈ w.recipients, ∃ tokenId param there fd memSize,
    param.endpoint = recipient.endpoint ∧
      Made db start events tokenId recipient.busNum recipient.devAddr
        (.transfer (.usbSubmitTransfer param there fd memSize) recipient.cb)
        (.data (.usbSubmitTransfer recipient.busNum recipient.devAddr param fd memSize))
  claims : ∀ (key : String) (tokenId : TokenId), w.claims.owner key = tokenId → ∃ b d i force cb,
    key = Claim.makeClaimKey b d i ∧
      Made db start events tokenId b d (.claimInterfaceExclusive i force (some cb))
        (.claim (.claimInterface b d i force))

end Warrants

variable {db : Right.UsbRightDataBase} {start : World} {events : List Event}

theorem Passed.mono {tokenId : TokenId} {b d : UInt8} {later : List Event} (passed : Passed db start events tokenId b d)
    (grows : events <+: later) : Passed db start later tokenId b d := by
  obtain ⟨earlier, client, now, inside, same, permitted⟩ := passed
  exact ⟨earlier, client, now, inside.trans grows, same, permitted⟩

theorem Made.mono {tokenId : TokenId} {b d : UInt8} {call : HostCall} {request : HostRequest} {later : List Event}
    (made : Made db start events tokenId b d call request) (grows : events <+: later) :
    Made db start later tokenId b d call request := by
  obtain ⟨earlier, index, driver, ashmem, added, reading, inside, sent, passed⟩ := made
  exact ⟨earlier, index, driver, ashmem, added, reading, inside.trans grows, sent, passed⟩

/-- What the state of a run remembers after a step: what it remembered before, and calls of the step. -/
theorem Remembers.grow {w w' : World} {event : Event} (old : Remembers db start events w)
    (checks : ∀ check ∈ w'.checks, check ∈ w.checks ∨ (check.permitted = true →
      Passed db start (events ++ [event]) check.tokenId check.busNum check.devAddr))
    (recipients : ∀ recipient ∈ w'.recipients, recipient ∈ w.recipients ∨ ∃ tokenId param there fd memSize,
      param.endpoint = recipient.endpoint ∧
        Made db start (events ++ [event]) tokenId recipient.busNum recipient.devAddr
          (.transfer (.usbSubmitTransfer param there fd memSize) recipient.cb)
          (.data (.usbSubmitTransfer recipient.busNum recipient.devAddr param fd memSize)))
    (claims : ∀ (key : String) (tokenId : TokenId), w'.claims.owner key = tokenId → w.claims.owner key = tokenId ∨
      ∃ b d i force cb, key = Claim.makeClaimKey b d i ∧
        Made db start (events ++ [event]) tokenId b d (.claimInterfaceExclusive i force (some cb))
          (.claim (.claimInterface b d i force))) :
    Remembers db start (events ++ [event]) w' where
  checks check member permitted := by
    rcases checks check member with before | new
    · exact (old.checks check before permitted).mono (List.prefix_append _ _)
    · exact new permitted
  recipients recipient member := by
    rcases recipients recipient member with before | new
    · obtain ⟨tokenId, param, there, fd, memSize, endpoint, made⟩ := old.recipients recipient before
      exact ⟨tokenId, param, there, fd, memSize, endpoint, made.mono (List.prefix_append _ _)⟩
    · exact new
  claims key tokenId owned := by
    rcases claims key tokenId owned with before | new
    · obtain ⟨b, d, i, force, cb, same, made⟩ := old.claims key tokenId before
      exact ⟨b, d, i, force, cb, same, made.mono (List.prefix_append _ _)⟩
    · exact new

/-- The rest of a call. -/
theorem Remembers.proceed (old : Remembers db start events (start.run db events)) (index : Nat) (call : HostCall)
    (driver : Driver) (ashmem addDeathRecipient : Bool) (reading : InfoReading) :
    Remembers db start (events ++ [.proceed index call driver ashmem addDeathRecipient reading])
      ((start.run db events).step db (.proceed index call driver ashmem addDeathRecipient reading)).2 := by
  let event : Event := .proceed index call driver ashmem addDeathRecipient reading
  cases pending : (start.run db events).checks[index]? with
  | none =>
    have still : ((start.run db events).step db event).2 = start.run db events := by simp [event, World.step, pending]
    rw [still]
    exact old.grow (fun _ => .inl) (fun _ => .inl) fun _ _ => .inl
  | some check =>
    let outcome := (start.run db events).proceed check call driver ashmem addDeathRecipient reading
    have within : CallOutcome.Within check (start.run db events).claims call outcome := call.exec_within
    have taken : (start.run db events).step db event =
        (outcome.requests,
          { start.run db events with
            claims := outcome.table
            checks := (start.run db events).checks.eraseIdx index
            recipients := (start.run db events).recipients ++ outcome.recipients }) := by
      simp [event, outcome, World.step, pending]
    -- a request of this call is made after the check at the index was passed
    have made : ∀ request, request ∈ ((start.run db events).step db event).1 →
        Made db start (events ++ [event]) check.tokenId check.busNum check.devAddr call request := by
      intro request sent
      refine ⟨events, index, driver, ashmem, addDeathRecipient, reading, List.prefix_rfl, sent, ?_⟩
      rw [taken] at sent
      exact old.checks check (List.mem_of_getElem? pending) (within.requests request sent).1
    rw [taken] at made ⊢
    refine old.grow (fun check' member => .inl (List.mem_of_mem_eraseIdx member)) (fun recipient member => ?_)
      fun key tokenId owned => ?_
    · rcases List.mem_append.1 member with before | new
      · exact .inl before
      · obtain ⟨param, there, fd, memSize, cb, rfl, rfl, -, sent⟩ := within.recipients recipient new
        exact .inr ⟨check.tokenId, param, there, fd, memSize, rfl, made _ sent⟩
    · rcases within.owner key tokenId owned with before | ⟨i, force, cb, rfl, rfl, rfl, -, sent⟩
      · exact .inl before
      · exact .inr ⟨check.busNum, check.devAddr, i, force, cb, rfl, made _ sent⟩

/-- What one step preserves. -/
theorem Remembers.step (old : Remembers db start events (start.run db events)) (event : Event) :
    Remembers db start (events ++ [event]) ((start.run db events).step db event).2 := by
  cases event with
  | service | query => exact old.grow (fun _ => .inl) (fun _ => .inl) fun _ _ => .inl
  | check client now b d =>
    refine old.grow (fun check member => ?_) (fun _ => .inl) fun _ _ => .inl
    rcases List.mem_append.1 member with before | new
    · exact .inl before
    · obtain rfl := List.mem_singleton.1 new
      exact .inr fun permitted => ⟨events, client, now, List.prefix_rfl, rfl, permitted⟩
  | proceed index call driver ashmem addDeathRecipient reading =>
    exact old.proceed index call driver ashmem addDeathRecipient reading
  | removeAllClaimByDevice b d =>
    refine old.grow (fun _ => .inl) (fun _ => .inl) fun key tokenId owned => .inl ?_
    have nonzero := tokenId.2
    change (Claim.removeAllClaimByDevice b d (start.run db events).claims).owner key = tokenId at owned
    rw [Claim.removeAllClaimByDevice_owner] at owned
    split_ifs at owned
    · exact absurd owned.symm nonzero
    · exact owned
  | submitterDied index driver =>
    simp only [World.step]
    cases (start.run db events).recipients[index]? with
    | none => exact old.grow (fun _ => .inl) (fun _ => .inl) fun _ _ => .inl
    | some recipient =>
      exact old.grow (fun _ => .inl) (fun _ member => .inl (List.mem_of_mem_eraseIdx member)) fun _ _ => .inl
  | claimantDied cb recipient driver =>
    refine old.grow (fun _ => .inl) (fun _ => .inl) fun key tokenId owned => .inl ?_
    have nonzero := tokenId.2
    change (Claim.onRemoteDied cb recipient _ (start.run db events).claims).table.owner key = tokenId at owned
    rw [Claim.onRemoteDied_table, Claim.onRemoteDied_owner] at owned
    split_ifs at owned
    · exact absurd owned.symm nonzero
    · exact owned

theorem run_remembers (db : Right.UsbRightDataBase) (hostManager rightManager : Bool) (events : List Event) :
    Remembers db (.started hostManager rightManager) events ((World.started hostManager rightManager).run db events) := by
  induction events using List.reverseRecOn with
  | nil =>
    refine ⟨fun check member => ?_, fun recipient member => ?_, fun key tokenId owned => ?_⟩
    · cases member
    · cases member
    · have unowned : (0 : UInt32) = tokenId := by simpa [World.run, World.started, Claim.ClaimTable.owner_eq] using owned
      exact absurd unowned.symm tokenId.2
  | append_singleton events event ih =>
    rw [World.run_snoc]
    exact ih.step event

/-! ### The requests of a step -/

theorem query_warranted {query : Query} {usbd isSystemAppOrSa verifyPermission : Bool} {driver : Driver}
    {request : HostRequest}
    (sent : request ∈ ((start.run db events).step db (.query query usbd isSystemAppOrSa verifyPermission driver)).1) :
    Warranted db start events (.query query usbd isSystemAppOrSa verifyPermission driver) request := by
  simp only [World.step, Query.exec] at sent
  split at sent
  · cases sent
  · next ready =>
    obtain rfl := HostManager.mem_call sent
    simp only [QueryEnv.preCallFunction, QueryEnv.checkSysApiPermission, Bool.not_eq_false, Bool.and_eq_true] at ready
    obtain ⟨⟨⟨rfl, -⟩, rfl, rfl⟩, -⟩ := ready
    exact .systemApp

theorem hdi_onRemoteDied {cb : Callback} {recipient : Claim.ClaimDeathRecipient} {env : Claim.Env} {table : ClaimTable}
    {call : Claim.HdiCall} (made : .hdi call ∈ (Claim.onRemoteDied cb recipient env table).effects) :
    table.owner recipient.key = recipient.tokenId ∧
      call = .releaseInterface recipient.busNum recipient.devAddr recipient.interfaceid := by
  unfold Claim.onRemoteDied at made
  dsimp only at made
  split at made
  · next needed =>
    obtain ⟨inside, same⟩ := List.mem_map.1 made
    cases same.2
    rw [Bool.and_eq_true] at needed
    exact ⟨(Claim.onRemoteDied_needReleaseHdi.1 needed.1).1, HostManager.mem_call same.1⟩
  · cases made

theorem Remembers.warranted (remembers : Remembers db start events (start.run db events)) {event : Event}
    {request : HostRequest} (sent : request ∈ ((start.run db events).step db event).1) :
    Warranted db start events event request := by
  cases event with
  | service | check | removeAllClaimByDevice => cases sent
  | query => exact query_warranted sent
  | proceed index call driver ashmem addDeathRecipient reading =>
    simp only [World.step] at sent
    split at sent
    · cases sent
    · next check pending =>
      obtain ⟨permitted, target⟩ := (call.exec_within).requests request sent
      exact .caller check pending target (remembers.checks check (List.mem_of_getElem? pending) permitted)
  | submitterDied index driver =>
    simp only [World.step] at sent
    split at sent
    · cases sent
    · next recipient pending =>
      obtain ⟨tokenId, param, there, fd, memSize, endpoint, made⟩ :=
        remembers.recipients recipient (List.mem_of_getElem? pending)
      exact .submission recipient tokenId param there fd memSize pending endpoint made
        (SubmitRecipient.mem_onRemoteDied sent)
  | claimantDied cb recipient driver =>
    obtain ⟨effect, inside, same⟩ := List.mem_filterMap.1 sent
    cases effect with
    | onConflict => cases same
    | hdi call =>
      cases same
      obtain ⟨owned, rfl⟩ := hdi_onRemoteDied inside
      obtain ⟨b, d, i, force, notified, key, made⟩ := remembers.claims recipient.key recipient.tokenId owned
      obtain ⟨rfl, rfl, rfl⟩ := Claim.makeClaimKey_inj.1 key
      exact .claim force notified made

/-- In every run, each request that a step sends to the driver has a warrant: the client of the call has
passed the permission check for the device, or the caller is a system application with the
permission of the two queries, or a client that has died had passed the check before the call that left its
death recipient. A check is passed only with a right, or as a system application, for the identity
recorded for the address. -/
theorem requests_mediated (db : Right.UsbRightDataBase) (hostManager rightManager : Bool) (events : List Event) :
    (∀ event request,
      request ∈ (((World.started hostManager rightManager).run db events).step db event).1 →
        Warranted db (.started hostManager rightManager) events event request) ∧
    ∀ tokenId b d, Passed db (.started hostManager rightManager) events tokenId b d →
      ∃ earlier client now deviceVidPidSerialNum, earlier ++ [.check client now b d] <+: events ∧
        client.tokenId = tokenId ∧
        ((World.started hostManager rightManager).run db earlier).service.Authorised db
          (UsbService.rightOps db (.started hostManager rightManager) (World.serviceEvents earlier)) now client.caller
          deviceVidPidSerialNum ∧
        (UsbService.OrderlyRun db (.started hostManager rightManager) (World.serviceEvents earlier) → ∀ dev,
          ((World.started hostManager rightManager).run db earlier).service.deviceAt (deviceName b d) = some dev →
            deviceVidPidSerialNum = uniqueName dev) := by
  refine ⟨fun event request sent => (run_remembers db hostManager rightManager events).warranted sent, ?_⟩
  rintro tokenId b d ⟨earlier, client, now, inside, same, permitted⟩
  rw [World.run_service] at permitted
  obtain ⟨number, authorised, identity⟩ := UsbService.checkDevicePermission_authorised permitted
  change ((World.started hostManager rightManager).service.run db _).Authorised db _ _ _ _ at authorised
  change _ → ∀ dev, ((World.started hostManager rightManager).service.run db _).deviceAt _ = _ → _ at identity
  rw [← World.run_service] at authorised identity
  exact ⟨earlier, client, now, number, inside, same, authorised, identity⟩

end Mediation

end UsbManager.Host
