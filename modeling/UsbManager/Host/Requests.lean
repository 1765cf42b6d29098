import UsbManager.Host.Identity
import UsbManager.Policy.Handles

/-!
# The requests for one device

The functions of `UsbService` that send a request for one device to the driver. Most ask
`CheckDevicePermission` and then for the host manager; the transfers ask in the other order, and the
two queries of the system applications do not ask for the device at all. A device that has been opened is
read by `GetDeviceInfo` for its connection record, with requests of its own. A request is what arrives at the
driver interface, whoever made it.
-/

namespace UsbManager

/-- The host manager for some of its requests. -/
def HostManager.comap {Part Whole : Type} (part : Part → Whole) : HostManager Whole → HostManager Part
  | .null => .null
  | .noInterface => .noInterface
  | .driver answer => .driver fun request => answer (part request)

end UsbManager

namespace UsbManager.Host

open Claim (TokenId Callback ClaimTable)
open Transfer (UsbPipe pipeOf UsbTransInfo)

structure UsbCtlSetUp where
  reqType : Int32
  reqCmd : Int32
  value : Int32
  index : Int32
  length : Int32
  timeout : Int32
  deriving DecidableEq

/-- `UsbCtrlTransfer` of the driver interface. -/
structure UsbCtrlTransfer where
  requestType : Int32
  requestCmd : Int32
  value : Int32
  index : Int32
  timeout : Int32
  deriving DecidableEq

/-- `UsbCtrlTransferParams` of the driver interface. -/
structure UsbCtrlTransferParams extends UsbCtrlTransfer where
  length : Int32
  deriving DecidableEq

/-- `UsbCtrlTransferChange` to a `UsbCtrlTransfer`. -/
def UsbCtlSetUp.toTransfer (setup : UsbCtlSetUp) : UsbCtrlTransfer :=
  ⟨setup.reqType, setup.reqCmd, setup.value, setup.index, setup.timeout⟩

/-- `UsbCtrlTransferChange` to a `UsbCtrlTransferParams`. -/
def UsbCtlSetUp.toParams (setup : UsbCtlSetUp) : UsbCtrlTransferParams := { setup.toTransfer with length := setup.length }

/-- The driver's methods that the functions call. -/
inductive DriverMethod where
  | openDevice
  | resetDevice
  | setInterface (interfaceId altIndex : UInt8)
  | setConfig (configIndex : UInt8)
  | manageInterface (interfaceId : UInt8) (disable : Bool)
  | clearHalt (pipe : UsbPipe)
  | getConfig
  | getRawDescriptor
  | getStringDescriptor (descId : UInt8)
  | getDeviceFileDescriptor
  | getDeviceSpeed
  | getInterfaceActiveStatus (interfaceId : UInt8)
  | controlTransferRead (ctrl : UsbCtrlTransfer)
  | controlTransferReadwithLength (ctrl : UsbCtrlTransferParams)
  | controlTransferWrite (ctrl : UsbCtrlTransfer) (data : List UInt8)
  | requestWait (timeOut : Int32)
  | requestCancel (pipe : UsbPipe)
  | usbCancelTransfer (endpoint : Int32)
  | regBulkCallback (pipe : UsbPipe)
  | unRegBulkCallback (pipe : UsbPipe)
  | bulkCancel (pipe : UsbPipe)
  | usbDeviceAuthorize (authorized : Bool)
  | usbInterfaceAuthorize (configId interfaceId : UInt8) (authorized : Bool)
  deriving DecidableEq

inductive HostRequest where
  | claim (call : Claim.HdiCall)
  | data (request : Transfer.Request)
  | device (busNum devAddr : UInt8) (method : DriverMethod)
  deriving DecidableEq

/-- The device that a request is for. -/
def HostRequest.target : HostRequest → UInt8 × UInt8
  | .claim (.claimInterface b d _ _) | .claim (.releaseInterface b d _) | .claim (.closeDevice b d) => (b, d)
  | .data (.bulkTransferRead b d _ _) | .data (.bulkTransferReadwithLength b d _ _ _)
  | .data (.bulkTransferWrite b d _ _ _) | .data (.requestQueue b d _ _ _) | .data (.usbSubmitTransfer b d _ _ _)
  | .data (.bulkRead b d _ _ _) | .data (.bulkWrite b d _ _ _) => (b, d)
  | .device b d _ => (b, d)

/-- A request that the host manager makes by itself. -/
def HostRequest.ofHdiCall : Policy.HdiCall → HostRequest
  | .openDevice b d => .device b d .openDevice
  | .closeDevice b d => .claim (.closeDevice b d)
  | .getConfig b d => .device b d .getConfig
  | .usbDeviceAuthorize b d authorized => .device b d (.usbDeviceAuthorize authorized)
  | .usbInterfaceAuthorize b d configId interfaceId authorized =>
    .device b d (.usbInterfaceAuthorize configId interfaceId authorized)
  | .manageInterface b d interfaceId disable => .device b d (.manageInterface interfaceId disable)
  | .getRawDescriptor b d => .device b d .getRawDescriptor
  | .getStringDescriptor b d idx => .device b d (.getStringDescriptor idx)

/-- What the driver answers and writes while a device is read. -/
structure InfoReading where
  env : Policy.Env
  descriptors : Policy.Descriptors

/-- The requests of `AddDeviceConnection`, which are those of `GetDeviceInfo`. -/
def addDeviceConnection (reading : InfoReading) (b d : UInt8) : List HostRequest :=
  (Policy.getDeviceInfo reading.env reading.descriptors b d {} {}).2.calls.reverse.map fun entry =>
    .ofHdiCall entry.1

theorem target_addDeviceConnection {reading : InfoReading} {b d : UInt8} {request : HostRequest}
    (made : request ∈ addDeviceConnection reading b d) : request.target = (b, d) := by
  obtain ⟨entry, logged, rfl⟩ := List.mem_map.1 made
  have logs : ∀ (calls : Policy.Calls) (call : Policy.HdiCall) ret, (HostRequest.ofHdiCall call).target = (b, d) →
      (∀ entry ∈ calls, (HostRequest.ofHdiCall entry.1).target = (b, d)) →
      ∀ entry ∈ (call, ret) :: calls, (HostRequest.ofHdiCall entry.1).target = (b, d) :=
    fun _ _ _ here there => List.forall_mem_cons.2 ⟨here, there⟩
  have kept : Keeps (fun s : Policy.State => ∀ entry ∈ s.calls, (HostRequest.ofHdiCall entry.1).target = (b, d))
      (Policy.getDeviceInfo reading.env reading.descriptors b d {}) :=
    Policy.logged_getDeviceInfo logs rfl rfl (fun _ => rfl) rfl reading.descriptors {}
  have all := kept {} (List.forall_mem_nil _)
  exact all entry (List.mem_reverse.1 logged)

section Functions

variable (permitted : Bool) (host : HostManager HostRequest) (b d : UInt8)

/-- The shape of most functions: the permission, the host manager, the request. -/
def checked (method : DriverMethod) : UsbErrCode × List HostRequest :=
  if permitted = false then (.uecServicePermissionDenied, [])
  else if host.isNull then (.uecServiceInvalidValue, [])
  else host.call (.device b d method)

/-- `UsbService::ResetDevice`; `known` is its first look into `deviceVidPidMap_`. -/
def resetDevice (known : Bool) : UsbErrCode × List HostRequest :=
  if known = false then (.uecInterfaceNameNotFound, []) else checked permitted host b d .resetDevice

/-- `UsbService::SetInterface`. -/
def setInterface (interfaceid altIndex : UInt8) := checked permitted host b d (.setInterface interfaceid altIndex)

/-- `UsbService::SetActiveConfig`. -/
def setActiveConfig (configIndex : UInt8) := checked permitted host b d (.setConfig configIndex)

/-- `UsbService::UsbAttachKernelDriver`. -/
def usbAttachKernelDriver (interface : UInt8) := checked permitted host b d (.manageInterface interface false)

/-- `UsbService::UsbDetachKernelDriver`. -/
def usbDetachKernelDriver (interface : UInt8) := checked permitted host b d (.manageInterface interface true)

/-- `UsbService::ClearHalt`. -/
def clearHalt (interfaceId endpointId : UInt8) := checked permitted host b d (.clearHalt ⟨interfaceId, endpointId⟩)

/-- `UsbService::GetActiveConfig`. -/
def getActiveConfig := checked permitted host b d .getConfig

/-- `UsbService::GetRawDescriptor`. -/
def getRawDescriptor := checked permitted host b d .getRawDescriptor

/-- `UsbService::GetFileDescriptor`. -/
def getFileDescriptor := checked permitted host b d .getDeviceFileDescriptor

/-- `UsbService::RequestWait`. -/
def requestWait (timeOut : Int32) := checked permitted host b d (.requestWait timeOut)

/-- `UsbService::RequestCancel`. -/
def requestCancel (interfaceId endpointId : UInt8) :=
  checked permitted host b d (.requestCancel ⟨interfaceId, endpointId⟩)

/-- `UsbService::UsbCancelTransfer`. -/
def usbCancelTransfer (endpoint : Int32) := checked permitted host b d (.usbCancelTransfer endpoint)

/-- `UsbService::RegBulkCallback`; the host manager refuses a null callback. -/
def regBulkCallback (ep : USBEndpoint) (cb : Bool) : UsbErrCode × List HostRequest :=
  if cb then checked permitted host b d (.regBulkCallback (pipeOf ep))
  else if permitted = false then (.uecServicePermissionDenied, [])
  else (.uecServiceInvalidValue, [])

/-- `UsbService::UnRegBulkCallback`. -/
def unRegBulkCallback (ep : USBEndpoint) := checked permitted host b d (.unRegBulkCallback (pipeOf ep))

/-- `UsbService::BulkCancel`. -/
def bulkCancel (ep : USBEndpoint) := checked permitted host b d (.bulkCancel (pipeOf ep))

/-- The shape of the control transfers: the host manager first; what is read or written is decided by
the direction in the request type. -/
def controlled (reqType : Int32) (read write : DriverMethod) : UsbErrCode × List HostRequest :=
  if host.isNull then (.uecServiceInvalidValue, [])
  else if permitted = false then (.uecServicePermissionDenied, [])
  else host.call (.device b d (if reqType.toUInt32 &&& 0x80 = 0 then write else read))

/-- `UsbService::ControlTransfer`. -/
def controlTransfer (ctrlParams : UsbCtlSetUp) (bufferData : List UInt8) :=
  controlled permitted host b d ctrlParams.reqType (.controlTransferRead ctrlParams.toTransfer)
    (.controlTransferWrite ctrlParams.toTransfer bufferData)

/-- `UsbService::UsbControlTransfer`. -/
def usbControlTransfer (ctrlParams : UsbCtlSetUp) (bufferData : List UInt8) :=
  controlled permitted host b d ctrlParams.reqType (.controlTransferReadwithLength ctrlParams.toParams)
    (.controlTransferWrite ctrlParams.toTransfer bufferData)

end Functions

/-! ### Calls -/

/-- A call for one device; `cb` of a transfer is the callback object that comes with a submission. -/
inductive HostCall where
  | openDevice
  | close
  | resetDevice
  | claimInterface (i force : UInt8)
  | claimInterfaceExclusive (i force : UInt8) (cb : Option Callback)
  | releaseInterface (i : UInt8)
  | setInterface (i altIndex : UInt8)
  | setActiveConfig (configIndex : UInt8)
  | usbAttachKernelDriver (i : UInt8)
  | usbDetachKernelDriver (i : UInt8)
  | clearHalt (i endpointId : UInt8)
  | getActiveConfig
  | getRawDescriptor
  | getFileDescriptor
  | transfer (call : Transfer.Call) (cb : Callback)
  | controlTransfer (ctrlParams : UsbCtlSetUp) (bufferData : List UInt8)
  | usbControlTransfer (ctrlParams : UsbCtlSetUp) (bufferData : List UInt8)
  | requestWait (timeOut : Int32)
  | requestCancel (i endpointId : UInt8)
  | usbCancelTransfer (endpoint : Int32)
  | regBulkCallback (ep : USBEndpoint) (cb : Bool)
  | unRegBulkCallback (ep : USBEndpoint)
  | bulkCancel (ep : USBEndpoint)

/-- A call past its permission check, with what the check said; `known` is the first look of
`ResetDevice` into `deviceVidPidMap_`. -/
structure Check where
  tokenId : TokenId
  busNum : UInt8
  devAddr : UInt8
  permitted : Bool
  known : Bool

/-- What the rest of a call finds. -/
structure CallEnv where
  host : HostManager HostRequest
  devices : Std.ExtTreeMap String UsbDevice
  ashmem : Bool
  addDeathRecipient : Bool
  reading : InfoReading

/-- `UsbSubmitTransferDeathRecipient`, with the callback object it watches. -/
structure SubmitRecipient where
  cb : Callback
  busNum : UInt8
  devAddr : UInt8
  endpoint : Int32
  deriving DecidableEq

structure CallOutcome where
  ret : UsbErrCode
  requests : List HostRequest
  table : ClaimTable
  recipients : List SubmitRecipient := []

section Exec

variable (check : Check) (env : CallEnv) (table : ClaimTable)

/-- A call that leaves the claims as they are. -/
def plain (result : UsbErrCode × List HostRequest) : CallOutcome := ⟨result.1, result.2, table, []⟩

/-- A call of the claim operations; a conflict is reported to a client and is no request. -/
def claiming (op : Claim.Op) : CallOutcome :=
  let outcome := op.exec ⟨check.permitted, env.host.comap .claim, env.addDeathRecipient⟩ table
  { ret := outcome.ret
    requests := outcome.effects.filterMap fun
      | .hdi call => some (.claim call)
      | .onConflict .. => none
    table := outcome.table }

/-- A call that moves data. The recipient of a submission stays exactly if the driver accepts it. -/
def transferring (call : Transfer.Call) (cb : Callback) : CallOutcome :=
  let outcome := call.exec check.tokenId check.busNum check.devAddr
    ⟨check.permitted, env.host.comap .data, env.devices, env.ashmem, env.addDeathRecipient⟩ table
  { ret := outcome.ret
    requests := outcome.calls.map .data
    table := table
    recipients :=
      match call with
      | .usbSubmitTransfer param .. =>
        if outcome.ret = .uecOk then [⟨cb, check.busNum, check.devAddr, param.endpoint⟩] else []
      | _ => [] }

/-- The rest of a call after its permission check. -/
def HostCall.exec : HostCall → CallOutcome
  | .openDevice =>
    let opened := Host.openDevice check.permitted (env.host.comap fun dev => .device dev.1 dev.2 .openDevice)
      check.busNum check.devAddr
    let connection := if opened.1 ≠ .uecOk then [] else addDeviceConnection env.reading check.busNum check.devAddr
    plain table (opened.1, (opened.2.map fun dev => .device dev.1 dev.2 .openDevice) ++ connection)
  | .close => claiming check env table (.close check.tokenId check.busNum check.devAddr)
  | .resetDevice => plain table (Host.resetDevice check.permitted env.host check.busNum check.devAddr check.known)
  | .claimInterface i force =>
    claiming check env table (.claimInterface check.tokenId check.busNum check.devAddr i force)
  | .claimInterfaceExclusive i force cb =>
    claiming check env table (.claimInterfaceExclusive check.tokenId check.busNum check.devAddr i force cb)
  | .releaseInterface i =>
    claiming check env table (.releaseInterface check.tokenId check.busNum check.devAddr i)
  | .setInterface i altIndex =>
    plain table (Host.setInterface check.permitted env.host check.busNum check.devAddr i altIndex)
  | .setActiveConfig configIndex =>
    plain table (Host.setActiveConfig check.permitted env.host check.busNum check.devAddr configIndex)
  | .usbAttachKernelDriver i =>
    plain table (Host.usbAttachKernelDriver check.permitted env.host check.busNum check.devAddr i)
  | .usbDetachKernelDriver i =>
    plain table (Host.usbDetachKernelDriver check.permitted env.host check.busNum check.devAddr i)
  | .clearHalt i endpointId =>
    plain table (Host.clearHalt check.permitted env.host check.busNum check.devAddr i endpointId)
  | .getActiveConfig => plain table (Host.getActiveConfig check.permitted env.host check.busNum check.devAddr)
  | .getRawDescriptor => plain table (Host.getRawDescriptor check.permitted env.host check.busNum check.devAddr)
  | .getFileDescriptor => plain table (Host.getFileDescriptor check.permitted env.host check.busNum check.devAddr)
  | .transfer call cb => transferring check env table call cb
  | .controlTransfer ctrlParams bufferData =>
    plain table (Host.controlTransfer check.permitted env.host check.busNum check.devAddr ctrlParams bufferData)
  | .usbControlTransfer ctrlParams bufferData =>
    plain table (Host.usbControlTransfer check.permitted env.host check.busNum check.devAddr ctrlParams bufferData)
  | .requestWait timeOut =>
    plain table (Host.requestWait check.permitted env.host check.busNum check.devAddr timeOut)
  | .requestCancel i endpointId =>
    plain table (Host.requestCancel check.permitted env.host check.busNum check.devAddr i endpointId)
  | .usbCancelTransfer endpoint =>
    plain table (Host.usbCancelTransfer check.permitted env.host check.busNum check.devAddr endpoint)
  | .regBulkCallback ep cb =>
    plain table (Host.regBulkCallback check.permitted env.host check.busNum check.devAddr ep cb)
  | .unRegBulkCallback ep =>
    plain table (Host.unRegBulkCallback check.permitted env.host check.busNum check.devAddr ep)
  | .bulkCancel ep => plain table (Host.bulkCancel check.permitted env.host check.busNum check.devAddr ep)

end Exec

/-! ### Queries of the system applications -/

/-- What `PreCallFunction` finds: the driver interface, and what the token service says of the caller. -/
structure QueryEnv where
  usbd : Bool
  isSystemAppOrSa : Bool
  verifyPermission : Bool
  host : HostManager HostRequest

/-- `CheckSysApiPermission` is `UEC_OK`. -/
def QueryEnv.checkSysApiPermission (env : QueryEnv) : Bool := env.isSystemAppOrSa && env.verifyPermission

/-- `PreCallFunction` is `UEC_OK`. -/
def QueryEnv.preCallFunction (env : QueryEnv) (rightManager : Bool) : Bool :=
  env.usbd && rightManager && env.checkSysApiPermission && !env.host.isNull

/-- A query, with the device it is about. -/
inductive Query where
  | getDeviceSpeed (busNum devAddr : UInt8)
  | getInterfaceActiveStatus (busNum devAddr interfaceid : UInt8)

def Query.request : Query → HostRequest
  | .getDeviceSpeed b d => .device b d .getDeviceSpeed
  | .getInterfaceActiveStatus b d interfaceid => .device b d (.getInterfaceActiveStatus interfaceid)

/-- `UsbService::GetDeviceSpeed` and `GetInterfaceActiveStatus`; `none` is
`UEC_SERVICE_PRE_MANAGE_INTERFACE_FAILED`. -/
def Query.exec (query : Query) (env : QueryEnv) (rightManager : Bool) : Option UsbErrCode × List HostRequest :=
  if env.preCallFunction rightManager = false then (none, [])
  else ((env.host.call query.request).1, (env.host.call query.request).2)

/-! ### What a call can send -/

section Spec

variable {check : Check} {env : CallEnv} {table : ClaimTable} {host : HostManager HostRequest} {b d : UInt8}
  {request : HostRequest}

theorem mem_checked {permitted : Bool} {method : DriverMethod}
    (made : request ∈ (checked permitted host b d method).2) : permitted = true ∧ request = .device b d method := by
  cases permitted with
  | false => simp [checked] at made
  | true =>
    refine ⟨rfl, @HostManager.mem_call _ host _ _ ?_⟩
    simp only [checked, Bool.true_eq_false, if_false] at made
    split at made
    · cases made
    · exact made

theorem mem_controlled {permitted : Bool} {reqType : Int32} {read write : DriverMethod}
    (made : request ∈ (controlled permitted host b d reqType read write).2) :
    permitted = true ∧ ∃ method, request = .device b d method := by
  unfold controlled at made
  split at made
  · cases made
  · cases permitted with
    | false => cases made
    | true => exact ⟨rfl, _, HostManager.mem_call made⟩

/-- What the specification of a call says of its outcome: requests and recipients are only for the
device of the check, and only after it has passed; the claims get a new owner only by an exclusive
claim of the caller. -/
structure CallOutcome.Within (check : Check) (table : ClaimTable) (call : HostCall) (outcome : CallOutcome) : Prop where
  requests : ∀ request ∈ outcome.requests, check.permitted = true ∧ request.target = (check.busNum, check.devAddr)
  recipients : ∀ recipient ∈ outcome.recipients, ∃ param there fd memSize cb,
    call = .transfer (.usbSubmitTransfer param there fd memSize) cb ∧
      recipient = ⟨cb, check.busNum, check.devAddr, param.endpoint⟩ ∧ outcome.ret = .uecOk ∧
      .data (.usbSubmitTransfer check.busNum check.devAddr param fd memSize) ∈ outcome.requests
  owner : ∀ (key : String) (t : TokenId), outcome.table.owner key = t → table.owner key = t ∨
    ∃ i force cb, call = .claimInterfaceExclusive i force (some cb) ∧ check.tokenId = t ∧
      key = Claim.makeClaimKey check.busNum check.devAddr i ∧ outcome.ret = .uecOk ∧
      .claim (.claimInterface check.busNum check.devAddr i force) ∈ outcome.requests

theorem plain_within {call : HostCall} {result : UsbErrCode × List HostRequest}
    (requests : ∀ request ∈ result.2, check.permitted = true ∧ request.target = (check.busNum, check.devAddr)) :
    CallOutcome.Within check table call (plain table result) where
  requests := requests
  recipients _ member := by cases member
  owner _ _ same := .inl same

theorem checked_within {call : HostCall} (method : DriverMethod) :
    CallOutcome.Within check table call
      (plain table (checked check.permitted host check.busNum check.devAddr method)) := by
  refine plain_within fun request made => ?_
  obtain ⟨permitted, rfl⟩ := mem_checked made
  exact ⟨permitted, rfl⟩

theorem controlled_within {call : HostCall} {reqType : Int32} {read write : DriverMethod} :
    CallOutcome.Within check table call
      (plain table (controlled check.permitted host check.busNum check.devAddr reqType read write)) := by
  refine plain_within fun request made => ?_
  obtain ⟨permitted, method, rfl⟩ := mem_controlled made
  exact ⟨permitted, rfl⟩

section Claims

variable {t : TokenId} {i force : UInt8} {cb : Option Callback} {claimEnv : Claim.Env} {call : Claim.HdiCall}

theorem hdi_claimInterface (made : .hdi call ∈ (Claim.claimInterface t b d i force claimEnv table).effects) :
    claimEnv.permitted = true ∧ call = .claimInterface b d i force := by
  obtain ⟨permitted, host, added⟩ := claimEnv
  cases permitted with
  | false => cases made
  | true =>
    refine ⟨rfl, @HostManager.mem_call _ host _ _ ?_⟩
    cases host <;> grind [Claim.claimInterface, HostManager.isNull, HostManager.call]

theorem hdi_claimInterfaceExclusive
    (made : .hdi call ∈ (Claim.claimInterfaceExclusive t b d i force cb claimEnv table).effects) :
    claimEnv.permitted = true ∧ call = .claimInterface b d i force := by
  obtain ⟨permitted, host, added⟩ := claimEnv
  cases permitted with
  | false => cases made
  | true =>
    refine ⟨rfl, @HostManager.mem_call _ host _ _ ?_⟩
    cases host <;> grind [Claim.claimInterfaceExclusive, HostManager.isNull, HostManager.call]

theorem hdi_releaseInterface (made : .hdi call ∈ (Claim.releaseInterface t b d i claimEnv table).effects) :
    claimEnv.permitted = true ∧ call = .releaseInterface b d i := by
  obtain ⟨permitted, host, added⟩ := claimEnv
  cases permitted with
  | false => cases made
  | true =>
    refine ⟨rfl, @HostManager.mem_call _ host _ _ ?_⟩
    cases host <;> grind [Claim.releaseInterface, HostManager.isNull, HostManager.call]

theorem hdi_close (made : .hdi call ∈ (Claim.close t b d claimEnv table).effects) :
    claimEnv.permitted = true ∧ call = .closeDevice b d := by
  obtain ⟨permitted, host, added⟩ := claimEnv
  cases permitted with
  | false => cases made
  | true =>
    refine ⟨rfl, @HostManager.mem_call _ host _ _ ?_⟩
    cases host <;> grind [Claim.close, HostManager.isNull, HostManager.call]

end Claims

theorem mem_claiming {op : Claim.Op} (made : request ∈ (claiming check env table op).requests) :
    ∃ call, .hdi call ∈
        (op.exec ⟨check.permitted, env.host.comap .claim, env.addDeathRecipient⟩ table).effects ∧
      request = .claim call := by
  obtain ⟨effect, inside, same⟩ := List.mem_filterMap.1 made
  cases effect with
  | hdi call => exact ⟨call, inside, (Option.some.inj same).symm⟩
  | onConflict => cases same

theorem claiming_owner {op : Claim.Op} {key : String} {t : TokenId}
    (owned : (claiming check env table op).table.owner key = t) :
    table.owner key = t ∨ ∃ b d i force cb, op = .claimInterfaceExclusive t b d i force (some cb) ∧
      key = Claim.makeClaimKey b d i := by
  have through := op.exec_sections ⟨check.permitted, env.host.comap .claim, env.addDeathRecipient⟩ table
  change (op.exec _ table).table.owner key = t at owned
  generalize (op.exec _ table).table = after at owned through
  have nonzero := t.2
  cases through with
  | skip => exact .inl owned
  | notified => simpa using owned
  | @registered t' b d i force cb isRepeat checked =>
    rw [Claim.registerExclusiveCallback_owner] at owned
    split_ifs at owned with here
    · obtain rfl : t' = t := Subtype.ext owned
      exact .inr ⟨b, d, i, force, cb, rfl, here.1.symm⟩
    · exact .inl owned
  | released | closed | died | removed | removedClosed =>
    simp only [Claim.releaseClaimState_owner, Claim.removeExclusiveClaimByDevice_owner, Claim.onRemoteDied_owner,
      Claim.removeAllClaimByDevice_owner] at owned
    split_ifs at owned <;> simp_all

theorem claimInterfaceExclusive_made {t : TokenId} {i force : UInt8} {cb : Option Callback} {claimEnv : Claim.Env}
    (ok : (Claim.claimInterfaceExclusive t b d i force cb claimEnv table).ret = .uecOk) :
    .hdi (.claimInterface b d i force) ∈ (Claim.claimInterfaceExclusive t b d i force cb claimEnv table).effects := by
  obtain ⟨permitted, host, added⟩ := claimEnv
  cases permitted with
  | false => cases ok
  | true =>
    cases checked : Claim.checkExclusiveClaim b d i t table with
    | error busy =>
      have refused := Claim.checkExclusiveClaim_error checked
      cases host <;> simp_all [Claim.claimInterfaceExclusive, HostManager.isNull]
    | ok isRepeat =>
      cases host <;> grind [Claim.claimInterfaceExclusive, HostManager.isNull, HostManager.call]

/-- The request of a transfer that reaches the driver. -/
def transferRequest (b d : UInt8) : Transfer.Call → Transfer.Request
  | .bulkTransferRead ep timeOut => .bulkTransferRead b d (pipeOf ep) timeOut
  | .bulkTransferReadwithLength ep length timeOut => .bulkTransferReadwithLength b d (pipeOf ep) timeOut length
  | .bulkTransferWrite ep data timeOut => .bulkTransferWrite b d (pipeOf ep) timeOut data
  | .usbSubmitTransfer param _ fd memSize => .usbSubmitTransfer b d param fd memSize
  | .requestQueue ep clientData bufferData => .requestQueue b d (pipeOf ep) clientData bufferData
  | .bulkRead ep fd memSize => .bulkRead b d (pipeOf ep) fd memSize
  | .bulkWrite ep fd memSize => .bulkWrite b d (pipeOf ep) fd memSize

section Transfers

variable {t : TokenId} {transferEnv : Transfer.Env} {asked made : Transfer.Request}

theorem mem_bulkTransfer {ep : USBEndpoint}
    (inside : made ∈ (Transfer.bulkTransfer t b d transferEnv table ep asked).calls) : made = asked := by
  unfold Transfer.bulkTransfer at inside
  split at inside
  · cases inside
  · split at inside
    · cases inside
    · dsimp only at inside
      split at inside
      · cases inside
      · exact HostManager.mem_call inside

theorem mem_bulkAshmem {fd memSize : Int32}
    (inside : made ∈ (Transfer.bulkAshmem transferEnv fd memSize asked).calls) : made = asked := by
  unfold Transfer.bulkAshmem at inside
  split at inside
  · cases inside
  · split at inside
    · cases inside
    · split at inside
      · cases inside
      · exact HostManager.mem_call inside

theorem mem_hostSubmitTransfer (inside : made ∈ (Transfer.hostSubmitTransfer transferEnv asked).calls) :
    made = asked := by
  unfold Transfer.hostSubmitTransfer at inside
  split at inside
  · split at inside
    · cases inside
    · exact List.mem_singleton.1 inside
  · cases inside

theorem mem_usbSubmitTransfer {param : UsbTransInfo} {there : Bool} {fd memSize : Int32}
    (inside : made ∈ (Transfer.usbSubmitTransfer t b d transferEnv table param there fd memSize).calls) :
    made = .usbSubmitTransfer b d param fd memSize := by
  unfold Transfer.usbSubmitTransfer at inside
  split_ifs at inside
  any_goals cases inside
  split at inside
  · dsimp only at inside
    split at inside
    · cases inside
    · exact mem_hostSubmitTransfer inside
  · exact mem_hostSubmitTransfer inside

theorem mem_requestQueue {ep : USBEndpoint} {clientData bufferData : List UInt8}
    (inside : made ∈ (Transfer.requestQueue b d transferEnv ep clientData bufferData).calls) :
    made = .requestQueue b d (pipeOf ep) clientData bufferData := by
  unfold Transfer.requestQueue at inside
  split at inside
  · cases inside
  · split at inside
    · cases inside
    · exact HostManager.mem_call inside

theorem transfer_made {call : Transfer.Call} (inside : made ∈ (call.exec t b d transferEnv table).calls) :
    transferEnv.permitted = true ∧ made = transferRequest b d call := by
  constructor
  · rw [← Bool.not_eq_false]
    intro refused
    have isolated := (call.isolated_iff t b d transferEnv table).2 (.inl (.inl refused))
    rw [isolated.1] at inside
    cases inside
  · cases call with
    | bulkTransferRead | bulkTransferReadwithLength | bulkTransferWrite => exact mem_bulkTransfer inside
    | usbSubmitTransfer => exact mem_usbSubmitTransfer inside
    | requestQueue => exact mem_requestQueue inside
    | bulkRead | bulkWrite => exact mem_bulkAshmem inside

end Transfers

theorem submission_made {param : UsbTransInfo} {there : Bool} {fd memSize : Int32} {t : TokenId}
    {transferEnv : Transfer.Env}
    (ok : (Transfer.usbSubmitTransfer t b d transferEnv table param there fd memSize).ret = .uecOk) :
    .usbSubmitTransfer b d param fd memSize ∈
      (Transfer.usbSubmitTransfer t b d transferEnv table param there fd memSize).calls := by
  grind [Transfer.usbSubmitTransfer, Transfer.hostSubmitTransfer]

theorem transferring_within (call : Transfer.Call) (cb : Callback) :
    CallOutcome.Within check table (.transfer call cb) (transferring check env table call cb) where
  requests request made := by
    obtain ⟨asked, inside, rfl⟩ := List.mem_map.1 made
    obtain ⟨permitted, rfl⟩ := transfer_made inside
    exact ⟨permitted, by cases call <;> rfl⟩
  recipients recipient member := by
    cases call with
    | usbSubmitTransfer param there fd memSize =>
      dsimp only [transferring] at member
      split_ifs at member with accepted
      · exact ⟨param, there, fd, memSize, cb, rfl, List.mem_singleton.1 member, accepted,
          List.mem_map_of_mem (submission_made accepted)⟩
      · cases member
    | _ => cases member
  owner _ _ same := .inl same

theorem claiming_within {call : HostCall} {op : Claim.Op}
    (requests : ∀ hdi, .hdi hdi ∈
        (op.exec ⟨check.permitted, env.host.comap .claim, env.addDeathRecipient⟩ table).effects →
      check.permitted = true ∧ (HostRequest.claim hdi).target = (check.busNum, check.devAddr))
    (owner : ∀ t b d i force cb, op = .claimInterfaceExclusive t b d i force (some cb) →
      call = .claimInterfaceExclusive i force (some cb) ∧ t = check.tokenId ∧ b = check.busNum ∧ d = check.devAddr) :
    CallOutcome.Within check table call (claiming check env table op) where
  requests request made := by
    obtain ⟨hdi, inside, rfl⟩ := mem_claiming made
    exact requests hdi inside
  recipients _ member := by cases member
  owner key t owned := by
    rcases claiming_owner owned with before | ⟨b, d, i, force, cb, rfl, rfl⟩
    · exact .inl before
    · obtain ⟨rfl, rfl, rfl, rfl⟩ := owner t b d i force cb rfl
      have cases := Claim.claimInterfaceExclusive_cases check.tokenId check.busNum check.devAddr i force (some cb)
        ⟨check.permitted, env.host.comap .claim, env.addDeathRecipient⟩ table
      rcases cases with ⟨-, -, ok, -⟩ | ⟨-, same⟩
      · refine .inr ⟨i, force, cb, rfl, rfl, rfl, ok, ?_⟩
        exact List.mem_filterMap.2 ⟨_, claimInterfaceExclusive_made ok, rfl⟩
      · change (Claim.claimInterfaceExclusive check.tokenId check.busNum check.devAddr i force (some cb) _ table).table.owner
          _ = _ at owned
        rw [same] at owned
        exact .inl owned

/-- The specification of the calls. -/
theorem HostCall.exec_within (call : HostCall) : CallOutcome.Within check table call (call.exec check env table) := by
  cases call with
  | openDevice =>
    refine plain_within fun request made => ?_
    rcases List.mem_append.1 made with opening | connecting
    · obtain ⟨dev, inside, rfl⟩ := List.mem_map.1 opening
      unfold Host.openDevice at inside
      split_ifs at inside with refused null
      · cases inside
      · cases inside
      · rw [HostManager.mem_call inside]
        exact ⟨by simpa using refused, rfl⟩
    · split_ifs at connecting with failed
      · cases connecting
      · refine ⟨?_, target_addDeviceConnection connecting⟩
        rw [← Bool.not_eq_false]
        intro refused
        refine failed ?_
        rw [Host.openDevice, if_pos refused]
        exact UsbErrCode.noConfusion
  | close =>
    refine claiming_within (fun hdi inside => ?_) fun _ _ _ _ _ _ same => by cases same
    obtain ⟨permitted, rfl⟩ := hdi_close inside
    exact ⟨permitted, rfl⟩
  | resetDevice =>
    refine plain_within fun request made => ?_
    unfold Host.resetDevice at made
    split at made
    · cases made
    · obtain ⟨permitted, rfl⟩ := mem_checked made
      exact ⟨permitted, rfl⟩
  | claimInterface i force =>
    refine claiming_within (fun hdi inside => ?_) fun _ _ _ _ _ _ same => by cases same
    obtain ⟨permitted, rfl⟩ := hdi_claimInterface inside
    exact ⟨permitted, rfl⟩
  | claimInterfaceExclusive i force cb =>
    refine claiming_within (fun hdi inside => ?_) ?_
    · obtain ⟨permitted, rfl⟩ := hdi_claimInterfaceExclusive inside
      exact ⟨permitted, rfl⟩
    · rintro t b d i' force' cb' same
      cases same
      exact ⟨rfl, rfl, rfl, rfl⟩
  | releaseInterface i =>
    refine claiming_within (fun hdi inside => ?_) fun _ _ _ _ _ _ same => by cases same
    obtain ⟨permitted, rfl⟩ := hdi_releaseInterface inside
    exact ⟨permitted, rfl⟩
  | regBulkCallback ep cb =>
    refine plain_within fun request made => ?_
    unfold Host.regBulkCallback at made
    split_ifs at made
    · obtain ⟨permitted, rfl⟩ := mem_checked made
      exact ⟨permitted, rfl⟩
    · cases made
    · cases made
  | transfer call cb => exact transferring_within call cb
  | controlTransfer | usbControlTransfer => exact controlled_within
  | setInterface | setActiveConfig | usbAttachKernelDriver | usbDetachKernelDriver | clearHalt | getActiveConfig
  | getRawDescriptor | getFileDescriptor | requestWait | requestCancel | usbCancelTransfer | unRegBulkCallback
  | bulkCancel => exact checked_within _

end Spec

end UsbManager.Host
