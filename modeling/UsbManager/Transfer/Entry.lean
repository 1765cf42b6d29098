import UsbManager.Claim.State
import UsbManager.Device.Tree
import UsbManager.Service.Host

/-!
# The service entry points that move data

The seven calls of `UsbService` that carry data to or from an endpoint other than the control
endpoint, each from its first check to its return. They differ in the order of their checks and in
whether, and with which interface, they ask `CheckExclusiveTransfer`.
-/

namespace UsbManager.Transfer

open Std (ExtTreeMap)
open UsbManager.Claim

/-- `UsbPipe` of the driver interface. -/
structure UsbPipe where
  intfId : UInt8
  endpointId : UInt8
  deriving DecidableEq

structure UsbTransInfo where
  endpoint : Int32
  flags : Int32
  type : Int32
  timeOut : Int32
  length : Int32
  userData : UInt64
  numIsoPackets : UInt32
  deriving DecidableEq

/-- The driver requests of the entry points; an `Ashmem` is its descriptor and size. -/
inductive Request where
  | bulkTransferRead (b d : UInt8) (pipe : UsbPipe) (timeOut : Int32)
  | bulkTransferReadwithLength (b d : UInt8) (pipe : UsbPipe) (timeOut length : Int32)
  | bulkTransferWrite (b d : UInt8) (pipe : UsbPipe) (timeOut : Int32) (data : List UInt8)
  | requestQueue (b d : UInt8) (pipe : UsbPipe) (clientData bufferData : List UInt8)
  | usbSubmitTransfer (b d : UInt8) (info : UsbTransInfo) (fd memSize : Int32)
  | bulkRead (b d : UInt8) (pipe : UsbPipe) (fd memSize : Int32)
  | bulkWrite (b d : UInt8) (pipe : UsbPipe) (fd memSize : Int32)
  deriving DecidableEq

/-- What a call finds: its permission, the host manager with its devices, and whether the
allocation of the `Ashmem` and `AddDeathRecipient` succeed. -/
structure Env where
  permitted : Bool
  host : HostManager Request
  devices : ExtTreeMap String UsbDevice
  ashmem : Bool
  addDeathRecipient : Bool

structure Outcome where
  ret : UsbErrCode
  calls : List Request := []

/-- A host manager method that forwards to the driver. -/
def forward (host : HostManager Request) (request : Request) : Outcome :=
  ⟨(host.call request).1, (host.call request).2⟩

/-- `UsbPipe pipe = {ep.GetInterfaceId(), ep.GetAddress()}`. -/
def pipeOf (ep : USBEndpoint) : UsbPipe := ⟨ep.interfaceId, ep.address.toUInt8⟩

/-- `UsbHostManager::GetTargetDevice`. -/
def getTargetDevice (devices : ExtTreeMap String UsbDevice) (b d : UInt8) : Option UsbDevice :=
  (devices.toList.find? fun entry => entry.2.busNum == b && entry.2.devAddr == d).map (·.2)

/-- `UsbHostManager::GetEndpointFromId`: the first endpoint with the address, over all
configurations. The comparison converts `endpointId` to unsigned. -/
def getEndpointFromId (dev : UsbDevice) (endpointId : Int32) : Option USBEndpoint :=
  dev.configs.findSome? fun config =>
    config.interfaces.findSome? fun interface =>
      interface.endpoints.find? fun ep => ep.address == endpointId.toUInt32

section Entry

variable (tokenId : TokenId) (b d : UInt8) (env : Env) (table : ClaimTable)

/-- The shape of the three `BulkTransfer` calls: the interface they ask about is the one in the
caller's endpoint object. -/
def bulkTransfer (ep : USBEndpoint) (request : Request) : Outcome :=
  if env.host.isNull then ⟨.uecServiceInvalidValue, []⟩
  else if env.permitted = false then ⟨.uecServicePermissionDenied, []⟩
  else
    let claimRet := checkExclusiveTransfer b d ep.interfaceId tokenId table
    if claimRet ≠ .uecOk then ⟨claimRet, []⟩
    else forward env.host request

/-- `UsbService::BulkTransferRead`. -/
def bulkTransferRead (ep : USBEndpoint) (timeOut : Int32) : Outcome :=
  bulkTransfer tokenId b d env table ep (.bulkTransferRead b d (pipeOf ep) timeOut)

/-- `UsbService::BulkTransferReadwithLength`. -/
def bulkTransferReadwithLength (ep : USBEndpoint) (length timeOut : Int32) : Outcome :=
  bulkTransfer tokenId b d env table ep (.bulkTransferReadwithLength b d (pipeOf ep) timeOut length)

/-- `UsbService::BulkTransferWrite`. -/
def bulkTransferWrite (ep : USBEndpoint) (data : List UInt8) (timeOut : Int32) : Outcome :=
  bulkTransfer tokenId b d env table ep (.bulkTransferWrite b d (pipeOf ep) timeOut data)

/-- `UsbService::RequestQueue`. It does not ask about exclusive claims. -/
def requestQueue (ep : USBEndpoint) (clientData bufferData : List UInt8) : Outcome :=
  if env.permitted = false then ⟨.uecServicePermissionDenied, []⟩
  else if env.host.isNull then ⟨.uecServiceInvalidValue, []⟩
  else forward env.host (.requestQueue b d (pipeOf ep) clientData bufferData)

/-- The shape of `BulkRead` and `BulkWrite`. They do not ask about exclusive claims. -/
def bulkAshmem (fd memSize : Int32) (request : Request) : Outcome :=
  if env.host.isNull ∨ fd ≤ 0 ∨ memSize ≤ 0 then ⟨.uecServiceInvalidValue, []⟩
  else if env.permitted = false then ⟨.uecServicePermissionDenied, []⟩
  else if env.ashmem = false then ⟨.uecServiceInvalidValue, []⟩
  else forward env.host request

/-- `UsbService::BulkRead`. -/
def bulkRead (ep : USBEndpoint) (fd memSize : Int32) : Outcome :=
  bulkAshmem env fd memSize (.bulkRead b d (pipeOf ep) fd memSize)

/-- `UsbService::BulkWrite`. -/
def bulkWrite (ep : USBEndpoint) (fd memSize : Int32) : Outcome :=
  bulkAshmem env fd memSize (.bulkWrite b d (pipeOf ep) fd memSize)

def memsizeMax : Int32 := 512 * 1024 * 1024

/-- The interface `UsbSubmitTransfer` asks about: that of the first endpoint of the device with the
address. -/
def submitInterface (endpoint : Int32) : Option UInt8 :=
  ((getTargetDevice env.devices b d).bind (getEndpointFromId · endpoint)).map (·.interfaceId)

/-- `UsbHostManager::UsbSubmitTransfer`: the recipient is installed before the driver is asked. -/
def hostSubmitTransfer (request : Request) : Outcome :=
  match env.host with
  | .driver answer =>
    if env.addDeathRecipient = false then ⟨.uecServiceInvalidValue, []⟩ else ⟨answer request, [request]⟩
  | _ => ⟨.uecServiceInvalidValue, []⟩

/-- `UsbService::UsbSubmitTransfer`; `cb` says whether the callback is there. -/
def usbSubmitTransfer (param : UsbTransInfo) (cb : Bool) (fd memSize : Int32) : Outcome :=
  if cb = false ∨ fd ≤ 0 ∨ memSize ≤ 0 ∨ memsizeMax ≤ memSize then ⟨.uecServiceInvalidValue, []⟩
  else if env.ashmem = false then ⟨.uecServiceInvalidValue, []⟩
  else if env.host.isNull then ⟨.uecServiceInvalidValue, []⟩
  else if env.permitted = false then ⟨.uecServicePermissionDenied, []⟩
  else
    let request := Request.usbSubmitTransfer b d param fd memSize
    match submitInterface b d env param.endpoint with
    | some i =>
      let claimRet := checkExclusiveTransfer b d i tokenId table
      if claimRet ≠ .uecOk then ⟨claimRet, []⟩ else hostSubmitTransfer env request
    | none => hostSubmitTransfer env request

end Entry

/-- A call of one of the entry points with its arguments. -/
inductive Call where
  | bulkTransferRead (ep : USBEndpoint) (timeOut : Int32)
  | bulkTransferReadwithLength (ep : USBEndpoint) (length timeOut : Int32)
  | bulkTransferWrite (ep : USBEndpoint) (data : List UInt8) (timeOut : Int32)
  | usbSubmitTransfer (param : UsbTransInfo) (cb : Bool) (fd memSize : Int32)
  | requestQueue (ep : USBEndpoint) (clientData bufferData : List UInt8)
  | bulkRead (ep : USBEndpoint) (fd memSize : Int32)
  | bulkWrite (ep : USBEndpoint) (fd memSize : Int32)

/-- A call by `tokenId` for the device at `b`, `d`. -/
def Call.exec (call : Call) (tokenId : TokenId) (b d : UInt8) (env : Env) (table : ClaimTable) : Outcome :=
  match call with
  | .bulkTransferRead ep timeOut => Transfer.bulkTransferRead tokenId b d env table ep timeOut
  | .bulkTransferReadwithLength ep length timeOut =>
    Transfer.bulkTransferReadwithLength tokenId b d env table ep length timeOut
  | .bulkTransferWrite ep data timeOut => Transfer.bulkTransferWrite tokenId b d env table ep data timeOut
  | .usbSubmitTransfer param cb fd memSize => Transfer.usbSubmitTransfer tokenId b d env table param cb fd memSize
  | .requestQueue ep clientData bufferData => Transfer.requestQueue b d env ep clientData bufferData
  | .bulkRead ep fd memSize => Transfer.bulkRead b d env ep fd memSize
  | .bulkWrite ep fd memSize => Transfer.bulkWrite b d env ep fd memSize

end UsbManager.Transfer
