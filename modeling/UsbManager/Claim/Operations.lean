import UsbManager.Claim.State
import UsbManager.Service.Host

/-!
# The claim operations, run one at a time

The service entry points that touch the claim table, each from its permission check to its
return. What the rest of the system answers is the `Env` of the call: the permission check,
whether the host manager and its driver interface exist, what the driver returns, and whether
`AddDeathRecipient` succeeds. All of it is arbitrary.
-/

namespace UsbManager.Claim

/-- The driver calls behind `UsbHostManager::ClaimInterface`, `ReleaseInterface` and `Close`. -/
inductive HdiCall where
  | claimInterface (b d i force : UInt8)
  | releaseInterface (b d i : UInt8)
  | closeDevice (b d : UInt8)
  deriving DecidableEq

/-- What a call does outside the claim table, in order. -/
inductive Effect where
  | hdi (call : HdiCall)
  | onConflict (cb : Callback) (b d i : UInt8)
  deriving DecidableEq

structure Env where
  permitted : Bool
  host : HostManager HdiCall
  addDeathRecipient : Bool

/-- Every check passes and every call to the rest of the system succeeds. -/
def Env.allGranted : Env := ⟨true, .driver fun _ => .uecOk, true⟩

structure Outcome where
  ret : UsbErrCode
  table : ClaimTable
  effects : List Effect := []

/-- `UsbService::ClaimInterface`. -/
def claimInterface (tokenId : TokenId) (b d i force : UInt8) (env : Env) (table : ClaimTable) : Outcome :=
  if env.permitted = false then ⟨.uecServicePermissionDenied, table, []⟩
  else if env.host.isNull then ⟨.uecServiceInvalidValue, table, []⟩
  else
    let (ret, calls) := env.host.call (.claimInterface b d i force)
    if ret ≠ .uecOk then ⟨ret, table, calls.map .hdi⟩
    else
      let (table, notifyCb) := notifyExclusiveOwner b d i tokenId table
      ⟨ret, table, calls.map .hdi ++ notifyCb.toList.map (.onConflict · b d i)⟩

/-- `UsbService::ClaimInterfaceExclusive`. -/
def claimInterfaceExclusive (tokenId : TokenId) (b d i force : UInt8) (cb : Option Callback) (env : Env)
    (table : ClaimTable) : Outcome :=
  if env.permitted = false then ⟨.uecServicePermissionDenied, table, []⟩
  else if env.host.isNull then ⟨.uecServiceInvalidValue, table, []⟩
  else
    match checkExclusiveClaim b d i tokenId table with
    | .error busy => ⟨busy, table, []⟩
    | .ok isRepeat =>
      let (ret, calls) := env.host.call (.claimInterface b d i force)
      if ret ≠ .uecOk then ⟨ret, table, calls.map .hdi⟩
      else ⟨.uecOk, registerExclusiveCallback b d i tokenId cb isRepeat env.addDeathRecipient table, calls.map .hdi⟩

/-- `UsbService::ReleaseInterface`. -/
def releaseInterface (tokenId : TokenId) (b d i : UInt8) (env : Env) (table : ClaimTable) : Outcome :=
  if env.permitted = false then ⟨.uecServicePermissionDenied, table, []⟩
  else
    let released := releaseClaimState b d i tokenId table
    if released.ret ≠ .uecOk then ⟨released.ret, released.table, []⟩
    else if released.releaseToHdi = false then ⟨.uecOk, released.table, []⟩
    else if env.host.isNull then ⟨.uecServiceInvalidValue, released.table, []⟩
    else
      let (ret, calls) := env.host.call (.releaseInterface b d i)
      ⟨if ret = .hdfDevErrOp then .uecInterfaceInvalidOperation else ret, released.table, calls.map .hdi⟩

/-- `UsbService::Close`. -/
def close (tokenId : TokenId) (b d : UInt8) (env : Env) (table : ClaimTable) : Outcome :=
  if env.permitted = false then ⟨.uecServicePermissionDenied, table, []⟩
  else
    let table := removeExclusiveClaimByDevice b d tokenId table
    if env.host.isNull then ⟨.uecServiceInvalidValue, table, []⟩
    else
      let (ret, calls) := env.host.call (.closeDevice b d)
      ⟨ret, table, calls.map .hdi⟩

/-- `UsbService::ClaimDeathRecipient::OnRemoteDied`. -/
def onRemoteDied (cb : Callback) (recipient : ClaimDeathRecipient) (env : Env) (table : ClaimTable) : Outcome :=
  let (table, needReleaseHdi) := recipient.onRemoteDied cb table
  if needReleaseHdi && !env.host.isNull then
    let (_, calls) :=
      env.host.call (.releaseInterface recipient.busNum recipient.devAddr recipient.interfaceid)
    ⟨.uecOk, table, calls.map .hdi⟩
  else ⟨.uecOk, table, []⟩

/-- The part of `UsbService::DelDevice` that touches claims: the sweep and the inner `Close`,
whose result it only logs. -/
def delDevice (tokenId : TokenId) (b d : UInt8) (env : Env) (table : ClaimTable) : Outcome :=
  close tokenId b d env (removeAllClaimByDevice b d table)

/-- A service operation with its arguments. -/
inductive Op where
  | claimInterface (tokenId : TokenId) (b d i force : UInt8)
  | claimInterfaceExclusive (tokenId : TokenId) (b d i force : UInt8) (cb : Option Callback)
  | releaseInterface (tokenId : TokenId) (b d i : UInt8)
  | close (tokenId : TokenId) (b d : UInt8)
  | onRemoteDied (cb : Callback) (recipient : ClaimDeathRecipient)
  | delDevice (tokenId : TokenId) (b d : UInt8)
  deriving DecidableEq

def Op.exec : Op → Env → ClaimTable → Outcome
  | .claimInterface tokenId b d i force => Claim.claimInterface tokenId b d i force
  | .claimInterfaceExclusive tokenId b d i force cb => Claim.claimInterfaceExclusive tokenId b d i force cb
  | .releaseInterface tokenId b d i => Claim.releaseInterface tokenId b d i
  | .close tokenId b d => Claim.close tokenId b d
  | .onRemoteDied cb recipient => Claim.onRemoteDied cb recipient
  | .delDevice tokenId b d => Claim.delDevice tokenId b d

end UsbManager.Claim
