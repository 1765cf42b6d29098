import UsbManager.Claim.Key
import UsbManager.Service.ErrCode

/-!
# The claim table and its critical sections

`claimStateMap_` of `UsbService` and the functions that read or write it under
`claimMutex_` (`usb_service.cpp`). Each definition here is one critical section, so a
sequential operation chains them (`Claim/Operations.lean`) and a concurrent run interleaves
them (`Claim/Interleaving.lean`).

The death recipients the IPC layer currently holds are `deathLinks`, one pair per
`AddDeathRecipient` that was not undone by a `RemoveDeathRecipient`.
-/

namespace UsbManager.Claim

open Std (ExtTreeMap)

/-- A caller's access token; `GetCallingTokenID` is never the invalid token `0`. -/
abbrev TokenId := {token : UInt32 // token ≠ 0}

/-- A remote `IClaimExclusiveCallback` object. -/
abbrev Callback := Nat

/-- `UsbService::ClaimDeathRecipient`. -/
structure ClaimDeathRecipient where
  busNum : UInt8
  devAddr : UInt8
  interfaceid : UInt8
  tokenId : TokenId
  deriving DecidableEq

def ClaimDeathRecipient.key (recipient : ClaimDeathRecipient) : String :=
  makeClaimKey recipient.busNum recipient.devAddr recipient.interfaceid

/-- `UsbService::ClaimInterfaceState`; a null `sptr` is `none`. -/
structure ClaimInterfaceState where
  exclusiveOwner : UInt32 := 0
  normalClaimed : Bool := false
  notifyCallback : Option Callback := none
  claimRecipient : Option ClaimDeathRecipient := none
  deriving DecidableEq

abbrev DeathLink := Callback × ClaimDeathRecipient

structure ClaimTable where
  claimStateMap : ExtTreeMap String ClaimInterfaceState := ∅
  deathLinks : List DeathLink := []

namespace ClaimInterfaceState

/-- The link that `notifyCallback->AsObject()->RemoveDeathRecipient(claimRecipient)` undoes. -/
def deathLink (state : ClaimInterfaceState) : Option DeathLink :=
  match state.notifyCallback, state.claimRecipient with
  | some cb, some recipient => some (cb, recipient)
  | _, _ => none

/-- The three assignments that drop the exclusive claim. -/
def clearExclusive (state : ClaimInterfaceState) : ClaimInterfaceState :=
  { state with exclusiveOwner := 0, notifyCallback := none, claimRecipient := none }

/-- What is left of an entry without its exclusive claim; `none` erases it. -/
def dropExclusive (state : ClaimInterfaceState) : Option ClaimInterfaceState :=
  if state.normalClaimed then some state.clearExclusive else none

end ClaimInterfaceState

/-- `RemoveDeathRecipient` of the link, when there is one. -/
def removeDeathRecipient (links : List DeathLink) : Option DeathLink → List DeathLink
  | some link => links.erase link
  | none => links

/-- `UsbService::NotifyExclusiveOwner`, with the callback to notify once the lock is dropped. -/
def notifyExclusiveOwner (b d i : UInt8) (tokenId : TokenId) (table : ClaimTable) :
    ClaimTable × Option Callback :=
  let key := makeClaimKey b d i
  let state := table.claimStateMap.getD key {}
  ({ table with claimStateMap := table.claimStateMap.insert key { state with normalClaimed := true } },
    if state.exclusiveOwner ≠ 0 ∧ state.exclusiveOwner ≠ tokenId then state.notifyCallback else none)

/-- `UsbService::CheckExclusiveTransfer`. -/
def checkExclusiveTransfer (b d i : UInt8) (tokenId : TokenId) (table : ClaimTable) : UsbErrCode :=
  match table.claimStateMap[makeClaimKey b d i]? with
  | none => .uecOk
  | some state =>
    if state.exclusiveOwner ≠ 0 ∧ state.normalClaimed = false ∧ state.exclusiveOwner ≠ tokenId then
      .uecServiceIoException
    else .uecOk

/-- The check section of `UsbService::ClaimInterfaceExclusive`: `isRepeat`, or the refusal. -/
def checkExclusiveClaim (b d i : UInt8) (tokenId : TokenId) (table : ClaimTable) :
    Except UsbErrCode Bool :=
  match table.claimStateMap[makeClaimKey b d i]? with
  | none => .ok false
  | some state =>
    if state.exclusiveOwner = tokenId then .ok true
    else if state.exclusiveOwner ≠ 0 then .error .uecInterfaceBusy
    else if state.normalClaimed then .error .uecInterfaceBusy
    else .ok false

/-- `UsbService::RegisterExclusiveCallback`; `added` is the result of `AddDeathRecipient`. -/
def registerExclusiveCallback (b d i : UInt8) (tokenId : TokenId) (cb : Option Callback)
    (isRepeat added : Bool) (table : ClaimTable) : ClaimTable :=
  match cb with
  | none => table
  | some cb =>
    if added = false then table
    else
      let recipient : ClaimDeathRecipient := ⟨b, d, i, tokenId⟩
      let state := table.claimStateMap.getD (makeClaimKey b d i) {}
      { claimStateMap := table.claimStateMap.insert (makeClaimKey b d i)
          { state with
            exclusiveOwner := if isRepeat then state.exclusiveOwner else tokenId
            notifyCallback := some cb
            claimRecipient := some recipient }
        deathLinks := removeDeathRecipient ((cb, recipient) :: table.deathLinks) state.deathLink }

/-- One pass of a sweep over the table: `next` is what becomes of an entry it selects. -/
def sweep (selects : String → ClaimInterfaceState → Bool)
    (next : ClaimInterfaceState → Option ClaimInterfaceState) (table : ClaimTable) : ClaimTable where
  claimStateMap := table.claimStateMap.filterMap fun key state =>
    if selects key state then next state else some state
  deathLinks := table.deathLinks.diff (table.claimStateMap.toList.filterMap fun entry =>
    if selects entry.1 entry.2 then entry.2.deathLink else none)

/-- `UsbService::RemoveExclusiveClaimByDevice`. -/
def removeExclusiveClaimByDevice (b d : UInt8) (tokenId : TokenId) (table : ClaimTable) : ClaimTable :=
  sweep (fun key state => comparePrefix key (claimPrefix b d) && state.exclusiveOwner == tokenId.1)
    ClaimInterfaceState.dropExclusive table

/-- `UsbService::RemoveAllClaimByDevice`. -/
def removeAllClaimByDevice (b d : UInt8) (table : ClaimTable) : ClaimTable :=
  sweep (fun key _ => comparePrefix key (claimPrefix b d)) (fun _ => none) table

structure ReleaseResult where
  ret : UsbErrCode
  releaseToHdi : Bool
  table : ClaimTable

/-- `UsbService::ReleaseClaimState`. -/
def releaseClaimState (b d i : UInt8) (tokenId : TokenId) (table : ClaimTable) : ReleaseResult :=
  let key := makeClaimKey b d i
  match table.claimStateMap[key]? with
  | none => ⟨.uecOk, true, table⟩
  | some state =>
    if state.exclusiveOwner = tokenId then
      let links := removeDeathRecipient table.deathLinks state.deathLink
      if state.normalClaimed then
        ⟨.uecOk, false, ⟨table.claimStateMap.insert key state.clearExclusive, links⟩⟩
      else ⟨.uecOk, true, ⟨table.claimStateMap.erase key, links⟩⟩
    else if state.exclusiveOwner ≠ 0 then
      if state.normalClaimed then
        ⟨.uecOk, false,
          { table with claimStateMap := table.claimStateMap.insert key { state with normalClaimed := false } }⟩
      else ⟨.uecInterfaceInvalidOperation, true, table⟩
    else if state.normalClaimed then
      ⟨.uecOk, true, { table with claimStateMap := table.claimStateMap.erase key }⟩
    else ⟨.uecOk, true, table⟩

/-- The locked part of `UsbService::ClaimDeathRecipient::OnRemoteDied`, with `needReleaseHdi`.
The dead object takes its links with it. -/
def ClaimDeathRecipient.onRemoteDied (recipient : ClaimDeathRecipient) (cb : Callback)
    (table : ClaimTable) : ClaimTable × Bool :=
  let key := recipient.key
  let links := table.deathLinks.erase (cb, recipient)
  match table.claimStateMap[key]? with
  | none => ({ table with deathLinks := links }, false)
  | some state =>
    if state.exclusiveOwner ≠ recipient.tokenId then ({ table with deathLinks := links }, false)
    else if state.normalClaimed then
      (⟨table.claimStateMap.insert key state.clearExclusive, links⟩, false)
    else (⟨table.claimStateMap.erase key, links⟩, true)

end UsbManager.Claim
