import UsbManager.Lib.Parcel
import UsbManager.Policy.Types
import UsbManager.Service.ErrCode

/-!
# The policy of the device manager

`GetUsbPolicy` asks the enterprise device manager (EDM) five times and decodes the five replies into the
variables of `ExecuteStrategy` and the member `isPermTypePolicy_`. Each reply starts with a result;
a list is announced by its size.
-/

namespace UsbManager.Policy

open Parcel

def trustlistPolicyMaxDevices : Int := 1000
def getEdmStorageDisableType : Int := 2
def edmSaTimeOutCode : UsbErrCode := .hdf 9200007
def edmSaMaxTimeOut : Nat := 5000

inductive EdmRequest where
  | disableUsb
  | usbStorageDeviceAccessPolicy
  | usbDeviceAccessPolicy
  | usbTypeDisallowPolicy
  | allowedUsbDevices
  deriving DecidableEq, Repr

/-- The services that `GetEdmPolicy` finds, and what `SendRequest` returns and puts into the reply. -/
structure Edm where
  systemAbilityManager : Bool := true
  remote : Bool := true
  sendRequest : EdmRequest → UsbErrCode × List Word

/-- The arguments of `GetUsbPolicy`, passed by reference, and the member that it sets. -/
structure UsbPolicy where
  isGlobalDisabled : Bool := false
  disableType : List UsbDeviceType := []
  trustUsbDeviceIds : List UsbDeviceId := []
  isPermTypePolicy : Bool := false
  deriving DecidableEq, Repr

/-- The rest of a reply, if the request was sent and the reply says so. -/
def Edm.request (edm : Edm) (funcCode : EdmRequest) : Option (List Word) :=
  let (sendRet, reply) := edm.sendRequest funcCode
  let (ret, rest) := tryReadInt32 reply
  if ret = some 0 ∧ sendRet = .uecOk then some rest else none

def getEdmGlobalPolicy (edm : Edm) (p : UsbPolicy) : UsbErrCode × UsbPolicy :=
  match edm.request .disableUsb with
  | none => (.uecServiceEdmSendRequestFailed, p)
  | some reply => (.uecOk, { p with isGlobalDisabled := (tryReadBool reply).1.getD p.isGlobalDisabled })

def getEdmStroageTypePolicy (edm : Edm) (p : UsbPolicy) : UsbErrCode × UsbPolicy :=
  match edm.request .usbStorageDeviceAccessPolicy with
  | none => (.uecServiceEdmSendRequestFailed, p)
  | some reply =>
    let stroageDisableType := (tryReadInt32 reply).1.getD 0
    if stroageDisableType = getEdmStorageDisableType then
      (.uecOk, { p with disableType := p.disableType ++ [{ baseClass := storageBaseClass }] })
    else (.uecOk, p)

/-- The reads of one entry, each of which ends `ReadTypePolicyFromParcel` if it fails. -/
def readUsbDeviceType : List Word → Option (UsbDeviceType × List Word)
  | .bits32 baseClass :: .bits32 subClass :: .bits32 protocol :: .bits32 isDeviceType ::
      .bits32 isDeviceTypeAllMatch :: rest =>
    some ({
      baseClass := intOfUint32 baseClass
      subClass := intOfUint32 subClass
      protocol := intOfUint32 protocol
      isDeviceType := boolOfUint32 isDeviceType
      isDeviceTypeAllMatch := boolOfUint32 isDeviceTypeAllMatch }, rest)
  | _ => none

def readTypePolicyFromParcel : Nat → List Word → List UsbDeviceType → UsbErrCode × List UsbDeviceType
  | 0, _, disableType => (.uecOk, disableType)
  | size + 1, reply, disableType =>
    match readUsbDeviceType reply with
    | none => (.uecServiceEdmSendRequestFailed, disableType)
    | some (usbDeviceType, rest) => readTypePolicyFromParcel size rest (disableType ++ [usbDeviceType])

/-- An empty list is an error here, and the result of `ReadTypePolicyFromParcel` is not used. -/
def getEdmTypePolicy (edm : Edm) (p : UsbPolicy) : UsbErrCode × UsbPolicy :=
  match edm.request .usbDeviceAccessPolicy with
  | none => (.uecServiceEdmSendRequestFailed, p)
  | some reply =>
    match tryReadInt32 reply with
    | (none, _) => (.uecServiceEdmSendRequestFailed, p)
    | (some size, rest) =>
      if size ≤ 0 ∨ size > trustlistPolicyMaxDevices then (.uecServiceEdmDeviceSizeExceed, p)
      else
        let (_, disableType) := readTypePolicyFromParcel size.toNat rest p.disableType
        (.uecOk, { p with disableType, isPermTypePolicy := false })

def getEdmPermTypePolicy (edm : Edm) (p : UsbPolicy) : UsbErrCode × UsbPolicy :=
  match edm.request .usbTypeDisallowPolicy with
  | none => (.uecServiceEdmSendRequestFailed, p)
  | some reply =>
    let (size, rest) := readInt32 reply
    if size < 0 ∨ size > trustlistPolicyMaxDevices then (.uecServiceEdmDeviceSizeExceed, p)
    else
      let isPermTypePolicy := if size > 0 then true else p.isPermTypePolicy
      let (ret, disableType) := readTypePolicyFromParcel size.toNat rest p.disableType
      (ret, { p with disableType, isPermTypePolicy })

def readUsbDeviceId : Reader UsbDeviceId := do
  let vendorId ← readInt32
  let productId ← readInt32
  pure { productId, vendorId }

def getEdmTrustListPolicy (edm : Edm) (p : UsbPolicy) : UsbErrCode × UsbPolicy :=
  match edm.request .allowedUsbDevices with
  | none => (.uecServiceEdmSendRequestFailed, p)
  | some reply =>
    let (size, rest) := readInt32 reply
    if size < 0 ∨ size > trustlistPolicyMaxDevices then (.uecServiceEdmDeviceSizeExceed, p)
    else (.uecOk, { p with trustUsbDeviceIds := p.trustUsbDeviceIds ++ (readMany size.toNat readUsbDeviceId rest).1 })

/-- The decoders one after the other, until one fails. -/
def decodeAll : List (UsbPolicy → UsbErrCode × UsbPolicy) → UsbPolicy → UsbErrCode × UsbPolicy
  | [], p => (.uecOk, p)
  | decode :: later, p =>
    match decode p with
    | (.uecOk, p) => decodeAll later p
    | failed => failed

def getEdmPolicy (edm : Edm) (p : UsbPolicy) : UsbErrCode × UsbPolicy :=
  if edm.systemAbilityManager = false then (.uecServiceGetSystemAbilityManagerFailed, p)
  else if edm.remote = false then (.uecServiceGetEdmServiceFailed, p)
  else
    decodeAll [getEdmGlobalPolicy edm, getEdmStroageTypePolicy edm, getEdmTypePolicy edm, getEdmPermTypePolicy edm,
      getEdmTrustListPolicy edm] p

/-- The services at an attempt, and the milliseconds since the first one. -/
abbrev Attempt := Edm × Nat

/-- `GetUsbPolicy`, with what it finds at each attempt; there is no result while it still tries. -/
def getUsbPolicy : List Attempt → UsbPolicy → Option (UsbErrCode × UsbPolicy)
  | [], _ => none
  | (edm, elapsedTime) :: later, p =>
    match getEdmPolicy edm p with
    | (ret, p) =>
      if ret = .uecOk then some (.uecOk, p)
      else if ret = edmSaTimeOutCode then
        if elapsedTime ≥ edmSaMaxTimeOut then some (.uecServiceEdmSaTimeOutFailed, p) else getUsbPolicy later p
      else some (.uecServicePrepareEdmSaFailed, p)

end UsbManager.Policy
