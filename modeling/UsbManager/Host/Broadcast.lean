import UsbManager.Host.Devices
import UsbManager.Lib.Transition

/-!
# Attach and detach broadcasts under interleaving

`AddDevice` inserts under the unique lock of `devicesMutex_`, releases it for `ExecuteStrategy`, and
announces under the shared lock. Every policy operation, `ExecuteStrategy` included, comes down to
calls of `UsbDeviceAuthorize` under the shared lock. Sections under the shared lock overlap with each
other, also on one device, so their reads, publications and writes are single steps here; a section
under the unique lock runs alone.
-/

namespace UsbManager.Host

/-- A call that has done some of its steps. -/
inductive Call where
  /-- `AddDevice` between its two sections. -/
  | addDevice (name : String)
  /-- `AddDevice` has found the device and is about to enable it. -/
  | enabling (dev : Nat)
  /-- `AddDevice` is about to publish. -/
  | announcing (dev : Nat)
  /-- `UsbDeviceAuthorize` has read the status, and the driver has agreed. -/
  | authorizing (dev : Nat) (authorized : Bool) (authorizeStatus : AuthorizeStatus)
  /-- `UsbDeviceAuthorize` is about to write the status. -/
  | settling (dev : Nat) (authorized : Bool)
  deriving DecidableEq

/-- The device that a section under the shared lock works on. -/
def Call.device : Call → Option Nat
  | .addDevice _ => none
  | .enabling dev | .announcing dev | .authorizing dev _ _ | .settling dev _ => some dev

structure World where
  host : Devices := {}
  calls : List Call := []

inductive Action where
  | addDevice (dev : UsbDevice)
  | announce (name : String)
  | usbDeviceAuthorize (busNum devAddr : UInt8) (authorized : Bool) (ret : Option UsbErrCode)
  | advance (call : Call)
  | delDevice (busNum devNum : UInt8)

namespace World

variable (w : World)

/-- Nobody holds the lock in shared mode. -/
def free : Bool := w.calls.all fun call => call.device.isNone

/-- The status of the device is changed by `UsbDeviceAuthorize`. -/
def authorizes (busNum devAddr : UInt8) (authorized : Bool) (ret : Option UsbErrCode) : Option Nat :=
  if ret = some .uecOk then
    (w.host.devices[deviceName busNum devAddr]?).filter fun dev => w.host.needsChange dev authorized
  else none

/-- The next step of a section under the shared lock. -/
def advance (call : Call) : Option World :=
  match call with
  | .addDevice _ => none
  | .enabling dev =>
    some { host := w.host.setAuthorizeStatus dev .enabled, calls := .announcing dev :: w.calls.erase call }
  | .announcing dev => some { host := w.host.publishCommonEvent .attached dev, calls := w.calls.erase call }
  | .authorizing dev authorized authorizeStatus =>
    some {
      host := w.host.publishAuthorized dev authorized authorizeStatus
      calls := .settling dev authorized :: w.calls.erase call }
  | .settling dev authorized =>
    some {
      host := w.host.setAuthorizeStatus dev (Devices.authorizedStatus authorized)
      calls := w.calls.erase call }

def step (action : Action) : Option World :=
  match action with
  | .addDevice dev =>
    if w.free then
      some { host := w.host.insertDevice dev, calls := .addDevice (deviceName dev.busNum dev.devAddr) :: w.calls }
    else none
  | .announce name =>
    if .addDevice name ∈ w.calls then
      match w.host.toAnnounce name with
      | none => some { w with calls := w.calls.erase (.addDevice name) }
      | some dev => some { w with calls := .enabling dev :: w.calls.erase (.addDevice name) }
    else none
  | .usbDeviceAuthorize busNum devAddr authorized ret =>
    match w.authorizes busNum devAddr authorized ret with
    | none => some w
    | some dev => some { w with calls := .authorizing dev authorized (w.host.status dev) :: w.calls }
  | .advance call => if call ∈ w.calls then w.advance call else none
  | .delDevice busNum devNum =>
    if w.free then some { w with host := (w.host.delDevice busNum devNum).2 } else none

end World

/-! ### The sections without interruption -/

open Transition

theorem usbDeviceAuthorize_steps (h : Devices) (busNum devAddr : UInt8) (authorized : Bool) (ret : Option UsbErrCode) :
    ∃ rest, runFrom World.step { host := h } (.usbDeviceAuthorize busNum devAddr authorized ret :: rest) =
      some { host := (h.usbDeviceAuthorize busNum devAddr authorized ret).2 } := by
  cases changed : World.authorizes { host := h } busNum devAddr authorized ret with
  | none =>
    refine ⟨[], ?_⟩
    have same : (h.usbDeviceAuthorize busNum devAddr authorized ret).2 = h := by
      unfold Devices.usbDeviceAuthorize
      unfold World.authorizes at changed
      grind
    simp [runFrom, World.step, changed, same]
  | some dev =>
    refine ⟨[.advance (.authorizing dev authorized (h.status dev)), .advance (.settling dev authorized)], ?_⟩
    have done : (h.usbDeviceAuthorize busNum devAddr authorized ret).2 =
        (h.publishAuthorized dev authorized (h.status dev)).setAuthorizeStatus dev
          (Devices.authorizedStatus authorized) := by
      unfold Devices.usbDeviceAuthorize
      unfold World.authorizes at changed
      grind
    simp [runFrom, World.step, World.advance, changed, done]

theorem announce_steps (h : Devices) (name : String) :
    ∃ rest, runFrom World.step { host := h, calls := [.addDevice name] } (.announce name :: rest) =
      some { host := h.announce name } := by
  cases found : h.toAnnounce name with
  | none => exact ⟨[], by simp [runFrom, World.step, Devices.announce, found]⟩
  | some dev =>
    refine ⟨[.advance (.enabling dev), .advance (.announcing dev)], ?_⟩
    simp [runFrom, World.step, World.advance, Devices.announce, found]

end UsbManager.Host
