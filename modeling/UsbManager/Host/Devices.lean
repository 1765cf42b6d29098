import UsbManager.Device.Tree
import UsbManager.Lib.Separator
import UsbManager.Service.ErrCode

/-!
# The devices of the host manager

`devices_` maps the name of an address to a device object. The objects live on a heap, numbered in
the order of their allocation, so that a device is told apart from one that took over its address.
`published` records the common events sent for each object, the last one first.
-/

namespace UsbManager.Host

open Separator
open Std (ExtTreeMap)

/-- `std::to_string(busNum) + "-" + std::to_string(devAddr)`. -/
def deviceName (busNum devAddr : UInt8) : String := toString busNum.toNat ++ "-" ++ toString devAddr.toNat

theorem toList_deviceName (b d : UInt8) : (deviceName b d).toList = digits b.toNat ++ '-' :: digits d.toNat := by
  simp [deviceName, digits]

theorem deviceName_inj {b d b' d' : UInt8} : deviceName b d = deviceName b' d' ↔ b = b' ∧ d = d' := by
  rw [← String.toList_inj, toList_deviceName, toList_deviceName,
    append_cons_inj (dash_notMem_digits _) (dash_notMem_digits _), digits_inj, digits_inj, UInt8.toNat_inj,
    UInt8.toNat_inj]

/-- `COMMON_EVENT_USB_DEVICE_ATTACHED` and `COMMON_EVENT_USB_DEVICE_DETACHED`. -/
inductive DeviceEvent where
  | attached
  | detached
  deriving DecidableEq, Repr

structure Devices where
  devices : ExtTreeMap String Nat := ∅
  heap : Nat → UsbDevice := fun _ => {}
  allocated : Nat := 0
  published : List (Nat × DeviceEvent) := []

namespace Devices

variable (h : Devices)

def status (object : Nat) : AuthorizeStatus := (h.heap object).authorizeStatus

def setAuthorizeStatus (object : Nat) (status : AuthorizeStatus) : Devices :=
  { h with heap := fun o => if o = object then { h.heap object with authorizeStatus := status } else h.heap o }

/-- The call is recorded whatever `CommonEventManager` answers; its answer only goes to the log. -/
def publishCommonEvent (event : DeviceEvent) (object : Nat) : Devices :=
  { h with published := (object, event) :: h.published }

/-- The first section of `AddDevice`, under the unique lock: it replaces a device at the same address. -/
def insertDevice (dev : UsbDevice) : Devices :=
  let name := deviceName dev.busNum dev.devAddr
  { h with
    devices := (h.devices.erase name).insert name h.allocated
    heap := fun o => if o = h.allocated then { dev with authorizeStatus := .newArrived } else h.heap o
    allocated := h.allocated + 1 }

/-- `DelDevice`, under the unique lock. -/
def delDevice (busNum devNum : UInt8) : Bool × Devices :=
  match h.devices[deviceName busNum devNum]? with
  | none => (false, h)
  | some devOld =>
    let announced := if h.status devOld = .enabled then h.publishCommonEvent .detached devOld else h
    (true, { announced with devices := h.devices.erase (deviceName busNum devNum) })

/-- The device that the second section of `AddDevice` announces, if it is there and not disabled. -/
def toAnnounce (name : String) : Option Nat :=
  match h.devices[name]? with
  | none => none
  | some dev => if h.status dev = .disabled then none else some dev

/-- `UsbDeviceAuthorize` has something to change. -/
def needsChange (object : Nat) (authorized : Bool) : Bool :=
  !((authorized && h.status object ≠ .disabled) || (!authorized && h.status object = .disabled))

/-- The event of `UsbDeviceAuthorize`; a newly arrived device is announced by `AddDevice`. -/
def publishAuthorized (object : Nat) (authorized : Bool) (authorizeStatus : AuthorizeStatus) : Devices :=
  if authorizeStatus ≠ .newArrived then
    h.publishCommonEvent (if authorized then .attached else .detached) object
  else h

def authorizedStatus (authorized : Bool) : AuthorizeStatus := if authorized then .enabled else .disabled

/-- `UsbDeviceAuthorize`, if no other section works on the device; `ret` is the driver's answer, and
`none` says that the driver interface is missing. -/
def usbDeviceAuthorize (busNum devAddr : UInt8) (authorized : Bool) (ret : Option UsbErrCode) : UsbErrCode × Devices :=
  match ret with
  | none => (.uecServiceInvalidValue, h)
  | some ret =>
    match h.devices[deviceName busNum devAddr]? with
    | none => (.uecServiceInvalidValue, h)
    | some dev =>
      if h.needsChange dev authorized = false then (.uecOk, h)
      else if ret ≠ .uecOk then (ret, h)
      else (.uecOk,
        (h.publishAuthorized dev authorized (h.status dev)).setAuthorizeStatus dev (authorizedStatus authorized))

/-- The second section of `AddDevice`, if no other section works on the device. -/
def announce (name : String) : Devices :=
  match h.toAnnounce name with
  | none => h
  | some dev => (h.setAuthorizeStatus dev .enabled).publishCommonEvent .attached dev

theorem insertDevice_getElem? (dev : UsbDevice) (name : String) :
    (h.insertDevice dev).devices[name]? =
      if name = deviceName dev.busNum dev.devAddr then some h.allocated else h.devices[name]? := by
  simp only [insertDevice, ExtTreeMap.getElem?_insert, ExtTreeMap.getElem?_erase, Std.LawfulEqCmp.compare_eq_iff_eq]
  grind

theorem delDevice_getElem? (busNum devNum : UInt8) (name : String) :
    (h.delDevice busNum devNum).2.devices[name]? =
      if name = deviceName busNum devNum then none else h.devices[name]? := by
  unfold delDevice
  split
  · next absent =>
    split_ifs with same
    · rw [same, absent]
    · rfl
  · simp only [ExtTreeMap.getElem?_erase, Std.LawfulEqCmp.compare_eq_iff_eq]
    grind

theorem delDevice_allocated (busNum devNum : UInt8) : (h.delDevice busNum devNum).2.allocated = h.allocated := by
  unfold delDevice
  split
  · rfl
  · dsimp only
    split_ifs <;> rfl

theorem delDevice_heap (busNum devNum : UInt8) : (h.delDevice busNum devNum).2.heap = h.heap := by
  unfold delDevice
  split
  · rfl
  · dsimp only
    split_ifs <;> rfl

/-- The events published for a device, the last one first. -/
def eventsOf (dev : Nat) : List DeviceEvent := (h.published.filter fun entry => entry.1 = dev).map (·.2)

section Events

variable {h} {dev other : Nat}

theorem eventsOf_publish_self {event : DeviceEvent} :
    (h.publishCommonEvent event dev).eventsOf dev = event :: h.eventsOf dev := by
  simp [eventsOf, publishCommonEvent]

theorem eventsOf_publish_other {event : DeviceEvent} (different : other ≠ dev) :
    (h.publishCommonEvent event dev).eventsOf other = h.eventsOf other := by
  simp [eventsOf, publishCommonEvent, different.symm]

theorem status_set_self {status : AuthorizeStatus} : (h.setAuthorizeStatus dev status).status dev = status := by
  simp [Devices.status, setAuthorizeStatus]

theorem status_set_other {status : AuthorizeStatus} (different : other ≠ dev) :
    (h.setAuthorizeStatus dev status).status other = h.status other := by
  simp [Devices.status, setAuthorizeStatus, different]

end Events

/-- Device objects are allocated one after another. -/
def Numbered : Prop := ∀ (name : String) object, h.devices[name]? = some object → object < h.allocated

variable {h} in
theorem Numbered.insertDevice (numbered : h.Numbered) (dev : UsbDevice) : (h.insertDevice dev).Numbered := by
  intro name object found
  change object < h.allocated + 1
  rw [insertDevice_getElem?] at found
  split_ifs at found
  · cases found
    exact Nat.lt_succ_self _
  · exact Nat.lt_succ_of_lt (numbered name object found)

variable {h} in
theorem Numbered.delDevice (numbered : h.Numbered) (busNum devNum : UInt8) :
    (h.delDevice busNum devNum).2.Numbered := by
  intro name object found
  rw [delDevice_getElem?] at found
  rw [delDevice_allocated]
  split_ifs at found
  exact numbered name object found

end Devices

end UsbManager.Host
