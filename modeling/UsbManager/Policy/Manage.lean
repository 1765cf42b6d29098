import Mathlib.Data.List.Perm.Basic
import UsbManager.Host.Devices
import UsbManager.Policy.Edm

/-!
# Policy operations of the host manager

The operations of `UsbHostManager` that disable and enable devices and interfaces. They run over
`devices_` in the order of the map, under one lock, and call the driver for each device. The state
records the calls to the driver with their answers. The driver of an operation may answer as it likes:
its answer is a function of the call and of all calls before.
-/

namespace UsbManager.Policy

open Host

inductive HdiCall where
  | openDevice (busNum devAddr : UInt8)
  | closeDevice (busNum devAddr : UInt8)
  | getConfig (busNum devAddr : UInt8)
  | usbDeviceAuthorize (busNum devAddr : UInt8) (authorized : Bool)
  | usbInterfaceAuthorize (busNum devAddr configId interfaceId : UInt8) (authorized : Bool)
  | manageInterface (busNum devAddr interfaceId : UInt8) (disable : Bool)
  | getRawDescriptor (busNum devAddr : UInt8)
  | getStringDescriptor (busNum devAddr idx : UInt8)
  deriving DecidableEq, Repr

structure State where
  host : Devices := {}
  /-- The addresses of `serialDevices_`. -/
  serialDevices : List (UInt8 × UInt8) := []
  isPermTypePolicy : Bool := false
  /-- The calls to the driver with their answers, the last one first. -/
  calls : List (HdiCall × UsbErrCode) := []

/-- What an operation meets: the driver, the system parameters, the device manager, the serial service, and
the order in which the two hash tables are traversed. -/
structure Env where
  /-- `usbd_` and `usbDeviceInterface_` are not null. -/
  usbd : Bool := true
  usbDeviceInterface : Bool := true
  answer : List (HdiCall × UsbErrCode) → HdiCall → UsbErrCode
  /-- The index that `GetConfig` writes for the device at an address. -/
  configIndex : List (HdiCall × UsbErrCode) → UInt8 → UInt8 → UInt8 := fun _ _ _ => 1
  /-- `persist.edm.enterprise_config_enable` is `true`, and `persist.edm.usb_serial_disable` is `1`. -/
  isEdmEnabled : Bool := true
  usbSerialDisable : Bool := false
  firstAttempt : Attempt
  laterAttempts : List Attempt := []
  /-- `SerialGetPortList`, if `usbSerialManager_` is not null. -/
  serialGetPortList : Option (UsbErrCode × List (UInt8 × UInt8)) := none
  dRows : List TypeRow := dTypeMap
  gRows : List TypeRow := gTypeMap
  dRows_perm : dRows.Perm dTypeMap := by exact .refl _
  gRows_perm : gRows.Perm gTypeMap := by exact .refl _

abbrev Manager := StateM State

/-- The devices in the order of the map. -/
def State.objects (s : State) : List Nat := s.host.devices.toList.map (·.2)

def State.device (s : State) (object : Nat) : UsbDevice := s.host.heap object

/-- The device is in `devices_`. -/
def State.Attached (s : State) (object : Nat) : Prop := ∃ name : String, s.host.devices[name]? = some object

/-- The devices in the map have the addresses of their names. -/
def State.Named (s : State) : Prop :=
  ∀ (name : String) o, s.host.devices[name]? = some o → name = deviceName (s.device o).busNum (s.device o).devAddr

variable (env : Env)

def Env.isUsbSerialDisable : Bool := env.isEdmEnabled && env.usbSerialDisable

/-! ## The driver -/

def callHdi (call : HdiCall) : Manager UsbErrCode := fun s =>
  let ret := env.answer s.calls call
  (ret, { s with calls := (call, ret) :: s.calls })

def callUsbd (call : HdiCall) : Manager UsbErrCode :=
  if env.usbd then callHdi env call else pure .uecServiceInvalidValue

def openDevice (busNum devAddr : UInt8) : Manager UsbErrCode := callUsbd env (.openDevice busNum devAddr)

def close (busNum devAddr : UInt8) : Manager UsbErrCode := callUsbd env (.closeDevice busNum devAddr)

/-- The answer and the index that the driver writes. -/
def getActiveConfig (busNum devAddr : UInt8) : Manager (UsbErrCode × UInt8) := do
  let s ← get
  let ret ← callUsbd env (.getConfig busNum devAddr)
  pure (ret, if env.usbd then env.configIndex s.calls busNum devAddr else 0)

def manageInterface (busNum devAddr interfaceId : UInt8) (disable : Bool) : Manager UsbErrCode :=
  callUsbd env (.manageInterface busNum devAddr interfaceId disable)

/-- The driver is asked, and if it agrees the change is published and recorded. -/
def changeDevice (dev : Nat) (busNum devAddr : UInt8) (authorized : Bool) : Manager UsbErrCode := do
  let ret ← callHdi env (.usbDeviceAuthorize busNum devAddr authorized)
  if ret ≠ .uecOk then pure ret
  else do
    modify fun s => { s with
      host := (s.host.publishAuthorized dev authorized (s.host.status dev)).setAuthorizeStatus dev
        (Devices.authorizedStatus authorized) }
    pure .uecOk

/-- A device that is disabled is reported with its interfaces, and for these the driver is asked for the
active configuration. -/
def usbDeviceAuthorize (busNum devAddr : UInt8) (authorized : Bool) : Manager UsbErrCode := do
  let s ← get
  if env.usbDeviceInterface = false then pure .uecServiceInvalidValue
  else
    match s.host.devices[deviceName busNum devAddr]? with
    | none => pure .uecServiceInvalidValue
    | some dev =>
      if s.host.needsChange dev authorized = false then pure .uecOk
      else if authorized = false then do
        discard (getActiveConfig env (s.device dev).busNum (s.device dev).devAddr)
        changeDevice env dev busNum devAddr authorized
      else changeDevice env dev busNum devAddr authorized

def usbInterfaceAuthorize (busNum devAddr configId interfaceId : UInt8) (authorized : Bool) : Manager UsbErrCode := do
  if env.usbDeviceInterface = false then pure .uecServiceInvalidValue
  else do
    let ret ← callHdi env (.usbInterfaceAuthorize busNum devAddr configId interfaceId authorized)
    if ret = .uecOk ∧ authorized = true then manageInterface env busNum devAddr interfaceId (!authorized)
    else pure ret

/-! ## Interfaces -/

/-- `SetAuthorizeStatus` of an interface of a device. -/
def setInterfaceAuthorized (object index position : Nat) (authorized : Bool) (s : State) : State :=
  { s with
    host := { s.host with
      heap := fun o =>
        if o = object then
          { s.host.heap object with
            configs := (s.host.heap object).configs.modify index fun c =>
              { c with interfaces := c.interfaces.modify position fun i => { i with authorized } } }
        else s.host.heap o } }

/-- The loop over the interfaces of a configuration, from some position on. `ask` says which interfaces the
driver is asked for, and with which value; the flag is set whatever the answer is. -/
def authorizeInterfaces (object index : Nat) (dev : UInt8 × UInt8) (configId : UInt8)
    (ask : UsbInterface → Option Bool) : Nat → List UsbInterface → Manager Unit
  | _, [] => pure ()
  | position, i :: rest => do
    match ask i with
    | none => pure ()
    | some authorized =>
      discard (usbInterfaceAuthorize env dev.1 dev.2 configId (.ofInt i.id) authorized)
      modify (setInterfaceAuthorized object index position authorized)
    authorizeInterfaces object index dev configId ask (position + 1) rest

/-- The configuration at the active index, a `uint8_t` that is one less than what the driver says. -/
def authorizeActiveConfig (object : Nat) (configIndex : UInt8) (ask : UsbInterface → Option Bool) : Manager Unit := do
  let s ← get
  let d := s.device object
  let index := (configIndex - 1).toNat
  match d.configs[index]? with
  | none => pure ()
  | some c => authorizeInterfaces env object index (d.busNum, d.devAddr) (.ofInt c.id) ask 0 c.interfaces

/-! ## Devices -/

def isUsbSerialDevice (s : State) (object : Nat) : Bool :=
  s.serialDevices.any fun dev => dev.1 == (s.device object).busNum && dev.2 == (s.device object).devAddr

/-- The serial policy manages the device. -/
def isExempt (s : State) (object : Nat) : Bool := env.isUsbSerialDisable && isUsbSerialDevice s object

def forDevices (body : Nat → Manager Unit) : Manager Unit := do
  let s ← get
  s.objects.forM body

/-- Disabling all devices is disabling the hubs. -/
def manageGlobalDevice (disable : Bool) (object : Nat) : Manager Unit := do
  let s ← get
  let d := s.device object
  if (disable = true ∧ d.baseClass ≠ baseClassHub) ∨ isExempt env s object = true then pure ()
  else do
    discard (usbDeviceAuthorize env d.busNum d.devAddr (!disable))
    if disable = true then pure ()
    else do
      let ret ← openDevice env d.busNum d.devAddr
      if ret ≠ .uecOk then pure ()
      else do
        let (ret, configIndex) ← getActiveConfig env d.busNum d.devAddr
        if ret ≠ .uecOk ∨ configIndex < 1 then discard (close env d.busNum d.devAddr)
        else do
          authorizeActiveConfig env object configIndex fun _ => some (!disable)
          discard (close env d.busNum d.devAddr)

def manageGlobalInterfaceImpl (disable : Bool) : Manager UsbErrCode := do
  forDevices (manageGlobalDevice env disable)
  pure .uecOk

/-- The loop of `ManageDeviceImpl`, which ends at a device that cannot be opened. -/
def manageDevices (vendorId productId : Int) (disable : Bool) : List Nat → Manager UsbErrCode
  | [] => pure .uecOk
  | object :: objects => do
    let s ← get
    let d := s.device object
    if d.baseClass = baseClassHub then manageDevices vendorId productId disable objects
    else if d.vendorId = vendorId ∧ d.productId = productId then do
      let ret ← openDevice env d.busNum d.devAddr
      if ret ≠ .uecOk then pure ret
      else do
        discard (usbDeviceAuthorize env d.busNum d.devAddr (!disable))
        discard (close env d.busNum d.devAddr)
        manageDevices vendorId productId disable objects
    else manageDevices vendorId productId disable objects

def manageDeviceImpl (vendorId productId : Int) (disable : Bool) : Manager UsbErrCode := do
  let s ← get
  manageDevices env vendorId productId disable s.objects

def inTrustList (trustList : List UsbDeviceId) (d : UsbDevice) : Bool :=
  trustList.any fun dev => d.productId = dev.productId && d.vendorId = dev.vendorId

/-- The result is that of the last device. -/
def executeManageDevicePolicy (trustList : List UsbDeviceId) : Manager UsbErrCode := do
  let s ← get
  let ret ← s.objects.foldlM (fun _ object => do
    let s ← get
    let d := s.device object
    manageDeviceImpl env d.vendorId d.productId (!(inTrustList trustList d || trustList.isEmpty))) .uecOk
  pure (if ret ≠ .uecOk then .uecServiceExecutePolicyFailed else .uecOk)

/-! ## Types -/

def manageInterfaceTypeDevice (values : TypeValues) (disable : Bool) (object : Nat) : Manager Unit := do
  let s ← get
  let d := s.device object
  if d.baseClass = baseClassHub ∨ d.authorizeStatus = .disabled then pure ()
  else do
    let (ret, configIndex) ← getActiveConfig env d.busNum d.devAddr
    if ret ≠ .uecOk then pure ()
    else
      authorizeActiveConfig env object configIndex fun i =>
        if values.matches i.klass i.subClass i.protocol then some (!disable) else none

def manageInterfaceTypeImpl (interfaceType : InterfaceType) (disable : Bool) : Manager UsbErrCode :=
  match env.gRows.find? (·.1 = interfaceType) with
  | none => pure .uecServiceInvalidValue
  | some row => do
    forDevices (manageInterfaceTypeDevice env row.2 disable)
    pure .uecOk

def manageDeviceTypeDevice (values : TypeValues) (disable : Bool) (object : Nat) : Manager Unit := do
  let s ← get
  let d := s.device object
  if isExempt env s object = true then pure ()
  else if values.matches d.baseClass d.subClass d.protocol = true then do
    let ret ← openDevice env d.busNum d.devAddr
    if ret ≠ .uecOk then pure ()
    else do
      discard (usbDeviceAuthorize env d.busNum d.devAddr (!disable))
      discard (close env d.busNum d.devAddr)
  else pure ()

def manageDeviceTypeImpl (interfaceType : InterfaceType) (disable : Bool) : Manager UsbErrCode :=
  match env.dRows.find? (·.1 = interfaceType) with
  | none => pure .uecServiceInvalidValue
  | some row => do
    forDevices (manageDeviceTypeDevice env row.2 disable)
    pure .uecOk

def executeManageDeviceType (disableType : List UsbDeviceType) (disable : Bool) (map : List TypeRow) (isDev : Bool) :
    Manager Unit :=
  map.forM fun row =>
    let execDisable := if row.1 ∈ findMatchingTypes map isDev disableType then disable else !disable
    discard (if isDev then manageDeviceTypeImpl env row.1 execDisable
      else manageInterfaceTypeImpl env row.1 execDisable)

def executeManageInterfaceType (disableType : List UsbDeviceType) (disable : Bool) : Manager UsbErrCode := do
  forDevices fun object => do
    let s ← get
    discard (openDevice env (s.device object).busNum (s.device object).devAddr)
  executeManageDeviceType env disableType disable env.dRows true
  executeManageDeviceType env disableType disable env.gRows false
  forDevices fun object => do
    let s ← get
    discard (close env (s.device object).busNum (s.device object).devAddr)
  pure .uecOk

/-! ## Permissive types -/

/-- The loop over the types of `ManageUsbTypeDeviceImpl`, and `IsUsbInterfaceTypeMatched`. -/
def typesMatch (types : List UsbDeviceType) (baseClass subClass protocol : Int) : Bool :=
  types.any fun type => type.values.matches baseClass subClass protocol

def manageUsbTypeDevice (types : List UsbDeviceType) (disable : Bool) (object : Nat) : Manager Unit := do
  let s ← get
  let d := s.device object
  if isExempt env s object = true then pure ()
  else if typesMatch types d.baseClass d.subClass d.protocol = true then
    discard (usbDeviceAuthorize env d.busNum d.devAddr (!disable))
  else discard (usbDeviceAuthorize env d.busNum d.devAddr disable)

def manageUsbTypeInterface (types : List UsbDeviceType) (disable : Bool) (object : Nat) : Manager Unit := do
  let s ← get
  let d := s.device object
  if d.baseClass = baseClassHub ∨ d.authorizeStatus = .disabled then pure ()
  else do
    discard (openDevice env d.busNum d.devAddr)
    let (ret, configIndex) ← getActiveConfig env d.busNum d.devAddr
    if ret ≠ .uecOk then discard (close env d.busNum d.devAddr)
    else do
      authorizeActiveConfig env object configIndex fun i =>
        some (if typesMatch types i.klass i.subClass i.protocol then !disable else disable)
      discard (close env d.busNum d.devAddr)

def executeManageUsbType (disableType : List UsbDeviceType) (disable : Bool) : Manager Unit := do
  let deviceTypes := disableType.filter fun type => type.isDeviceTypeAllMatch || type.isDeviceType
  let interfaceTypes := disableType.filter fun type => type.isDeviceTypeAllMatch || !type.isDeviceType
  forDevices (manageUsbTypeDevice env deviceTypes disable)
  forDevices (manageUsbTypeInterface env interfaceTypes disable)

/-! ## Serial devices and the strategy -/

/-- The loop of `ManageUsbSerialDevice`, which is all of it for `disable`. -/
def manageUsbSerialDevices (disable : Bool) : Manager Unit := do
  let s ← get
  s.serialDevices.forM fun dev => discard (usbDeviceAuthorize env dev.1 dev.2 (!disable))

/-- The types that are disabled have precedence over the trust list. -/
def executeTypesOrTrustList (p : UsbPolicy) : Manager Unit :=
  if p.disableType ≠ [] then
    if p.isPermTypePolicy = true then executeManageUsbType env p.disableType true
    else discard (executeManageInterfaceType env p.disableType true)
  else if p.trustUsbDeviceIds = [] then pure ()
  else discard (executeManageDevicePolicy env p.trustUsbDeviceIds)

/-- `ExecuteStrategy` with the policy that was read. -/
def executePolicy (p : UsbPolicy) : Manager Unit := do
  if p.isGlobalDisabled = true then discard (manageGlobalInterfaceImpl env true)
  else do
    if env.isUsbSerialDisable = true then manageUsbSerialDevices env true
    executeTypesOrTrustList env p

def executeStrategy : Manager Unit := do
  if env.isEdmEnabled = false then pure ()
  else do
    let s ← get
    match getUsbPolicy (env.firstAttempt :: env.laterAttempts) { isPermTypePolicy := s.isPermTypePolicy } with
    | none => pure ()
    | some (ret, p) => do
      modify fun s => { s with isPermTypePolicy := p.isPermTypePolicy }
      if ret = .uecServiceEdmSaTimeOutFailed ∨ ret = .uecServicePrepareEdmSaFailed then pure ()
      else executePolicy env p

def manageUsbSerialDevice (disable : Bool) : Manager UsbErrCode := do
  manageUsbSerialDevices env disable
  if disable = false then executeStrategy env
  pure .uecOk

/-- The address is added once, if a port has it. -/
def addUsbSerialDevice (dev : UsbDevice) (s : State) : State :=
  match env.serialGetPortList with
  | some (.uecOk, serialList) =>
    if (dev.busNum, dev.devAddr) ∈ serialList ∧ (dev.busNum, dev.devAddr) ∉ s.serialDevices then
      { s with serialDevices := s.serialDevices ++ [(dev.busNum, dev.devAddr)] }
    else s
  | _ => s

/-- `AddDevice`, which replaces a device at the same address. -/
def addDevice (dev : UsbDevice) : Manager Unit := do
  modify fun s => addUsbSerialDevice env dev { s with host := s.host.insertDevice dev }
  executeStrategy env
  modify fun s => { s with host := s.host.announce (deviceName dev.busNum dev.devAddr) }

def delDevice (busNum devNum : UInt8) : Manager Bool := fun s =>
  match s.host.devices[deviceName busNum devNum]? with
  | none => (false, s)
  | some devOld =>
    (true, { s with
      host := (s.host.delDevice busNum devNum).2
      serialDevices := s.serialDevices.erase ((s.device devOld).busNum, (s.device devOld).devAddr) })

/-! ## Operations of clients -/

inductive Operation where
  | manageGlobalInterface (disable : Bool)
  | manageDevice (vendorId productId : Int) (disable : Bool)
  | manageDevicePolicy (trustList : List UsbDeviceId)
  | manageInterfaceType (disableType : List UsbDeviceType) (disable : Bool)
  | manageUsbType (disableType : List UsbDeviceType) (disable : Bool)
  | manageUsbSerialDevice (disable : Bool)

def Operation.perform : Operation → Manager Unit
  | .manageGlobalInterface disable => discard (manageGlobalInterfaceImpl env disable)
  | .manageDevice vendorId productId disable => discard (manageDeviceImpl env vendorId productId disable)
  | .manageDevicePolicy trustList => discard (executeManageDevicePolicy env trustList)
  | .manageInterfaceType disableType disable => discard (executeManageInterfaceType env disableType disable)
  | .manageUsbType disableType disable => executeManageUsbType env disableType disable
  | .manageUsbSerialDevice disable => discard (Policy.manageUsbSerialDevice env disable)

end UsbManager.Policy
