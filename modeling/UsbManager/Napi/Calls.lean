import UsbManager.Host.Devices
import UsbManager.Napi.Devices

/-!
# Applications in JavaScript

The functions of the JavaScript interface that take a device, a configuration, an interface, an endpoint
or a pipe, and the requests to the service that they make. An application is a program over the objects
that these functions have handed it, and it can be run with the objects of JavaScript or with those of
the client library; against any service the two runs send the same requests.
-/

namespace UsbManager

namespace Napi

open Parcel NapiUtil

/-- A request to the service about a device, or about the right to one. -/
inductive Request where
  | openDevice (busNum devAddr : UInt8)
  | resetDevice (busNum devAddr : UInt8)
  | close (busNum devAddr : UInt8)
  | getRawDescriptor (busNum devAddr : UInt8)
  | getFileDescriptor (busNum devAddr : UInt8)
  | hasRight (deviceName : String)
  | requestRight (deviceName : String)
  | removeRight (deviceName : String)
  | claimInterface (busNum devAddr interfaceid force : UInt8)
  | releaseInterface (busNum devAddr interfaceid : UInt8)
  | setActiveConfig (busNum devAddr configId : UInt8)
  | setInterface (busNum devAddr interfaceid altIndex : UInt8)
  | bulkTransferReadwithLength (busNum devAddr : UInt8) (ep : USBEndpoint) (length timeOut : Int)
  | bulkTransferWrite (busNum devAddr : UInt8) (ep : USBEndpoint) (buffData : List UInt8) (timeOut : Int)
  deriving DecidableEq

/-! ## The client library -/

/-- `OpenDevice`: the request, and the pipe that it gives if the service accepts. -/
def openDevice (device : UsbDevice) : Request × USBDevicePipe :=
  (.openDevice device.busNum device.devAddr, { busNum := device.busNum, devAddr := device.devAddr })

section

variable (pipe : USBDevicePipe)

def claimInterface (interface : UsbInterface) (force : Bool) : Request :=
  .claimInterface pipe.busNum pipe.devAddr (.ofInt interface.id) (if force then 1 else 0)

def releaseInterface (interface : UsbInterface) : Request :=
  .releaseInterface pipe.busNum pipe.devAddr (.ofInt interface.id)

def setConfiguration (config : USBConfig) : Request := .setActiveConfig pipe.busNum pipe.devAddr (.ofInt config.id)

def setInterface (interface : UsbInterface) : Request :=
  .setInterface pipe.busNum pipe.devAddr (.ofInt interface.id) (.ofInt interface.alternateSetting)

/-- No request is made for an endpoint of another direction; there is none. -/
def bulkTransfer (endpoint : USBEndpoint) (bufferData : List UInt8) (timeOut : Int) : Option Request :=
  if endpoint.direction = 0x80 then
    some (.bulkTransferReadwithLength pipe.busNum pipe.devAddr endpoint (intOfUint32 (.ofNat bufferData.length)) timeOut)
  else if endpoint.direction = 0 then
    some (.bulkTransferWrite pipe.busNum pipe.devAddr endpoint bufferData timeOut)
  else none

end

/-! ## The functions of the interface -/

section

variable {Number : Type} (e : Engine Number)

def strDefaultSize : Nat := 256

/-- `JsValueToString` behind its check of the type. -/
def parseDeviceName (deviceName : Option (JsValue Number)) (message : String) : Except String String :=
  match deviceName with
  | some (.string deviceName) => .ok (cStr (e.getValueStringUtf8 deviceName (strDefaultSize + 1)))
  | _ => .error message

def coreHasRight (deviceName : Option (JsValue Number)) : Except String Request :=
  Request.hasRight <$> parseDeviceName e deviceName "The type of deviceName must be string"

def coreRequestRight (deviceName : Option (JsValue Number)) : Except String Request :=
  Request.requestRight <$> parseDeviceName e deviceName "The type of deviceName must be string."

def deviceRemoveRight (deviceName : Option (JsValue Number)) : Except String Request :=
  Request.removeRight <$> parseDeviceName e deviceName "The type of deviceName must be string."

/-- The pipe is the result if the service accepts the request. -/
def coreConnectDevice (deviceObj : JsValue Number) : Except String (Request × JsValue Number) := do
  if !deviceObj.isObject then throw "The type of device must be USBDevice."
  let dev ← parseDeviceObj e deviceObj
  let (request, pipe) := openDevice dev
  return (request, createUsbDevicePipe e pipe)

section Pipe

variable (obj : JsValue Number)

def aboutPipe (request : UInt8 → UInt8 → Request) : Except String Request := do
  let pipe ← parseUsbDevicePipe e obj
  return request pipe.busNum pipe.devAddr

def pipeResetDevice : Except String Request := aboutPipe e obj .resetDevice

def pipeClose : Except String Request := aboutPipe e obj .close

def pipeGetRawDescriptors : Except String Request := aboutPipe e obj .getRawDescriptor

def pipeGetFileDescriptor : Except String Request := aboutPipe e obj .getFileDescriptor

def aboutInterface (iface : JsValue Number) (request : USBDevicePipe → UsbInterface → Request) :
    Except String Request := do
  let pipe ← parseUsbDevicePipe e obj
  if !iface.isObject then throw "The type of iface must be USBInterface."
  let interface ← parseInterfaceObj e iface
  return request pipe interface

/-- A value that is no boolean does not force. -/
def pipeClaimInterface (iface : JsValue Number) (force : Option (JsValue Number)) : Except String Request :=
  aboutInterface e obj iface fun pipe interface => claimInterface pipe interface <|
    match force with
    | some (.boolean isForce) => isForce
    | _ => false

def pipeReleaseInterface (iface : JsValue Number) : Except String Request :=
  aboutInterface e obj iface releaseInterface

def pipeSetInterface (iface : JsValue Number) : Except String Request := aboutInterface e obj iface setInterface

def pipeSetConfiguration (configObj : JsValue Number) : Except String Request := do
  let pipe ← parseUsbDevicePipe e obj
  if !configObj.isObject then throw "The type of config must be USBConfig."
  let config ← parseConfigObj e configObj
  return setConfiguration pipe config

/-- `GetBulkTransferParams` and the transfer; the buffer is the bytes of a `Uint8Array`. The bytes that go to an OUT
endpoint are copied first. An empty array is not, and there the worker thread frees the pointer that it has from the
engine before it makes the request; what becomes of the engine then is left out. -/
def pipeBulkTransfer (endpoint : JsValue Number) (buffer : List UInt8) (timeOut : Option (JsValue Number)) :
    Except String (Option Request) := do
  let pipe ← parseUsbDevicePipe e obj
  if !endpoint.isObject then throw "The type of endpoint must be USBEndpoint."
  let ep ← parseEndpointObj e endpoint
  return bulkTransfer pipe ep buffer <|
    match timeOut with
    | some (.number timeOut) => e.getValueInt32 timeOut
    | _ => 0

end Pipe

end

end Napi

/-! ## Applications -/

/-- A device as a client receives it: its numbers are those of their types, also the power in mA, its lists
can be counted, and its name fits into the buffer of the functions for rights. -/
structure UsbDevice.Shown (d : UsbDevice) : Prop where
  ranged : d.Ranged
  power : ∀ c ∈ d.configs, Parcel.IsInt32 c.getMaxPower
  counted : d.Lengths (· < 2 ^ 31)
  nulFree : NulFree d.name
  short : d.name.utf8ByteSize ≤ Napi.strDefaultSize

/-- A device as the service lists it: made of descriptors, and named after its address. -/
abbrev ListedDevice := {d : UsbDevice // d.Produced ∧ d.name = Host.deviceName d.busNum d.devAddr}

namespace Napi

open Parcel

/-- The devices that are read from the parcel of the service. -/
def received (deviceList : List ListedDevice) : List UsbDevice :=
  (readMany deviceList.length UsbDevice.unmarshalling (deviceList.flatMap (·.1.marshalling))).1

/-- A call of the interface with the objects that it takes, and the optional arguments as they are given. -/
inductive Call (Device Config Interface Endpoint Pipe : Type) where
  | connectDevice (device : Device)
  | hasRight (device : Device)
  | requestRight (device : Device)
  | removeRight (device : Device)
  | resetUsbDevice (pipe : Pipe)
  | closePipe (pipe : Pipe)
  | getRawDescriptor (pipe : Pipe)
  | getFileDescriptor (pipe : Pipe)
  | claimInterface (pipe : Pipe) (iface : Interface) (force : Option Bool)
  | releaseInterface (pipe : Pipe) (iface : Interface)
  | setInterface (pipe : Pipe) (iface : Interface)
  | setConfiguration (pipe : Pipe) (config : Config)
  | bulkTransfer (pipe : Pipe) (endpoint : Endpoint) (buffer : List UInt8) (timeout : Option {n : Int // IsInt32 n})

/-- The same call with the objects that are named, if all of them are there. -/
def Call.resolve {D C I E P D' C' I' E' P' : Type} (device : D → Option D') (config : C → Option C')
    (interface : I → Option I') (endpoint : E → Option E') (pipe : P → Option P') :
    Call D C I E P → Option (Call D' C' I' E' P')
  | connectDevice d => do return .connectDevice (← device d)
  | hasRight d => do return .hasRight (← device d)
  | requestRight d => do return .requestRight (← device d)
  | removeRight d => do return .removeRight (← device d)
  | resetUsbDevice p => do return .resetUsbDevice (← pipe p)
  | closePipe p => do return .closePipe (← pipe p)
  | getRawDescriptor p => do return .getRawDescriptor (← pipe p)
  | getFileDescriptor p => do return .getFileDescriptor (← pipe p)
  | claimInterface p i force => do return .claimInterface (← pipe p) (← interface i) force
  | releaseInterface p i => do return .releaseInterface (← pipe p) (← interface i)
  | setInterface p i => do return .setInterface (← pipe p) (← interface i)
  | setConfiguration p c => do return .setConfiguration (← pipe p) (← config c)
  | bulkTransfer p ep buffer timeout => do return .bulkTransfer (← pipe p) (← endpoint ep) buffer timeout

/-- What a language makes of the interface: its objects, how an application gets from one to another, and
what a call sends, with the pipe that the application has if the service accepts. -/
structure Binding (Device Config Interface Endpoint Pipe : Type) where
  device : UsbDevice → Device
  config : Device → Nat → Option Config
  interface : Config → Nat → Option Interface
  endpoint : Interface → Nat → Option Endpoint
  send : Call Device Config Interface Endpoint Pipe → Except String (Option Request × Option Pipe)

/-- The client library itself. -/
def native : Binding UsbDevice USBConfig UsbInterface USBEndpoint USBDevicePipe where
  device d := d
  config d index := d.configs[index]?
  interface c index := c.interfaces[index]?
  endpoint i index := i.endpoints[index]?
  send
    | .connectDevice d => .ok (some (openDevice d).1, some (openDevice d).2)
    | .hasRight d => .ok (some (.hasRight d.name), none)
    | .requestRight d => .ok (some (.requestRight d.name), none)
    | .removeRight d => .ok (some (.removeRight d.name), none)
    | .resetUsbDevice p => .ok (some (.resetDevice p.busNum p.devAddr), none)
    | .closePipe p => .ok (some (.close p.busNum p.devAddr), none)
    | .getRawDescriptor p => .ok (some (.getRawDescriptor p.busNum p.devAddr), none)
    | .getFileDescriptor p => .ok (some (.getFileDescriptor p.busNum p.devAddr), none)
    | .claimInterface p i force => .ok (some (claimInterface p i (force.getD false)), none)
    | .releaseInterface p i => .ok (some (releaseInterface p i), none)
    | .setInterface p i => .ok (some (setInterface p i), none)
    | .setConfiguration p c => .ok (some (setConfiguration p c), none)
    | .bulkTransfer p ep buffer timeout => .ok (bulkTransfer p ep buffer ((timeout.map Subtype.val).getD 0), none)

section

variable {Number : Type} (e : Engine Number)

/-- `value.name[index]`. -/
def propertyAt (value : JsValue Number) (name : String) (index : Nat) : Option (JsValue Number) := do
  (← value.namedProperty name).elements[index]?

/-- The JavaScript interface. -/
def javaScript : Binding (JsValue Number) (JsValue Number) (JsValue Number) (JsValue Number) (JsValue Number) where
  device := ctoJSUsbDevice e
  config d := propertyAt d "configs"
  interface c := propertyAt c "interfaces"
  endpoint i := propertyAt i "endpoints"
  send
    | .connectDevice d => (fun (request, pipe) => (some request, some pipe)) <$> coreConnectDevice e d
    | .hasRight d => (some ·, none) <$> coreHasRight e (d.namedProperty "name")
    | .requestRight d => (some ·, none) <$> coreRequestRight e (d.namedProperty "name")
    | .removeRight d => (some ·, none) <$> deviceRemoveRight e (d.namedProperty "name")
    | .resetUsbDevice p => (some ·, none) <$> pipeResetDevice e p
    | .closePipe p => (some ·, none) <$> pipeClose e p
    | .getRawDescriptor p => (some ·, none) <$> pipeGetRawDescriptors e p
    | .getFileDescriptor p => (some ·, none) <$> pipeGetFileDescriptor e p
    | .claimInterface p i force => (some ·, none) <$> pipeClaimInterface e p i (force.map .boolean)
    | .releaseInterface p i => (some ·, none) <$> pipeReleaseInterface e p i
    | .setInterface p i => (some ·, none) <$> pipeSetInterface e p i
    | .setConfiguration p c => (some ·, none) <$> pipeSetConfiguration e p c
    | .bulkTransfer p ep buffer timeout =>
      (·, none) <$> pipeBulkTransfer e p ep buffer (timeout.map fun n => .number (e.createInt32 n.1))

end

/-- A service with states `σ`: the devices it lists, and its answers to requests. -/
structure Server (σ : Type) where
  getDevices : σ → List ListedDevice × σ
  serve : σ → Request → UsbErrCode × σ

/-- An application names its objects by their places: in the last list of devices, inside a device, and
among the pipes that it has been given. -/
inductive Instruction where
  | getDevices
  | call (call : Call Nat (Nat × Nat) (Nat × Nat × Nat) (Nat × Nat × Nat × Nat) Nat)

structure App (σ Device Pipe : Type) where
  devices : List Device := []
  pipes : List Pipe := []
  server : σ

section

variable {σ D C I E P : Type} (binding : Binding D C I E P) (server : Server σ)

namespace App

def configAt (devices : List D) (index : Nat × Nat) : Option C := do
  binding.config (← devices[index.1]?) index.2

def interfaceAt (devices : List D) (index : Nat × Nat × Nat) : Option I := do
  binding.interface (← configAt binding devices (index.1, index.2.1)) index.2.2

def endpointAt (devices : List D) (index : Nat × Nat × Nat × Nat) : Option E := do
  binding.endpoint (← interfaceAt binding devices (index.1, index.2.1, index.2.2.1)) index.2.2.2

/-- The application stops at an object that is not there and at an exception. It awaits each call: `requestRight`
and `bulkTransfer` make their request on a worker thread, and their promise is settled before the next
instruction. -/
def step (app : App σ D P) : Instruction → Option (App σ D P)
  | .getDevices =>
    let (devices, s) := server.getDevices app.server
    some { devices := (received devices).map binding.device, pipes := app.pipes, server := s }
  | .call call => do
    let call ← call.resolve (app.devices[·]?) (configAt binding app.devices) (interfaceAt binding app.devices)
      (endpointAt binding app.devices) (app.pipes[·]?)
    match binding.send call with
    | .error _ => none
    | .ok (none, _) => some app
    | .ok (some request, pipe) =>
      let (ret, s) := server.serve app.server request
      some { app with pipes := if ret = .uecOk then app.pipes ++ pipe.toList else app.pipes, server := s }

def run (program : List Instruction) (app : App σ D P) : Option (App σ D P) :=
  program.foldlM (step binding server) app

end App

end

end Napi

/-! ## What a client receives -/

theorem UsbInterface.Ranged.keep {i : UsbInterface} (ranged : i.Ranged) (count : Nat → Nat → Nat) :
    (i.keep count).Ranged :=
  ⟨ranged.id, ranged.protocol, ranged.klass, ranged.subClass, ranged.alternateSetting,
    fun ep member => ranged.endpoints ep (List.mem_of_mem_take member)⟩

theorem USBConfig.Ranged.keep {c : USBConfig} (ranged : c.Ranged) (count : Nat → Nat → Nat) : (c.keep count).Ranged := by
  refine ⟨ranged.id, ranged.maxPower, fun i member => ?_⟩
  obtain ⟨i, inside, rfl⟩ := List.mem_map.1 member
  exact (ranged.interfaces i (List.mem_of_mem_take inside)).keep count

theorem UsbDevice.Ranged.keep {d : UsbDevice} (ranged : d.Ranged) (count : Nat → Nat → Nat) : (d.keep count).Ranged := by
  refine ⟨ranged.vendorId, ranged.productId, ranged.baseClass, ranged.subClass, ranged.protocol, fun c member => ?_⟩
  obtain ⟨c, inside, rfl⟩ := List.mem_map.1 member
  exact (ranged.configs c (List.mem_of_mem_take inside)).keep count

theorem UsbDevice.lengths_cut (d : UsbDevice) : d.cut.Lengths (· ≤ 128) := by
  refine ⟨?_, fun c member => ?_, fun c member i inside => ?_⟩
  · simp [cut, UsbDevice.keep, usbConfigMaxNum]
  · obtain ⟨c, -, rfl⟩ := List.mem_map.1 member
    simp [USBConfig.keep, usbInterfaceMaxNum]
  · obtain ⟨c, -, rfl⟩ := List.mem_map.1 member
    obtain ⟨i, -, rfl⟩ := List.mem_map.1 inside
    simp [UsbInterface.keep, usbEndpointMaxNum]

theorem UsbDevice.Bounded.ranged {d : UsbDevice} (bounded : d.Bounded) : d.Ranged := by
  refine ⟨isInt32_of_isWord bounded.vendorId, isInt32_of_isWord bounded.productId, isInt32_of_isByte bounded.baseClass,
    isInt32_of_isByte bounded.subClass, isInt32_of_isByte bounded.protocol, fun c member => ?_⟩
  have c := bounded.configs c member
  refine ⟨isInt32_of_isByte c.id, isInt32_of_isByte c.maxPower, fun i member => ?_⟩
  have i := c.interfaces i member
  exact ⟨isInt32_of_isByte i.id, isInt32_of_isByte i.protocol, isInt32_of_isByte i.klass, isInt32_of_isByte i.subClass,
    isInt32_of_isByte i.alternateSetting, fun ep member => (i.endpoints ep member).plain.toRanged⟩

theorem UsbDevice.Bounded.lengths {d : UsbDevice} (bounded : d.Bounded) : d.Lengths (· < 2 ^ 32) :=
  ⟨bounded.counted, fun c member => (bounded.configs c member).counted,
    fun c member i inside => ((bounded.configs c member).interfaces i inside).counted⟩

theorem toString_byte : ∀ n < 256, NulFree (toString n) ∧ (toString n).utf8ByteSize ≤ 3 := by
  decide +kernel

theorem nulFree_deviceName (busNum devAddr : UInt8) : NulFree (Host.deviceName busNum devAddr) :=
  Napi.nulFree_append (Napi.nulFree_append (toString_byte _ busNum.toNat_lt).1 (by decide))
    (toString_byte _ devAddr.toNat_lt).1

theorem short_deviceName (busNum devAddr : UInt8) :
    (Host.deviceName busNum devAddr).utf8ByteSize ≤ Napi.strDefaultSize := by
  have bus := (toString_byte _ busNum.toNat_lt).2
  have dev := (toString_byte _ devAddr.toNat_lt).2
  have dash : "-".utf8ByteSize = 1 := rfl
  rw [Host.deviceName, String.utf8ByteSize_append, String.utf8ByteSize_append, Napi.strDefaultSize]
  omega

/-- A listed device is received with the first 128 children of each node, and as one that can be shown. -/
theorem ListedDevice.shown_cut (d : ListedDevice) : d.1.cut.Shown where
  ranged := d.2.1.bounded.ranged.keep _
  power c member := by
    obtain ⟨c, inside, rfl⟩ := List.mem_map.1 member
    obtain ⟨low, high⟩ := (d.2.1.bounded.configs c (List.mem_of_mem_take inside)).maxPower
    show Parcel.IsInt32 (c.maxPower * 2)
    constructor <;> omega
  counted := by
    obtain ⟨configs, interfaces, endpoints⟩ := d.1.lengths_cut
    exact ⟨by omega, fun c member => by have := interfaces c member; omega,
      fun c member i inside => by have := endpoints c member i inside; omega⟩
  nulFree := by
    show NulFree d.1.name
    rw [d.2.2]
    exact nulFree_deviceName _ _
  short := by
    show d.1.name.utf8ByteSize ≤ _
    rw [d.2.2]
    exact short_deviceName _ _

theorem Napi.received_eq (deviceList : List ListedDevice) : received deviceList = deviceList.map (·.1.cut) := by
  have all : Parcel.Reads (Parcel.readMany deviceList.length UsbDevice.unmarshalling)
      (deviceList.flatMap (·.1.marshalling)) (deviceList.map (·.1.keep passed)) :=
    .many fun d _ => d.1.reads d.2.1.bounded.ranged
  have read := congrArg Prod.fst (all [])
  rw [List.append_nil] at read
  refine read.trans (List.map_congr_left fun d _ => ?_)
  exact UsbDevice.keep_passed d.2.1.bounded.lengths

theorem Napi.shown_of_received {deviceList : List ListedDevice} {d : UsbDevice} (member : d ∈ received deviceList) :
    d.Shown := by
  rw [received_eq] at member
  obtain ⟨d, -, rfl⟩ := List.mem_map.1 member
  exact ListedDevice.shown_cut d

namespace Napi

open Parcel NapiUtil

/-! ## The two runs -/

theorem getElem?_take_asInt32 {α : Type} {items : List α} (counted : items.length < 2 ^ 31) (index : Nat) :
    (items.take (asInt32 items.length))[index]? = items[index]? := by
  rw [List.take_of_length_le (le_asInt32_iff.2 counted)]

section

variable {Number : Type} {e : Engine Number}

theorem propertyAt_configs {d : UsbDevice} (counted : d.configs.length < 2 ^ 31) (index : Nat) :
    propertyAt (ctoJSUsbDevice e d) "configs" index = d.configs[index]?.map (ctoJSUsbConfig e) := by
  simp [propertyAt, ctoJSUsbDevice, List.getElem?_map, getElem?_take_asInt32 counted, -List.map_take]

theorem propertyAt_interfaces {c : USBConfig} (counted : c.interfaces.length < 2 ^ 31) (index : Nat) :
    propertyAt (ctoJSUsbConfig e c) "interfaces" index = c.interfaces[index]?.map (ctoJSUsbInterface e) := by
  have all : c.interfaces.take (asUint32 c.interfaces.length) = c.interfaces :=
    List.take_of_length_le (le_asUint32_iff.2 (by omega))
  simp [propertyAt, ctoJSUsbConfig, List.getElem?_map, all, -List.map_take]

theorem propertyAt_endpoints {i : UsbInterface} (counted : i.endpoints.length < 2 ^ 31) (index : Nat) :
    propertyAt (ctoJSUsbInterface e i) "endpoints" index = i.endpoints[index]?.map (ctoJSUsbEndpoint e) := by
  simp [propertyAt, ctoJSUsbInterface, List.getElem?_map, getElem?_take_asInt32 counted, -List.map_take]

end

end Napi

/-- A configuration, an interface or an endpoint of such a device. -/
def USBConfig.Shown (c : USBConfig) : Prop := ∃ d : UsbDevice, d.Shown ∧ c ∈ d.configs

def UsbInterface.Shown (i : UsbInterface) : Prop := ∃ c : USBConfig, c.Shown ∧ i ∈ c.interfaces

def USBEndpoint.Shown (ep : USBEndpoint) : Prop := ∃ i : UsbInterface, i.Shown ∧ ep ∈ i.endpoints

theorem USBConfig.Shown.ranged {c : USBConfig} : c.Shown → c.Ranged := fun ⟨_, d, inside⟩ => d.ranged.configs c inside

theorem USBConfig.Shown.power {c : USBConfig} : c.Shown → Parcel.IsInt32 c.getMaxPower :=
  fun ⟨_, d, inside⟩ => d.power c inside

theorem USBConfig.Shown.counted {c : USBConfig} : c.Shown → c.interfaces.length < 2 ^ 31 :=
  fun ⟨_, d, inside⟩ => d.counted.interfaces c inside

theorem UsbInterface.Shown.ranged {i : UsbInterface} : i.Shown → i.Ranged :=
  fun ⟨_, c, inside⟩ => c.ranged.interfaces i inside

theorem UsbInterface.Shown.counted {i : UsbInterface} : i.Shown → i.endpoints.length < 2 ^ 31 :=
  fun ⟨c, ⟨_, d, outer⟩, inside⟩ => d.counted.endpoints c outer i inside

theorem USBEndpoint.Shown.ranged {ep : USBEndpoint} : ep.Shown → ep.Ranged :=
  fun ⟨_, i, inside⟩ => i.ranged.endpoints ep inside

namespace Napi

open Parcel NapiUtil

namespace Call

variable {D C I E P D' C' I' E' P' : Type}

/-- The call with other objects in the places of its own. -/
def map (device : D → D') (config : C → C') (interface : I → I') (endpoint : E → E') (pipe : P → P') :
    Call D C I E P → Call D' C' I' E' P'
  | connectDevice d => .connectDevice (device d)
  | hasRight d => .hasRight (device d)
  | requestRight d => .requestRight (device d)
  | removeRight d => .removeRight (device d)
  | resetUsbDevice p => .resetUsbDevice (pipe p)
  | closePipe p => .closePipe (pipe p)
  | getRawDescriptor p => .getRawDescriptor (pipe p)
  | getFileDescriptor p => .getFileDescriptor (pipe p)
  | claimInterface p i force => .claimInterface (pipe p) (interface i) force
  | releaseInterface p i => .releaseInterface (pipe p) (interface i)
  | setInterface p i => .setInterface (pipe p) (interface i)
  | setConfiguration p c => .setConfiguration (pipe p) (config c)
  | bulkTransfer p ep buffer timeout => .bulkTransfer (pipe p) (endpoint ep) buffer timeout

/-- The objects of the call satisfy these. -/
def Holds (device : D → Prop) (config : C → Prop) (interface : I → Prop) (endpoint : E → Prop) :
    Call D C I E P → Prop
  | connectDevice d | hasRight d | requestRight d | removeRight d => device d
  | claimInterface _ i _ | releaseInterface _ i | setInterface _ i => interface i
  | setConfiguration _ c => config c
  | bulkTransfer _ ep _ _ => endpoint ep
  | _ => True

variable {ND NC NI NE NP : Type} {device : ND → Option D} {config : NC → Option C} {interface : NI → Option I}
  {endpoint : NE → Option E} {pipe : NP → Option P}

/-- Objects can be replaced after they have been looked up. -/
theorem resolve_map (f : D → D') (g : C → C') (h : I → I') (j : E → E') (k : P → P') (call : Call ND NC NI NE NP) :
    call.resolve (fun n => (device n).map f) (fun n => (config n).map g) (fun n => (interface n).map h)
        (fun n => (endpoint n).map j) (fun n => (pipe n).map k) =
      (call.resolve device config interface endpoint pipe).map (map f g h j k) := by
  cases call <;> simp [resolve, map, Option.map_bind, Option.bind_map, Function.comp_def]

/-- What is looked up satisfies what every result of the look-ups does. -/
theorem holds_of_resolve {call : Call ND NC NI NE NP} {found : Call D C I E P} {onDevice : D → Prop}
    {onConfig : C → Prop} {onInterface : I → Prop} {onEndpoint : E → Prop}
    (devices : ∀ n d, device n = some d → onDevice d) (configs : ∀ n c, config n = some c → onConfig c)
    (interfaces : ∀ n i, interface n = some i → onInterface i)
    (endpoints : ∀ n ep, endpoint n = some ep → onEndpoint ep)
    (resolved : call.resolve device config interface endpoint pipe = some found) :
    found.Holds onDevice onConfig onInterface onEndpoint := by
  cases call <;> simp only [resolve, bind, pure, Option.bind_eq_some_iff, Option.some.injEq] at resolved
  case connectDevice | hasRight | requestRight | removeRight =>
    obtain ⟨d, there, rfl⟩ := resolved
    exact devices _ d there
  case resetUsbDevice | closePipe | getRawDescriptor | getFileDescriptor =>
    obtain ⟨p, -, rfl⟩ := resolved
    trivial
  case claimInterface | releaseInterface | setInterface =>
    obtain ⟨p, -, i, there, rfl⟩ := resolved
    exact interfaces _ i there
  case setConfiguration =>
    obtain ⟨p, -, c, there, rfl⟩ := resolved
    exact configs _ c there
  case bulkTransfer =>
    obtain ⟨p, -, ep, there, rfl⟩ := resolved
    exact endpoints _ ep there

end Call

section

variable {Number : Type} {e : Engine Number} {devices : List UsbDevice} (shown : ∀ d ∈ devices, d.Shown)

include shown

/-! ### Looking objects up -/

theorem shown_of_configAt {index : Nat × Nat} {c : USBConfig} (there : App.configAt native devices index = some c) :
    c.Shown := by
  obtain ⟨d, inside, there⟩ := Option.bind_eq_some_iff.1 there
  exact ⟨d, shown d (List.mem_of_getElem? inside), List.mem_of_getElem? there⟩

theorem shown_of_interfaceAt {index : Nat × Nat × Nat} {i : UsbInterface}
    (there : App.interfaceAt native devices index = some i) : i.Shown := by
  obtain ⟨c, inside, there⟩ := Option.bind_eq_some_iff.1 there
  exact ⟨c, shown_of_configAt shown inside, List.mem_of_getElem? there⟩

theorem shown_of_endpointAt {index : Nat × Nat × Nat × Nat} {ep : USBEndpoint}
    (there : App.endpointAt native devices index = some ep) : ep.Shown := by
  obtain ⟨i, inside, there⟩ := Option.bind_eq_some_iff.1 there
  exact ⟨i, shown_of_interfaceAt shown inside, List.mem_of_getElem? there⟩

theorem configAt_javaScript (index : Nat × Nat) :
    App.configAt (javaScript e) (devices.map (ctoJSUsbDevice e)) index =
      (App.configAt native devices index).map (ctoJSUsbConfig e) := by
  unfold App.configAt
  rw [List.getElem?_map]
  cases there : devices[index.1]? with
  | none => rfl
  | some d => exact propertyAt_configs (shown d (List.mem_of_getElem? there)).counted.configs _

theorem interfaceAt_javaScript (index : Nat × Nat × Nat) :
    App.interfaceAt (javaScript e) (devices.map (ctoJSUsbDevice e)) index =
      (App.interfaceAt native devices index).map (ctoJSUsbInterface e) := by
  unfold App.interfaceAt
  rw [configAt_javaScript shown]
  cases there : App.configAt native devices (index.1, index.2.1) with
  | none => rfl
  | some c => exact propertyAt_interfaces (shown_of_configAt shown there).counted _

theorem endpointAt_javaScript (index : Nat × Nat × Nat × Nat) :
    App.endpointAt (javaScript e) (devices.map (ctoJSUsbDevice e)) index =
      (App.endpointAt native devices index).map (ctoJSUsbEndpoint e) := by
  unfold App.endpointAt
  rw [interfaceAt_javaScript shown]
  cases there : App.interfaceAt native devices (index.1, index.2.1, index.2.2.1) with
  | none => rfl
  | some i => exact propertyAt_endpoints (shown_of_interfaceAt shown there).counted _

end

/-! ### Sending -/

section

variable {Number : Type} {e : Engine Number} (doc : e.Documented)

include doc

theorem aboutPipe_create (pipe : USBDevicePipe) (request : UInt8 → UInt8 → Request) :
    aboutPipe e (createUsbDevicePipe e pipe) request = .ok (request pipe.busNum pipe.devAddr) := by
  simp [aboutPipe, parseUsbDevicePipe_create doc]

theorem aboutInterface_ctoJS (pipe : USBDevicePipe) {i : UsbInterface} (shown : i.Shown)
    (request : USBDevicePipe → UsbInterface → Request) :
    aboutInterface e (createUsbDevicePipe e pipe) (ctoJSUsbInterface e i) request = .ok (request pipe i.throughJs) := by
  have object : (ctoJSUsbInterface e i).isObject = true := rfl
  simp [aboutInterface, parseUsbDevicePipe_create doc, parseInterfaceObj_ctoJS doc shown.ranged, object]

theorem parseDeviceName_ctoJS {d : UsbDevice} (shown : d.Shown) (message : String) :
    parseDeviceName e ((ctoJSUsbDevice e d).namedProperty "name") message = .ok d.name := by
  have name : (ctoJSUsbDevice e d).namedProperty "name" = some (.string (cStr d.name)) := by
    simp [ctoJSUsbDevice, setValueUtf8String]
  rw [name]
  exact congrArg Except.ok ((text_eq_iff doc).2 ⟨shown.nulFree, shown.short⟩)

/-- A call with the objects of JavaScript sends what the call with the objects themselves does, and gives
the pipe that it gives. -/
theorem send_javaScript {call : Call UsbDevice USBConfig UsbInterface USBEndpoint USBDevicePipe}
    (shown : call.Holds UsbDevice.Shown USBConfig.Shown UsbInterface.Shown USBEndpoint.Shown) :
    ∃ request pipe, native.send call = .ok (request, pipe) ∧
      (javaScript e).send (call.map (ctoJSUsbDevice e) (ctoJSUsbConfig e) (ctoJSUsbInterface e) (ctoJSUsbEndpoint e)
        (createUsbDevicePipe e)) = .ok (request, pipe.map (createUsbDevicePipe e)) := by
  cases call <;> refine ⟨_, _, rfl, ?_⟩
  case connectDevice d =>
    have object : (ctoJSUsbDevice e d).isObject = true := rfl
    simp [javaScript, Call.map, coreConnectDevice, parseDeviceObj_ctoJS doc shown.ranged shown.power, object, openDevice,
      UsbDevice.throughJs]
  case hasRight d => simp [javaScript, Call.map, coreHasRight, parseDeviceName_ctoJS doc shown]
  case requestRight d => simp [javaScript, Call.map, coreRequestRight, parseDeviceName_ctoJS doc shown]
  case removeRight d => simp [javaScript, Call.map, deviceRemoveRight, parseDeviceName_ctoJS doc shown]
  case resetUsbDevice p => simp [javaScript, Call.map, pipeResetDevice, aboutPipe_create doc]
  case closePipe p => simp [javaScript, Call.map, pipeClose, aboutPipe_create doc]
  case getRawDescriptor p => simp [javaScript, Call.map, pipeGetRawDescriptors, aboutPipe_create doc]
  case getFileDescriptor p => simp [javaScript, Call.map, pipeGetFileDescriptor, aboutPipe_create doc]
  case claimInterface p i force =>
    cases force <;>
      simp [javaScript, Call.map, pipeClaimInterface, aboutInterface_ctoJS doc p shown, claimInterface,
        UsbInterface.throughJs]
  case releaseInterface p i =>
    simp [javaScript, Call.map, pipeReleaseInterface, aboutInterface_ctoJS doc p shown, releaseInterface,
      UsbInterface.throughJs]
  case setInterface p i =>
    simp [javaScript, Call.map, pipeSetInterface, aboutInterface_ctoJS doc p shown, setInterface,
      UsbInterface.throughJs]
  case setConfiguration p c =>
    have object : (ctoJSUsbConfig e c).isObject = true := rfl
    simp [javaScript, Call.map, pipeSetConfiguration, parseUsbDevicePipe_create doc,
      parseConfigObj_ctoJS doc shown.ranged shown.power, object, setConfiguration, USBConfig.throughJs]
  case bulkTransfer p ep buffer timeout =>
    have object : (ctoJSUsbEndpoint e ep).isObject = true := rfl
    cases timeout with
    | none =>
      simp [javaScript, Call.map, pipeBulkTransfer, parseUsbDevicePipe_create doc, parseEndpointObj_ctoJS doc shown.ranged,
        object]
    | some n =>
      simp [javaScript, Call.map, pipeBulkTransfer, parseUsbDevicePipe_create doc, parseEndpointObj_ctoJS doc shown.ranged,
        object, doc.int32 n.2]

end

/-! ### Running -/

section

variable {σ Number : Type} {e : Engine Number}

/-- The application has the same objects in JavaScript. -/
structure Mirrors (e : Engine Number) (app : App σ UsbDevice USBDevicePipe)
    (mirror : App σ (JsValue Number) (JsValue Number)) : Prop where
  devices : mirror.devices = app.devices.map (ctoJSUsbDevice e)
  pipes : mirror.pipes = app.pipes.map (createUsbDevicePipe e)
  server : mirror.server = app.server
  shown : ∀ d ∈ app.devices, d.Shown

variable {app : App σ UsbDevice USBDevicePipe} {mirror : App σ (JsValue Number) (JsValue Number)}

/-- The call with the objects of JavaScript is the one with the objects themselves. -/
theorem Mirrors.resolve (mirrors : Mirrors e app mirror)
    (call : Call Nat (Nat × Nat) (Nat × Nat × Nat) (Nat × Nat × Nat × Nat) Nat) :
    call.resolve (mirror.devices[·]?) (App.configAt (javaScript e) mirror.devices)
        (App.interfaceAt (javaScript e) mirror.devices) (App.endpointAt (javaScript e) mirror.devices)
        (mirror.pipes[·]?) =
      (call.resolve (app.devices[·]?) (App.configAt native app.devices) (App.interfaceAt native app.devices)
        (App.endpointAt native app.devices) (app.pipes[·]?)).map
        (Call.map (ctoJSUsbDevice e) (ctoJSUsbConfig e) (ctoJSUsbInterface e) (ctoJSUsbEndpoint e)
          (createUsbDevicePipe e)) := by
  rw [← Call.resolve_map, mirrors.devices, mirrors.pipes]
  congr 1
  · exact funext fun n => List.getElem?_map ..
  · exact funext (configAt_javaScript mirrors.shown)
  · exact funext (interfaceAt_javaScript mirrors.shown)
  · exact funext (endpointAt_javaScript mirrors.shown)
  · exact funext fun n => List.getElem?_map ..

theorem Mirrors.step (doc : e.Documented) (mirrors : Mirrors e app mirror) (server : Server σ)
    (instruction : Instruction) :
    (app.step native server instruction = none ∧ mirror.step (javaScript e) server instruction = none) ∨
      ∃ app' mirror', app.step native server instruction = some app' ∧
        mirror.step (javaScript e) server instruction = some mirror' ∧ Mirrors e app' mirror' := by
  cases instruction with
  | getDevices =>
    refine .inr ⟨_, _, rfl, rfl, ?_, mirrors.pipes, ?_, fun d member => ?_⟩
    · rw [mirrors.server, List.map_map]
      rfl
    · rw [mirrors.server]
    · rw [show native.device = id from rfl, List.map_id] at member
      exact shown_of_received member
  | call call =>
    unfold App.step
    dsimp only
    rw [mirrors.resolve]
    cases found : call.resolve (app.devices[·]?) (App.configAt native app.devices) (App.interfaceAt native app.devices)
      (App.endpointAt native app.devices) (app.pipes[·]?) with
    | none => exact .inl ⟨rfl, rfl⟩
    | some call =>
      have shown := Call.holds_of_resolve (fun n d there => mirrors.shown d (List.mem_of_getElem? there))
        (fun n c => shown_of_configAt mirrors.shown) (fun n i => shown_of_interfaceAt mirrors.shown)
        (fun n ep => shown_of_endpointAt mirrors.shown) found
      obtain ⟨request, pipe, sent, sent'⟩ := send_javaScript doc shown
      right
      simp only [Option.map_some, Option.bind_eq_bind, Option.bind_some, sent, sent', mirrors.server]
      cases request with
      | none => exact ⟨_, _, rfl, rfl, mirrors⟩
      | some request =>
        refine ⟨_, _, rfl, rfl, mirrors.devices, ?_, rfl, mirrors.shown⟩
        dsimp only
        rw [mirrors.pipes]
        split
        · cases pipe <;> simp
        · rfl

theorem Mirrors.run (doc : e.Documented) (mirrors : Mirrors e app mirror) (server : Server σ)
    (program : List Instruction) :
    (app.run native server program = none ∧ mirror.run (javaScript e) server program = none) ∨
      ∃ app' mirror', app.run native server program = some app' ∧
        mirror.run (javaScript e) server program = some mirror' ∧ Mirrors e app' mirror' := by
  induction program generalizing app mirror with
  | nil => exact .inr ⟨app, mirror, rfl, rfl, mirrors⟩
  | cons instruction rest ih =>
    unfold App.run
    rw [List.foldlM_cons, List.foldlM_cons]
    obtain ⟨stops, stops'⟩ | ⟨app', mirror', taken, taken', mirrors⟩ := mirrors.step doc server instruction
    · exact .inl ⟨by rw [stops]; rfl, by rw [stops']; rfl⟩
    · rw [taken, taken']
      exact ih mirrors

/-- An application that starts with no objects leaves every service in the same state, and stops at the same
place, whether it runs with the objects of JavaScript or with those of the client library. -/
theorem javaScript_runs_native (doc : e.Documented) (server : Server σ) (s : σ) (program : List Instruction) :
    (App.run (javaScript e) server program { server := s }).map App.server =
      (App.run native server program { server := s }).map App.server := by
  have start : Mirrors e (σ := σ) { server := s } { server := s } := ⟨rfl, rfl, rfl, fun d member => nomatch member⟩
  obtain ⟨stops, stops'⟩ | ⟨app, mirror, ran, ran', mirrors⟩ := start.run doc server program
  · rw [stops, stops']
    rfl
  · rw [ran, ran', Option.map_some, Option.map_some, mirrors.server]

/-- A service that lists a storage device, accepts every request and keeps them, the last one first. -/
def storageServer : Server (List Request) where
  getDevices s := ([⟨storageDevice 50 0, storageDevice_produced 50 0, by decide +kernel⟩], s)
  serve s request := (.uecOk, request :: s)

theorem javaScript_runs_native_storage :
    (App.run (javaScript integers) storageServer
        [.getDevices, .call (.connectDevice 0), .call (.claimInterface 0 (0, 0, 0) (some true)),
          .call (.setConfiguration 0 (0, 0))] { server := [] }).map App.server =
      some [.setActiveConfig 1 2 1, .claimInterface 1 2 0 1, .openDevice 1 2] := by
  rw [javaScript_runs_native integers_documented]
  decide +kernel

end

end Napi

end UsbManager
