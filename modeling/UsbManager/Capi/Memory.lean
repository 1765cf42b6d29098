import UsbManager.Capi.DeviceList
import UsbManager.Lib.Heap

/-!
# The memory of the device list

`OH_UsbManager_GetUsbDeviceList` builds its list from blocks: an array for the devices, for the
configurations of a device, for the interfaces of a configuration and for the endpoints of an interface,
and a copy of each string. Any of these allocations may be refused. A refused array ends the call with an
error, and what has been built so far is released; a refused string is replaced by the constant
`EMPTY_STRING`.

A call that fails leaves the memory as it was. A call that succeeds leaves a list that holds the copies of
`Capi/DeviceList`, up to the strings that were refused, and `OH_UsbManager_FreeUsbDeviceList` leaves the
memory of before the call. No call reads or releases what is not there.
-/

namespace UsbManager.Capi.Raw

open Heaplet Heaplet.Assertion

/-! ## The C structures with their pointers -/

/-- A `const char *`: null, the constant `EMPTY_STRING` or a copy. -/
inductive Text where
  | null
  | emptyString
  | block (p : Nat)
  deriving DecidableEq, Repr

/-- `UsbInterface` of the C header, with the address of its endpoints. -/
structure UsbInterface where
  id : UInt8 := 0
  protocol : UInt8 := 0
  clazz : UInt8 := 0
  subClass : UInt8 := 0
  alternateSetting : UInt8 := 0
  name : Text := .null
  endpoints : Nat := 0
  endpointCount : UInt32 := 0
  deriving DecidableEq, Repr

/-- `UsbConfig`, with the address of its interfaces. -/
structure UsbConfig where
  id : UInt8 := 0
  attributes : UInt8 := 0
  maxPower : UInt8 := 0
  name : Text := .null
  isRemoteWakeup : Bool := false
  isSelfPowered : Bool := false
  interfaces : Nat := 0
  interfaceCount : UInt32 := 0
  deriving DecidableEq, Repr

/-- `UsbDevice`, with the address of its configurations. -/
structure UsbDevice where
  busNum : UInt8 := 0
  devAddress : UInt8 := 0
  name : Text := .null
  manufacturerName : Text := .null
  productName : Text := .null
  version : Text := .null
  vendorId : UInt16 := 0
  productId : UInt16 := 0
  clazz : UInt8 := 0
  subClass : UInt8 := 0
  protocol : UInt8 := 0
  configs : Nat := 0
  configCount : UInt32 := 0
  deriving DecidableEq, Repr

/-- What an allocation holds. -/
inductive Block where
  | text (value : String)
  | endpoints (items : List UsbEndpoint)
  | interfaces (items : List UsbInterface)
  | configs (items : List UsbConfig)
  | devices (items : List UsbDevice)
  deriving DecidableEq, Repr

def endpointArray : View Block UsbEndpoint where
  put := .endpoints
  get
    | .endpoints items => some items
    | _ => none
  get_put _ := rfl
  zero := ⟨0, 0, 0, 0, 0, 0, 0, 0⟩

def interfaceArray : View Block UsbInterface where
  put := .interfaces
  get
    | .interfaces items => some items
    | _ => none
  get_put _ := rfl
  zero := {}

def configArray : View Block UsbConfig where
  put := .configs
  get
    | .configs items => some items
    | _ => none
  get_put _ := rfl
  zero := {}

def deviceArray : View Block UsbDevice where
  put := .devices
  get
    | .devices items => some items
    | _ => none
  get_put _ := rfl
  zero := {}

/-! ## Release -/

/-- The constant is not released. -/
def freeText : Text → Program Block PUnit
  | .block p => free p
  | _ => pure ()

/-- `FreeInterfaces`: a null pointer is no array. -/
def freeInterfaces (ifaces : Nat) (count : UInt32) : Program Block PUnit :=
  if ifaces = 0 then pure ()
  else interfaceArray.release (fun iface => do
    freeText iface.name
    free iface.endpoints) ifaces count.toNat

/-- `FreeConfigsArray`, from the inside out. -/
def freeConfigsArray (cfgs : Nat) (count : UInt32) : Program Block PUnit :=
  if cfgs = 0 then pure ()
  else configArray.release (fun cfg => do
    freeText cfg.name
    freeInterfaces cfg.interfaces cfg.interfaceCount) cfgs count.toNat

/-- `OH_UsbManager_FreeUsbDeviceList`. -/
def freeUsbDeviceList (devices : Nat) (deviceCount : UInt32) : Program Block PUnit :=
  if devices = 0 ∨ deviceCount = 0 then pure ()
  else deviceArray.release (fun device => do
    freeText device.name
    freeText device.manufacturerName
    freeText device.productName
    freeText device.version
    freeConfigsArray device.configs device.configCount) devices deviceCount.toNat

/-! ## The copy -/

section Copy

variable (A : Allocator Block)

/-- `StrdupFromStd`: the text of `c_str`. -/
def strdupFromStd (src : String) : Program Block Text := do
  let dst ← alloc A (.text (cStr src))
  pure (if dst = 0 then .emptyString else .block dst)

/-- The loop over an array: where `body` fails, the elements up to and with this one are released. -/
def copyLoop {β : Type} (body : Nat → β → Program Block ErrorCode) (release : UInt32 → Program Block PUnit) :
    Nat → List β → Program Block ErrorCode
  | _, [] => pure .success
  | i, x :: xs => do
    let ret ← body i x
    if ret ≠ .success then do
      release (.ofNat (i + 1))
      pure ret
    else copyLoop body release (i + 1) xs

/-- The common shape of `CopyEndpoints`, `CopyInterfaces` and `CopyConfigs`: `store` sets the pointer and the
count in the structure that the array belongs to. -/
def copyArray {α β : Type} (v : View Block α) (items : List β) (loop : Nat → Program Block ErrorCode)
    (store : Nat → UInt32 → Program Block PUnit) : Program Block ErrorCode :=
  let count := UInt32.ofNat items.length
  if count = 0 then do
    store 0 0
    pure .success
  else do
    let p ← v.calloc A count.toNat
    if p = 0 then pure .errorNoMemory
    else do
      let ret ← loop p
      if ret ≠ .success then pure ret
      else do
        store p count
        pure .success

/-- `CopyEndpoints`: its loop cannot fail. -/
def copyEndpoints (cppIface : UsbManager.UsbInterface) (ifaces i : Nat) : Program Block ErrorCode :=
  copyArray A endpointArray cppIface.endpoints
    (fun eps => do
      endpointArray.fill eps 0 ((counted cppIface.endpoints).map copyEndpoint)
      pure .success)
    fun eps eCount => interfaceArray.modify ifaces i fun out => { out with endpoints := eps, endpointCount := eCount }

/-- The body of the loop of `CopyInterfaces`. -/
def copyInterface (ifaces i : Nat) (cppIface : UsbManager.UsbInterface) : Program Block ErrorCode := do
  let name ← strdupFromStd A cppIface.name
  interfaceArray.modify ifaces i fun iface =>
    { iface with
      id := .ofInt cppIface.id
      protocol := .ofInt cppIface.protocol
      clazz := .ofInt cppIface.klass
      subClass := .ofInt cppIface.subClass
      alternateSetting := .ofInt cppIface.alternateSetting
      name }
  copyEndpoints A cppIface ifaces i

/-- `CopyInterfaces`: an interface whose endpoints are refused takes the array with it. -/
def copyInterfaces (cppCfg : USBConfig) (cfgs c : Nat) : Program Block ErrorCode :=
  copyArray A interfaceArray cppCfg.interfaces
    (fun ifaces => copyLoop (copyInterface A ifaces) (freeInterfaces ifaces) 0 (counted cppCfg.interfaces))
    fun ifaces iCount => configArray.modify cfgs c fun out =>
      { out with interfaces := ifaces, interfaceCount := iCount }

/-- The body of the loop of `CopyConfigs`. -/
def copyConfig (cfgs c : Nat) (cppCfg : USBConfig) : Program Block ErrorCode := do
  let name ← strdupFromStd A cppCfg.name
  configArray.modify cfgs c fun cfg =>
    { cfg with
      id := .ofInt cppCfg.id
      attributes := cppCfg.attributes.toUInt8
      maxPower := .ofInt cppCfg.getMaxPower
      name
      isRemoteWakeup := cppCfg.isRemoteWakeup
      isSelfPowered := cppCfg.isSelfPowered }
  copyInterfaces A cppCfg cfgs c

/-- `CopyConfigs` likewise. -/
def copyConfigs (cppDev : UsbManager.UsbDevice) (devices i : Nat) : Program Block ErrorCode :=
  copyArray A configArray cppDev.configs
    (fun cfgs => copyLoop (copyConfig A cfgs) (freeConfigsArray cfgs) 0 (counted cppDev.configs))
    fun cfgs cCount => deviceArray.modify devices i fun out => { out with configs := cfgs, configCount := cCount }

/-- The body of the loop of `OH_UsbManager_GetUsbDeviceList`. -/
def copyDevice (arr i : Nat) (cppDev : UsbManager.UsbDevice) : Program Block ErrorCode := do
  let name ← strdupFromStd A cppDev.name
  let manufacturerName ← strdupFromStd A cppDev.manufacturerName
  let productName ← strdupFromStd A cppDev.productName
  let version ← strdupFromStd A cppDev.version
  deviceArray.modify arr i fun device =>
    { device with
      busNum := cppDev.busNum
      devAddress := cppDev.devAddr
      name
      manufacturerName
      productName
      version
      vendorId := .ofInt cppDev.vendorId
      productId := .ofInt cppDev.productId
      clazz := .ofInt cppDev.baseClass
      subClass := .ofInt cppDev.subClass
      protocol := .ofInt cppDev.protocol }
  copyConfigs A cppDev arr i

/-- `OH_UsbManager_GetUsbDeviceList` behind its null checks: its code, `*devices` and `*deviceCount`. -/
def copyDeviceList (ret : UsbErrCode) (deviceList : List UsbManager.UsbDevice) :
    Program Block (ErrorCode × Nat × UInt32) :=
  if ret ≠ .uecOk then pure (convertErrCode ret, 0, 0)
  else if deviceList = [] then pure (.success, 0, 0)
  else do
    let count := UInt32.ofNat deviceList.length
    let arr ← deviceArray.calloc A count.toNat
    if arr = 0 then pure (.errorNoMemory, 0, 0)
    else do
      let cfgRet ← copyLoop (copyDevice A arr) (freeUsbDeviceList arr) 0 (counted deviceList)
      if cfgRet ≠ .success then pure (cfgRet, 0, 0)
      else pure (.success, arr, count)

/-- The code of a call, and what the two variables of the caller hold after it; `none` is a null pointer in the
place of a variable. -/
abbrev Result := ErrorCode × Option Nat × Option UInt32

/-- `OH_UsbManager_GetUsbDeviceList`. It leaves the variables alone if it is not given both, and sets them
otherwise, also where it fails. -/
def getUsbDeviceList (devices : Option Nat) (deviceCount : Option UInt32) (ret : UsbErrCode)
    (deviceList : List UsbManager.UsbDevice) : Program Block Result :=
  if devices.isNone || deviceCount.isNone then pure (.errorInvalidParameter, devices, deviceCount)
  else do
    let result ← copyDeviceList A ret deviceList
    pure (result.1, some result.2.1, some result.2.2)

/-- A caller that has given both variables releases what they hold. -/
def releaseReturned : Result → Program Block PUnit
  | (_, some devices, some deviceCount) => freeUsbDeviceList devices deviceCount
  | _ => pure ()

end Copy

/-! ## What a list owns -/

/-- The text at a pointer. A refused copy reads as the empty text. -/
def TextAt : Text → String → Assertion Block
  | .null, _ => lift False
  | .emptyString, text => lift (text = "")
  | .block p, text => at_ p (.text text)

/-- The array at `p` with the values `ys`, and what its elements own. -/
def ArrayAt {α β : Type} (v : View Block α) (E : α → β → Assertion Block) (p : Nat) (count : UInt32) (ys : List β) :
    Assertion Block :=
  either (lift (p = 0 ∧ count = 0 ∧ ys = []))
    (ex fun xs => (lift (xs.length = count.toNat)).sep ((v.at_ p xs).sep (each E xs ys)))

/-- The interface without its pointers. -/
def UsbInterface.value (x : UsbInterface) (name : String) (endpoints : List UsbEndpoint) : Capi.UsbInterface :=
  ⟨x.id, x.protocol, x.clazz, x.subClass, x.alternateSetting, name, endpoints, x.endpointCount⟩

/-- The configuration without its pointers. -/
def UsbConfig.value (x : UsbConfig) (name : String) (interfaces : List Capi.UsbInterface) : Capi.UsbConfig :=
  ⟨x.id, x.attributes, x.maxPower, name, x.isRemoteWakeup, x.isSelfPowered, interfaces, x.interfaceCount⟩

/-- The device without its pointers. -/
def UsbDevice.value (x : UsbDevice) (name manufacturerName productName version : String)
    (configs : List Capi.UsbConfig) : Capi.UsbDevice :=
  ⟨x.busNum, x.devAddress, name, manufacturerName, productName, version, x.vendorId, x.productId, x.clazz,
    x.subClass, x.protocol, configs, x.configCount⟩

/-- An endpoint owns nothing. -/
def EndpointAt (x y : UsbEndpoint) : Assertion Block := lift (y = x)

/-- An interface owns its name and its endpoints. -/
def InterfaceAt (x : UsbInterface) (y : Capi.UsbInterface) : Assertion Block :=
  (lift (y = x.value y.name y.endpoints)).sep
    ((TextAt x.name y.name).sep (ArrayAt endpointArray EndpointAt x.endpoints x.endpointCount y.endpoints))

/-- A configuration owns its name and its interfaces. -/
def ConfigAt (x : UsbConfig) (y : Capi.UsbConfig) : Assertion Block :=
  (lift (y = x.value y.name y.interfaces)).sep
    ((TextAt x.name y.name).sep (ArrayAt interfaceArray InterfaceAt x.interfaces x.interfaceCount y.interfaces))

/-- A device owns its strings and its configurations. -/
def DeviceAt (x : UsbDevice) (y : Capi.UsbDevice) : Assertion Block :=
  (lift (y = x.value y.name y.manufacturerName y.productName y.version y.configs)).sep
    ((TextAt x.name y.name).sep ((TextAt x.manufacturerName y.manufacturerName).sep
      ((TextAt x.productName y.productName).sep ((TextAt x.version y.version).sep
        (ArrayAt configArray ConfigAt x.configs x.configCount y.configs)))))

/-! ### What a caller reads -/

/-- A null pointer cannot be read. -/
def readText : Text → Program Block String
  | .null => wrong
  | .emptyString => pure ""
  | .block p => do
    match ← fetch p with
    | .text text => pure text
    | _ => wrong

/-- No element is read of a null array. -/
def readArray {α β : Type} (v : View Block α) (one : α → Program Block β) (p : Nat) (count : UInt32) :
    Program Block (List β) :=
  if p = 0 then pure [] else v.collect one p 0 count.toNat

def readInterface (x : UsbInterface) : Program Block Capi.UsbInterface := do
  let name ← readText x.name
  let endpoints ← readArray endpointArray pure x.endpoints x.endpointCount
  pure (x.value name endpoints)

def readConfig (x : UsbConfig) : Program Block Capi.UsbConfig := do
  let name ← readText x.name
  let interfaces ← readArray interfaceArray readInterface x.interfaces x.interfaceCount
  pure (x.value name interfaces)

def readDevice (x : UsbDevice) : Program Block Capi.UsbDevice := do
  let name ← readText x.name
  let manufacturerName ← readText x.manufacturerName
  let productName ← readText x.productName
  let version ← readText x.version
  let configs ← readArray configArray readConfig x.configs x.configCount
  pure (x.value name manufacturerName productName version configs)

def readDevices : Nat → UInt32 → Program Block (List Capi.UsbDevice) := readArray deviceArray readDevice

/-- What a caller finds: the code, and the list and the count if it has given both variables. -/
def readReturned : Result → Program Block (ErrorCode × List Capi.UsbDevice × UInt32)
  | (code, some devices, some deviceCount) => do
    let list ← readDevices devices deviceCount
    pure (code, list, deviceCount)
  | (code, _) => pure (code, [], 0)

section Reads

variable {R : Prop}

theorem readText_reads : ∀ (t : Text) (text : String), Reads R (TextAt t text) (readText t) text
  | .null, _ => fun _ _ _ _ here => here.1.elim
  | .emptyString, _ => Triple.pure fun _ here => lift_sep.2 ⟨here.1.symm, here⟩
  | .block _, _ => Triple.bind .fetch fun _ => .of_lift fun same => by
    rw [same]
    exact .pure fun _ here => lift_sep.2 ⟨rfl, here⟩

/-- An array is read element by element, if its elements are. -/
theorem readArray_reads {α β : Type} {v : View Block α} {E : α → β → Assertion Block} {one : α → Program Block β}
    (element : ∀ x y, Reads R (E x y) (one x) y) (p : Nat) (count : UInt32) (ys : List β) :
    Reads R (ArrayAt v E p count ys) (readArray v one p count) ys := by
  refine Triple.of_either ?_ (.of_ex fun xs => .of_lift fun sized => .of_fact
    (fun f ⟨_, _, _, _, there, _⟩ => there.1) fun notNull => ?_)
  · rintro f rest n r here apart -
    obtain ⟨rfl, rfl, rfl⟩ := here.1
    exact ⟨[], f, n, r, rfl, lift_sep.2 ⟨rfl, .inl here⟩, apart⟩
  · rw [readArray, if_neg notNull, ← sized]
    refine (v.collect_triple element xs [] ys rfl).post fun ys' f here => ?_
    exact lift_sep.2 ((lift_sep.1 here).imp id fun here => .inr ⟨xs, lift_sep.2 ⟨sized, here⟩⟩)

theorem readEndpoint_reads (x y : UsbEndpoint) : Reads R (EndpointAt x y) (pure x) y :=
  Triple.pure fun _ here => lift_sep.2 ⟨here.1.symm, here⟩

theorem readInterface_reads (x : UsbInterface) (y : Capi.UsbInterface) :
    Reads R (InterfaceAt x y) (readInterface x) y := by
  refine .of_lift fun value => ?_
  have endpoints : Reads R (ArrayAt endpointArray EndpointAt x.endpoints x.endpointCount y.endpoints) _ y.endpoints :=
    readArray_reads readEndpoint_reads x.endpoints x.endpointCount y.endpoints
  have read : Reads R _ (readInterface x) (x.value y.name y.endpoints) :=
    (readText_reads x.name y.name).bind (endpoints.map _)
  rwa [← value] at read

theorem readConfig_reads (x : UsbConfig) (y : Capi.UsbConfig) : Reads R (ConfigAt x y) (readConfig x) y := by
  refine .of_lift fun value => ?_
  have interfaces : Reads R (ArrayAt interfaceArray InterfaceAt x.interfaces x.interfaceCount y.interfaces) _
      y.interfaces :=
    readArray_reads readInterface_reads x.interfaces x.interfaceCount y.interfaces
  have read : Reads R _ (readConfig x) (x.value y.name y.interfaces) :=
    (readText_reads x.name y.name).bind (interfaces.map _)
  rwa [← value] at read

theorem readDevice_reads (x : UsbDevice) (y : Capi.UsbDevice) : Reads R (DeviceAt x y) (readDevice x) y := by
  refine .of_lift fun value => ?_
  have configs : Reads R (ArrayAt configArray ConfigAt x.configs x.configCount y.configs) _ y.configs :=
    readArray_reads readConfig_reads x.configs x.configCount y.configs
  have read : Reads R _ (readDevice x) (x.value y.name y.manufacturerName y.productName y.version y.configs) :=
    (readText_reads x.name y.name).bind ((readText_reads x.manufacturerName y.manufacturerName).bind
      ((readText_reads x.productName y.productName).bind ((readText_reads x.version y.version).bind (configs.map _))))
  rwa [← value] at read

theorem readDevices_reads (p : Nat) (count : UInt32) (ys : List Capi.UsbDevice) :
    Reads R (ArrayAt deviceArray DeviceAt p count ys) (readDevices p count) ys :=
  readArray_reads readDevice_reads p count ys

end Reads

/-! ### Release -/

section Release

variable {R : Prop}

/-- A release of a string ends what it owns. -/
theorem freeText_triple : ∀ (t : Text) (text : String), Triple R (TextAt t text) (freeText t) fun _ => emp
  | .null, _ => fun _ _ _ _ here => here.1.elim
  | .emptyString, _ => .pure fun _ here => here.2
  | .block _, _ => .free

section Arrays

variable {α β : Type} {v : View Block α} {E : α → β → Assertion Block} {drop : α → Program Block PUnit}
  {done rest : List α} {ys : List β} {p : Nat} {count : UInt32}

/-- A release of the first elements, of an array that is there. -/
theorem release_first (one : ∀ x y, Triple R (E x y) (drop x) fun _ => emp) (counts : done.length = count.toNat) :
    Triple R ((v.at_ p (done ++ rest)).sep (each E done ys))
      (if p = 0 then pure () else v.release drop p count.toNat) fun _ => emp := by
  intro f outside n r part
  have notNull : p ≠ 0 := by
    obtain ⟨_, _, _, _, ⟨notNull, -⟩, -⟩ := part
    exact notNull
  rw [if_neg notNull, ← counts]
  exact v.release_triple one f outside n r part

/-- An array that a structure owns is released with all that its elements own, if each element is. -/
theorem release_all (one : ∀ x y, Triple R (E x y) (drop x) fun _ => emp) :
    Triple R (ArrayAt v E p count ys) (if p = 0 then pure () else v.release drop p count.toNat) fun _ => emp := by
  refine .of_either ?_ (.of_ex fun xs => .of_lift fun sized => ?_)
  · rintro f outside n r ⟨⟨rfl, -, -⟩, rfl⟩ apart -
    exact ⟨(), Fragment.empty, n, r, rfl, rfl, apart⟩
  · have released : Triple R ((v.at_ p (xs ++ [])).sep (each E xs ys)) _ fun _ => emp := release_first one sized
    rwa [List.append_nil] at released

end Arrays

theorem freeEndpoints_triple (p : Nat) (count : UInt32) (ys : List UsbEndpoint) :
    Triple R (ArrayAt endpointArray EndpointAt p count ys) (free p) fun _ => emp := by
  refine .of_either ?_ (.of_ex fun xs => .of_lift fun _ => ?_)
  · rintro f rest n r ⟨⟨rfl, -, -⟩, rfl⟩
    exact Triple.free_null _ rest n r rfl
  · refine (Triple.free.frame (each EndpointAt xs ys)).post fun _ f here => ?_
    rw [emp_sep] at here
    exact (each_lift.1 here).2

/-- The body of the loop of `FreeInterfaces`. -/
theorem interface_triple (x : UsbInterface) (y : Capi.UsbInterface) :
    Triple R (InterfaceAt x y) (do freeText x.name; free x.endpoints) fun _ => emp :=
  .of_lift fun _ => .chain (freeText_triple _ _) fun _ => freeEndpoints_triple _ _ _

theorem freeInterfaces_triple (p : Nat) (count : UInt32) (ys : List Capi.UsbInterface) :
    Triple R (ArrayAt interfaceArray InterfaceAt p count ys) (freeInterfaces p count) fun _ => emp :=
  release_all interface_triple

/-- The body of the loop of `FreeConfigsArray`. -/
theorem config_triple (x : UsbConfig) (y : Capi.UsbConfig) :
    Triple R (ConfigAt x y) (do freeText x.name; freeInterfaces x.interfaces x.interfaceCount) fun _ => emp :=
  .of_lift fun _ => .chain (freeText_triple _ _) fun _ => freeInterfaces_triple _ _ _

theorem freeConfigsArray_triple (p : Nat) (count : UInt32) (ys : List Capi.UsbConfig) :
    Triple R (ArrayAt configArray ConfigAt p count ys) (freeConfigsArray p count) fun _ => emp :=
  release_all config_triple

/-- The body of the loop of `OH_UsbManager_FreeUsbDeviceList`. -/
theorem device_triple (x : UsbDevice) (y : Capi.UsbDevice) :
    Triple R (DeviceAt x y) (do
      freeText x.name
      freeText x.manufacturerName
      freeText x.productName
      freeText x.version
      freeConfigsArray x.configs x.configCount) fun _ => emp :=
  .of_lift fun _ => .chain (freeText_triple _ _) fun _ => .chain (freeText_triple _ _) fun _ =>
    .chain (freeText_triple _ _) fun _ => .chain (freeText_triple _ _) fun _ => freeConfigsArray_triple _ _ _

/-- An array that is there is only released if it has an element. -/
theorem freeUsbDeviceList_triple {p : Nat} {count : UInt32} {ys : List Capi.UsbDevice} (some : count = 0 → p = 0) :
    Triple R (ArrayAt deviceArray DeviceAt p count ys) (freeUsbDeviceList p count) fun _ => emp := by
  unfold freeUsbDeviceList
  simp only [or_iff_left_of_imp some]
  exact release_all device_triple

end Release

end UsbManager.Capi.Raw
