import Mathlib.Algebra.Ring.Int.Defs
import UsbManager.Device.Parser
import UsbManager.Policy.ActiveConfig
import UsbManager.Policy.PermissiveOutcome
import UsbManager.Policy.TypeOutcome

/-!
# Open devices

The driver has one handle for each device, which a client may hold open. Operations that open a device for
themselves have to close it again, and only then. Most of them give up a device that they cannot open; two loops
do not look at the answer, and close what they have not opened.
-/

namespace UsbManager.Policy

open Host

/-! ## GetDeviceInfo -/

/-- What the driver writes when it is asked for descriptors; a string is given as the text that it holds. -/
structure Descriptors where
  raw : Calls → UInt8 → UInt8 → List UInt8
  text : Calls → UInt8 → UInt8 → UInt8 → String

section Info

variable (env : Env) (descriptors : Descriptors)

def getRawDescriptor (busNum devAddr : UInt8) : Manager (UsbErrCode × List UInt8) := do
  let s ← get
  let ret ← callUsbd env (.getRawDescriptor busNum devAddr)
  pure (ret, if env.usbd then descriptors.raw s.calls busNum devAddr else [])

/-- Index 0 is no string. -/
def getDevStringValFromIdx (busNum devAddr idx : UInt8) : Manager String := do
  if idx = 0 then pure " "
  else do
    let s ← get
    let ret ← callUsbd env (.getStringDescriptor busNum devAddr idx)
    pure (if ret ≠ .uecOk then " " else descriptors.text s.calls busNum devAddr idx)

def hexDigit (n : Nat) : Char := if n < 10 then .ofNat ('0'.toNat + n) else .ofNat ('A'.toNat + (n - 10))

/-- Four digits, upper case. -/
def bcdToString (bcdUsb : UInt16) : String :=
  .ofList ([12, 8, 4, 0].map fun shift => hexDigit (bcdUsb.toNat >>> shift % 16))

def fillInterfaces (busNum devAddr : UInt8) : List UsbInterface → Manager (List UsbInterface)
  | [] => pure []
  | i :: rest => do
    let name ← getDevStringValFromIdx env descriptors busNum devAddr i.iInterface
    let rest ← fillInterfaces busNum devAddr rest
    pure ({ i with name } :: rest)

def fillConfigs (busNum devAddr : UInt8) : List USBConfig → Manager (List USBConfig)
  | [] => pure []
  | c :: rest => do
    let name ← getDevStringValFromIdx env descriptors busNum devAddr c.iConfiguration
    let interfaces ← fillInterfaces env descriptors busNum devAddr c.interfaces
    let rest ← fillConfigs busNum devAddr rest
    pure ({ c with name, interfaces } :: rest)

def fillDevStrings (dev : UsbDevice) : Manager (UsbErrCode × UsbDevice) := do
  let manufacturerName ← getDevStringValFromIdx env descriptors dev.busNum dev.devAddr dev.iManufacturer
  let productName ← getDevStringValFromIdx env descriptors dev.busNum dev.devAddr dev.iProduct
  let serial ← getDevStringValFromIdx env descriptors dev.busNum dev.devAddr dev.iSerialNumber
  let configs ← fillConfigs env descriptors dev.busNum dev.devAddr dev.configs
  pure (.uecOk, { dev with version := bcdToString dev.bcdUSB, manufacturerName, productName, serial, configs })

def getDeviceInfoDescriptor (busNum devAddr : UInt8) (dev : UsbDevice) :
    Manager (UsbErrCode × List UInt8 × UsbDevice) := do
  let (ret, descriptor) ← getRawDescriptor env descriptors busNum devAddr
  if ret ≠ .uecOk then pure (ret, descriptor, dev)
  else
    let length : UInt32 := .ofNat descriptor.length
    if descriptor = [] ∨ length = 0 then pure (.uecServiceInvalidValue, descriptor, dev)
    else
      let (ret, dev) := parseDeviceDescriptor descriptor length
        { dev with busNum, devAddr, name := deviceName busNum devAddr }
      pure (ret, descriptor, dev)

def cursorInit : UInt32 := 18

def getConfigDescriptor (dev : UsbDevice) (descriptor : List UInt8) : Manager (UsbErrCode × UsbDevice) := do
  let (ret, configs) := parseConfigDescriptors descriptor cursorInit []
  if ret ≠ .uecOk then pure (ret, dev)
  else fillDevStrings env descriptors { dev with configs }

def getDeviceInfo (busNum devAddr : UInt8) (dev : UsbDevice) : Manager (UsbErrCode × UsbDevice) := do
  let ret ← openDevice env busNum devAddr
  if ret ≠ .uecOk then pure (ret, dev)
  else do
    let (ret, descriptor, dev) ← getDeviceInfoDescriptor env descriptors busNum devAddr dev
    if ret ≠ .uecOk then do
      let res ← close env busNum devAddr
      pure (if res ≠ .uecOk then res else ret, dev)
    else do
      let (res, dev) ← getConfigDescriptor env descriptors dev descriptor
      let ret ← close env busNum devAddr
      pure (if ret ≠ .uecOk then ret else res, dev)

end Info

/-! ## Opening and closing -/

def closed (busNum devAddr : UInt8) (calls : Calls) : Nat :=
  calls.countP fun entry => entry.1 = .closeDevice busNum devAddr

/-- The calls of `OpenDevice` with answers of a kind. -/
def opens (kind : UsbErrCode → Bool) (busNum devAddr : UInt8) (calls : Calls) : Nat :=
  calls.countP fun entry => entry.1 = .openDevice busNum devAddr && kind entry.2

def opened (busNum devAddr : UInt8) (calls : Calls) : Nat := opens (· = .uecOk) busNum devAddr calls

/-- The run closes every device just as often as it opens it. -/
def Balanced {α : Type} (m : Manager α) (s : State) : Prop :=
  ∃ more, (m s).2.calls = more ++ s.calls ∧ ∀ busNum devAddr, closed busNum devAddr more = opened busNum devAddr more

/-- Every device that the run tries to open is opened. -/
def AllOpen {α : Type} (m : Manager α) (s : State) : Prop :=
  ∀ more, (m s).2.calls = more ++ s.calls →
    ∀ entry ∈ more, ∀ busNum devAddr, entry.1 = .openDevice busNum devAddr → entry.2 = .uecOk

/-- How often the device is closed more than it is opened. -/
def excess (kind : UsbErrCode → Bool) (busNum devAddr : UInt8) (calls : Calls) : Int :=
  (closed busNum devAddr calls : Int) - opens kind busNum devAddr calls

def Surplus (kind : UsbErrCode → Bool) (busNum devAddr : UInt8) (c : Int) (s : State) : Prop :=
  excess kind busNum devAddr s.calls = c

/-! ### The calls of a reading -/

section Reading

variable {env : Env} {Q : Calls → Prop} {may : HdiCall → Prop}
  (logs : ∀ calls (call : HdiCall) ret, may call → Q calls → Q ((call, ret) :: calls)) {b a : UInt8}

include logs

section Strings

variable (string : ∀ idx, may (.getStringDescriptor b a idx)) (descriptors : Descriptors)

include string

theorem logged_getDevStringValFromIdx (idx : UInt8) :
    Keeps (fun s => Q s.calls) (getDevStringValFromIdx env descriptors b a idx) :=
  .ite (fun _ => .pure _) fun _ => .get fun _ _ => .bind (logged_callUsbd logs (string idx)) fun _ => .pure _

theorem logged_fillInterfaces (interfaces : List UsbInterface) :
    Keeps (fun s => Q s.calls) (fillInterfaces env descriptors b a interfaces) := by
  induction interfaces with
  | nil => exact .pure _
  | cons i rest ih =>
    exact .bind (logged_getDevStringValFromIdx logs string descriptors _) fun _ => .bind ih fun _ => .pure _

theorem logged_fillConfigs (configs : List USBConfig) :
    Keeps (fun s => Q s.calls) (fillConfigs env descriptors b a configs) := by
  induction configs with
  | nil => exact .pure _
  | cons i rest ih =>
    exact .bind (logged_getDevStringValFromIdx logs string descriptors _) fun _ =>
      .bind (logged_fillInterfaces logs string descriptors _) fun _ => .bind ih fun _ => .pure _

end Strings

theorem logged_getConfigDescriptor (descriptors : Descriptors) (dev : UsbDevice) (descriptor : List UInt8)
    (string : ∀ idx, may (.getStringDescriptor dev.busNum dev.devAddr idx)) :
    Keeps (fun s => Q s.calls) (getConfigDescriptor env descriptors dev descriptor) := by
  unfold getConfigDescriptor
  dsimp only
  refine .ite (fun _ => .pure _) fun _ => ?_
  have text (idx : UInt8) : Keeps (fun s => Q s.calls)
      (getDevStringValFromIdx env descriptors dev.busNum dev.devAddr idx) :=
    logged_getDevStringValFromIdx logs string descriptors idx
  exact .bind (text _) fun _ => .bind (text _) fun _ => .bind (text _) fun _ =>
    .bind (logged_fillConfigs logs string descriptors _) fun _ => .pure _

theorem logged_getDeviceInfoDescriptor (raw : may (.getRawDescriptor b a)) (descriptors : Descriptors)
    (dev : UsbDevice) : Keeps (fun s => Q s.calls) (getDeviceInfoDescriptor env descriptors b a dev) := by
  have read : Keeps (fun s => Q s.calls) (getRawDescriptor env descriptors b a) :=
    .get fun _ _ => .bind (logged_callUsbd logs raw) fun _ => .pure _
  refine .bind read fun _ => ?_
  dsimp only
  exact .ite (fun _ => .pure _) fun _ => .ite (fun _ => .pure _) fun _ => .pure _

end Reading

/-- A device whose descriptor is read keeps its address. -/
theorem placed_parseDeviceDescriptor (buffer : List UInt8) (length : UInt32) (dev : UsbDevice) :
    (parseDeviceDescriptor buffer length dev).2.busNum = dev.busNum ∧
      (parseDeviceDescriptor buffer length dev).2.devAddr = dev.devAddr := by
  unfold parseDeviceDescriptor
  dsimp only
  split_ifs <;> exact ⟨rfl, rfl⟩

/-- A device that has been read is the one at the address. -/
def ReadAt (b a : UInt8) (read : UsbErrCode × List UInt8 × UsbDevice) : Prop :=
  read.1 = .uecOk → read.2.2.busNum = b ∧ read.2.2.devAddr = a

theorem readAt_getDeviceInfoDescriptor (env : Env) (descriptors : Descriptors) (b a : UInt8) (dev : UsbDevice)
    (s : State) : ReadAt b a (getDeviceInfoDescriptor env descriptors b a dev s).1 := by
  rw [getDeviceInfoDescriptor, stateM_bind]
  dsimp only
  split_ifs with failed none
  · exact fun ok => absurd ok failed
  · exact nofun
  · exact fun _ => placed_parseDeviceDescriptor _ _ _

/-- The calls of `GetDeviceInfo` are for the device that it is given. -/
theorem logged_getDeviceInfo {env : Env} {Q : Calls → Prop} {may : HdiCall → Prop}
    (logs : ∀ calls (call : HdiCall) ret, may call → Q calls → Q ((call, ret) :: calls)) {b a : UInt8}
    (opens : may (.openDevice b a)) (raw : may (.getRawDescriptor b a))
    (string : ∀ idx, may (.getStringDescriptor b a idx)) (closes : may (.closeDevice b a)) (descriptors : Descriptors)
    (dev : UsbDevice) : Keeps (fun s => Q s.calls) (getDeviceInfo env descriptors b a dev) := by
  have closed : Keeps (fun s => Q s.calls) (close env b a) := logged_callUsbd logs closes
  refine .bind (logged_callUsbd logs opens) fun _ => .ite (fun _ => .pure _) fun _ => ?_
  refine .bind_of (logged_getDeviceInfoDescriptor logs raw descriptors dev)
    (readAt_getDeviceInfoDescriptor env descriptors b a dev) fun ⟨ret, descriptor, dev⟩ placed => ?_
  refine .ite (fun _ => .bind closed fun _ => .pure _) fun ok => ?_
  obtain ⟨rfl, rfl⟩ := placed (not_not.1 ok)
  exact .bind (logged_getConfigDescriptor logs descriptors dev descriptor string) fun _ =>
    .bind closed fun _ => .pure _

section Steps

variable {env : Env} {kind : UsbErrCode → Bool} {busNum devAddr : UInt8} {c : Int}

theorem excess_cons (calls : Calls) (call : HdiCall) (ret : UsbErrCode) :
    excess kind busNum devAddr ((call, ret) :: calls) =
      excess kind busNum devAddr calls + ((if call = .closeDevice busNum devAddr then 1 else 0) -
        if call = .openDevice busNum devAddr ∧ kind ret = true then 1 else 0) := by
  simp only [excess, closed, opens, List.countP_cons, decide_eq_true_eq, Bool.and_eq_true]
  split_ifs <;> omega

theorem excess_plain (calls : Calls) (call : HdiCall) (ret : UsbErrCode) (plain : call.Plain)
    (here : excess kind busNum devAddr calls = c) : excess kind busNum devAddr ((call, ret) :: calls) = c := by
  rw [excess_cons, here]
  cases call <;> first | exact plain.elim | simp

/-! ### A device that is opened and closed -/

/-- One more, if the driver is there and this is the device. -/
def one (env : Env) (busNum devAddr b a : UInt8) : Int :=
  if env.usbd = true ∧ b = busNum ∧ a = devAddr then 1 else 0

theorem surplus_close (b a : UInt8) :
    Carries (Surplus kind busNum devAddr (c - one env busNum devAddr b a)) (Surplus kind busNum devAddr c)
      (close env b a) := by
  intro s here
  rw [close, callUsbd]
  by_cases usbd : env.usbd = true
  · rw [if_pos usbd, callHdi, Surplus, excess_cons, here]
    simp [one, usbd]
  · rw [if_neg usbd]
    rwa [one, if_neg fun both => usbd both.1, Int.sub_zero] at here

/-- A device is counted whether it is opened or not. -/
theorem surplus_openAnyway (b a : UInt8) :
    Carries (Surplus (fun _ => true) busNum devAddr c)
      (Surplus (fun _ => true) busNum devAddr (c - one env busNum devAddr b a)) (openDevice env b a) := by
  intro s here
  rw [openDevice, callUsbd]
  by_cases usbd : env.usbd = true
  · rw [if_pos usbd, callHdi, Surplus, excess_cons, here]
    simp [one, usbd]
    omega
  · rw [if_neg usbd, one, if_neg fun both => usbd both.1, Int.sub_zero]
    exact here

/-- A device that cannot be opened is given up, and one that is opened is closed. -/
theorem surplus_openDevice {β : Type} {x : UsbErrCode → β} {body : Manager β} {b a : UInt8}
    (closes : Carries (Surplus (· = .uecOk) busNum devAddr (c - one env busNum devAddr b a))
      (Surplus (· = .uecOk) busNum devAddr c) body) :
    Keeps (Surplus (· = .uecOk) busNum devAddr c)
      (openDevice env b a >>= fun ret => if ret ≠ .uecOk then pure (x ret) else body) := by
  intro s here
  rw [stateM_bind, openDevice, callUsbd]
  by_cases usbd : env.usbd = true
  · rw [if_pos usbd, callHdi]
    by_cases ok : env.answer s.calls (.openDevice b a) = .uecOk
    · rw [if_neg (not_not.2 ok)]
      apply closes
      rw [Surplus, excess_cons, here]
      simp [one, usbd, ok]
      omega
    · rw [if_pos ok]
      refine (excess_cons ..).trans ?_
      rw [here]
      simp [ok]
  · rw [if_neg usbd]
    exact here

/-! ### The operations that look at the answer -/

theorem surplus_getDeviceInfo (descriptors : Descriptors) (b a : UInt8) (dev : UsbDevice) :
    Keeps (Surplus (· = .uecOk) busNum devAddr c) (getDeviceInfo env descriptors b a dev) := by
  refine surplus_openDevice (.after (logged_getDeviceInfoDescriptor excess_plain trivial _ _) fun _ => ?_)
  refine .ite (fun _ => .before (surplus_close _ _) fun _ => .pure _) fun _ => ?_
  exact .after (logged_getConfigDescriptor excess_plain _ _ _ fun _ => trivial) fun _ =>
    .before (surplus_close _ _) fun _ => .pure _

theorem surplus_manageGlobalInterface (disable : Bool) :
    Keeps (Surplus (· = .uecOk) busNum devAddr c) (manageGlobalInterfaceImpl env disable) := by
  refine .bind (.get fun _ _ => .forM fun object _ => .get fun s _ => ?_) fun _ => .pure _
  refine .ite (fun _ => .pure _) fun _ => ?_
  refine .bind (.discard (plain_usbDeviceAuthorize excess_plain _ _ _)) fun _ => .ite (fun _ => .pure _) fun _ => ?_
  refine surplus_openDevice (.after (plain_getActiveConfig excess_plain _ _) fun _ => ?_)
  refine .ite (fun _ => .discard (surplus_close _ _)) fun _ => ?_
  exact .after (plain_authorizeActiveConfig excess_plain _ _ _) fun _ => .discard (surplus_close _ _)

theorem surplus_manageDevices (vendorId productId : Int) (disable : Bool) (objects : List Nat) :
    Keeps (Surplus (· = .uecOk) busNum devAddr c) (manageDevices env vendorId productId disable objects) := by
  induction objects with
  | nil => exact .pure _
  | cons object objects ih =>
    refine .get fun s _ => .ite (fun _ => ih) fun _ => .ite (fun _ => ?_) fun _ => ih
    refine surplus_openDevice (.after (.discard (plain_usbDeviceAuthorize excess_plain _ _ _)) fun _ => ?_)
    exact .before (.discard (surplus_close _ _)) fun _ => ih

theorem surplus_executeManageDevicePolicy (trustList : List UsbDeviceId) :
    Keeps (Surplus (· = .uecOk) busNum devAddr c) (executeManageDevicePolicy env trustList) := by
  refine .get fun _ _ => .bind (.foldlM (fun _ object _ => .get fun s _ => .get fun _ _ => ?_) _) fun _ => .pure _
  exact surplus_manageDevices _ _ _ _

theorem surplus_executeManageDeviceTypeIn (order : List Nat) (disableType : List UsbDeviceType) (disable : Bool)
    (map : List TypeRow) (isDev : Bool) :
    Keeps (Surplus (· = .uecOk) busNum devAddr c)
      (executeManageDeviceTypeIn env order disableType disable map isDev) := by
  refine .forM fun row _ => .forM fun object _ => ?_
  cases isDev with
  | true =>
    refine .get fun s _ => .ite (fun _ => .pure _) fun _ => .ite (fun _ => ?_) fun _ => .pure _
    refine surplus_openDevice (.after (.discard (plain_usbDeviceAuthorize excess_plain _ _ _)) fun _ => ?_)
    exact .discard (surplus_close _ _)
  | false =>
    refine .get fun s _ => .ite (fun _ => .pure _) fun _ => .bind (plain_getActiveConfig excess_plain _ _) fun _ => ?_
    exact .ite (fun _ => .pure _) fun _ => plain_authorizeActiveConfig excess_plain _ _ _

/-! ### The loops that do not -/

/-- A loop over devices that stay where they are. -/
def placedSum (env : Env) (s₀ : State) (busNum devAddr : UInt8) (order : List Nat) : Int :=
  (order.map fun o => one env busNum devAddr (s₀.device o).busNum (s₀.device o).devAddr).sum

theorem placedSum_cons (s₀ : State) (o : Nat) (order : List Nat) :
    placedSum env s₀ busNum devAddr (o :: order) =
      one env busNum devAddr (s₀.device o).busNum (s₀.device o).devAddr + placedSum env s₀ busNum devAddr order :=
  List.sum_cons

theorem surplus_openAll (s₀ : State) (order : List Nat) :
    Carries (fun s => Guarded s₀ (fun _ => False) s ∧ Surplus (fun _ => true) busNum devAddr c s)
      (Surplus (fun _ => true) busNum devAddr (c - placedSum env s₀ busNum devAddr order)) (openAll env order) := by
  induction order generalizing c with
  | nil =>
    rintro s ⟨-, here⟩
    rw [placedSum, List.map_nil, List.sum_nil, Int.sub_zero]
    exact here
  | cons o order ih =>
    rintro s ⟨guarded, here⟩
    have opened := @surplus_openAnyway env _ _ _ (s.device o).busNum (s.device o).devAddr s here
    have guarded' := @guarded_callUsbd env _ _ (.openDevice (s.device o).busNum (s.device o).devAddr) s guarded
    have later := ih _ ⟨guarded', opened⟩
    have static := guarded.static o
    have busNum' : (s.device o).busNum = (s₀.device o).busNum := by rw [static]
    have devAddr' : (s.device o).devAddr = (s₀.device o).devAddr := by rw [static]
    rw [placedSum_cons, ← Int.sub_sub, ← busNum', ← devAddr']
    exact later

theorem surplus_closeAll (s₀ : State) (order : List Nat) :
    Carries (fun s => Guarded s₀ (fun _ => False) s ∧
        Surplus kind busNum devAddr (c - placedSum env s₀ busNum devAddr order) s)
      (Surplus kind busNum devAddr c) (closeAll env order) := by
  induction order with
  | nil =>
    rintro s ⟨-, here⟩
    rw [placedSum, List.map_nil, List.sum_nil, Int.sub_zero] at here
    exact here
  | cons o order ih =>
    rintro s ⟨guarded, here⟩
    have static := guarded.static o
    have busNum' : (s.device o).busNum = (s₀.device o).busNum := by rw [static]
    have devAddr' : (s.device o).devAddr = (s₀.device o).devAddr := by rw [static]
    rw [placedSum_cons, ← busNum', ← devAddr', Int.add_comm, ← Int.sub_sub] at here
    have closed := @surplus_close env _ _ _ _ (s.device o).busNum (s.device o).devAddr s here
    have guarded' := @guarded_callUsbd env _ _ (.closeDevice (s.device o).busNum (s.device o).devAddr) s guarded
    exact ih _ ⟨guarded', closed⟩

theorem surplus_manageUsbTypeDevice (types : List UsbDeviceType) (disable : Bool) (object : Nat) :
    Keeps (Surplus kind busNum devAddr c) (manageUsbTypeDevice env types disable object) :=
  .get fun _ _ => .ite (fun _ => .pure _) fun _ =>
    .ite (fun _ => .discard (plain_usbDeviceAuthorize excess_plain _ _ _))
      fun _ => .discard (plain_usbDeviceAuthorize excess_plain _ _ _)

theorem surplus_manageUsbTypeInterface (types : List UsbDeviceType) (disable : Bool) (object : Nat) :
    Keeps (Surplus (fun _ => true) busNum devAddr c) (manageUsbTypeInterface env types disable object) := by
  refine .get fun s _ => .ite (fun _ => .pure _) fun _ => Carries.back (.discard (surplus_openAnyway _ _)) fun _ => ?_
  refine .after (plain_getActiveConfig excess_plain _ _) fun _ => ?_
  refine .ite (fun _ => .discard (surplus_close _ _)) fun _ => ?_
  exact .after (plain_authorizeActiveConfig excess_plain _ _ _) fun _ => .discard (surplus_close _ _)

end Steps

/-! ## Balance -/

/-- The operations that open devices for themselves. -/
inductive OpeningOperation where
  | getDeviceInfo (descriptors : Descriptors) (busNum devAddr : UInt8) (dev : UsbDevice)
  | manageDevice (vendorId productId : Int) (disable : Bool)
  | manageDevicePolicy (trustList : List UsbDeviceId)
  | manageGlobalInterface (disable : Bool)
  | manageInterfaceType (disableType : List UsbDeviceType) (disable : Bool)
  | manageUsbType (disableType : List UsbDeviceType) (disable : Bool)

def OpeningOperation.run (env : Env) : OpeningOperation → Manager Unit
  | .getDeviceInfo descriptors busNum devAddr dev => discard (Policy.getDeviceInfo env descriptors busNum devAddr dev)
  | .manageDevice vendorId productId disable => discard (manageDeviceImpl env vendorId productId disable)
  | .manageDevicePolicy trustList => discard (executeManageDevicePolicy env trustList)
  | .manageGlobalInterface disable => discard (manageGlobalInterfaceImpl env disable)
  | .manageInterfaceType disableType disable => discard (executeManageInterfaceType env disableType disable)
  | .manageUsbType disableType disable => executeManageUsbType env disableType disable

/-- The loops that do not look at the answer open every device that they try. -/
def OpeningOperation.NoneRefused (env : Env) (s : State) : OpeningOperation → Prop
  | .manageInterfaceType .. => AllOpen (openAll env s.objects) s
  | .manageUsbType disableType disable =>
    AllOpen (manageUsbTypeInterfaceImpl env (interfaceTypes disableType) disable)
      (forDevices (manageUsbTypeDevice env (deviceTypes disableType) disable) s).2
  | _ => True

/-- The log grows. -/
structure Grown (s₀ s : State) : Prop where
  guarded : Guarded s₀ (fun _ => False) s
  log : s₀.calls <:+ s.calls

theorem Grown.refl (s : State) : Grown s s :=
  ⟨⟨rfl, rfl, rfl, fun _ => rfl, fun _ none => none.elim⟩, List.suffix_rfl⟩

section Balance

variable {env : Env} {s₀ : State}

theorem grown_kept (env : Env) (s₀ : State) : KeptBySteps env (Grown s₀) s₀.objects fun _ _ _ => True where
  objects_eq s grown := by rw [State.objects, grown.guarded.devices, State.objects]
  may_disable _ _ := trivial
  callUsbd call _ s grown := ⟨guarded_callUsbd call s grown.guarded, suffix_callUsbd call s grown.log⟩
  usbDeviceAuthorize b a authorized _ s grown :=
    ⟨guarded_usbDeviceAuthorize (fun _ _ _ => id) s grown.guarded,
      plain_usbDeviceAuthorize (fun calls call ret _ => suffix_logged calls call ret) b a authorized s grown.log⟩
  authorizeActiveConfig object _ configIndex ask _ s grown :=
    ⟨guarded_authorizeActiveConfig object configIndex ask s grown.guarded,
      plain_authorizeActiveConfig (fun calls call ret _ => suffix_logged calls call ret) object configIndex ask s
        grown.log⟩

theorem OpeningOperation.suffix (operation : OpeningOperation) (s : State) :
    s.calls <:+ (operation.run env s).2.calls := by
  have kept := grown_kept env s
  have free : Free env (Grown s) s.objects fun _ _ _ => True := fun _ _ _ _ _ _ => trivial
  have grown : ∀ {m : Manager Unit}, Keeps (Grown s) m → s.calls <:+ (m s).2.calls := fun keeps =>
    (keeps s (.refl s)).log
  cases operation with
  | getDeviceInfo descriptors b a dev =>
    have logs : ∀ calls (call : HdiCall) ret, True → s.calls <:+ calls → s.calls <:+ (call, ret) :: calls :=
      fun calls call ret _ => suffix_logged calls call ret
    exact logged_getDeviceInfo logs trivial trivial (fun _ => trivial) trivial descriptors dev s List.suffix_rfl
  | manageDevice vendorId productId disable =>
    exact grown (.discard (kept.manageDeviceImpl fun _ _ _ _ _ _ => trivial))
  | manageDevicePolicy trustList =>
    exact grown (.discard (kept.executeManageDevicePolicy fun _ _ _ _ _ _ => trivial))
  | manageGlobalInterface disable => exact grown (.discard (kept.manageGlobalInterfaceImpl free disable))
  | manageInterfaceType disableType disable =>
    exact grown (.discard (kept.executeManageInterfaceType free disableType disable))
  | manageUsbType disableType disable => exact grown (kept.executeManageUsbType free disableType disable)

/-! ### Counting -/

section Counting

variable {busNum devAddr : UInt8}

theorem excess_append (kind : UsbErrCode → Bool) (more calls : Calls) :
    excess kind busNum devAddr (more ++ calls) =
      excess kind busNum devAddr more + excess kind busNum devAddr calls := by
  simp only [excess, closed, opens, List.countP_append]
  omega

/-- A call is answered with success or not. -/
theorem excess_all (calls : Calls) :
    excess (· = .uecOk) busNum devAddr calls =
      excess (fun _ => true) busNum devAddr calls + opens (· ≠ .uecOk) busNum devAddr calls := by
  induction calls with
  | nil => rfl
  | cons entry calls ih =>
    obtain ⟨call, ret⟩ := entry
    rw [excess_cons, excess_cons, ih, opens, opens, List.countP_cons]
    by_cases ok : ret = .uecOk <;> by_cases here : call = .openDevice busNum devAddr <;> simp [ok, here] <;> omega

end Counting

variable {α β : Type} {m : Manager α} {loop : Manager β} {s s₁ : State}

theorem balanced_of_keeps (grows : s.calls <:+ (m s).2.calls)
    (kept : ∀ busNum devAddr c, Keeps (Surplus (· = .uecOk) busNum devAddr c) m) : Balanced m s := by
  obtain ⟨more, calls⟩ := grows
  refine ⟨more, calls.symm, fun busNum devAddr => ?_⟩
  have same := kept busNum devAddr _ s rfl
  rw [Surplus, ← calls, excess_append] at same
  simp only [excess, opened] at same ⊢
  omega

/-- What is closed too often is what a loop tried to open in vain. -/
theorem balanced_iff (grows : s.calls <:+ (m s).2.calls) (grows₁ : s₁.calls <:+ (loop s₁).2.calls)
    (surplus : ∀ busNum devAddr, excess (· = .uecOk) busNum devAddr (m s).2.calls =
      excess (· = .uecOk) busNum devAddr s.calls +
        (opens (· ≠ .uecOk) busNum devAddr (loop s₁).2.calls - opens (· ≠ .uecOk) busNum devAddr s₁.calls : Int)) :
    Balanced m s ↔ AllOpen loop s₁ := by
  obtain ⟨more, calls⟩ := grows
  obtain ⟨tried, calls₁⟩ := grows₁
  have counted : ∀ busNum devAddr, (closed busNum devAddr more : Int) - opened busNum devAddr more =
      opens (· ≠ .uecOk) busNum devAddr tried := by
    intro busNum devAddr
    have same := surplus busNum devAddr
    rw [← calls, ← calls₁, excess_append, opens, List.countP_append] at same
    simp only [excess, opened, opens] at same ⊢
    omega
  constructor
  · rintro ⟨more', calls', balanced⟩ tried' calls₁' entry member busNum devAddr call
    cases List.append_cancel_right (calls.trans calls')
    cases List.append_cancel_right (calls₁.trans calls₁')
    have none : opens (· ≠ .uecOk) busNum devAddr tried = 0 := by
      have same := counted busNum devAddr
      rw [balanced] at same
      omega
    have answered := List.countP_eq_zero.1 none entry member
    simpa [call] using answered
  · intro opens_all
    refine ⟨more, calls.symm, fun busNum devAddr => ?_⟩
    have none : opens (· ≠ .uecOk) busNum devAddr tried = 0 := by
      refine List.countP_eq_zero.2 fun entry member => ?_
      have answered := opens_all tried calls₁.symm entry member busNum devAddr
      simpa using answered
    have same := counted busNum devAddr
    omega

/-! ### The two policies -/

variable (env) (disableType : List UsbDeviceType) (disable : Bool) (s)

theorem balanced_manageInterfaceType :
    Balanced (OpeningOperation.run env (.manageInterfaceType disableType disable)) s ↔
      AllOpen (openAll env s.objects) s := by
  have kept := grown_kept env s
  have opened : Keeps (Grown s) (openAll env s.objects) :=
    .forM fun _ _ => .get fun _ _ => .discard (kept.openDevice _ _)
  refine balanced_iff (OpeningOperation.suffix _ s) (opened s (.refl s)).log fun busNum devAddr => ?_
  let s₁ : State := (openAll env s.objects s).2
  let s₂ : State := (executeManageDeviceTypeIn env s.objects disableType disable env.dRows true s₁).2
  let s₃ : State := (executeManageDeviceTypeIn env s.objects disableType disable env.gRows false s₂).2
  have run : (OpeningOperation.run env (.manageInterfaceType disableType disable) s).2 =
      (closeAll env s.objects s₃).2 := by
    change (executeManageInterfaceType env disableType disable s).2 = _
    rw [executeManageInterfaceType_eq]
    rfl
  have types : ∀ map isDev, Keeps (Guarded s fun _ => False)
      (executeManageDeviceTypeIn env s.objects disableType disable map isDev) := fun _ _ =>
    .forM fun row _ => guarded_forDevices env row _
  have guarded : Guarded s (fun _ => False) s₃ := types _ _ _ (types _ _ _ (opened s (.refl s)).guarded)
  have first : excess (fun _ => true) busNum devAddr s₁.calls =
      excess (fun _ => true) busNum devAddr s.calls - placedSum env s busNum devAddr s.objects :=
    surplus_openAll s s.objects s ⟨(Grown.refl s).guarded, rfl⟩
  have middle : Surplus (· = .uecOk) busNum devAddr (excess (· = .uecOk) busNum devAddr s₁.calls) s₃ :=
    surplus_executeManageDeviceTypeIn _ _ _ _ _ _ (surplus_executeManageDeviceTypeIn _ _ _ _ _ s₁ rfl)
  have last : excess (· = .uecOk) busNum devAddr (closeAll env s.objects s₃).2.calls =
      excess (· = .uecOk) busNum devAddr s₁.calls + placedSum env s busNum devAddr s.objects := by
    refine surplus_closeAll s s.objects s₃ ⟨guarded, ?_⟩
    rw [Int.add_sub_cancel]
    exact middle
  change excess _ _ _ _ = _ + ((opens _ _ _ s₁.calls : Int) - _)
  rw [run, last, excess_all s₁.calls, excess_all s.calls, first]
  omega

theorem balanced_manageUsbType :
    Balanced (OpeningOperation.run env (.manageUsbType disableType disable)) s ↔
      AllOpen (manageUsbTypeInterfaceImpl env (interfaceTypes disableType) disable)
        (forDevices (manageUsbTypeDevice env (deviceTypes disableType) disable) s).2 := by
  let s₁ : State := (forDevices (manageUsbTypeDevice env (deviceTypes disableType) disable) s).2
  let s₂ : State := (manageUsbTypeInterfaceImpl env (interfaceTypes disableType) disable s₁).2
  have kept := grown_kept env s₁
  have interfaces : Keeps (Grown s₁) (manageUsbTypeInterfaceImpl env (interfaceTypes disableType) disable) :=
    kept.forDevices fun object member => kept.manageUsbTypeInterface _ _ member
  refine balanced_iff (OpeningOperation.suffix _ s) (interfaces s₁ (.refl s₁)).log fun busNum devAddr => ?_
  have run : (OpeningOperation.run env (.manageUsbType disableType disable) s).2 = s₂ := rfl
  have devices : ∀ kind, excess kind busNum devAddr s₁.calls = excess kind busNum devAddr s.calls := fun kind =>
    Keeps.get (fun _ _ => .forM fun object _ => surplus_manageUsbTypeDevice _ _ object) s rfl
  have second : excess (fun _ => true) busNum devAddr s₂.calls = excess (fun _ => true) busNum devAddr s₁.calls :=
    Keeps.get (fun _ _ => .forM fun object _ => surplus_manageUsbTypeInterface _ _ object) s₁ rfl
  change excess _ _ _ _ = _ + ((opens _ _ _ s₂.calls : Int) - opens _ _ _ s₁.calls)
  rw [run, ← devices, excess_all s₂.calls, second, excess_all s₁.calls]
  omega

/-- An operation closes every device as often as it opened it, if and only if the loops that do not look at the answer
have opened every device that they tried. -/
theorem opening_balanced_iff (operation : OpeningOperation) :
    Balanced (operation.run env) s ↔ operation.NoneRefused env s := by
  have grows := @OpeningOperation.suffix env operation s
  cases operation with
  | getDeviceInfo descriptors b a dev =>
    exact iff_of_true (balanced_of_keeps grows fun _ _ _ => .discard (surplus_getDeviceInfo _ _ _ _)) trivial
  | manageDevice vendorId productId disable =>
    exact iff_of_true
      (balanced_of_keeps grows fun _ _ _ => .discard (.get fun _ _ => surplus_manageDevices _ _ _ _)) trivial
  | manageDevicePolicy trustList =>
    exact iff_of_true (balanced_of_keeps grows fun _ _ _ => .discard (surplus_executeManageDevicePolicy _)) trivial
  | manageGlobalInterface disable =>
    exact iff_of_true (balanced_of_keeps grows fun _ _ _ => .discard (surplus_manageGlobalInterface _)) trivial
  | manageInterfaceType disableType disable => exact balanced_manageInterfaceType env s disableType disable
  | manageUsbType disableType disable => exact balanced_manageUsbType env s disableType disable

end Balance

/-! ### A device that cannot be opened -/

/-- The storage device is held open by a client, and the driver refuses to open it again: both policies close it. -/
theorem opening_balanced_refused :
    storageAttached.Named ∧
      ∀ operation ∈ [OpeningOperation.manageInterfaceType [] true, .manageUsbType [] true],
        let calls := (operation.run (refusing [.openDevice 1 2]) storageAttached).2.calls
        opened 1 2 calls = 0 ∧ closed 1 2 calls = 1 ∧
          ¬ Balanced (operation.run (refusing [.openDevice 1 2])) storageAttached := by
  refine ⟨storageAttached_fresh.named, fun operation member => ?_⟩
  have counted : ∀ operation ∈ [OpeningOperation.manageInterfaceType [] true, .manageUsbType [] true],
      opened 1 2 (operation.run (refusing [.openDevice 1 2]) storageAttached).2.calls = 0 ∧
        closed 1 2 (operation.run (refusing [.openDevice 1 2]) storageAttached).2.calls = 1 := by
    decide +kernel
  obtain ⟨none, once⟩ := counted operation member
  refine ⟨none, once, ?_⟩
  rintro ⟨more, calls, balanced⟩
  have empty : storageAttached.calls = [] := rfl
  rw [empty, List.append_nil] at calls
  have same := balanced 1 2
  rw [← calls, none, once] at same
  cases same

end UsbManager.Policy
