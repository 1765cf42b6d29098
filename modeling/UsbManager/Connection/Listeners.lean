import UsbManager.Connection.Map
import UsbManager.Lib.Transition

/-!
# The listeners of the connections

The calls run on several threads. A change of `deviceConnectionMap_`, a copy of the listeners or of the map,
and each callback are steps of their own, and no lock is held between them. An event may thus be issued
when the map has changed again.

`delivered` are the callbacks, the last one first.
-/

namespace UsbManager.Connection

open Host (DeviceReading deviceName getDeviceInfo)
open Transition

/-- A call that `OpenDevice`, `Close` or `DelDevice` has got as far as the connections, or a registration. -/
inductive Request (L : Type) where
  /-- `AddDeviceConnection`, with what the device and the token service answer. -/
  | addDeviceConnection (busNum devAddr : UInt8) (reading : Option DeviceReading) (uid : Int)
      (callingInfo : Option String)
  | removeDeviceConnection (busNum devAddr : UInt8) (uid : Int) (callingInfo : Option String)
  | removeAllDeviceConnections (busNum devAddr : UInt8)
  /-- A callback that is null is `none`. -/
  | registerConnectionListener (cb : Option L) (checkSysApiPermission : UsbErrCode)

/-- A call in flight, before the step it is named after. -/
inductive Call (L : Type) where
  | connect (dev : UsbDevice) (uid : Int) (bundleName : String)
  | disconnect (key : String) (uid : Int) (bundleName : String)
  | remove (key : String)
  /-- A registration looks for the listener in the list. -/
  | register (cb : L)
  | addDeathRecipient (cb : L)
  | push (cb : L)
  /-- A registration copies the map. -/
  | copyMap (cb : L)
  | replay (cb : L) (infos : List UsbDeviceConnectionInfo)
  /-- `NotifyDeviceConnection` copies the listeners, for each of the events. -/
  | notify (infos : List UsbDeviceConnectionInfo)
  /-- `NotifyDeviceConnection` calls the listeners of its copy; `infos` are the events after this one. -/
  | callBack (info : UsbDeviceConnectionInfo) (listeners : List L) (infos : List UsbDeviceConnectionInfo)
  deriving DecidableEq

namespace Request

variable {L : Type}

/-- The call goes on if its checks succeed. -/
def call : Request L → Option (Call L)
  | addDeviceConnection busNum devAddr reading uid callingInfo =>
    match getDeviceInfo busNum devAddr reading, callingInfo with
    | some dev, some bundleName => some (.connect dev uid bundleName)
    | _, _ => none
  | removeDeviceConnection busNum devAddr uid callingInfo =>
    callingInfo.map (.disconnect (deviceName busNum devAddr) uid ·)
  | removeAllDeviceConnections busNum devAddr => some (.remove (deviceName busNum devAddr))
  | registerConnectionListener cb checkSysApiPermission =>
    if checkSysApiPermission = .uecOk then cb.map .register else none

end Request

structure World (L : Type) where
  deviceConnectionMap : ConnectionMap := ∅
  deviceListeners : List L := []
  calls : List (Call L) := []
  delivered : List (L × UsbDeviceConnectionInfo) := []

inductive Action (L : Type) where
  | start (request : Request L)
  /-- A call takes its next step. -/
  | advance (call : Call L) (addDeathRecipient : Bool)

namespace World

variable {L : Type} [DecidableEq L] (w : World L)

def finish (call : Call L) : World L := { w with calls := w.calls.erase call }

def goto (call next : Call L) : World L := { w with calls := next :: w.calls.erase call }

def deliver (cb : L) (info : UsbDeviceConnectionInfo) : World L := { w with delivered := (cb, info) :: w.delivered }

def advance (call : Call L) (addDeathRecipient : Bool) : World L :=
  match call with
  | .connect dev uid bundleName =>
    { w with deviceConnectionMap := w.deviceConnectionMap.addDeviceConnection dev uid bundleName }.goto call
      (.notify [⟨.connect, dev, uid, bundleName⟩])
  | .disconnect key uid bundleName =>
    match w.deviceConnectionMap.removeDeviceConnection key uid with
    | none => w.finish call
    | some (device, map) =>
      { w with deviceConnectionMap := map }.goto call (.notify [⟨.disconnect, device, uid, bundleName⟩])
  | .remove key =>
    match w.deviceConnectionMap.removeAllDeviceConnections key with
    | none => w.finish call
    | some (infos, map) => { w with deviceConnectionMap := map }.goto call (.notify infos)
  | .register cb => if cb ∈ w.deviceListeners then w.finish call else w.goto call (.addDeathRecipient cb)
  | .addDeathRecipient cb => if addDeathRecipient then w.goto call (.push cb) else w.finish call
  | .push cb => { w with deviceListeners := w.deviceListeners ++ [cb] }.goto call (.copyMap cb)
  | .copyMap cb => w.goto call (.replay cb w.deviceConnectionMap.pending)
  | .replay _ [] => w.finish call
  | .replay cb (info :: infos) => (w.deliver cb info).goto call (.replay cb infos)
  | .notify [] => w.finish call
  | .notify (info :: infos) => w.goto call (.callBack info w.deviceListeners infos)
  | .callBack _ [] infos => w.goto call (.notify infos)
  | .callBack info (cb :: listeners) infos => (w.deliver cb info).goto call (.callBack info listeners infos)

def step : Action L → Option (World L)
  | .start request => some { w with calls := request.call.toList ++ w.calls }
  | .advance call addDeathRecipient => if call ∈ w.calls then some (w.advance call addDeathRecipient) else none

end World

/-! ## One call by itself

With no other call in flight the steps of a call do what its function does. -/

section Alone

variable {L : Type} [DecidableEq L]

structure Outcome (L : Type) where
  /-- What `RegisterConnectionListener` returns. -/
  ret : UsbErrCode := .uecOk
  deviceConnectionMap : ConnectionMap
  deviceListeners : List L
  /-- The callbacks, the first one first. -/
  callbacks : List (L × UsbDeviceConnectionInfo) := []

variable (map : ConnectionMap) (listeners : List L)

/-- The callbacks of `NotifyDeviceConnection`. -/
def notifyDeviceConnection (info : UsbDeviceConnectionInfo) : List (L × UsbDeviceConnectionInfo) :=
  listeners.map (·, info)

/-- The function of a request, from its first line to its last. -/
def Request.serve (addDeathRecipient : Bool) (request : Request L) : Outcome L :=
  let same : Outcome L := { deviceConnectionMap := map, deviceListeners := listeners }
  match request with
  | addDeviceConnection busNum devAddr reading uid callingInfo =>
    match getDeviceInfo busNum devAddr reading, callingInfo with
    | some dev, some bundleName =>
      { same with
        deviceConnectionMap := map.addDeviceConnection dev uid bundleName
        callbacks := notifyDeviceConnection listeners ⟨.connect, dev, uid, bundleName⟩ }
    | _, _ => same
  | removeDeviceConnection busNum devAddr uid callingInfo =>
    match callingInfo with
    | none => same
    | some bundleName =>
      match map.removeDeviceConnection (deviceName busNum devAddr) uid with
      | none => same
      | some (device, map) =>
        { same with
          deviceConnectionMap := map
          callbacks := notifyDeviceConnection listeners ⟨.disconnect, device, uid, bundleName⟩ }
  | removeAllDeviceConnections busNum devAddr =>
    match map.removeAllDeviceConnections (deviceName busNum devAddr) with
    | none => same
    | some (infos, map) =>
      { same with
        deviceConnectionMap := map
        callbacks := infos.flatMap (notifyDeviceConnection listeners) }
  | registerConnectionListener cb checkSysApiPermission =>
    match cb with
    | none => { same with ret := .uecServiceInvalidValue }
    | some cb =>
      if checkSysApiPermission ≠ .uecOk then { same with ret := checkSysApiPermission }
      else if cb ∈ listeners then { same with ret := .uecServiceAlreadyExists }
      else if addDeathRecipient = false then { same with ret := .uecServiceAddDeathRecipientFailed }
      else { same with deviceListeners := listeners ++ [cb], callbacks := map.pending.map (cb, ·) }

/-- Where the outcome leaves a world without calls. -/
def Outcome.after (outcome : Outcome L) (delivered : List (L × UsbDeviceConnectionInfo)) : World L where
  deviceConnectionMap := outcome.deviceConnectionMap
  deviceListeners := outcome.deviceListeners
  delivered := outcome.callbacks.reverse ++ delivered

variable {map listeners} {delivered : List (L × UsbDeviceConnectionInfo)}

/-- The only call takes its next step. -/
theorem leads_advance (call : Call L) (addDeathRecipient : Bool) :
    Leads World.step (⟨map, listeners, [call], delivered⟩ : World L)
      ((⟨map, listeners, [call], delivered⟩ : World L).advance call addDeathRecipient) :=
  .of_step (a := .advance call addDeathRecipient) (if_pos (List.mem_singleton_self call))

theorem goto_alone (call next : Call L) :
    (⟨map, listeners, [call], delivered⟩ : World L).goto call next = ⟨map, listeners, [next], delivered⟩ := by
  rw [World.goto, List.erase_cons_head]

theorem finish_alone (call : Call L) :
    (⟨map, listeners, [call], delivered⟩ : World L).finish call = ⟨map, listeners, [], delivered⟩ := by
  rw [World.finish, List.erase_cons_head]

theorem leads_callBack (info : UsbDeviceConnectionInfo) (infos : List UsbDeviceConnectionInfo) (heard : List L) :
    Leads World.step (⟨map, listeners, [.callBack info heard infos], delivered⟩ : World L)
      ⟨map, listeners, [.notify infos], (notifyDeviceConnection heard info).reverse ++ delivered⟩ := by
  induction heard generalizing delivered with
  | nil =>
    have goes := @leads_advance _ _ map listeners delivered (.callBack info [] infos) true
    rw [World.advance, goto_alone] at goes
    exact goes
  | cons cb heard ih =>
    have goes := @leads_advance _ _ map listeners delivered (.callBack info (cb :: heard) infos) true
    rw [World.advance, World.deliver, goto_alone] at goes
    rw [notifyDeviceConnection, List.map_cons, List.reverse_cons, List.append_assoc]
    exact goes.trans ih

theorem leads_notify (infos : List UsbDeviceConnectionInfo) :
    Leads World.step (⟨map, listeners, [.notify infos], delivered⟩ : World L)
      ⟨map, listeners, [], (infos.flatMap (notifyDeviceConnection listeners)).reverse ++ delivered⟩ := by
  induction infos generalizing delivered with
  | nil =>
    have goes := @leads_advance _ _ map listeners delivered (.notify []) true
    rw [World.advance, finish_alone] at goes
    exact goes
  | cons info infos ih =>
    have goes := @leads_advance _ _ map listeners delivered (.notify (info :: infos)) true
    rw [World.advance, goto_alone] at goes
    rw [List.flatMap_cons, List.reverse_append, List.append_assoc]
    exact (goes.trans (leads_callBack info infos listeners)).trans ih

theorem leads_replay (cb : L) (infos : List UsbDeviceConnectionInfo) :
    Leads World.step (⟨map, listeners, [.replay cb infos], delivered⟩ : World L)
      ⟨map, listeners, [], (infos.map (cb, ·)).reverse ++ delivered⟩ := by
  induction infos generalizing delivered with
  | nil =>
    have goes := @leads_advance _ _ map listeners delivered (.replay cb []) true
    rw [World.advance, finish_alone] at goes
    exact goes
  | cons info infos ih =>
    have goes := @leads_advance _ _ map listeners delivered (.replay cb (info :: infos)) true
    rw [World.advance, World.deliver, goto_alone] at goes
    rw [List.map_cons, List.reverse_cons, List.append_assoc]
    exact goes.trans ih

theorem leads_start (request : Request L) :
    Leads World.step (⟨map, listeners, [], delivered⟩ : World L) ⟨map, listeners, request.call.toList, delivered⟩ := by
  refine .of_step (a := .start request) ?_
  rw [World.step, List.append_nil]

/-- A registration that adds the death recipient puts the listener on the list and tells it the map. -/
theorem leads_addDeathRecipient (cb : L) :
    Leads World.step (⟨map, listeners, [.addDeathRecipient cb], delivered⟩ : World L)
      ⟨map, listeners ++ [cb], [], (map.pending.map (cb, ·)).reverse ++ delivered⟩ := by
  have added := @leads_advance _ _ map listeners delivered (.addDeathRecipient cb) true
  rw [World.advance, if_pos rfl, goto_alone] at added
  have pushed := @leads_advance _ _ map listeners delivered (.push cb) true
  rw [World.advance, World.goto, List.erase_cons_head] at pushed
  have copied := @leads_advance _ _ map (listeners ++ [cb]) delivered (.copyMap cb) true
  rw [World.advance, goto_alone] at copied
  exact ((added.trans pushed).trans copied).trans (leads_replay cb map.pending)

theorem leads_connect (dev : UsbDevice) (uid : Int) (bundleName : String) :
    Leads World.step (⟨map, listeners, [.connect dev uid bundleName], delivered⟩ : World L)
      ⟨map.addDeviceConnection dev uid bundleName, listeners, [],
        (notifyDeviceConnection listeners ⟨.connect, dev, uid, bundleName⟩).reverse ++ delivered⟩ := by
  have added := @leads_advance _ _ map listeners delivered (.connect dev uid bundleName) true
  rw [World.advance, World.goto, List.erase_cons_head] at added
  have told := added.trans (leads_notify _)
  rwa [List.flatMap_singleton] at told

theorem leads_disconnect (key : String) (uid : Int) (bundleName : String) :
    Leads World.step (⟨map, listeners, [.disconnect key uid bundleName], delivered⟩ : World L)
      (match map.removeDeviceConnection key uid with
      | none => ⟨map, listeners, [], delivered⟩
      | some (device, map') =>
        ⟨map', listeners, [],
          (notifyDeviceConnection listeners ⟨.disconnect, device, uid, bundleName⟩).reverse ++ delivered⟩) := by
  have removed := @leads_advance _ _ map listeners delivered (.disconnect key uid bundleName) true
  rw [World.advance] at removed
  split
  next absent =>
    rw [absent, finish_alone] at removed
    exact removed
  next device map' found =>
    rw [found] at removed
    dsimp only at removed
    rw [World.goto, List.erase_cons_head] at removed
    have told := removed.trans (leads_notify _)
    rwa [List.flatMap_singleton] at told

theorem leads_remove (key : String) :
    Leads World.step (⟨map, listeners, [.remove key], delivered⟩ : World L)
      (match map.removeAllDeviceConnections key with
      | none => ⟨map, listeners, [], delivered⟩
      | some (infos, map') =>
        ⟨map', listeners, [], (infos.flatMap (notifyDeviceConnection listeners)).reverse ++ delivered⟩) := by
  have removed := @leads_advance _ _ map listeners delivered (.remove key) true
  rw [World.advance] at removed
  split
  next absent =>
    rw [absent, finish_alone] at removed
    exact removed
  next infos map' found =>
    rw [found] at removed
    dsimp only at removed
    rw [World.goto, List.erase_cons_head] at removed
    exact removed.trans (leads_notify infos)

theorem leads_register (cb : L) (addDeathRecipient : Bool) :
    Leads World.step (⟨map, listeners, [.register cb], delivered⟩ : World L)
      (if cb ∈ listeners then ⟨map, listeners, [], delivered⟩
      else if addDeathRecipient = false then ⟨map, listeners, [], delivered⟩
      else ⟨map, listeners ++ [cb], [], (map.pending.map (cb, ·)).reverse ++ delivered⟩) := by
  have looked := @leads_advance _ _ map listeners delivered (.register cb) true
  rw [World.advance] at looked
  by_cases known : cb ∈ listeners
  · rw [if_pos known, finish_alone] at looked
    rw [if_pos known]
    exact looked
  · rw [if_neg known, goto_alone] at looked
    rw [if_neg known]
    cases addDeathRecipient with
    | false =>
      have failed := @leads_advance _ _ map listeners delivered (.addDeathRecipient cb) false
      rw [World.advance, if_neg Bool.false_ne_true, finish_alone] at failed
      exact looked.trans failed
    | true => exact looked.trans (leads_addDeathRecipient cb)

/-- The steps of a call alone do what its function does. -/
theorem serve_alone (request : Request L) (addDeathRecipient : Bool) :
    Leads World.step (⟨map, listeners, [], delivered⟩ : World L)
      ((request.serve map listeners addDeathRecipient).after delivered) := by
  refine (leads_start request).trans ?_
  cases request with
  | addDeviceConnection busNum devAddr reading uid callingInfo =>
    dsimp only [Request.call, Request.serve]
    cases getDeviceInfo busNum devAddr reading with
    | none => exact .refl
    | some dev =>
      cases callingInfo with
      | none => exact .refl
      | some bundleName => exact leads_connect dev uid bundleName
  | removeDeviceConnection busNum devAddr uid callingInfo =>
    dsimp only [Request.call, Request.serve]
    cases callingInfo with
    | none => exact .refl
    | some bundleName =>
      have told := @leads_disconnect _ _ map listeners delivered (deviceName busNum devAddr) uid bundleName
      cases found : map.removeDeviceConnection (deviceName busNum devAddr) uid with
      | none =>
        rw [found] at told
        exact told
      | some removed =>
        rw [found] at told
        exact told
  | removeAllDeviceConnections busNum devAddr =>
    dsimp only [Request.call, Request.serve]
    have told := @leads_remove _ _ map listeners delivered (deviceName busNum devAddr)
    cases found : map.removeAllDeviceConnections (deviceName busNum devAddr) with
    | none =>
      rw [found] at told
      exact told
    | some removed =>
      rw [found] at told
      exact told
  | registerConnectionListener cb checkSysApiPermission =>
    dsimp only [Request.call, Request.serve]
    cases cb with
    | none =>
      dsimp only [Option.map_none]
      rw [ite_self]
      exact .refl
    | some cb =>
      dsimp only [Option.map_some]
      by_cases ok : checkSysApiPermission = .uecOk
      · rw [if_pos ok, if_neg (not_not_intro ok)]
        have registered := @leads_register _ _ map listeners delivered cb addDeathRecipient
        split_ifs with known unwatched
        · rw [if_pos known] at registered
          exact registered
        · rw [if_neg known, if_pos unwatched] at registered
          exact registered
        · rw [if_neg known, if_neg unwatched] at registered
          exact registered
      · rw [if_neg ok, if_pos ok]
        exact .refl

end Alone

/-! ## What the listeners know -/

section Told

variable {L : Type} [DecidableEq L]

/-- The last event that a listener got about an application and a device. -/
def lastEvent (delivered : List (L × UsbDeviceConnectionInfo)) (cb : L) (key : String) (uid : Int) :
    Option ConnectionType :=
  (delivered.find? fun event => event.1 = cb ∧ event.2.About key uid).map (·.2.type)

/-- The last event tells the state. -/
def Tells (connected : Bool) (last : Option ConnectionType) : Prop :=
  if connected then last = some .connect else last ≠ some .connect

/-- The event that tells the state. -/
def typeOf (connected : Bool) : ConnectionType := if connected then .connect else .disconnect

omit [DecidableEq L] in
theorem tells_typeOf (connected : Bool) : Tells connected (some (typeOf connected)) := by
  cases connected with
  | true => exact rfl
  | false => exact nofun

theorem tells_none : Tells false none := nofun

theorem lastEvent_deliver (delivered : List (L × UsbDeviceConnectionInfo)) (cb cb' : L)
    (info : UsbDeviceConnectionInfo) (key : String) (uid : Int) :
    lastEvent ((cb', info) :: delivered) cb key uid =
      if cb' = cb ∧ info.About key uid then some info.type else lastEvent delivered cb key uid := by
  unfold lastEvent
  rw [List.find?_cons]
  by_cases own : cb' = cb ∧ info.About key uid
  · simp [own]
  · simp [own]

end Told

/-! ## Events on their way -/

namespace Call

variable {L : Type}

/-- The events that a call still has to issue. -/
def pending : Call L → List UsbDeviceConnectionInfo
  | replay _ infos | notify infos | callBack _ [] infos => infos
  | callBack info (_ :: _) infos => info :: infos
  | connect .. | disconnect .. | remove _ | register _ | addDeathRecipient _ | push _ | copyMap _ => []

theorem pending_callBack {info later : UsbDeviceConnectionInfo} {listeners : List L}
    {infos : List UsbDeviceConnectionInfo} (issued : later ∈ (callBack info listeners infos).pending) :
    later ∈ info :: infos := by
  cases listeners with
  | nil => exact List.mem_cons_of_mem _ issued
  | cons => exact issued

/-- The listeners that a call has got hold of. -/
def audience : Call L → List L
  | copyMap cb | replay cb _ => [cb]
  | callBack _ listeners _ => listeners
  | connect .. | disconnect .. | remove _ | register _ | addDeathRecipient _ | push _ | notify _ => []

/-- The call has an event for the listener about the application and the device. A copy of the map will have
one if they are connected. -/
def Owes (map : ConnectionMap) (cb : L) (key : String) (uid : Int) : Call L → Prop
  | notify infos => ∃ info ∈ infos, info.About key uid
  | callBack info listeners infos => info.About key uid ∧ cb ∈ listeners ∨ ∃ info ∈ infos, info.About key uid
  | replay cb' infos => cb' = cb ∧ ∃ info ∈ infos, info.About key uid
  | copyMap cb' => cb' = cb ∧ map.connected key uid = true
  | connect .. | disconnect .. | remove _ | register _ | addDeathRecipient _ | push _ => False

/-- An event that is on its way agrees with what a call is to do: with a change that there are listeners for, or
with the map when the call puts a listener on the list. -/
def Fits (w : World L) (info : UsbDeviceConnectionInfo) : Call L → Prop
  | connect dev uid _ => w.deviceListeners ≠ [] → info.About (deviceKey dev) uid → info.type = .connect
  | disconnect key uid _ => w.deviceListeners ≠ [] → info.About key uid → info.type = .disconnect
  | remove key => w.deviceListeners ≠ [] → deviceKey info.device = key → info.type = .disconnect
  | push _ => info.type = typeOf (w.deviceConnectionMap.connected (deviceKey info.device) info.uid)
  | register _ | addDeathRecipient _ | copyMap _ | replay .. | notify _ | callBack .. => True

instance (w : World L) (info : UsbDeviceConnectionInfo) : (call : Call L) → Decidable (call.Fits w info)
  | connect dev uid _ => inferInstanceAs (Decidable (w.deviceListeners ≠ [] → info.About (deviceKey dev) uid → _))
  | disconnect key uid _ => inferInstanceAs (Decidable (w.deviceListeners ≠ [] → info.About key uid → _))
  | remove key => inferInstanceAs (Decidable (w.deviceListeners ≠ [] → deviceKey info.device = key → _))
  | push _ => inferInstanceAs (Decidable (info.type = _))
  | register _ | addDeathRecipient _ | copyMap _ | replay .. | notify _ | callBack .. => isTrue trivial

end Call

/-- A call that starts has no events yet. -/
theorem Request.call_fresh {L : Type} {request : Request L} {call : Call L} (started : request.call = some call) :
    call.pending = [] ∧ call.audience = [] := by
  cases request with
  | addDeviceConnection busNum devAddr reading uid callingInfo =>
    simp only [Request.call] at started
    split at started
    next =>
      obtain rfl := Option.some.inj started
      exact ⟨rfl, rfl⟩
    next => cases started
  | removeDeviceConnection busNum devAddr uid callingInfo =>
    obtain ⟨bundleName, -, rfl⟩ := Option.map_eq_some_iff.1 started
    exact ⟨rfl, rfl⟩
  | removeAllDeviceConnections busNum devAddr =>
    obtain rfl := Option.some.inj started
    exact ⟨rfl, rfl⟩
  | registerConnectionListener cb checkSysApiPermission =>
    obtain ⟨-, registers⟩ := Option.ite_none_right_eq_some.1 started
    obtain ⟨cb, -, rfl⟩ := Option.map_eq_some_iff.1 registers
    exact ⟨rfl, rfl⟩

namespace World

variable {L : Type} [DecidableEq L]

omit [DecidableEq L] in
/-- While there are listeners, the map is changed only when no event about what changes is still to be issued that
says otherwise; and a listener is put on the list only when every event still to be issued says what the map does. -/
def Ordered (w : World L) : Action L → Prop
  | .advance call _ => ∀ other ∈ w.calls, ∀ info ∈ other.pending, call.Fits w info
  | .start _ => True

instance (w : World L) : (action : Action L) → Decidable (w.Ordered action)
  | .advance call _ => inferInstanceAs (Decidable (∀ other ∈ w.calls, ∀ info ∈ other.pending, call.Fits w info))
  | .start _ => isTrue trivial

theorem exists_about_cons {info : UsbDeviceConnectionInfo} {infos : List UsbDeviceConnectionInfo} {key : String}
    {uid : Int} : (∃ other ∈ info :: infos, other.About key uid) ↔
      info.About key uid ∨ ∃ other ∈ infos, other.About key uid := by
  simp

/-- A listener knows the state of each application and device, or will be told. -/
structure Informed (w : World L) : Prop where
  addressed : w.deviceConnectionMap.Addressed
  agree : w.deviceListeners ≠ [] → ∀ call ∈ w.calls, ∀ info ∈ call.pending,
    info.type = typeOf (w.deviceConnectionMap.connected (deviceKey info.device) info.uid)
  known : ∀ call ∈ w.calls, ∀ cb ∈ call.audience, cb ∈ w.deviceListeners
  fresh : ∀ event ∈ w.delivered, event.1 ∈ w.deviceListeners
  told : ∀ cb ∈ w.deviceListeners, ∀ key uid,
    Tells (w.deviceConnectionMap.connected key uid) (lastEvent w.delivered cb key uid) ∨
      ∃ call ∈ w.calls, call.Owes w.deviceConnectionMap cb key uid

variable {w : World L} {call next : Call L}

/-- A step that issues nothing and changes nothing. -/
theorem Informed.goto (informed : w.Informed) (pending : w.deviceListeners ≠ [] → ∀ info ∈ next.pending,
      info.type = typeOf (w.deviceConnectionMap.connected (deviceKey info.device) info.uid))
    (audience : ∀ cb ∈ next.audience, cb ∈ w.deviceListeners)
    (owes : ∀ cb ∈ w.deviceListeners, ∀ key uid, call.Owes w.deviceConnectionMap cb key uid →
      next.Owes w.deviceConnectionMap cb key uid) : (w.goto call next).Informed := by
  refine ⟨informed.addressed, fun listens => all_of_goes_on (informed.agree listens) (pending listens),
    all_of_goes_on informed.known audience, informed.fresh, fun cb listed key uid => ?_⟩
  exact (informed.told cb listed key uid).imp_right fun owed => exists_of_goes_on owed (owes cb listed key uid)

/-- A call ends that owes nothing. -/
theorem Informed.finish (informed : w.Informed) (paid : ∀ cb key uid, ¬ call.Owes w.deviceConnectionMap cb key uid) :
    (w.finish call).Informed := by
  refine ⟨informed.addressed, fun listens => all_of_ended (informed.agree listens), all_of_ended informed.known,
    informed.fresh, fun cb listed key uid => ?_⟩
  exact (informed.told cb listed key uid).imp_right fun owed => exists_of_ended owed (paid cb key uid)

/-- A callback is issued. -/
theorem Informed.deliver (informed : w.Informed) {cb : L} {info : UsbDeviceConnectionInfo} (member : call ∈ w.calls)
    (issued : info ∈ call.pending) (listens : cb ∈ call.audience) (pending : next.pending ⊆ call.pending)
    (audience : next.audience ⊆ call.audience)
    (owes : ∀ cb' key uid, call.Owes w.deviceConnectionMap cb' key uid →
      next.Owes w.deviceConnectionMap cb' key uid ∨ cb = cb' ∧ info.About key uid) :
    ((w.deliver cb info).goto call next).Informed := by
  have someone : w.deviceListeners ≠ [] := List.ne_nil_of_mem (informed.known call member cb listens)
  have agrees := informed.agree someone call member info issued
  refine ⟨informed.addressed, fun _ => all_of_goes_on (informed.agree someone) fun later still => ?_,
    all_of_goes_on informed.known fun heard still => ?_, fun event here => ?_, fun cb' listed key uid => ?_⟩
  · exact informed.agree someone call member later (pending still)
  · exact informed.known call member heard (audience still)
  · rcases List.mem_cons.1 here with rfl | old
    · exact informed.known call member cb listens
    · exact informed.fresh event old
  · by_cases own : cb = cb' ∧ info.About key uid
    · left
      show Tells _ (lastEvent ((cb, info) :: w.delivered) cb' key uid)
      rw [lastEvent_deliver, if_pos own, agrees]
      obtain ⟨-, rfl, rfl⟩ := own
      exact tells_typeOf _
    · rcases informed.told cb' listed key uid with tells | owed
      · left
        show Tells _ (lastEvent ((cb, info) :: w.delivered) cb' key uid)
        rw [lastEvent_deliver, if_neg own]
        exact tells
      · right
        exact exists_of_goes_on owed fun owed => (owes cb' key uid owed).resolve_right own

/-- A listener that is new has not been called. -/
theorem Informed.lastEvent_new (informed : w.Informed) {cb : L} (absent : cb ∉ w.deviceListeners) (key : String)
    (uid : Int) : lastEvent w.delivered cb key uid = none := by
  rw [lastEvent, Option.map_eq_none_iff, List.find?_eq_none]
  intro event here
  simp only [decide_eq_true_eq, not_and]
  rintro rfl
  exact absurd (informed.fresh event here) absent

/-- A registration puts its listener on the list, and goes on to tell it all connections. -/
theorem Informed.push (informed : w.Informed) (cb : L) {addDeathRecipient : Bool}
    (ordered : w.Ordered (.advance (.push cb) addDeathRecipient)) :
    ({ w with deviceListeners := w.deviceListeners ++ [cb] }.goto (.push cb) (.copyMap cb)).Informed := by
  have listed {cb' : L} (member : cb' ∈ w.deviceListeners) : cb' ∈ w.deviceListeners ++ [cb] :=
    List.mem_append_left _ member
  have still : ∀ other ∈ w.calls, ∀ cb' ∈ other.audience, cb' ∈ w.deviceListeners ++ [cb] :=
    fun other member cb' heard => listed (informed.known other member cb' heard)
  refine ⟨informed.addressed, fun _ => all_of_goes_on ordered fun _ issued => absurd issued List.not_mem_nil,
    all_of_goes_on still fun cb' same => ?_, fun event here => listed (informed.fresh event here),
    fun cb' member key uid => ?_⟩
  · rw [List.mem_singleton.1 same]
    exact List.mem_append_right _ (List.mem_singleton_self cb)
  · by_cases before : cb' ∈ w.deviceListeners
    · exact (informed.told cb' before key uid).imp_right fun owed => exists_of_goes_on owed nofun
    · obtain rfl : cb' = cb := (List.mem_append.1 member).elim (absurd · before) List.mem_singleton.1
      have none := informed.lastEvent_new before key uid
      cases connected : w.deviceConnectionMap.connected key uid with
      | true => exact .inr ⟨.copyMap cb', List.mem_cons_self .., rfl, connected⟩
      | false =>
        left
        show Tells (w.deviceConnectionMap.connected key uid) (lastEvent w.delivered cb' key uid)
        rw [connected, none]
        exact tells_none

/-- A call changes the map and goes on to tell the changes. -/
theorem Informed.change (informed : w.Informed) {map : ConnectionMap} {infos : List UsbDeviceConnectionInfo}
    (unpaid : ∀ cb key uid, ¬ call.Owes w.deviceConnectionMap cb key uid) (addressed : map.Addressed)
    (same : ∀ key uid, (∃ info ∈ infos, info.About key uid) ∨
      map.connected key uid = w.deviceConnectionMap.connected key uid)
    (types : ∀ info ∈ infos, info.type = typeOf (map.connected (deviceKey info.device) info.uid))
    (ordered : w.deviceListeners ≠ [] → ∀ other ∈ w.calls, ∀ info ∈ other.pending,
      info.type = typeOf (map.connected (deviceKey info.device) info.uid)) :
    ({ w with deviceConnectionMap := map }.goto call (.notify infos)).Informed := by
  refine ⟨addressed, fun listens => all_of_goes_on (ordered listens) types,
    all_of_goes_on informed.known fun _ heard => absurd heard List.not_mem_nil, informed.fresh,
    fun cb listed key uid => ?_⟩
  rcases same key uid with told | unchanged
  · exact .inr ⟨.notify infos, List.mem_cons_self .., told⟩
  · show Tells (map.connected key uid) (lastEvent w.delivered cb key uid) ∨ _
    rw [unchanged]
    refine (informed.told cb listed key uid).imp_right fun owed => ?_
    obtain ⟨other, member, owes⟩ := exists_of_ended owed (unpaid cb key uid)
    refine ⟨other, List.mem_cons_of_mem _ member, ?_⟩
    cases other with
    | copyMap cb' => exact ⟨owes.1, unchanged.trans owes.2⟩
    | notify | callBack | replay => exact owes
    | connect | disconnect | remove | register | addDeathRecipient | push => exact owes.elim

/-! ### Every step keeps the listeners informed -/

theorem Informed.connect (informed : w.Informed) {dev : UsbDevice} {uid : Int} {bundleName : String}
    (ordered : w.Ordered (.advance (.connect dev uid bundleName) true)) :
    ({ w with deviceConnectionMap := w.deviceConnectionMap.addDeviceConnection dev uid bundleName }.goto
      (.connect dev uid bundleName) (.notify [⟨.connect, dev, uid, bundleName⟩])).Informed := by
  have now := @ConnectionMap.connected_add_self w.deviceConnectionMap dev uid bundleName
  have elsewhere {key : String} {uid' : Int} (other : ¬ (deviceKey dev = key ∧ uid = uid')) :
      (w.deviceConnectionMap.addDeviceConnection dev uid bundleName).connected key uid' =
        w.deviceConnectionMap.connected key uid' :=
    Bool.eq_iff_iff.2 ((ConnectionMap.connected_add dev uid bundleName).trans (or_iff_right other))
  refine informed.change (fun _ _ _ => id) (ConnectionMap.addressed_add informed.addressed dev uid bundleName)
    (fun key uid' => ?_) (fun info here => ?_) fun listens other member info issued => ?_
  · by_cases own : deviceKey dev = key ∧ uid = uid'
    · exact .inl ⟨_, List.mem_singleton_self _, own⟩
    · exact .inr (elsewhere own)
  · rw [List.mem_singleton.1 here, now]
    rfl
  · by_cases own : deviceKey dev = deviceKey info.device ∧ uid = info.uid
    · rw [ordered other member info issued listens ⟨own.1.symm, own.2.symm⟩, ← own.1, ← own.2, now]
      rfl
    · rw [elsewhere own]
      exact informed.agree listens other member info issued

theorem Informed.disconnect (informed : w.Informed) {key : String} {uid : Int} {bundleName : String}
    {device : UsbDevice} {map : ConnectionMap}
    (removed : w.deviceConnectionMap.removeDeviceConnection key uid = some (device, map))
    (ordered : w.Ordered (.advance (.disconnect key uid bundleName) true)) :
    ({ w with deviceConnectionMap := map }.goto (.disconnect key uid bundleName)
      (.notify [⟨.disconnect, device, uid, bundleName⟩])).Informed := by
  obtain ⟨own, addressed, connected⟩ := ConnectionMap.removeDeviceConnection_some informed.addressed removed
  have gone := ConnectionMap.removeDeviceConnection_gone informed.addressed removed
  have elsewhere {key' : String} {uid' : Int} (other : ¬ (key = key' ∧ uid = uid')) :
      map.connected key' uid' = w.deviceConnectionMap.connected key' uid' :=
    Bool.eq_iff_iff.2 ((connected key' uid').trans (and_iff_left other))
  refine informed.change (fun _ _ _ => id) addressed (fun key' uid' => ?_) (fun info here => ?_)
    fun listens other member info issued => ?_
  · by_cases same : key = key' ∧ uid = uid'
    · exact .inl ⟨_, List.mem_singleton_self _, own.trans same.1, same.2⟩
    · exact .inr (elsewhere same)
  · rw [List.mem_singleton.1 here, own, gone]
    rfl
  · by_cases same : key = deviceKey info.device ∧ uid = info.uid
    · rw [ordered other member info issued listens ⟨same.1.symm, same.2.symm⟩, ← same.1, ← same.2, gone]
      rfl
    · rw [elsewhere same]
      exact informed.agree listens other member info issued

theorem Informed.remove (informed : w.Informed) {key : String} {infos : List UsbDeviceConnectionInfo}
    {map : ConnectionMap} (removed : w.deviceConnectionMap.removeAllDeviceConnections key = some (infos, map))
    (ordered : w.Ordered (.advance (.remove key) true)) :
    ({ w with deviceConnectionMap := map }.goto (.remove key) (.notify infos)).Informed := by
  obtain ⟨ended, all, addressed, connected⟩ :=
    ConnectionMap.removeAllDeviceConnections_some informed.addressed removed
  have gone := ConnectionMap.removeAllDeviceConnections_gone informed.addressed removed
  have elsewhere {key' : String} (other : key ≠ key') (uid : Int) :
      map.connected key' uid = w.deviceConnectionMap.connected key' uid :=
    Bool.eq_iff_iff.2 ((connected key' uid).trans (and_iff_left other))
  refine informed.change (fun _ _ _ => id) addressed (fun key' uid => ?_) (fun info here => ?_)
    fun listens other member info issued => ?_
  · by_cases same : key = key'
    · subst same
      cases before : w.deviceConnectionMap.connected key uid with
      | true => exact .inl (all uid before)
      | false => exact .inr (gone uid)
    · exact .inr (elsewhere same uid)
  · obtain ⟨type, own⟩ := ended info here
    rw [type, own, gone]
    rfl
  · by_cases same : key = deviceKey info.device
    · rw [ordered other member info issued listens same.symm, ← same, gone]
      rfl
    · rw [elsewhere same]
      exact informed.agree listens other member info issued

theorem Informed.advance (informed : w.Informed) (member : call ∈ w.calls) {addDeathRecipient : Bool}
    (ordered : w.Ordered (.advance call addDeathRecipient)) : (w.advance call addDeathRecipient).Informed := by
  cases call with
  | connect dev uid bundleName => exact informed.connect ordered
  | disconnect key uid bundleName =>
    simp only [World.advance]
    split
    next => exact informed.finish fun _ _ _ => id
    next device map removed => exact informed.disconnect removed ordered
  | remove key =>
    simp only [World.advance]
    split
    next => exact informed.finish fun _ _ _ => id
    next infos map removed => exact informed.remove removed ordered
  | register cb =>
    simp only [World.advance]
    split
    next => exact informed.finish fun _ _ _ => id
    next =>
      exact informed.goto (fun _ _ issued => absurd issued List.not_mem_nil)
        (fun _ heard => absurd heard List.not_mem_nil) fun _ _ _ _ => id
  | addDeathRecipient cb =>
    simp only [World.advance]
    split
    next =>
      exact informed.goto (fun _ _ issued => absurd issued List.not_mem_nil)
        (fun _ heard => absurd heard List.not_mem_nil) fun _ _ _ _ => id
    next => exact informed.finish fun _ _ _ => id
  | push cb => exact informed.push cb ordered
  | copyMap cb =>
    refine informed.goto (fun _ info issued => ?_) (informed.known (.copyMap cb) member) fun cb' _ key uid owes => ?_
    · obtain ⟨type, connected⟩ := ConnectionMap.mem_pending informed.addressed issued
      rw [type, connected]
      rfl
    · exact ⟨owes.1, ConnectionMap.exists_mem_pending informed.addressed owes.2⟩
  | replay cb infos =>
    cases infos with
    | nil => exact informed.finish fun cb' key uid owes => by simp [Call.Owes] at owes
    | cons info infos =>
      refine informed.deliver member (List.mem_cons_self ..) (List.mem_singleton_self cb) (List.subset_cons_self ..)
        (List.Subset.refl _) fun cb' key uid owes => ?_
      obtain ⟨rfl, about⟩ := owes
      rcases exists_about_cons.1 about with now | later
      · exact .inr ⟨rfl, now⟩
      · exact .inl ⟨rfl, later⟩
  | notify infos =>
    cases infos with
    | nil => exact informed.finish fun cb key uid owes => by simp [Call.Owes] at owes
    | cons info infos =>
      refine informed.goto (fun listens later issued => ?_) (fun _ => id) fun cb listed key uid owes => ?_
      · exact informed.agree listens _ member later (Call.pending_callBack issued)
      · exact (exists_about_cons.1 owes).imp_left fun about => ⟨about, listed⟩
  | callBack info listeners infos =>
    cases listeners with
    | nil =>
      refine informed.goto (fun listens => informed.agree listens (.callBack info [] infos) member)
        (fun _ heard => absurd heard List.not_mem_nil) ?_
      exact fun cb _ key uid owes => owes.resolve_left fun now => absurd now.2 List.not_mem_nil
    | cons cb listeners =>
      refine informed.deliver member (List.mem_cons_self ..) (List.mem_cons_self ..)
        (fun _ => Call.pending_callBack) (List.subset_cons_self ..) fun cb' key uid owes => ?_
      · rcases owes with ⟨about, heard⟩ | later
        · rcases List.mem_cons.1 heard with rfl | others
          · exact .inr ⟨rfl, about⟩
          · exact .inl (.inl ⟨about, others⟩)
        · exact .inl (.inr later)

theorem Informed.start (informed : w.Informed) (request : Request L) :
    ({ w with calls := request.call.toList ++ w.calls } : World L).Informed := by
  refine ⟨informed.addressed, fun listens call member => ?_, fun call member => ?_, informed.fresh,
    fun cb listed key uid => ?_⟩
  · rcases List.mem_append.1 member with started | old
    · rw [(Request.call_fresh (Option.mem_toList.1 started)).1]
      exact fun info issued => absurd issued List.not_mem_nil
    · exact informed.agree listens call old
  · rcases List.mem_append.1 member with started | old
    · rw [(Request.call_fresh (Option.mem_toList.1 started)).2]
      exact fun cb heard => absurd heard List.not_mem_nil
    · exact informed.known call old
  · refine (informed.told cb listed key uid).imp_right ?_
    rintro ⟨call, member, owes⟩
    exact ⟨call, List.mem_append_right _ member, owes⟩

theorem Informed.step {w' : World L} (informed : w.Informed) {action : Action L} (ordered : w.Ordered action)
    (taken : w.step action = some w') : w'.Informed := by
  cases action with
  | start request =>
    obtain rfl := Option.some.inj taken
    exact informed.start request
  | advance call addDeathRecipient =>
    obtain ⟨member, moved⟩ := Option.ite_none_right_eq_some.1 taken
    obtain rfl := Option.some.inj moved
    exact informed.advance member ordered

/-- A call that issues nothing leaves the others' events on their way. -/
theorem mem_goto_of_pending {other : Call L} {info : UsbDeviceConnectionInfo} (member : other ∈ w.calls)
    (issued : info ∈ other.pending) (silent : call.pending = []) : other ∈ (w.goto call next).calls := by
  have differs : other ≠ call := by
    rintro rfl
    rw [silent] at issued
    cases issued
  exact List.mem_cons_of_mem _ ((List.mem_erase_of_ne differs).2 member)

/-- A step out of turn leaves an event on its way that denies what the map says, with a listener to hear it. -/
theorem Informed.overtaken {w' : World L} (informed : w.Informed) {action : Action L} (taken : w.step action = some w')
    (overtakes : ¬ w.Ordered action) : w'.deviceListeners ≠ [] ∧ ∃ other ∈ w'.calls, ∃ info ∈ other.pending,
      info.type ≠ typeOf (w'.deviceConnectionMap.connected (deviceKey info.device) info.uid) := by
  cases action with
  | start request => exact absurd trivial overtakes
  | advance call addDeathRecipient =>
    obtain ⟨-, moved⟩ := Option.ite_none_right_eq_some.1 taken
    obtain rfl := Option.some.inj moved
    simp only [Ordered, not_forall] at overtakes
    obtain ⟨other, member, info, issued, unfit⟩ := overtakes
    cases call with
    | connect dev uid bundleName =>
      obtain ⟨listens, denies⟩ := Classical.not_imp.1 unfit
      obtain ⟨⟨key, same⟩, wrong⟩ := Classical.not_imp.1 denies
      refine ⟨listens, other, mem_goto_of_pending member issued rfl, info, issued, ?_⟩
      show info.type ≠ typeOf ((w.deviceConnectionMap.addDeviceConnection dev uid bundleName).connected _ _)
      rw [key, same, ConnectionMap.connected_add_self]
      exact wrong
    | disconnect key uid bundleName =>
      obtain ⟨listens, denies⟩ := Classical.not_imp.1 unfit
      obtain ⟨⟨rfl, rfl⟩, wrong⟩ := Classical.not_imp.1 denies
      have agrees := informed.agree listens other member info issued
      simp only [World.advance]
      split
      next absent =>
        rw [ConnectionMap.removeDeviceConnection_none absent] at agrees
        exact absurd agrees wrong
      next device map removed =>
        refine ⟨listens, other, mem_goto_of_pending member issued rfl, info, issued, ?_⟩
        show info.type ≠ typeOf (map.connected _ _)
        rw [ConnectionMap.removeDeviceConnection_gone informed.addressed removed]
        exact wrong
    | remove key =>
      obtain ⟨listens, denies⟩ := Classical.not_imp.1 unfit
      obtain ⟨rfl, wrong⟩ := Classical.not_imp.1 denies
      have agrees := informed.agree listens other member info issued
      simp only [World.advance]
      split
      next absent =>
        rw [ConnectionMap.removeAllDeviceConnections_none absent] at agrees
        exact absurd agrees wrong
      next infos map removed =>
        refine ⟨listens, other, mem_goto_of_pending member issued rfl, info, issued, ?_⟩
        show info.type ≠ typeOf (map.connected _ _)
        rw [ConnectionMap.removeAllDeviceConnections_gone informed.addressed removed]
        exact wrong
    | push cb =>
      refine ⟨List.append_ne_nil_of_right_ne_nil _ (List.cons_ne_nil _ _), other, ?_, info, issued, unfit⟩
      exact mem_goto_of_pending (w := { w with deviceListeners := w.deviceListeners ++ [cb] }) member issued rfl
    | register | addDeathRecipient | copyMap | replay | notify | callBack => exact absurd trivial unfit

theorem informed_start : Informed ({} : World L) where
  addressed := ConnectionMap.addressed_empty
  agree := fun _ _ member => absurd member List.not_mem_nil
  known := fun _ member => absurd member List.not_mem_nil
  fresh := fun _ member => absurd member List.not_mem_nil
  told := fun _ listed => absurd listed List.not_mem_nil

end World

/-- While the map is changed and listeners join only when no event that says otherwise is on its way to a listener,
every listener has been told the true state last, whenever no call is in flight. Any other step leaves such an event
on its way, with a listener to hear it. -/
theorem connection_listeners_informed {L : Type} [DecidableEq L] {w : World L}
    (reached : Reach World.step World.Ordered {} w) :
    (w.calls = [] → ∀ cb ∈ w.deviceListeners, ∀ key uid,
      Tells (w.deviceConnectionMap.connected key uid) (lastEvent w.delivered cb key uid)) ∧
    ∀ action w', w.step action = some w' → ¬ w.Ordered action →
      w'.deviceListeners ≠ [] ∧ ∃ other ∈ w'.calls, ∃ info ∈ other.pending,
        info.type ≠ typeOf (w'.deviceConnectionMap.connected (deviceKey info.device) info.uid) := by
  have informed : w.Informed := reached.invariant World.Informed World.informed_start
    fun _ _ _ informed => informed.step
  refine ⟨fun idle cb listed key uid => ?_, fun _ _ => informed.overtaken⟩
  refine (informed.told cb listed key uid).resolve_right ?_
  rw [idle]
  rintro ⟨call, member, -⟩
  cases member

/-- A device that `GetDeviceInfo` reads, and the application `com.example.scanner`. -/
def scanner : UsbDevice :=
  { busNum := 1, devAddr := 2, name := "1-2", vendorId := 4817, productId := 4258, serial := "A1" }

def opening : Request Nat := .addDeviceConnection 1 2 (some ⟨4817, 4258, "A1", []⟩) 100 (some "com.example.scanner")

def closing : Request Nat := .removeDeviceConnection 1 2 100 (some "com.example.scanner")

/-- What the listeners are told of the application. -/
def told (type : ConnectionType) : UsbDeviceConnectionInfo := ⟨type, scanner, 100, "com.example.scanner"⟩

/-- A registration up to its copy of the map. -/
def registers (cb : Nat) : List (Action Nat) :=
  [.start (.registerConnectionListener (some cb) .uecOk), .advance (.register cb) true,
    .advance (.addDeathRecipient cb) true, .advance (.push cb) true, .advance (.copyMap cb) true]

/-- The rest of a registration that found no connections. -/
def registered (cb : Nat) : List (Action Nat) := [.advance (.replay cb []) true]

/-- An `OpenDevice` up to its change of the map, and a `Close` likewise. -/
def opens : List (Action Nat) := [.start opening, .advance (.connect scanner 100 "com.example.scanner") true]

def closes : List (Action Nat) := [.start closing, .advance (.disconnect "1-2" 100 "com.example.scanner") true]

/-- The rest of a call that has changed the map, with one listener. -/
def notifies (type : ConnectionType) (cb : Nat) : List (Action Nat) :=
  [.advance (.notify [told type]) true, .advance (.callBack (told type) [cb] []) true,
    .advance (.callBack (told type) [] []) true, .advance (.notify []) true]

/-- The rest of a call that has changed the map, with no listener. -/
def silent (type : ConnectionType) : List (Action Nat) :=
  [.advance (.notify [told type]) true, .advance (.callBack (told type) [] []) true, .advance (.notify []) true]

/-- An application opens the device and closes it before anybody is told, and nobody listens. Then a listener
registers, and the application opens the device, closes it and opens it again. -/
theorem connection_listeners_informed_reopened :
    ∃ w, Reach World.step World.Ordered {} w ∧ w.deviceListeners = [7] ∧
      w.deviceConnectionMap.connected "1-2" 100 = true ∧ lastEvent w.delivered 7 "1-2" 100 = some .connect := by
  have run : Reach World.step World.Ordered ({} : World Nat) _ := reach_of_guarded
    (opens ++ closes ++ silent .disconnect ++ silent .connect ++ registers 7 ++ registered 7 ++
      opens ++ notifies .connect 7 ++ closes ++ notifies .disconnect 7 ++ opens ++ notifies .connect 7)
    .init rfl
  exact ⟨_, run, rfl, by decide +kernel,
    (connection_listeners_informed run).1 rfl 7 (List.mem_singleton_self 7) "1-2" 100⟩

/-- The device is closed before the listener is told that it is open: it is told so last, by `OpenDevice` or by
its own registration. -/
theorem connection_listener_misled :
    (∃ w : World Nat, Reach World.step anyStep {} w ∧ w.calls = [] ∧ w.deviceListeners = [7] ∧
      w.deviceConnectionMap.connected "1-2" 100 = false ∧ lastEvent w.delivered 7 "1-2" 100 = some .connect) ∧
    ∃ w : World Nat, Reach World.step anyStep {} w ∧ w.calls = [] ∧ w.deviceListeners = [7] ∧
      w.deviceConnectionMap.connected "1-2" 100 = false ∧ lastEvent w.delivered 7 "1-2" 100 = some .connect := by
  have opened : Reach World.step anyStep ({} : World Nat) _ := reach_of_runFrom
    (registers 7 ++ registered 7 ++ opens ++ closes ++ notifies .disconnect 7 ++ notifies .connect 7)
      (fun _ _ _ => trivial) .init rfl
  have joined : Reach World.step anyStep ({} : World Nat) _ := reach_of_runFrom
    (opens ++ silent .connect ++ registers 7 ++ closes ++ notifies .disconnect 7 ++
      [.advance (.replay 7 [told .connect]) true, .advance (.replay 7 []) true])
    (fun _ _ _ => trivial) .init rfl
  exact ⟨⟨_, opened, rfl, rfl, by decide +kernel, by decide +kernel⟩,
    _, joined, rfl, rfl, by decide +kernel, by decide +kernel⟩

end UsbManager.Connection
