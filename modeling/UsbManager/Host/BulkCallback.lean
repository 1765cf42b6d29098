import UsbManager.Lib.Transition
import UsbManager.Service.ErrCode

/-!
# Bulk callbacks

`RegBulkCallback` wraps the client's callback for the driver, which delivers the completions of a
device's pipe to the wrapper that was registered last for this pair. The manager keeps one wrapper,
`usbHostHdiCb_`: it is made of the callback that comes first and serves every later registration of
any client, until an `UnRegBulkCallback` of any pair drops it. A wrapper never changes its `remote_`,
so it is modelled as the callback in it.

The ghost `latest` is the last registration of each pair that returned `UEC_OK`, with its client.
-/

namespace UsbManager.Host

open Transition

/-- `UsbDev` and `UsbPipe`, by which the driver finds a callback. -/
structure BulkPipe where
  busNum : UInt8
  devAddr : UInt8
  intfId : UInt8
  endpointId : UInt8
  deriving DecidableEq, Repr

structure BulkCallbacks (Client Callback : Type) where
  /-- `usbHostInterface_ != nullptr`. -/
  usbHostInterface : Bool
  usbHostHdiCb : Option Callback := none
  /-- The wrapper that the driver holds for each pair. -/
  route : BulkPipe → Option Callback := fun _ => none
  latest : BulkPipe → Option (Client × Callback) := fun _ => none

/-- A call of one client; `ret` is the driver's answer, if the call gets that far. -/
inductive BulkCall (Client Callback : Type) where
  | regBulkCallback (client : Client) (pipe : BulkPipe) (cb : Option Callback) (ret : UsbErrCode)
  | unRegBulkCallback (client : Client) (pipe : BulkPipe) (ret : UsbErrCode)

namespace BulkCallbacks

variable {Client Callback : Type} (b : BulkCallbacks Client Callback)

def setRoute (pipe : BulkPipe) (wrapper : Option Callback) : BulkCallbacks Client Callback :=
  { b with route := fun p => if p = pipe then wrapper else b.route p }

def setLatest (pipe : BulkPipe) (registration : Option (Client × Callback)) : BulkCallbacks Client Callback :=
  { b with latest := fun p => if p = pipe then registration else b.latest p }

/-- `RegBulkCallback`; the wrapper is made before the interface is checked, and stays if the driver refuses. -/
def regBulkCallback (client : Client) (pipe : BulkPipe) (cb : Option Callback) (ret : UsbErrCode) :
    UsbErrCode × BulkCallbacks Client Callback :=
  match cb with
  | none => (.uecServiceInvalidValue, b)
  | some cb =>
    let wrapper := b.usbHostHdiCb.getD cb
    let wrapped := { b with usbHostHdiCb := some wrapper }
    if wrapped.usbHostInterface then
      if ret = .uecOk then (ret, (wrapped.setRoute pipe (some wrapper)).setLatest pipe (some (client, cb)))
      else (ret, wrapped)
    else (.uecServiceInvalidValue, wrapped)

def unRegBulkCallback (pipe : BulkPipe) (ret : UsbErrCode) : UsbErrCode × BulkCallbacks Client Callback :=
  if b.usbHostInterface then
    let dropped := { b with usbHostHdiCb := none }
    if ret = .uecOk then (ret, (dropped.setRoute pipe none).setLatest pipe none) else (ret, dropped)
  else (.uecServiceInvalidValue, b)

def step : BulkCall Client Callback → Option (BulkCallbacks Client Callback)
  | .regBulkCallback client pipe cb ret => some (b.regBulkCallback client pipe cb ret).2
  | .unRegBulkCallback _ pipe ret => some (b.unRegBulkCallback pipe ret).2

/-- The callback to which the wrapper forwards a completion of `pipe`. -/
def forwardTo (pipe : BulkPipe) : Option Callback := b.route pipe

/-- Every completion goes to the callback of the pair's own latest registration. -/
def Routed : Prop := ∀ pipe, b.forwardTo pipe = (b.latest pipe).map (·.2)

/-- A registration that the driver takes finds no wrapper, or one of its own callback. -/
def OwnWrapper : BulkCall Client Callback → Prop
  | .regBulkCallback _ _ (some cb) ret =>
    b.usbHostInterface = true → ret = .uecOk → b.usbHostHdiCb = none ∨ b.usbHostHdiCb = some cb
  | _ => True

instance [DecidableEq Callback] : ∀ (b : BulkCallbacks Client Callback) call, Decidable (b.OwnWrapper call)
  | _, .regBulkCallback _ _ (some _) _ => inferInstanceAs (Decidable (_ → _ → _ ∨ _))
  | _, .regBulkCallback _ _ none _ | _, .unRegBulkCallback .. => inferInstanceAs (Decidable True)

variable {b}

theorem routed_setBoth (pipe : BulkPipe) (wrapper : Option Callback) (registration : Option (Client × Callback))
    (routed : b.Routed) :
    ((b.setRoute pipe wrapper).setLatest pipe registration).Routed ↔ wrapper = registration.map (·.2) := by
  constructor
  · intro after
    simpa [forwardTo, setRoute, setLatest] using after pipe
  · intro same other
    by_cases here : other = pipe
    · simp [forwardTo, setRoute, setLatest, here, same]
    · simpa [forwardTo, setRoute, setLatest, here] using routed other

/-- From a state that is routed, a call keeps it so exactly if it finds its own wrapper. -/
theorem routed_step {b' : BulkCallbacks Client Callback} {call : BulkCall Client Callback} (routed : b.Routed)
    (taken : b.step call = some b') : b'.Routed ↔ b.OwnWrapper call := by
  cases call with
  | unRegBulkCallback client pipe ret =>
    obtain rfl := Option.some.inj taken
    refine iff_of_true ?_ trivial
    unfold unRegBulkCallback
    dsimp only
    split
    next =>
      split
      next => exact (routed_setBoth (b := { b with usbHostHdiCb := none }) pipe none none routed).2 rfl
      next => exact routed
    next => exact routed
  | regBulkCallback client pipe cb ret =>
    obtain rfl := Option.some.inj taken
    cases cb with
    | none => exact iff_of_true routed trivial
    | some cb =>
      unfold regBulkCallback OwnWrapper
      dsimp only
      split
      next present =>
        split
        next accepted =>
          let wrapped := { b with usbHostHdiCb := some (b.usbHostHdiCb.getD cb) }
          have after := routed_setBoth (b := wrapped) pipe (some (b.usbHostHdiCb.getD cb)) (some (client, cb)) routed
          refine after.trans ?_
          cases b.usbHostHdiCb <;> simp [present, accepted]
        next refused => exact iff_of_true routed fun _ accepted => absurd accepted refused
      next absent => exact iff_of_true routed fun present => absurd present absent

/-- An unregistration leaves the routing of every other pair alone. -/
theorem unRegBulkCallback_other (pipe : BulkPipe) (ret : UsbErrCode) {other : BulkPipe} (differs : other ≠ pipe) :
    (b.unRegBulkCallback pipe ret).2.forwardTo other = b.forwardTo other := by
  unfold unRegBulkCallback
  dsimp only
  split
  next =>
    split
    next => simp [forwardTo, setRoute, setLatest, differs]
    next => rfl
  next => rfl

/-- In runs whose accepted registrations find their own wrapper, completions go where the pair's
latest registration says, and this is what a further call has to meet; an unregistration concerns
its own pair only. -/
theorem completions_reach_registrant {present : Bool} {b : BulkCallbacks Client Callback}
    (run : Reach step OwnWrapper { usbHostInterface := present } b) :
    (∀ pipe, b.forwardTo pipe = (b.latest pipe).map (·.2)) ∧
      (∀ call b', b.step call = some b' → (b'.Routed ↔ b.OwnWrapper call)) ∧
      ∀ client pipe ret b', b.step (.unRegBulkCallback client pipe ret) = some b' →
        ∀ other, other ≠ pipe → b'.forwardTo other = b.forwardTo other := by
  have routed : b.Routed := run.invariant Routed (fun _ => rfl) fun s call s' routed own taken =>
    (routed_step routed taken).2 own
  refine ⟨routed, fun call b' taken => routed_step routed taken, fun client pipe ret b' taken other differs => ?_⟩
  obtain rfl := Option.some.inj taken
  exact unRegBulkCallback_other pipe ret differs

/-- One client with two pipes and one callback, and after its unregistration a second client. -/
theorem completions_reach_registrant_in_turn :
    ∃ b : BulkCallbacks Nat Nat, Reach step OwnWrapper { usbHostInterface := true } b ∧
      b.forwardTo ⟨1, 2, 0, 1⟩ = some 10 ∧ b.forwardTo ⟨1, 3, 0, 1⟩ = some 20 := by
  have run : Reach (A := BulkCall Nat Nat) step OwnWrapper { usbHostInterface := true } _ := reach_of_guarded
    [.regBulkCallback 1 ⟨1, 2, 0, 1⟩ (some 10) .uecOk, .regBulkCallback 1 ⟨1, 2, 0, 2⟩ (some 10) .uecOk,
      .unRegBulkCallback 1 ⟨1, 2, 0, 2⟩ .uecOk, .regBulkCallback 2 ⟨1, 3, 0, 1⟩ (some 20) .uecOk]
    .init rfl
  have routed := (completions_reach_registrant run).1
  exact ⟨_, run, routed ⟨1, 2, 0, 1⟩, routed ⟨1, 3, 0, 1⟩⟩

/-- Two clients register for different devices: the completions of the second reach the first. -/
theorem second_client_unheard :
    ∃ b : BulkCallbacks Nat Nat, Reach step anyStep { usbHostInterface := true } b ∧
      b.latest ⟨1, 2, 0, 1⟩ = some (1, 10) ∧ b.latest ⟨1, 3, 0, 1⟩ = some (2, 20) ∧
      b.forwardTo ⟨1, 3, 0, 1⟩ = some 10 := by
  have run : Reach (A := BulkCall Nat Nat) step anyStep { usbHostInterface := true } _ :=
    reach_of_runFrom
      [.regBulkCallback 1 ⟨1, 2, 0, 1⟩ (some 10) .uecOk, .regBulkCallback 2 ⟨1, 3, 0, 1⟩ (some 20) .uecOk]
      (fun _ _ _ => trivial) .init rfl
  exact ⟨_, run, rfl, rfl, rfl⟩

end BulkCallbacks

end UsbManager.Host
