import UsbManager.Claim.Lookup
import UsbManager.Claim.Operations

/-!
# The client side of exclusive claims

`UsbSrvClient` passes one callback object, `claimCallback_`, with every exclusive claim. The object
finds the listener of a conflict in its own table, `listeners_`, under the same text key as the
service's claim table. The client's calls go through `proxy_`, which is null until it is connected.
A call is run to its end on both sides.
-/

namespace UsbManager.Claim

open Std (ExtTreeMap)

variable {Listener : Type}

/-! ## The listener table -/

/-- `ClaimExclusiveCallback::listeners_`. -/
abbrev Listeners (Listener : Type) := ExtTreeMap String Listener

/-- `ClaimExclusiveCallback::MakeKey`. -/
def makeKey (busNum devAddr interfaceId : UInt8) : String :=
  toString busNum.toNat ++ "-" ++ toString devAddr.toNat ++ "-" ++ toString interfaceId.toNat

namespace Listeners

variable (l : Listeners Listener)

def addListener (b d i : UInt8) (listener : Option Listener) : Listeners Listener :=
  match listener with
  | none => l
  | some listener => l.insert (makeKey b d i) listener

def removeListener (b d i : UInt8) : Listeners Listener := l.erase (makeKey b d i)

def removeListenersByDevice (b d : UInt8) : Listeners Listener :=
  l.filter fun key _ => !comparePrefix key (claimPrefix b d)

/-- The listener that `onConflict` calls. -/
def onConflict (b d i : UInt8) : Option Listener := l[makeKey b d i]?

end Listeners

/-! ## The client -/

structure UsbSrvClient (Listener : Type) where
  tokenId : TokenId
  /-- The remote object of `claimCallback_`, as the service knows it. -/
  object : Callback
  /-- `claimCallback_`, which may be null, by its `listeners_`. -/
  claimCallback : Option (Listeners Listener)

namespace UsbSrvClient

variable (c : UsbSrvClient Listener)

/-- What a client call returns and leaves. -/
structure Returned (Listener : Type) where
  ret : UsbErrCode
  client : UsbSrvClient Listener
  table : ClaimTable

def setListeners (listeners : Listeners Listener) : UsbSrvClient Listener := { c with claimCallback := some listeners }

/-- A call that sends its answer on, and tells `claimCallback_` in any case. -/
def forward (outcome : Outcome) (tell : Listeners Listener → Listeners Listener) : Returned Listener :=
  ⟨outcome.ret, { c with claimCallback := c.claimCallback.map tell }, outcome.table⟩

def forceFlag (force : Bool) : UInt8 := if force then 1 else 0

def claimInterface (proxy : Bool) (b d i : UInt8) (force : Bool) (env : Env) (table : ClaimTable) : Returned Listener :=
  if proxy then c.forward (Claim.claimInterface c.tokenId b d i (forceFlag force) env table) id
  else ⟨.uecInterfaceNoInit, c, table⟩

def claimInterfaceExclusive (proxy : Bool) (b d i : UInt8) (force : Bool) (callback : Option Listener) (env : Env)
    (table : ClaimTable) : Returned Listener :=
  if proxy then
    match c.claimCallback with
    | none => ⟨.uecServiceInvalidValue, c, table⟩
    | some listeners =>
      let added := listeners.addListener b d i callback
      let outcome := Claim.claimInterfaceExclusive c.tokenId b d i (forceFlag force) (some c.object) env table
      if outcome.ret ≠ .uecOk then ⟨outcome.ret, c.setListeners (added.removeListener b d i), outcome.table⟩
      else ⟨outcome.ret, c.setListeners added, outcome.table⟩
  else ⟨.uecInterfaceNoInit, c, table⟩

def releaseInterface (proxy : Bool) (b d i : UInt8) (env : Env) (table : ClaimTable) : Returned Listener :=
  if proxy then c.forward (Claim.releaseInterface c.tokenId b d i env table) (·.removeListener b d i)
  else ⟨.uecInterfaceNoInit, c, table⟩

/-- `Close`; the source returns whether the result is `UEC_OK`, and false without a proxy. -/
def close (proxy : Bool) (b d : UInt8) (env : Env) (table : ClaimTable) : Returned Listener :=
  if proxy then c.forward (Claim.close c.tokenId b d env table) (·.removeListenersByDevice b d)
  else ⟨.uecInterfaceNoInit, c, table⟩

/-- `CloseEx`; `connected` is whether its `Connect` succeeds. The listeners stay. -/
def closeEx (connected proxy : Bool) (b d : UInt8) (env : Env) (table : ClaimTable) : Returned Listener :=
  if connected && proxy then c.forward (Claim.close c.tokenId b d env table) id
  else ⟨.uecInterfaceNoInit, c, table⟩

/-- The listener registered for an interface. -/
def listener (b d i : UInt8) : Option Listener := c.claimCallback.bind (·.onConflict b d i)

end UsbSrvClient

/-! ## What the calls do to the listener of an interface -/

section Listener

variable {b d i b' d' i' : UInt8} {l : Listeners Listener} (c : UsbSrvClient Listener)

theorem onConflict_addListener (listener : Listener) :
    (l.addListener b d i (some listener)).onConflict b' d' i' =
      if b = b' ∧ d = d' ∧ i = i' then some listener else l.onConflict b' d' i' := by
  have same : makeKey b d i = makeKey b' d' i' ↔ b = b' ∧ d = d' ∧ i = i' := makeClaimKey_inj
  simp only [Listeners.addListener, Listeners.onConflict, ExtTreeMap.getElem?_insert,
    Std.LawfulEqCmp.compare_eq_iff_eq, same]

theorem onConflict_removeListener :
    (l.removeListener b d i).onConflict b' d' i' =
      if b = b' ∧ d = d' ∧ i = i' then none else l.onConflict b' d' i' := by
  have same : makeKey b d i = makeKey b' d' i' ↔ b = b' ∧ d = d' ∧ i = i' := makeClaimKey_inj
  simp only [Listeners.removeListener, Listeners.onConflict, ExtTreeMap.getElem?_erase,
    Std.LawfulEqCmp.compare_eq_iff_eq, same]

theorem removeListenersByDevice_getElem? (key : String) :
    (l.removeListenersByDevice b d)[key]? = if comparePrefix key (claimPrefix b d) then none else l[key]? := by
  rw [Listeners.removeListenersByDevice, ExtTreeMap.getElem?_filter']
  cases comparePrefix key (claimPrefix b d) <;> cases l[key]? <;> rfl

theorem onConflict_removeListenersByDevice :
    (l.removeListenersByDevice b d).onConflict b' d' i' =
      if b = b' ∧ d = d' then none else l.onConflict b' d' i' := by
  have same : comparePrefix (makeKey b' d' i') (claimPrefix b d) = true ↔ b = b' ∧ d = d' :=
    comparePrefix_makeClaimKey
  simp only [Listeners.onConflict, removeListenersByDevice_getElem?, same]

namespace UsbSrvClient

theorem forward_listener (outcome : Outcome) (tell : Listeners Listener → Listeners Listener) :
    (c.forward outcome tell).client.listener b d i = c.claimCallback.bind fun l => (tell l).onConflict b d i := by
  cases has : c.claimCallback <;> simp [forward, listener, has]

theorem releaseInterface_listener (b d i b' d' i' : UInt8) (env : Env) (table : ClaimTable) :
    (c.releaseInterface true b d i env table).client.listener b' d' i' =
      if b = b' ∧ d = d' ∧ i = i' then none else c.listener b' d' i' := by
  rw [releaseInterface, if_pos rfl, forward_listener]
  simp only [onConflict_removeListener, listener]
  split <;> cases c.claimCallback <;> rfl

theorem close_listener (b d b' d' i' : UInt8) (env : Env) (table : ClaimTable) :
    (c.close true b d env table).client.listener b' d' i' = if b = b' ∧ d = d' then none else c.listener b' d' i' := by
  rw [close, if_pos rfl, forward_listener]
  simp only [onConflict_removeListenersByDevice, listener]
  split <;> cases c.claimCallback <;> rfl

/-- An exclusive claim that reaches the service returns its answer, and registers the listener or
removes the one that was there. -/
theorem claimInterfaceExclusive_sent (has : c.claimCallback.isSome = true) (b d i b' d' i' : UInt8) (force : Bool)
    (callback : Listener) (env : Env) (table : ClaimTable) :
    let outcome := Claim.claimInterfaceExclusive c.tokenId b d i (forceFlag force) (some c.object) env table
    let r := c.claimInterfaceExclusive true b d i force (some callback) env table
    r.ret = outcome.ret ∧ r.table = outcome.table ∧ r.client.tokenId = c.tokenId ∧
      r.client.listener b' d' i' =
        if b = b' ∧ d = d' ∧ i = i' then (if outcome.ret = .uecOk then some callback else none)
        else c.listener b' d' i' := by
  obtain ⟨listeners, has⟩ := Option.isSome_iff_exists.1 has
  intro outcome r
  have sent : r = if outcome.ret ≠ .uecOk then
      ⟨outcome.ret, c.setListeners ((listeners.addListener b d i (some callback)).removeListener b d i), outcome.table⟩
    else ⟨outcome.ret, c.setListeners (listeners.addListener b d i (some callback)), outcome.table⟩ := by
    simp only [r, claimInterfaceExclusive, if_true, has]
    rfl
  by_cases ok : outcome.ret = .uecOk
  · rw [sent, if_neg (not_not.2 ok)]
    refine ⟨rfl, rfl, rfl, ?_⟩
    simp [listener, setListeners, onConflict_addListener, ok, has]
  · rw [sent, if_pos ok]
    refine ⟨rfl, rfl, rfl, ?_⟩
    simp only [listener, setListeners, Option.bind_some, onConflict_removeListener, onConflict_addListener, has,
      if_neg ok]
    split <;> simp_all

end UsbSrvClient

end Listener

end UsbManager.Claim
