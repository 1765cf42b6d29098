import UsbManager.Claim.Client
import UsbManager.Claim.ReleaseSafety
import UsbManager.Claim.Representation

/-!
# Client and service agree on listeners

One `UsbSrvClient` and the claim table of the service, with other clients calling the service in
between. For each interface the client and the service have to agree on four facts, its `View`: the
service records the client as owner, the client has a listener registered, and the ghosts, the
listener of its latest successful claim and whether the device was removed since then. A call is
one `Move` of the view of each interface, and `View.agrees_move` says which moves keep agreement.

They fall out of step where the client changes its table although the service did not change its
own (a repeated claim that fails, a release or a close without permission), where it does not change
it although the service did (`CloseEx`), and where a first claim returns `UEC_OK` unrecorded.
-/

namespace UsbManager.Claim

open Transition

variable {Listener : Type}

/-! ## One interface -/

@[ext]
structure View (Listener : Type) where
  /-- The service records the client as `exclusiveOwner`. -/
  mine : Prop
  /-- The entry of `listeners_`. -/
  listener : Option Listener
  latest : Option Listener
  removed : Bool

/-- What a call does to the view of an interface. -/
inductive Move (Listener : Type) where
  | stay
  /-- A claim that returns `UEC_OK`, with the service recording it or not. -/
  | claim (listener : Listener) (recorded : Bool)
  /-- The client removes its listener; `ended` says that the service drops the claim. -/
  | drop (ended : Bool)
  /-- The service drops the claim and the client keeps its listener. -/
  | forget
  | remove

namespace View

variable (v : View Listener)

def move : Move Listener → View Listener
  | .stay => v
  | .claim listener recorded =>
    { mine := v.mine ∨ recorded = true, listener := some listener, latest := some listener, removed := false }
  | .drop ended => { v with mine := v.mine ∧ ended = false, listener := none }
  | .forget => { v with mine := False }
  | .remove => { v with mine := False, removed := true }

/-- The owner's listener is that of its latest successful claim, and who is not the owner has none. -/
structure Agrees : Prop where
  live : v.mine → ∃ listener, v.latest = some listener ∧ v.listener = some listener
  quiet : ¬ v.mine → v.removed = false → v.listener = none

/-- An owner's device was not removed since the claim; this holds in all runs. -/
def Present : Prop := v.mine → v.removed = false

def Allowed : Move Listener → Prop
  | .stay | .remove => True
  | .claim _ recorded => v.mine ∨ recorded = true
  | .drop ended => v.mine → ended = true
  | .forget => ¬ v.mine

variable {v}

theorem present_move (present : v.Present) (m : Move Listener) : (v.move m).Present := by
  intro mine
  cases m <;> simp_all [move, Present]

theorem allowed_ite (v : View Listener) {c : Prop} [Decidable c] (m : Move Listener) :
    v.Allowed (if c then m else .stay) ↔ (c → v.Allowed m) := by
  split
  next moves => exact ⟨fun allowed _ => allowed, fun allowed => allowed moves⟩
  next stays => exact ⟨fun _ moves => absurd moves stays, fun _ => trivial⟩

/-- A move keeps agreement exactly if it is allowed. -/
theorem agrees_move (agrees : v.Agrees) (present : v.Present) (m : Move Listener) :
    (v.move m).Agrees ↔ v.Allowed m := by
  have live := agrees.live
  have quiet := agrees.quiet
  cases m with
  | stay => exact iff_of_true agrees trivial
  | claim listener recorded =>
    constructor
    · intro after
      by_contra unrecorded
      cases after.quiet unrecorded rfl
    · intro allowed
      exact ⟨fun _ => ⟨listener, rfl, rfl⟩, fun gone => absurd allowed gone⟩
  | drop ended =>
    constructor
    · intro after mine
      by_contra stays
      obtain ⟨listener, -, registered⟩ := after.live ⟨mine, by simpa using stays⟩
      cases registered
    · intro allowed
      refine ⟨fun mine => ?_, fun _ _ => rfl⟩
      rw [allowed mine.1] at mine
      cases mine.2
  | forget =>
    constructor
    · intro after mine
      obtain ⟨listener, -, registered⟩ := live mine
      have silent : v.listener = none := after.quiet id (present mine)
      rw [registered] at silent
      cases silent
    · intro other
      exact ⟨False.elim, fun _ kept => quiet other kept⟩
  | remove => exact iff_of_true ⟨False.elim, fun _ kept => (by cases kept)⟩ trivial

end View

/-! ## The client, the service and the others -/

structure Place where
  b : UInt8
  d : UInt8
  i : UInt8
  deriving DecidableEq

namespace Place

def key (p : Place) : String := makeClaimKey p.b p.d p.i

theorem key_eq {p : Place} {b d i : UInt8} : makeClaimKey b d i = p.key ↔ p = ⟨b, d, i⟩ := by
  obtain ⟨b', d', i'⟩ := p
  rw [key, makeClaimKey_inj]
  simp only [mk.injEq]
  exact ⟨fun ⟨h, h', h''⟩ => ⟨h.symm, h'.symm, h''.symm⟩, fun ⟨h, h', h''⟩ => ⟨h.symm, h'.symm, h''.symm⟩⟩

theorem comparePrefix_key {p : Place} {b d : UInt8} :
    comparePrefix p.key (claimPrefix b d) = true ↔ p.b = b ∧ p.d = d := by
  rw [key, comparePrefix_makeClaimKey]
  exact and_congr eq_comm eq_comm

end Place

/-- A call of the client; `connected` is the result of the `Connect` of `CloseEx`. -/
inductive ClientCall (Listener : Type) where
  | claimInterface (p : Place) (force : Bool)
  | claimInterfaceExclusive (p : Place) (force : Bool) (callback : Listener)
  | releaseInterface (p : Place)
  | close (b d : UInt8)
  | closeEx (b d : UInt8) (connected : Bool)

/-- A call of the client, through its proxy if it has one, or of somebody else. -/
inductive ClientEvent (Listener : Type) where
  | call (call : ClientCall Listener) (proxy : Bool) (env : Env)
  | other (op : Op) (env : Env)

structure Shared (Listener : Type) where
  client : UsbSrvClient Listener
  table : ClaimTable := {}
  latest : Place → Option Listener := fun _ => none
  removed : Place → Bool := fun _ => false

def ClientCall.exec (call : ClientCall Listener) (proxy : Bool) (env : Env) (c : UsbSrvClient Listener)
    (table : ClaimTable) : UsbSrvClient.Returned Listener :=
  match call with
  | .claimInterface p force => c.claimInterface proxy p.b p.d p.i force env table
  | .claimInterfaceExclusive p force callback =>
    c.claimInterfaceExclusive proxy p.b p.d p.i force (some callback) env table
  | .releaseInterface p => c.releaseInterface proxy p.b p.d p.i env table
  | .close b d => c.close proxy b d env table
  | .closeEx b d connected => c.closeEx connected proxy b d env table

/-- The listener of a claim of `p` that succeeded. -/
def ClientCall.claimed (call : ClientCall Listener) (ret : UsbErrCode) (p : Place) : Option Listener :=
  match call with
  | .claimInterfaceExclusive q _ callback => if ret = .uecOk ∧ p = q then some callback else none
  | _ => none

def Op.removes (op : Op) (p : Place) : Bool :=
  match op with
  | .delDevice _ b d => p.b = b && p.d = d
  | _ => false

namespace Shared

variable (w : Shared Listener)

def step : ClientEvent Listener → Option (Shared Listener)
  | .call call proxy env =>
    let r := call.exec proxy env w.client w.table
    some
      { client := r.client
        table := r.table
        latest := fun p => (call.claimed r.ret p).or (w.latest p)
        removed := fun p => w.removed p && (call.claimed r.ret p).isNone }
  | .other op env =>
    -- the calls of this client go through the client, and it is alive
    if op.client = w.client.tokenId then none
    else some { w with
      table := (op.exec env w.table).table
      removed := fun p => w.removed p || op.removes p }

def Mine (p : Place) : Prop := w.table.owner p.key = w.client.tokenId.1

instance (p : Place) : Decidable (w.Mine p) := inferInstanceAs (Decidable (_ = _))

def view (p : Place) : View Listener where
  mine := w.Mine p
  listener := w.client.listener p.b p.d p.i
  latest := w.latest p
  removed := w.removed p

end Shared

/-! ## A call moves the view of each interface -/

/-- The permission check, the host manager and the driver let a claim pass. -/
def Env.acceptsClaim (env : Env) (p : Place) (force : Bool) : Bool :=
  env.permitted && !env.host.isNull &&
    (env.host.call (.claimInterface p.b p.d p.i (UsbSrvClient.forceFlag force))).1 == .uecOk

def checkPasses (p : Place) (t : TokenId) (table : ClaimTable) : Bool :=
  match checkExclusiveClaim p.b p.d p.i t table with
  | .ok _ => true
  | .error _ => false

theorem claimInterfaceExclusive_ret (p : Place) (t : TokenId) (force : Bool) (cb : Option Callback) (env : Env)
    (table : ClaimTable) :
    (claimInterfaceExclusive t p.b p.d p.i (UsbSrvClient.forceFlag force) cb env table).ret = .uecOk ↔
      env.acceptsClaim p force = true ∧ checkPasses p t table = true := by
  obtain ⟨permitted, host, added⟩ := env
  unfold claimInterfaceExclusive checkPasses Env.acceptsClaim
  cases permitted with
  | false => simp
  | true =>
    cases checked : checkExclusiveClaim p.b p.d p.i t table with
    | error busy =>
      have refused := checkExclusiveClaim_error checked
      cases host <;> simp [HostManager.isNull, refused]
    | ok isRepeat =>
      cases host with
      | null => simp [HostManager.isNull]
      | noInterface => simp [HostManager.isNull, HostManager.call]
      | driver answer =>
        by_cases ok : answer (.claimInterface p.b p.d p.i (UsbSrvClient.forceFlag force)) = .uecOk <;>
          simp [HostManager.isNull, HostManager.call, ok]

/-- The check of a claim finds a repeat exactly if the caller is the owner. -/
theorem checkExclusiveClaim_owner {p : Place} {t : TokenId} {table : ClaimTable} (owned : table.owner p.key = t) :
    checkExclusiveClaim p.b p.d p.i t table = .ok true := by
  rw [ClaimTable.owner_eq] at owned
  unfold checkExclusiveClaim
  cases found : table.claimStateMap[makeClaimKey p.b p.d p.i]? with
  | none =>
    rw [Place.key, found] at owned
    exact absurd owned.symm t.2
  | some state =>
    rw [Place.key, found] at owned
    exact if_pos owned

/-! ### The owner after a call -/

section Owner

variable {t : TokenId} {p q : Place} {env : Env} {table : ClaimTable}

theorem claimInterface_owner {b d i force : UInt8} :
    (claimInterface t b d i force env table).table.owner p.key = table.owner p.key := by
  rcases claimInterface_cases t b d i force env table with ⟨-, left, -⟩ | ⟨-, left⟩
  · rw [left, notifyExclusiveOwner_owner]
  · rw [left]

theorem registerExclusiveCallback_mine {isRepeat : Bool} (cb : Callback) (added : Bool) (p : Place)
    (checked : checkExclusiveClaim q.b q.d q.i t table = .ok isRepeat) :
    (registerExclusiveCallback q.b q.d q.i t (some cb) isRepeat added table).owner p.key = t ↔
      table.owner p.key = t ∨ (p = q ∧ added = true) := by
  cases added with
  | false => simp [registerExclusiveCallback]
  | true =>
    simp only [registerExclusiveCallback_owner, Place.key_eq]
    by_cases here : p = q
    · subst here
      cases isRepeat with
      | false => simp
      | true =>
        have mine : table.owner p.key = t := checkExclusiveClaim_repeat checked
        simp [mine]
    · simp [here]

theorem releaseInterface_mine (t : TokenId) (p q : Place) (env : Env) (table : ClaimTable) :
    (releaseInterface t q.b q.d q.i env table).table.owner p.key = t ↔
      table.owner p.key = t ∧ ¬ (p = q ∧ env.permitted = true) := by
  have nonzero := t.2.symm
  rw [releaseInterface_table]
  cases env.permitted with
  | false => simp
  | true =>
    simp only [if_true, releaseClaimState_owner, Place.key_eq]
    by_cases mine : table.owner p.key = t <;> by_cases here : p = q <;> simp_all

theorem close_mine (t : TokenId) (p : Place) (b d : UInt8) (env : Env) (table : ClaimTable) :
    (close t b d env table).table.owner p.key = t ↔
      table.owner p.key = t ∧ ¬ (p.b = b ∧ p.d = d ∧ env.permitted = true) := by
  have nonzero := t.2.symm
  rw [close_table]
  cases env.permitted with
  | false => simp
  | true =>
    simp only [if_true, removeExclusiveClaimByDevice_owner, Place.comparePrefix_key]
    by_cases here : p.b = b ∧ p.d = d <;> by_cases mine : table.owner p.key = t <;> simp_all

/-- What another client's call leaves of the client's claim on an interface it does not remove. -/
theorem Sections.mine {op : Op} {after : ClaimTable} (sections : Sections table op after) (other : op.client ≠ t)
    (kept : op.removes p = false) : after.owner p.key = t ↔ table.owner p.key = t := by
  constructor
  · intro mine
    cases sections with
    | skip => exact mine
    | notified => rwa [notifyExclusiveOwner_owner] at mine
    | registered _ =>
      rw [registerExclusiveCallback_owner] at mine
      split at mine
      · exact absurd (Subtype.ext mine) other
      · exact mine
    | released | closed | died | removed =>
      simp only [releaseClaimState_owner, removeExclusiveClaimByDevice_owner, onRemoteDied_owner,
        removeAllClaimByDevice_owner] at mine
      split at mine
      · exact absurd mine t.2.symm
      · exact mine
    | removedClosed =>
      simp only [removeExclusiveClaimByDevice_owner, removeAllClaimByDevice_owner] at mine
      split_ifs at mine
      all_goals first
        | exact absurd mine t.2.symm
        | exact mine
  · intro mine
    refine sections.owner_kept mine fun ended => ?_
    cases op with
    | claimInterface | claimInterfaceExclusive => exact ended
    | releaseInterface | close => exact other ended.1
    | onRemoteDied => exact other ended
    | delDevice =>
      simp only [Op.removes, Bool.and_eq_false_iff, decide_eq_false_iff_not] at kept
      exact kept.elim (fun away => away ended.1.symm) (fun away => away ended.2.symm)

/-- The others can end the client's claim only by the removal of the device. -/
theorem exec_mine {op : Op} (t : TokenId) (p : Place) (env : Env) (table : ClaimTable) (other : op.client ≠ t) :
    (op.exec env table).table.owner p.key = t ↔ table.owner p.key = t ∧ op.removes p = false := by
  cases removed : op.removes p with
  | false => simpa using (op.exec_sections env table).mine other removed
  | true =>
    cases op with
    | delDevice t' b d =>
      have here : p.b = b ∧ p.d = d := by simpa [Op.removes] using removed
      have gone : (removeAllClaimByDevice b d table).owner p.key = 0 := by
        rw [removeAllClaimByDevice_owner, if_pos (Place.comparePrefix_key.2 here)]
      have zero := t.2.symm
      simp [Op.exec, delDevice, close_table, apply_ite (fun after : ClaimTable => after.owner p.key), gone, zero]
    | _ => cases removed

end Owner

theorem checkPasses_owner {p : Place} {t : TokenId} {table : ClaimTable} (owned : table.owner p.key = t) :
    checkPasses p t table = true := by
  rw [checkPasses, checkExclusiveClaim_owner owned]

namespace Shared

variable (w : Shared Listener)

/-- The move that an event makes at `p`. -/
def moveAt (p : Place) : ClientEvent Listener → Move Listener
  | .call (.claimInterface ..) _ _ => .stay
  | .call (.claimInterfaceExclusive q force callback) proxy env =>
    if proxy && w.client.claimCallback.isSome && p = q then
      if env.acceptsClaim q force && checkPasses q w.client.tokenId w.table then .claim callback env.addDeathRecipient
      else .drop false
    else .stay
  | .call (.releaseInterface q) proxy env => if proxy && p = q then .drop env.permitted else .stay
  | .call (.close b d) proxy env => if proxy && p.b = b && p.d = d then .drop env.permitted else .stay
  | .call (.closeEx b d connected) proxy env =>
    if connected && proxy && env.permitted && p.b = b && p.d = d then .forget else .stay
  | .other op _ => if op.removes p then .remove else .stay

variable {w} {w' : Shared Listener} {p q : Place} {env : Env}

theorem away_of_ne (here : p ≠ q) : ¬ (q.b = p.b ∧ q.d = p.d ∧ q.i = p.i) := by
  rintro ⟨hb, hd, hi⟩
  cases p
  cases q
  exact here (by simp_all)

/-- The view after a call, from what the call returned. -/
theorem view_call {call : ClientCall Listener} {proxy : Bool} {v : View Listener}
    (taken : w.step (.call call proxy env) = some w')
    (mine : (call.exec proxy env w.client w.table).table.owner p.key =
      (call.exec proxy env w.client w.table).client.tokenId.1 ↔ v.mine)
    (listener : (call.exec proxy env w.client w.table).client.listener p.b p.d p.i = v.listener)
    (latest : (call.claimed (call.exec proxy env w.client w.table).ret p).or (w.latest p) = v.latest)
    (removed : (w.removed p && (call.claimed (call.exec proxy env w.client w.table).ret p).isNone) = v.removed) :
    w'.view p = v := by
  cases taken
  exact View.ext (propext mine) listener latest removed

/-- A call that is no successful claim of `p` leaves what was claimed last. -/
theorem view_unclaimed {call : ClientCall Listener} {proxy : Bool} {v : View Listener}
    (taken : w.step (.call call proxy env) = some w')
    (unclaimed : call.claimed (call.exec proxy env w.client w.table).ret p = none)
    (mine : (call.exec proxy env w.client w.table).table.owner p.key =
      (call.exec proxy env w.client w.table).client.tokenId.1 ↔ v.mine)
    (listener : (call.exec proxy env w.client w.table).client.listener p.b p.d p.i = v.listener)
    (latest : w.latest p = v.latest) (removed : w.removed p = v.removed) : w'.view p = v := by
  refine view_call taken mine listener ?_ ?_
  · rw [unclaimed, Option.none_or, latest]
  · rw [unclaimed, Option.isNone_none, Bool.and_true, removed]

/-- A call that the client refuses by itself changes nothing. -/
theorem view_refused {call : ClientCall Listener} {proxy : Bool} {ret : UsbErrCode}
    (taken : w.step (.call call proxy env) = some w')
    (refused : call.exec proxy env w.client w.table = ⟨ret, w.client, w.table⟩)
    (unclaimed : call.claimed ret p = none) : w'.view p = w.view p := by
  refine view_unclaimed taken ?_ ?_ ?_ rfl rfl
  · rw [refused]
    exact unclaimed
  · rw [refused]
    rfl
  · rw [refused]
    rfl

theorem claimed_refused {ret : UsbErrCode} {force : Bool} {callback : Listener} (refused : ret ≠ .uecOk) :
    (ClientCall.claimInterfaceExclusive q force callback).claimed ret p = none :=
  if_neg fun claimed => refused claimed.1

section Claim

variable {force : Bool} {callback : Listener} (has : w.client.claimCallback.isSome = true)
  (taken : w.step (.call (.claimInterfaceExclusive q force callback) true env) = some w')

include has taken

/-- The service accepts the claim and registers the callback. -/
theorem view_claim_granted {isRepeat : Bool}
    (checked : checkExclusiveClaim q.b q.d q.i w.client.tokenId w.table = .ok isRepeat)
    (granted : (claimInterfaceExclusive w.client.tokenId q.b q.d q.i (UsbSrvClient.forceFlag force)
      (some w.client.object) env w.table).ret = .uecOk)
    (left : (claimInterfaceExclusive w.client.tokenId q.b q.d q.i (UsbSrvClient.forceFlag force)
      (some w.client.object) env w.table).table =
        registerExclusiveCallback q.b q.d q.i w.client.tokenId (some w.client.object) isRepeat env.addDeathRecipient
          w.table) :
    w'.view p = (w.view p).move (w.moveAt p (.call (.claimInterfaceExclusive q force callback) true env)) := by
  obtain ⟨ret, table, token, listener⟩ :=
    w.client.claimInterfaceExclusive_sent has q.b q.d q.i p.b p.d p.i force callback env w.table
  have ok := claimInterfaceExclusive_ret q w.client.tokenId force (some w.client.object) env w.table
  have mine := registerExclusiveCallback_mine w.client.object env.addDeathRecipient p checked
  rw [granted] at ret listener
  rw [left] at table
  by_cases here : p = q
  · subst here
    have claims : w.moveAt p (.call (.claimInterfaceExclusive p force callback) true env) =
        .claim callback env.addDeathRecipient := by
      simp [moveAt, has, ok.1 granted]
    rw [claims]
    have claimed : (ClientCall.claimInterfaceExclusive p force callback).claimed .uecOk p = some callback :=
      if_pos ⟨rfl, rfl⟩
    refine view_call taken ?_ (listener.trans (by simp [View.move])) ?_ ?_
    · rw [ClientCall.exec, table, token, mine]
      simp [View.move, view, Mine]
    · rw [ClientCall.exec, ret, claimed]
      rfl
    · rw [ClientCall.exec, ret, claimed]
      simp [View.move]
  · have stays : w.moveAt p (.call (.claimInterfaceExclusive q force callback) true env) = .stay := by
      simp [moveAt, here]
    rw [stays]
    refine view_unclaimed taken (if_neg fun claimed => here claimed.2) ?_
      (listener.trans (if_neg (away_of_ne here))) rfl rfl
    rw [ClientCall.exec, table, token, mine]
    exact or_iff_left fun claimed => here claimed.1

/-- The service refuses the claim, and the client drops the listener that it has put in its table. -/
theorem view_claim_failed
    (failed : (claimInterfaceExclusive w.client.tokenId q.b q.d q.i (UsbSrvClient.forceFlag force)
      (some w.client.object) env w.table).ret ≠ .uecOk)
    (left : (claimInterfaceExclusive w.client.tokenId q.b q.d q.i (UsbSrvClient.forceFlag force)
      (some w.client.object) env w.table).table = w.table) :
    w'.view p = (w.view p).move (w.moveAt p (.call (.claimInterfaceExclusive q force callback) true env)) := by
  obtain ⟨ret, table, token, listener⟩ :=
    w.client.claimInterfaceExclusive_sent has q.b q.d q.i p.b p.d p.i force callback env w.table
  have ok := claimInterfaceExclusive_ret q w.client.tokenId force (some w.client.object) env w.table
  rw [if_neg failed] at listener
  rw [left] at table
  have unclaimed : (ClientCall.claimInterfaceExclusive q force callback).claimed
      ((ClientCall.claimInterfaceExclusive q force callback).exec true env w.client w.table).ret p = none :=
    claimed_refused fun accepted => failed (ret.symm.trans accepted)
  by_cases here : p = q
  · subst here
    have drops : w.moveAt p (.call (.claimInterfaceExclusive p force callback) true env) = .drop false := by
      simp [moveAt, has, mt ok.2 failed]
    rw [drops]
    refine view_unclaimed taken unclaimed ?_ (listener.trans (if_pos ⟨rfl, rfl, rfl⟩)) rfl rfl
    rw [ClientCall.exec, table, token]
    simp [View.move, view, Mine]
  · have stays : w.moveAt p (.call (.claimInterfaceExclusive q force callback) true env) = .stay := by
      simp [moveAt, here]
    rw [stays]
    refine view_unclaimed taken unclaimed ?_ (listener.trans (if_neg (away_of_ne here))) rfl rfl
    rw [ClientCall.exec, table, token]
    rfl

end Claim

theorem view_claimInterfaceExclusive {force : Bool} {callback : Listener} {proxy : Bool}
    (taken : w.step (.call (.claimInterfaceExclusive q force callback) proxy env) = some w') :
    w'.view p = (w.view p).move (w.moveAt p (.call (.claimInterfaceExclusive q force callback) proxy env)) := by
  cases proxy with
  | false => exact view_refused taken rfl (claimed_refused (by decide))
  | true =>
    cases has : w.client.claimCallback.isSome with
    | false =>
      have null : w.client.claimCallback = none := by simpa using has
      have stays : w.moveAt p (.call (.claimInterfaceExclusive q force callback) true env) = .stay := by
        simp [moveAt, null]
      rw [stays]
      have refused : (ClientCall.claimInterfaceExclusive q force callback).exec true env w.client w.table =
          ⟨.uecServiceInvalidValue, w.client, w.table⟩ := by
        simp only [ClientCall.exec, UsbSrvClient.claimInterfaceExclusive, if_true, null]
      exact view_refused taken refused (claimed_refused (by decide))
    | true =>
      rcases claimInterfaceExclusive_cases w.client.tokenId q.b q.d q.i (UsbSrvClient.forceFlag force)
          (some w.client.object) env w.table with ⟨isRepeat, checked, granted, left⟩ | ⟨failed, left⟩
      · exact view_claim_granted has taken checked granted left
      · exact view_claim_failed has taken failed left

theorem view_releaseInterface {proxy : Bool} (taken : w.step (.call (.releaseInterface q) proxy env) = some w') :
    w'.view p = (w.view p).move (w.moveAt p (.call (.releaseInterface q) proxy env)) := by
  cases proxy with
  | false => exact view_refused taken rfl rfl
  | true =>
    have listener := w.client.releaseInterface_listener q.b q.d q.i p.b p.d p.i env w.table
    have mine := releaseInterface_mine w.client.tokenId p q env w.table
    by_cases here : p = q
    · subst here
      have drops : w.moveAt p (.call (.releaseInterface p) true env) = .drop env.permitted := by simp [moveAt]
      rw [drops]
      refine view_unclaimed taken rfl (mine.trans ?_) (listener.trans (if_pos ⟨rfl, rfl, rfl⟩)) rfl rfl
      simp [View.move, view, Mine]
    · have stays : w.moveAt p (.call (.releaseInterface q) true env) = .stay := by simp [moveAt, here]
      rw [stays]
      refine view_unclaimed taken rfl (mine.trans ?_) (listener.trans (if_neg (away_of_ne here))) rfl rfl
      exact and_iff_left fun inside => here inside.1

theorem view_close {b d : UInt8} {proxy : Bool} (taken : w.step (.call (.close b d) proxy env) = some w') :
    w'.view p = (w.view p).move (w.moveAt p (.call (.close b d) proxy env)) := by
  cases proxy with
  | false => exact view_refused taken rfl rfl
  | true =>
    have listener := w.client.close_listener b d p.b p.d p.i env w.table
    have mine := close_mine w.client.tokenId p b d env w.table
    by_cases here : p.b = b ∧ p.d = d
    · obtain ⟨rfl, rfl⟩ := here
      have drops : w.moveAt p (.call (.close p.b p.d) true env) = .drop env.permitted := by simp [moveAt]
      rw [drops]
      refine view_unclaimed taken rfl (mine.trans ?_) (listener.trans (if_pos ⟨rfl, rfl⟩)) rfl rfl
      simp [View.move, view, Mine]
    · have away : ¬ (b = p.b ∧ d = p.d) := fun both => here ⟨both.1.symm, both.2.symm⟩
      have stays : w.moveAt p (.call (.close b d) true env) = .stay := by simpa [moveAt] using here
      rw [stays]
      refine view_unclaimed taken rfl (mine.trans ?_) (listener.trans (if_neg away)) rfl rfl
      exact and_iff_left fun inside => here ⟨inside.1, inside.2.1⟩

theorem view_closeEx {b d : UInt8} {connected proxy : Bool}
    (taken : w.step (.call (.closeEx b d connected) proxy env) = some w') :
    w'.view p = (w.view p).move (w.moveAt p (.call (.closeEx b d connected) proxy env)) := by
  by_cases sent : (connected && proxy) = true
  · obtain ⟨rfl, rfl⟩ := Bool.and_eq_true_iff.1 sent
    have mine := close_mine w.client.tokenId p b d env w.table
    by_cases ends : p.b = b ∧ p.d = d ∧ env.permitted = true
    · have forgets : w.moveAt p (.call (.closeEx b d true) true env) = .forget := by simp [moveAt, ends]
      rw [forgets]
      refine view_unclaimed taken rfl (mine.trans ?_) (w.client.forward_listener _ id) rfl rfl
      exact iff_of_false (fun both => both.2 ends) id
    · have stays : w.moveAt p (.call (.closeEx b d true) true env) = .stay := by
        simp only [moveAt]
        exact if_neg fun inside => ends (by simp_all)
      rw [stays]
      exact view_unclaimed taken rfl (mine.trans (and_iff_left ends)) (w.client.forward_listener _ id) rfl rfl
  · have stays : w.moveAt p (.call (.closeEx b d connected) proxy env) = .stay := by simp [moveAt, sent]
    rw [stays]
    exact view_refused taken (if_neg sent) rfl

theorem view_claimInterface {force proxy : Bool}
    (taken : w.step (.call (.claimInterface q force) proxy env) = some w') : w'.view p = w.view p := by
  cases proxy with
  | false => exact view_refused taken rfl rfl
  | true =>
    refine view_unclaimed taken rfl ?_ (w.client.forward_listener _ id) rfl rfl
    exact (congrArg (· = w.client.tokenId.1) claimInterface_owner).to_iff

theorem view_other {op : Op} (taken : w.step (.other op env) = some w') :
    w'.view p = (w.view p).move (w.moveAt p (.other op env)) := by
  simp only [step] at taken
  split at taken
  next => cases taken
  next other =>
    cases taken
    have mine := exec_mine w.client.tokenId p env w.table other
    cases removed : op.removes p with
    | true =>
      rw [removed] at mine
      ext1
      · simpa [view, moveAt, View.move, removed, Mine] using mine
      all_goals simp [view, moveAt, View.move, removed]
    | false =>
      rw [removed] at mine
      ext1
      · simpa [view, moveAt, View.move, removed, Mine] using mine
      all_goals simp [view, moveAt, View.move, removed]

/-- Every event is one move of the view of every interface. -/
theorem view_step {e : ClientEvent Listener} (taken : w.step e = some w') (p : Place) :
    w'.view p = (w.view p).move (w.moveAt p e) := by
  cases e with
  | other op env => exact view_other taken
  | call call proxy env =>
    cases call with
    | claimInterface => exact view_claimInterface taken
    | claimInterfaceExclusive => exact view_claimInterfaceExclusive taken
    | releaseInterface => exact view_releaseInterface taken
    | close => exact view_close taken
    | closeEx => exact view_closeEx taken

/-! ## The runs that stay in step -/

/-- A repeated claim is accepted; a first claim that is accepted gets its death recipient; an
interface that the client owns is released and closed with permission; and `CloseEx` does not close
a device with such an interface. -/
def InStep (w : Shared Listener) : ClientEvent Listener → Prop
  | .call (.claimInterfaceExclusive p force _) proxy env =>
    proxy = true → w.client.claimCallback.isSome = true →
      (w.Mine p → env.acceptsClaim p force = true) ∧
      (¬ w.Mine p → env.acceptsClaim p force = true → checkPasses p w.client.tokenId w.table = true →
        env.addDeathRecipient = true)
  | .call (.releaseInterface p) proxy env => proxy = true → w.Mine p → env.permitted = true
  | .call (.close b d) proxy env => proxy = true → ∀ i, w.Mine ⟨b, d, i⟩ → env.permitted = true
  | .call (.closeEx b d connected) proxy env =>
    connected = true → proxy = true → env.permitted = true → ∀ i, ¬ w.Mine ⟨b, d, i⟩
  | .call (.claimInterface ..) _ _ | .other .. => True

theorem inStep_claim_iff (w : Shared Listener) (q : Place) (force : Bool) (callback : Listener) (proxy : Bool)
    (env : Env) :
    w.InStep (.call (.claimInterfaceExclusive q force callback) proxy env) ↔
      ∀ p, (w.view p).Allowed (w.moveAt p (.call (.claimInterfaceExclusive q force callback) proxy env)) := by
  simp only [moveAt, View.allowed_ite, Bool.and_eq_true, decide_eq_true_eq]
  constructor
  · rintro inStep p ⟨⟨sent, has⟩, rfl⟩
    obtain ⟨repeated, fresh⟩ := inStep sent has
    split
    next passes => exact or_iff_not_imp_left.2 fun foreign => fresh foreign passes.1 passes.2
    next fails =>
      -- an owner passes the check, so its claim would have been accepted
      intro mine
      exact absurd ⟨repeated mine, checkPasses_owner mine⟩ fails
  · intro allowed sent has
    have here := allowed q ⟨⟨sent, has⟩, rfl⟩
    split at here
    next passes => exact ⟨fun _ => passes.1, fun foreign _ _ => here.resolve_left foreign⟩
    next fails =>
      refine ⟨fun mine => ?_, fun _ accepts free => absurd ⟨accepts, free⟩ fails⟩
      cases here mine

theorem inStep_iff (w : Shared Listener) (e : ClientEvent Listener) :
    w.InStep e ↔ ∀ p, (w.view p).Allowed (w.moveAt p e) := by
  cases e with
  | other op env =>
    refine iff_of_true trivial fun p => ?_
    simp only [moveAt]
    split <;> trivial
  | call call proxy env =>
    cases call with
    | claimInterface => exact iff_of_true trivial fun p => trivial
    | claimInterfaceExclusive q force callback => exact inStep_claim_iff w q force callback proxy env
    | releaseInterface q =>
      simp only [moveAt, View.allowed_ite, Bool.and_eq_true, decide_eq_true_eq]
      constructor
      · rintro inStep p ⟨sent, rfl⟩
        exact inStep sent
      · intro allowed sent
        exact allowed q ⟨sent, rfl⟩
    | close b d =>
      simp only [moveAt, View.allowed_ite, Bool.and_eq_true, decide_eq_true_eq]
      constructor
      · rintro inStep p ⟨⟨sent, rfl⟩, rfl⟩
        exact inStep sent p.i
      · intro allowed sent i
        exact allowed ⟨b, d, i⟩ ⟨⟨sent, rfl⟩, rfl⟩
    | closeEx b d connected =>
      simp only [moveAt, View.allowed_ite, Bool.and_eq_true, decide_eq_true_eq]
      constructor
      · rintro inStep p ⟨⟨⟨⟨linked, sent⟩, permitted⟩, rfl⟩, rfl⟩
        exact inStep linked sent permitted p.i
      · intro allowed linked sent permitted i
        exact allowed ⟨b, d, i⟩ ⟨⟨⟨⟨linked, sent⟩, permitted⟩, rfl⟩, rfl⟩

/-! ## The callback of the client's entries -/

/-- Every entry that records the client has the client's object to notify. -/
def OwnCallback (w : Shared Listener) : Prop :=
  w.table.Entries fun _ state => state.exclusiveOwner = w.client.tokenId → state.notifyCallback = some w.client.object

theorem ownCallback_exec {op : Op} {table : ClaimTable} {t : TokenId} {object : Callback} {env : Env}
    (own : table.Entries fun _ state => state.exclusiveOwner = t → state.notifyCallback = some object)
    (passed : ∀ b d i force cb, op = .claimInterfaceExclusive t b d i force cb → cb = some object) :
    (op.exec env table).table.Entries fun _ state => state.exclusiveOwner = t → state.notifyCallback = some object := by
  intro key state found mine
  cases (op.exec_sections env table).entry found with
  | kept before => exact own key state before mine
  | cleared => exact absurd mine.symm t.2
  | @denormalized _ before there => exact own key before there mine
  | normalized =>
    rcases own.entry key with absent | notified
    · rw [absent] at mine
      exact absurd mine.symm t.2
    · exact notified mine
  | registered =>
    obtain rfl := Subtype.ext mine
    exact passed _ _ _ _ _ rfl

/-- A client call either leaves the table, or is the service's call with its token and its object. -/
theorem exec_table_cases (call : ClientCall Listener) (proxy : Bool) (env : Env) (c : UsbSrvClient Listener)
    (table : ClaimTable) :
    (call.exec proxy env c table).table = table ∨
      ∃ op : Op, (call.exec proxy env c table).table = (op.exec env table).table ∧
        ∀ t b d i force cb, op = .claimInterfaceExclusive t b d i force cb → cb = some c.object := by
  cases call with
  | claimInterface p force =>
    cases proxy with
    | false => exact .inl rfl
    | true =>
      exact .inr ⟨.claimInterface c.tokenId p.b p.d p.i (UsbSrvClient.forceFlag force), rfl,
        fun _ _ _ _ _ _ same => (by cases same)⟩
  | claimInterfaceExclusive p force callback =>
    cases proxy with
    | false => exact .inl rfl
    | true =>
      cases has : c.claimCallback with
      | none => exact .inl (by simp [ClientCall.exec, UsbSrvClient.claimInterfaceExclusive, has])
      | some listeners =>
        refine .inr ⟨.claimInterfaceExclusive c.tokenId p.b p.d p.i (UsbSrvClient.forceFlag force) (some c.object),
          ?_, ?_⟩
        · exact (c.claimInterfaceExclusive_sent (by simp [has]) p.b p.d p.i p.b p.d p.i force callback env table).2.1
        · intro t b d i force cb same
          cases same
          rfl
  | releaseInterface p =>
    cases proxy with
    | false => exact .inl rfl
    | true => exact .inr ⟨.releaseInterface c.tokenId p.b p.d p.i, rfl, fun _ _ _ _ _ _ same => (by cases same)⟩
  | close b d =>
    cases proxy with
    | false => exact .inl rfl
    | true => exact .inr ⟨.close c.tokenId b d, rfl, fun _ _ _ _ _ _ same => (by cases same)⟩
  | closeEx b d connected =>
    cases connected <;> cases proxy
    · exact .inl rfl
    · exact .inl rfl
    · exact .inl rfl
    · exact .inr ⟨.close c.tokenId b d, rfl, fun _ _ _ _ _ _ same => (by cases same)⟩

/-- The token and the object of the client are fixed. -/
theorem exec_client (call : ClientCall Listener) (proxy : Bool) (env : Env) (c : UsbSrvClient Listener)
    (table : ClaimTable) :
    (call.exec proxy env c table).client.tokenId = c.tokenId ∧
      (call.exec proxy env c table).client.object = c.object := by
  cases call with
  | claimInterface | releaseInterface | close => cases proxy <;> exact ⟨rfl, rfl⟩
  | closeEx b d connected => cases connected <;> cases proxy <;> exact ⟨rfl, rfl⟩
  | claimInterfaceExclusive p force callback =>
    cases proxy with
    | false => exact ⟨rfl, rfl⟩
    | true =>
      simp only [ClientCall.exec, UsbSrvClient.claimInterfaceExclusive, if_true]
      split
      next => exact ⟨rfl, rfl⟩
      next => split <;> exact ⟨rfl, rfl⟩

theorem OwnCallback.step {e : ClientEvent Listener} (own : w.OwnCallback) (taken : w.step e = some w') :
    w'.OwnCallback := by
  cases e with
  | call call proxy env =>
    cases taken
    obtain ⟨token, object⟩ := exec_client call proxy env w.client w.table
    unfold OwnCallback
    rw [token, object]
    rcases exec_table_cases call proxy env w.client w.table with same | ⟨op, same, passed⟩
    · rw [same]
      exact own
    · rw [same]
      exact ownCallback_exec own fun b d i force cb => passed _ b d i force cb
  | other op env =>
    simp only [Shared.step] at taken
    split at taken
    next => cases taken
    next other =>
      cases taken
      refine ownCallback_exec own fun b d i force cb same => absurd ?_ other
      rw [same]
      rfl

/-- A client before its first call, with the `claimCallback_` of its constructor. -/
def init (tokenId : TokenId) (object : Callback) : Shared Listener where
  client := { tokenId := tokenId, object := object, claimCallback := some ∅ }

/-- What holds in a run that stays in step. -/
structure Inv (w : Shared Listener) : Prop where
  agrees : ∀ p, (w.view p).Agrees
  present : ∀ p, (w.view p).Present
  own : w.OwnCallback

theorem inv_init (tokenId : TokenId) (object : Callback) : (init tokenId object : Shared Listener).Inv := by
  have free : ∀ p, ¬ (init tokenId object : Shared Listener).Mine p := fun p mine => by
    have zero : ({} : ClaimTable).owner p.key = 0 := by simp [ClaimTable.owner_eq]
    exact tokenId.2 (mine.symm.trans zero)
  refine ⟨fun p => ⟨fun mine => absurd mine (free p), fun _ _ => ?_⟩, fun p mine => absurd mine (free p), ?_⟩
  · simp [view, init, UsbSrvClient.listener, Listeners.onConflict]
  · exact ClaimTable.entries_empty _

/-- From a state in agreement, a call keeps it exactly if it stays in step. -/
theorem Inv.agrees_step (inv : w.Inv) {e : ClientEvent Listener} (taken : w.step e = some w') :
    (∀ p, (w'.view p).Agrees) ↔ w.InStep e := by
  rw [inStep_iff]
  refine forall_congr' fun p => ?_
  rw [view_step taken]
  exact View.agrees_move (inv.agrees p) (inv.present p) _

theorem inv_of_reach {tokenId : TokenId} {object : Callback} (run : Reach step InStep (init tokenId object) w) :
    w.Inv := by
  refine run.invariant Inv (inv_init tokenId object) ?_
  intro w e w' inv allowed taken
  refine ⟨(inv.agrees_step taken).2 allowed, fun p => ?_, inv.own.step taken⟩
  rw [view_step taken]
  exact View.present_move (inv.present p) _

/-- A normal claim of another client reaches the client's object, once. -/
theorem OwnCallback.notifies (own : w.OwnCallback) {t : TokenId} {force : UInt8} (foreign : t ≠ w.client.tokenId)
    (mine : w.Mine p) (ok : (claimInterface t p.b p.d p.i force env w.table).ret = .uecOk) :
    (claimInterface t p.b p.d p.i force env w.table).effects =
      [.hdi (.claimInterface p.b p.d p.i force), .onConflict w.client.object p.b p.d p.i] := by
  have owned : w.table.owner (makeClaimKey p.b p.d p.i) = w.client.tokenId := mine
  rcases claimInterface_cases t p.b p.d p.i force env w.table with ⟨-, -, effects⟩ | ⟨failed, -⟩
  · have notify : (w.table.entry p.key).notifyCallback = some w.client.object := by
      rcases own.entry p.key with absent | notified
      · rw [Mine, ClaimTable.owner, absent] at mine
        exact absurd mine.symm w.client.tokenId.2
      · exact notified mine
    have other : w.table.owner (makeClaimKey p.b p.d p.i) ≠ 0 ∧ w.table.owner (makeClaimKey p.b p.d p.i) ≠ t := by
      rw [owned]
      exact ⟨w.client.tokenId.2, fun same => foreign (Subtype.ext same.symm)⟩
    rw [effects, notifyExclusiveOwner_callback, if_pos other]
    exact congrArg (fun cb => Effect.hdi _ :: (Option.toList cb).map _) notify
  · exact absurd ok failed

/-- In runs that stay in step the owner's listener is the one of its latest successful claim and an
interface that is not owned has none, unless its device was removed; a further call keeps this exactly
if it stays in step; and the conflict of another client reaches that listener, once. -/
theorem listeners_agree {tokenId : TokenId} {object : Callback} (run : Reach step InStep (init tokenId object) w) :
    (∀ p, (w.Mine p → ∃ listener, w.latest p = some listener ∧ w.client.listener p.b p.d p.i = some listener) ∧
      (¬ w.Mine p → w.removed p = false → w.client.listener p.b p.d p.i = none)) ∧
    (∀ e w', w.step e = some w' → ((∀ p, (w'.view p).Agrees) ↔ w.InStep e)) ∧
    ∀ p (t : TokenId) force env, t ≠ w.client.tokenId → w.Mine p →
      (claimInterface t p.b p.d p.i force env w.table).ret = .uecOk →
      (claimInterface t p.b p.d p.i force env w.table).effects =
        [.hdi (.claimInterface p.b p.d p.i force), .onConflict w.client.object p.b p.d p.i] ∧
      w.client.listener p.b p.d p.i = w.latest p := by
  have inv := inv_of_reach run
  refine ⟨fun p => ⟨(inv.agrees p).live, (inv.agrees p).quiet⟩, fun e w' taken => inv.agrees_step taken, ?_⟩
  intro p t force env foreign mine ok
  obtain ⟨listener, latest, registered⟩ := (inv.agrees p).live mine
  exact ⟨inv.own.notifies foreign mine ok, registered.trans latest.symm⟩

/-- A claim and its repetition with another listener. -/
theorem listeners_agree_repeated :
    ∃ w : Shared Nat, Reach step InStep (init ⟨5, by decide⟩ 7) w ∧ w.Mine ⟨1, 2, 0⟩ ∧
      w.latest ⟨1, 2, 0⟩ = some 11 ∧ w.client.listener 1 2 0 = some 11 := by
  have first : Reach step InStep (init ⟨5, by decide⟩ 7 : Shared Nat) _ :=
    .step (a := ClientEvent.call (.claimInterfaceExclusive ⟨1, 2, 0⟩ true 10) true .allGranted) .init
      (fun _ _ => ⟨fun _ => rfl, fun _ _ _ => rfl⟩) rfl
  have again := first.step (a := ClientEvent.call (.claimInterfaceExclusive ⟨1, 2, 0⟩ true 11) true .allGranted)
    (fun _ _ => ⟨fun _ => rfl, fun _ _ _ => rfl⟩) rfl
  obtain ⟨listener, latest, registered⟩ := ((listeners_agree again).1 ⟨1, 2, 0⟩).1 (by decide +kernel)
  have newest : some listener = some 11 := latest.symm.trans (by decide +kernel)
  exact ⟨_, again, by decide +kernel, latest.trans newest, registered.trans newest⟩

/-- `CloseEx` ends the claim of an interface whose listener stays; and a repeated claim that the driver
refuses removes the listener of a claim that stays. -/
theorem listeners_out_of_step :
    (∃ w : Shared Nat, Reach step anyStep (init ⟨5, by decide⟩ 7) w ∧ ¬ w.Mine ⟨1, 2, 0⟩ ∧
      w.removed ⟨1, 2, 0⟩ = false ∧ w.client.listener 1 2 0 = some 10) ∧
    ∃ w : Shared Nat, Reach step anyStep (init ⟨5, by decide⟩ 7) w ∧ w.Mine ⟨1, 2, 0⟩ ∧
      w.latest ⟨1, 2, 0⟩ = some 10 ∧ w.client.listener 1 2 0 = none := by
  let claim (listener : Nat) (answer : UsbErrCode) : ClientEvent Nat :=
    .call (.claimInterfaceExclusive ⟨1, 2, 0⟩ true listener) true ⟨true, .driver fun _ => answer, true⟩
  have closed : Reach step anyStep (init ⟨5, by decide⟩ 7 : Shared Nat) _ :=
    reach_of_runFrom [claim 10 .uecOk, .call (.closeEx 1 2 true) true .allGranted] (fun _ _ _ => trivial) .init rfl
  have refused : Reach step anyStep (init ⟨5, by decide⟩ 7 : Shared Nat) _ :=
    reach_of_runFrom [claim 10 .uecOk, claim 11 .hdfDevErrOp] (fun _ _ _ => trivial) .init rfl
  refine ⟨⟨_, closed, ?_⟩, _, refused, ?_⟩
  · decide +kernel
  · decide +kernel

end Shared

end UsbManager.Claim
