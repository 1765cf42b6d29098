import UsbManager.Lib.Transition
import UsbManager.Serial.Manager

/-!
# The owner of a serial port

Calls run on several threads. `SerialOpen` and `FreeTokenId` have `portTokenMapMutex_` from their check to
their change of `portTokenMap_`, over the call to the driver. The others check the caller in one scope,
call the driver without the lock and, for a close, erase the entry in another scope.

`history` is what has happened, the last event first. It tells who owns a port, and who opened it last.
-/

namespace UsbManager.Serial

open Transition

/-! ## Calls in flight -/

/-- A call past the checks of the service; `FreeTokenId` is for a client that has died. -/
inductive Request where
  | serialOpen (tokenId : UInt32) (portId : Int)
  | operation (operation : Operation) (tokenId : UInt32) (portId : Int)
  | freeTokenId (tokenId : UInt32) (portId : Int)
  deriving DecidableEq, Repr

/-- A call that does not have the lock. -/
inductive Call where
  | entered (request : Request)
  /-- `CheckPortAndTokenId` is done, the driver is next. -/
  | checked (operation : Operation) (tokenId : UInt32) (portId : Int)
  /-- The driver has closed the port, the entry is to be erased. -/
  | closed (tokenId : UInt32) (portId : Int)
  deriving DecidableEq, Repr

/-- The call that has the lock, and whether the driver has done its part. -/
inductive Holder where
  | opening (tokenId : UInt32) (portId : Int) (accepted : Bool)
  | freeing (tokenId : UInt32) (portId : Int) (closed : Bool)
  deriving DecidableEq, Repr

inductive Event where
  | hdi (call : HdiCall)
  /-- The entry is made: `SerialOpen` returns `UEC_OK`. -/
  | opened (tokenId : UInt32) (portId : Int)
  | erased (tokenId : UInt32) (portId : Int)
  deriving DecidableEq, Repr

structure World where
  manager : SerialManager := {}
  calls : List Call := []
  holder : Option Holder := none
  history : List Event := []

inductive Action where
  | start (request : Request)
  /-- A call without the lock takes its next step. -/
  | advance (call : Call) (ret : Int)
  /-- The call with the lock takes its next step. -/
  | locked (ret : Int)

namespace World

variable (w : World)

def record (event : Event) : World := { w with history := event :: w.history }

def finish (call : Call) : World := { w with calls := w.calls.erase call }

def goto (call next : Call) : World := { w with calls := next :: w.calls.erase call }

/-- The call takes the lock along. -/
def lock (call : Call) (holder : Holder) : World := { w.finish call with holder := some holder }

def unlock : World := { w with holder := none }

/-- The scope in which a call that has entered checks the map. -/
def enter (request : Request) : World :=
  let call : Call := .entered request
  match request with
  | .serialOpen tokenId portId =>
    if w.manager.checkPortIsFree portId = .uecOk then w.lock call (.opening tokenId portId false) else w.finish call
  | .operation operation tokenId portId =>
    if w.manager.checkPortAndTokenId tokenId portId = .uecOk then w.goto call (.checked operation tokenId portId)
    else w.finish call
  | .freeTokenId tokenId portId =>
    if w.manager.portTokenMap[portId]? = some tokenId then w.lock call (.freeing tokenId portId false)
    else w.finish call

def erase (tokenId : UInt32) (portId : Int) : World :=
  { w with manager := w.manager.disown portId }.record (.erased tokenId portId)

/-- Only the call to the driver needs no lock. -/
def advance (call : Call) (ret : Int) : Option World :=
  match call with
  | .entered request => if w.holder.isNone then some (w.enter request) else none
  | .checked operation tokenId portId =>
    let called := w.record (.hdi (.operation operation tokenId portId))
    if operation = .serialClose && !operation.fails ret then some (called.goto call (.closed tokenId portId))
    else some (called.finish call)
  | .closed tokenId portId => if w.holder.isNone then some ((w.erase tokenId portId).finish call) else none

def locked (ret : Int) : Option World :=
  match w.holder with
  | none => none
  | some (.opening tokenId portId false) =>
    let called := w.record (.hdi (.serialOpen tokenId portId))
    if ret ≠ 0 then some called.unlock else some { called with holder := some (.opening tokenId portId true) }
  | some (.opening tokenId portId true) =>
    some ({ w with manager := w.manager.own tokenId portId }.record (.opened tokenId portId)).unlock
  | some (.freeing tokenId portId false) =>
    let called := if w.manager.serial then w.record (.hdi (.operation .serialClose tokenId portId)) else w
    some { called with holder := some (.freeing tokenId portId true) }
  | some (.freeing tokenId portId true) => some (w.erase tokenId portId).unlock

def step : Action → Option World
  | .start request => some { w with calls := .entered request :: w.calls }
  | .advance call ret => if call ∈ w.calls then w.advance call ret else none
  | .locked ret => w.locked ret

def start (serial : Bool) : World := { manager := { serial := serial } }

end World

/-! ## One call by itself

With no other call in flight the steps of a call do what the function of the manager does. -/

/-- Its calls to the driver, the first one first. -/
def hdiCalls (history : List Event) : List HdiCall :=
  history.reverse.filterMap fun
    | .hdi call => some call
    | .opened _ _ | .erased _ _ => none

/-- The call alone has come to these calls to the driver and to this manager. -/
def Does (m : SerialManager) (request : Request) (result : List HdiCall × SerialManager) : Prop :=
  ∃ actions history, runFrom World.step { manager := m } (.start request :: .advance (.entered request) 0 :: actions) =
    some { manager := result.2, history := history } ∧ hdiCalls history = result.1

theorem does_nothing {m : SerialManager} {request : Request}
    (refused : World.enter { manager := m, calls := [.entered request] } request = { manager := m }) :
    Does m request ([], m) := by
  refine ⟨[], [], ?_, rfl⟩
  simp [runFrom, World.step, World.advance, refused]

theorem serialOpen_alone (m : SerialManager) (tokenId : UInt32) (portId : Int) (ret : Int) :
    Does m (.serialOpen tokenId portId) (m.serialOpen tokenId portId ret).2 := by
  unfold SerialManager.serialOpen
  split
  next free =>
    by_cases failed : ret ≠ 0
    · rw [if_pos failed]
      refine ⟨[.locked ret], [.hdi (.serialOpen tokenId portId)], ?_, rfl⟩
      simp [runFrom, World.step, World.advance, World.enter, World.locked, World.lock, World.finish, World.record,
        World.unlock, free, failed]
    · rw [if_neg failed]
      refine ⟨[.locked ret, .locked 0], [.opened tokenId portId, .hdi (.serialOpen tokenId portId)], ?_, rfl⟩
      simp [runFrom, World.step, World.advance, World.enter, World.locked, World.lock, World.finish, World.record,
        World.unlock, free, failed]
  next refused =>
    refine does_nothing ?_
    rw [World.enter, if_neg refused]
    simp [World.finish]

theorem operate_alone (m : SerialManager) (tokenId : UInt32) (portId : Int) (operation : Operation) (ret : Int) :
    Does m (.operation operation tokenId portId) (m.operate tokenId portId operation ret).2 := by
  unfold SerialManager.operate
  split
  next own =>
    cases failed : operation.fails ret with
    | true =>
      refine ⟨[.advance (.checked operation tokenId portId) ret], [.hdi (.operation operation tokenId portId)], ?_, rfl⟩
      simp [runFrom, World.step, World.advance, World.enter, World.goto, World.finish, World.record, own, failed]
    | false =>
      by_cases closes : operation = .serialClose
      · subst closes
        refine ⟨[.advance (.checked .serialClose tokenId portId) ret, .advance (.closed tokenId portId) 0],
          [.erased tokenId portId, .hdi (.operation .serialClose tokenId portId)], ?_, rfl⟩
        simp [runFrom, World.step, World.advance, World.enter, World.goto, World.finish, World.record, World.erase, own,
          failed]
      · refine ⟨[.advance (.checked operation tokenId portId) ret],
          [.hdi (.operation operation tokenId portId)], ?_, rfl⟩
        simp [runFrom, World.step, World.advance, World.enter, World.goto, World.finish, World.record, own, closes]
  next refused =>
    refine does_nothing ?_
    rw [World.enter, if_neg refused]
    simp [World.finish]

theorem freeTokenId_alone (m : SerialManager) (tokenId : UInt32) (portId : Int) :
    Does m (.freeTokenId tokenId portId) (m.freeTokenId tokenId portId) := by
  unfold SerialManager.freeTokenId
  split
  next owned =>
    cases bound : m.serial with
    | true =>
      refine ⟨[.locked 0, .locked 0], [.erased tokenId portId, .hdi (.operation .serialClose tokenId portId)], ?_, rfl⟩
      simp [runFrom, World.step, World.advance, World.enter, World.locked, World.lock, World.finish, World.record,
        World.unlock, World.erase, owned, bound]
    | false =>
      refine ⟨[.locked 0, .locked 0], [.erased tokenId portId], ?_, rfl⟩
      simp [runFrom, World.step, World.advance, World.enter, World.locked, World.lock, World.finish, World.record,
        World.unlock, World.erase, owned, bound]
  next other =>
    refine does_nothing ?_
    rw [World.enter, if_neg other]
    simp [World.finish]

/-! ## What the history tells -/

/-- The token whose entry is there. -/
def owner : List Event → Int → Option UInt32
  | [], _ => none
  | .opened tokenId portId' :: rest, portId => if portId = portId' then some tokenId else owner rest portId
  | .erased _ portId' :: rest, portId => if portId = portId' then none else owner rest portId
  | .hdi _ :: rest, portId => owner rest portId

/-- The token whose `SerialOpen` of the port was the last to return `UEC_OK`. -/
def lastOpener : List Event → Int → Option UInt32
  | [], _ => none
  | .opened tokenId portId' :: rest, portId => if portId = portId' then some tokenId else lastOpener rest portId
  | .erased _ _ :: rest, portId | .hdi _ :: rest, portId => lastOpener rest portId

/-- A port is opened for one token at a time; it is closed and its entry erased only by its owner, and used
only by the token that has opened it last. -/
def Rightful : List Event → Prop
  | [] => True
  | .opened _ portId :: rest => owner rest portId = none ∧ Rightful rest
  | .erased tokenId portId :: rest | .hdi (.operation .serialClose tokenId portId) :: rest =>
    (∀ other, owner rest portId = some other → other = tokenId) ∧ Rightful rest
  | .hdi (.operation _ tokenId portId) :: rest =>
    (∀ other, lastOpener rest portId = some other → other = tokenId) ∧ Rightful rest
  | .hdi (.serialOpen _ _) :: rest => Rightful rest

/-- No other token has the port, or has opened it since. -/
structure Alone (history : List Event) (tokenId : UInt32) (portId : Int) : Prop where
  owned : ∀ other, owner history portId = some other → other = tokenId
  last : ∀ other, lastOpener history portId = some other → other = tokenId

variable {history : List Event} {tokenId : UInt32} {portId : Int}

theorem lastOpener_of_owner : ∀ {history : List Event}, owner history portId = some tokenId →
    lastOpener history portId = some tokenId := by
  intro history
  induction history with
  | nil => exact nofun
  | cons event rest ih =>
    intro owned
    cases event with
    | hdi call => exact ih owned
    | opened tokenId' portId' =>
      simp only [owner, lastOpener] at owned ⊢
      split at owned
      next same => rwa [if_pos same]
      next other => rw [if_neg other, ih owned]
    | erased tokenId' portId' =>
      simp only [owner, lastOpener] at owned ⊢
      split at owned
      · cases owned
      · exact ih owned

theorem Alone.of_owner (owned : owner history portId = some tokenId) : Alone history tokenId portId := by
  refine ⟨fun other found => ?_, fun other found => ?_⟩
  · exact Option.some.inj (found.symm.trans owned)
  · exact Option.some.inj (found.symm.trans (lastOpener_of_owner owned))

/-- An operation of a token that is alone is rightful. -/
theorem Alone.rightful (alone : Alone history tokenId portId) (rightful : Rightful history) (operation : Operation) :
    Rightful (.hdi (.operation operation tokenId portId) :: history) := by
  cases operation with
  | serialClose => exact ⟨alone.owned, rightful⟩
  | serialRead | serialWrite | serialGetAttribute | serialSetAttribute => exact ⟨alone.last, rightful⟩

theorem Alone.hdi (alone : Alone history tokenId portId) (call : HdiCall) :
    Alone (.hdi call :: history) tokenId portId := ⟨alone.owned, alone.last⟩

theorem Alone.erased (alone : Alone history tokenId portId) (tokenId' : UInt32) (portId' : Int) :
    Alone (.erased tokenId' portId' :: history) tokenId portId := by
  refine ⟨fun other found => ?_, alone.last⟩
  simp only [owner] at found
  split at found
  · cases found
  · exact alone.owned other found

theorem Alone.opened (alone : Alone history tokenId portId) {tokenId' : UInt32} {portId' : Int}
    (own : portId = portId' → tokenId = tokenId') : Alone (.opened tokenId' portId' :: history) tokenId portId := by
  by_cases same : portId = portId'
  · refine .of_owner ?_
    rw [owner, if_pos same, own same]
  · refine ⟨fun other found => ?_, fun other found => ?_⟩
    · rw [owner, if_neg same] at found
      exact alone.owned other found
    · rw [lastOpener, if_neg same] at found
      exact alone.last other found

/-! ## Every step keeps the owners -/

/-- The token and the port of a call that is past its check. -/
def Call.pending : Call → Option (UInt32 × Int)
  | entered _ => none
  | checked _ tokenId portId | closed tokenId portId => some (tokenId, portId)

/-- When `SerialOpen` is to make its entry, no call of another token is between its check of the port and its
last step. -/
def Clear (calls : List Call) : Option Holder → Prop
  | some (.opening tokenId portId true) =>
    ∀ call ∈ calls, ∀ past ∈ call.pending, past.2 = portId → past.1 = tokenId
  | some (.opening _ _ false) | some (.freeing _ _ _) | none => True

instance (calls : List Call) : (holder : Option Holder) → Decidable (Clear calls holder)
  | some (.opening tokenId portId true) =>
    inferInstanceAs (Decidable (∀ call ∈ calls, ∀ past ∈ call.pending, past.2 = portId → past.1 = tokenId))
  | some (.opening _ _ false) | some (.freeing _ _ _) | none => isTrue trivial

def World.Apart (w : World) : Action → Prop
  | .locked _ => Clear w.calls w.holder
  | .start _ | .advance _ _ => True

instance (w : World) : (action : Action) → Decidable (w.Apart action)
  | .locked _ => inferInstanceAs (Decidable (Clear w.calls w.holder))
  | .start _ | .advance _ _ => isTrue trivial

/-- What the call with the lock has found. -/
def Holder.Found (history : List Event) : Holder → Prop
  | opening _ portId _ => owner history portId = none
  | freeing tokenId portId _ => owner history portId = some tokenId

structure World.Kept (w : World) : Prop where
  rightful : Rightful w.history
  entries : ∀ portId, w.manager.portTokenMap[portId]? = owner w.history portId
  pending : ∀ call ∈ w.calls, ∀ tokenId portId, call.pending = some (tokenId, portId) →
    Alone w.history tokenId portId
  found : ∀ holder, w.holder = some holder → holder.Found w.history

namespace World

variable {w : World}

theorem Kept.finish (kept : w.Kept) (call : Call) : (w.finish call).Kept :=
  ⟨kept.rightful, kept.entries, all_of_ended kept.pending, kept.found⟩

theorem Kept.goto (kept : w.Kept) (call : Call) {next : Call}
    (alone : ∀ tokenId portId, next.pending = some (tokenId, portId) → Alone w.history tokenId portId) :
    (w.goto call next).Kept :=
  ⟨kept.rightful, kept.entries, all_of_goes_on kept.pending alone, kept.found⟩

theorem Kept.lock (kept : w.Kept) (call : Call) {holder : Holder} (found : holder.Found w.history) :
    (w.lock call holder).Kept := by
  refine ⟨kept.rightful, kept.entries, (kept.finish call).pending, fun holder' now => ?_⟩
  obtain rfl := Option.some.inj now
  exact found

theorem Kept.unlock (kept : w.Kept) : w.unlock.Kept := ⟨kept.rightful, kept.entries, kept.pending, nofun⟩

theorem Kept.hdi (kept : w.Kept) {call : HdiCall} (rightful : Rightful (.hdi call :: w.history)) :
    (w.record (.hdi call)).Kept := by
  refine ⟨rightful, kept.entries, fun other member tokenId portId past => ?_, fun holder now => ?_⟩
  · exact (kept.pending other member tokenId portId past).hdi call
  · have found := kept.found holder now
    cases holder with
    | opening | freeing => exact found

/-- The holder of the lock goes on. -/
theorem Kept.hold (kept : w.Kept) {holder : Holder} (found : holder.Found w.history) :
    Kept { w with holder := some holder } := by
  refine ⟨kept.rightful, kept.entries, kept.pending, fun holder' now => ?_⟩
  obtain rfl := Option.some.inj now
  exact found

theorem Kept.erase (kept : w.Kept) (free : w.holder = none)
    (owned : ∀ other, owner w.history portId = some other → other = tokenId) : (w.erase tokenId portId).Kept := by
  refine ⟨⟨owned, kept.rightful⟩, fun portId' => ?_, fun call member tokenId' portId' past => ?_, fun holder now => ?_⟩
  · simp only [World.erase, record, SerialManager.disown, owner, Std.ExtTreeMap.getElem?_erase,
      Std.LawfulEqCmp.compare_eq_iff_eq, kept.entries portId', eq_comm (a := portId)]
  · exact (kept.pending call member tokenId' portId' past).erased tokenId portId
  · cases free.symm.trans now

theorem Kept.open (kept : w.Kept) (free : w.holder = none) (unowned : owner w.history portId = none)
    (clear : Clear w.calls (some (.opening tokenId portId true))) :
    Kept ({ w with manager := w.manager.own tokenId portId }.record (.opened tokenId portId)) := by
  refine ⟨⟨unowned, kept.rightful⟩, fun portId' => ?_, fun call member tokenId' portId' past => ?_,
    fun holder now => ?_⟩
  · simp only [record, SerialManager.own, owner, Std.ExtTreeMap.getElem?_insert, Std.LawfulEqCmp.compare_eq_iff_eq,
      kept.entries portId', eq_comm (a := portId)]
  · refine (kept.pending call member tokenId' portId' past).opened fun same => ?_
    exact clear call member _ past same
  · cases free.symm.trans now

/-! ### Checks -/

theorem Kept.alone_of_checked (kept : w.Kept) (ok : w.manager.checkPortAndTokenId tokenId portId = .uecOk) :
    Alone w.history tokenId portId := by
  refine .of_owner ?_
  rw [← kept.entries]
  unfold SerialManager.checkPortAndTokenId at ok
  split at ok
  · cases ok
  · split at ok
    next valid => exact of_decide_eq_true valid
    next => cases ok

theorem Kept.unowned_of_free (kept : w.Kept) (ok : w.manager.checkPortIsFree portId = .uecOk) :
    owner w.history portId = none := by
  rw [← kept.entries]
  unfold SerialManager.checkPortIsFree at ok
  split at ok
  · cases ok
  · split at ok
    · cases ok
    next absent => exact Std.ExtTreeMap.getElem?_eq_none (by simpa using absent)

theorem Kept.enter (kept : w.Kept) (request : Request) : (w.enter request).Kept := by
  cases request with
  | serialOpen tokenId portId =>
    simp only [World.enter]
    split
    next ok => exact kept.lock _ (kept.unowned_of_free ok)
    next => exact kept.finish _
  | operation operation tokenId portId =>
    simp only [World.enter]
    split
    next ok =>
      refine kept.goto _ fun tokenId' portId' past => ?_
      obtain ⟨rfl, rfl⟩ := Prod.mk.inj (Option.some.inj past)
      exact kept.alone_of_checked ok
    next => exact kept.finish _
  | freeTokenId tokenId portId =>
    simp only [World.enter]
    split
    next owned => exact kept.lock _ ((kept.entries portId).symm.trans owned)
    next => exact kept.finish _

/-! ### Steps -/

theorem Kept.advance {w' : World} (kept : w.Kept) {call : Call} (member : call ∈ w.calls) {ret : Int}
    (taken : w.advance call ret = some w') : w'.Kept := by
  cases call with
  | entered request =>
    obtain ⟨-, moved⟩ := Option.ite_none_right_eq_some.1 taken
    obtain rfl := Option.some.inj moved
    exact kept.enter request
  | checked operation tokenId portId =>
    have alone := kept.pending _ member tokenId portId rfl
    have called := kept.hdi (alone.rightful kept.rightful operation)
    simp only [World.advance] at taken
    split at taken
    · obtain rfl := Option.some.inj taken
      refine called.goto _ fun tokenId' portId' past => ?_
      obtain ⟨rfl, rfl⟩ := Prod.mk.inj (Option.some.inj past)
      exact alone.hdi _
    · obtain rfl := Option.some.inj taken
      exact called.finish _
  | closed tokenId portId =>
    obtain ⟨free, moved⟩ := Option.ite_none_right_eq_some.1 taken
    obtain rfl := Option.some.inj moved
    have alone := kept.pending _ member tokenId portId rfl
    exact (kept.erase (Option.isNone_iff_eq_none.1 free) alone.owned).finish _

theorem Kept.locked {w' : World} (kept : w.Kept) {ret : Int} (apart : w.Apart (.locked ret))
    (taken : w.locked ret = some w') : w'.Kept := by
  unfold World.locked at taken
  split at taken
  next => cases taken
  next tokenId portId now =>
    have called := @Kept.hdi w kept (.serialOpen tokenId portId) kept.rightful
    dsimp only at taken
    split at taken
    · obtain rfl := Option.some.inj taken
      exact called.unlock
    · obtain rfl := Option.some.inj taken
      exact called.hold (kept.found _ now)
  next tokenId portId now =>
    obtain rfl := Option.some.inj taken
    have clear : Clear w.calls (some (.opening tokenId portId true)) := now ▸ apart
    exact kept.unlock.open rfl (kept.found _ now) clear
  next tokenId portId now =>
    have owned : owner w.history portId = some tokenId := kept.found _ now
    obtain rfl := Option.some.inj taken
    split
    · exact (kept.hdi ((Alone.of_owner owned).rightful kept.rightful .serialClose)).hold owned
    · exact kept.hold owned
  next tokenId portId now =>
    have owned : owner w.history portId = some tokenId := kept.found _ now
    obtain rfl := Option.some.inj taken
    exact kept.unlock.erase rfl (Alone.of_owner owned).owned

theorem Kept.step {w' : World} (kept : w.Kept) {action : Action} (apart : w.Apart action)
    (taken : w.step action = some w') : w'.Kept := by
  cases action with
  | start request =>
    obtain rfl := Option.some.inj taken
    refine ⟨kept.rightful, kept.entries, fun call member => ?_, kept.found⟩
    rcases List.mem_cons.1 member with rfl | old
    · exact nofun
    · exact kept.pending call old
  | advance call ret =>
    obtain ⟨member, moved⟩ := Option.ite_none_right_eq_some.1 taken
    exact kept.advance member moved
  | locked ret => exact kept.locked apart taken

theorem kept_start (serial : Bool) : (start serial).Kept := by
  refine ⟨trivial, fun portId => ?_, nofun, nofun⟩
  exact Std.ExtTreeMap.getElem?_empty

end World

/-- The next step of a pending call, once another token has opened the port. -/
theorem overtaken {w : World} {call : Call} {other : UInt32} (member : call ∈ w.calls) (free : w.holder = none)
    (past : call.pending = some (other, portId)) (owned : owner w.history portId = some tokenId)
    (differs : other ≠ tokenId) : ∃ w', w.step (.advance call 0) = some w' ∧ ¬ Rightful w'.history := by
  have last := lastOpener_of_owner owned
  have moves : w.step (.advance call 0) = w.advance call 0 := if_pos member
  rw [moves]
  cases call with
  | entered request => cases past
  | checked operation tokenId' portId' =>
    obtain ⟨rfl, rfl⟩ := Prod.mk.inj (Option.some.inj past)
    have wrong : ¬ Rightful (.hdi (.operation operation tokenId' portId') :: w.history) := by
      intro rightful
      cases operation with
      | serialClose => exact differs (rightful.1 tokenId owned).symm
      | serialRead | serialWrite | serialGetAttribute | serialSetAttribute =>
        exact differs (rightful.1 tokenId last).symm
    simp only [World.advance]
    split
    · exact ⟨_, rfl, wrong⟩
    · exact ⟨_, rfl, wrong⟩
  | closed tokenId' portId' =>
    obtain ⟨rfl, rfl⟩ := Prod.mk.inj (Option.some.inj past)
    simp only [World.advance]
    rw [if_pos (Option.isNone_iff_eq_none.2 free)]
    exact ⟨_, rfl, fun rightful => differs (rightful.1 tokenId owned).symm⟩

/-- While no port is opened over a pending call of another token, the entries are those of the open ports and
every call to the driver is of the owner. When a port is opened so, the pending call breaks this. -/
theorem serial_ports_owned (serial : Bool) {w : World} (reached : Reach World.step World.Apart (.start serial) w) :
    (∀ portId, w.manager.portTokenMap[portId]? = owner w.history portId) ∧ Rightful w.history ∧
      ∀ action w', w.step action = some w' → ¬ w.Apart action →
        ∃ call ∈ w.calls, ∃ w'', w'.step (.advance call 0) = some w'' ∧ ¬ Rightful w''.history := by
  have kept : w.Kept := reached.invariant World.Kept (World.kept_start serial) fun _ _ _ kept => kept.step
  refine ⟨kept.entries, kept.rightful, fun action w' taken overtakes => ?_⟩
  cases action with
  | start | advance => exact absurd trivial overtakes
  | locked ret =>
    have unclear : ¬ Clear w.calls w.holder := overtakes
    cases now : w.holder with
    | none =>
      rw [now] at unclear
      exact absurd trivial unclear
    | some holder =>
      rw [now] at unclear
      match holder with
      | .opening tokenId portId true =>
        simp only [Clear, not_forall] at unclear
        obtain ⟨call, member, ⟨other, _⟩, past, rfl, differs⟩ := unclear
        simp only [World.step, World.locked, now, Option.some.injEq] at taken
        subst taken
        exact ⟨call, member, overtaken member rfl past (if_pos rfl) differs⟩
      | .opening _ _ false | .freeing _ _ _ => exact absurd trivial unclear

/-- The steps of a `SerialOpen` that succeeds. -/
def opens (tokenId : UInt32) (portId : Int) : List Action :=
  [.start (.serialOpen tokenId portId), .advance (.entered (.serialOpen tokenId portId)) 0, .locked 0, .locked 0]

/-- The steps of an operation up to its call to the driver. -/
def enters (operation : Operation) (tokenId : UInt32) (portId : Int) : List Action :=
  [.start (.operation operation tokenId portId), .advance (.entered (.operation operation tokenId portId)) 0]

/-- The steps of a `FreeTokenId` for the owner of the port. -/
def dies (tokenId : UInt32) (portId : Int) : List Action :=
  [.start (.freeTokenId tokenId portId), .advance (.entered (.freeTokenId tokenId portId)) 0, .locked 0, .locked 0]

/-- The steps of a close that the driver accepts, from its call to the driver on. -/
def closes (tokenId : UInt32) (portId : Int) : List Action :=
  [.advance (.checked .serialClose tokenId portId) 0, .advance (.closed tokenId portId) 0]

/-- Token 5 opens the port 0 and closes it, and token 6 opens it. -/
theorem serial_ports_owned_handed_over :
    ∃ w, Reach World.step World.Apart (.start true) w ∧ owner w.history 0 = some 6 ∧ Rightful w.history := by
  have run : Reach World.step World.Apart (.start true) _ := reach_of_guarded
    (opens 5 0 ++ enters .serialClose 5 0 ++ closes 5 0 ++ opens 6 0) .init rfl
  exact ⟨_, run, rfl, (serial_ports_owned true run).2.1⟩

/-- Token 5 dies while its read is past the check, and token 6 opens the port: the read goes to the driver.
Or two threads of token 5 close the port, and the second closes the port of token 6 and erases its entry. -/
theorem serial_port_overtaken :
    (∃ w, Reach World.step anyStep (.start true) w ∧ w.holder = none ∧ owner w.history 0 = some 6 ∧
      w.history.head? = some (.hdi (.operation .serialRead 5 0)) ∧ ¬ Rightful w.history) ∧
    ∃ w, Reach World.step anyStep (.start true) w ∧ w.calls = [] ∧
      w.history.take 3 = [.erased 5 0, .hdi (.operation .serialClose 5 0), .opened 6 0] ∧ ¬ Rightful w.history := by
  have read : Reach World.step anyStep (.start true) _ := reach_of_runFrom
    (opens 5 0 ++ enters .serialRead 5 0 ++ dies 5 0 ++ opens 6 0 ++ [.advance (.checked .serialRead 5 0) 1])
    (fun _ _ _ => trivial) .init rfl
  have closed : Reach World.step anyStep (.start true) _ := reach_of_runFrom
    (opens 5 0 ++ enters .serialClose 5 0 ++ enters .serialClose 5 0 ++ closes 5 0 ++ opens 6 0 ++ closes 5 0)
    (fun _ _ _ => trivial) .init rfl
  refine ⟨⟨_, read, rfl, rfl, rfl, ?_⟩, _, closed, rfl, rfl, ?_⟩
  · rintro ⟨own, -⟩
    cases own 6 rfl
  · rintro ⟨own, -⟩
    cases own 6 rfl

end UsbManager.Serial
