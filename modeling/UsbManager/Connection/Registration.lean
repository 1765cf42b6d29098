import Mathlib.Data.Finset.Basic
import UsbManager.Lib.Transition
import UsbManager.Service.ErrCode

/-!
# Registering and unregistering connection listeners

The list of the listeners beside the death recipients that the service has put on their remote objects. A lock
scope of `deviceListenerMutex_`, an `AddDeathRecipient` and the death of a client are steps of their own. What
a registration does after its insertion (it copies the connections and calls the listener) leaves both alone
and is in `UsbManager.Connection.Listeners`.

`asObject` is `AsObject()`: two callbacks may have the same remote object. The death recipients are numbered in
the order in which they are made.
-/

namespace UsbManager.Connection.Registration

open Transition

inductive Request (C : Type) where
  /-- A callback that is null is `none`. -/
  | registerConnectionListener (cb : Option C) (checkSysApiPermission : UsbErrCode)
  | unRegisterConnectionListener (cb : Option C) (checkSysApiPermission : UsbErrCode)
  deriving DecidableEq

/-- A call in flight, before the step it is named after. -/
inductive Call (C : Type) where
  /-- The checks of the arguments and the first lock scope. -/
  | enter (request : Request C)
  | addDeathRecipient (cb : C)
  | push (cb : C) (deathRecipient : Nat)
  deriving DecidableEq

/-- Only callbacks that are not null get into the list. -/
structure DeviceListenerEntry (C : Type) where
  listener : C
  deathRecipient : Nat
  deriving DecidableEq

structure World (C O : Type) where
  deviceListeners : List (DeviceListenerEntry C) := []
  /-- The death recipients on the remote objects that are alive. -/
  installed : Finset (O × Nat) := ∅
  /-- Those of the remote objects that have died whose `OnRemoteDied` has not run yet. -/
  dying : Finset (O × Nat) := ∅
  /-- How many death recipients have been made. -/
  created : Nat := 0
  calls : List (Call C) := []
  /-- The call that the last step has ended, with its code. -/
  returned : Option (Call C × UsbErrCode) := none

inductive Action (C O : Type) where
  | start (request : Request C)
  /-- A call takes its next step. `deathRecipient` is whether there is memory for one, `addDeathRecipient` what
  the remote object answers. -/
  | advance (call : Call C) (deathRecipient addDeathRecipient : Bool)
  | die (remote : O)
  | onRemoteDied (remote : O) (deathRecipient : Nat)

namespace World

variable {C O : Type} [DecidableEq C] [DecidableEq O] (asObject : C → O) (w : World C O)

def finish (call : Call C) (ret : UsbErrCode) : World C O :=
  { w with calls := w.calls.erase call, returned := some (call, ret) }

def goto (call next : Call C) : World C O := { w with calls := next :: w.calls.erase call, returned := none }

/-- The loop of `UnRegisterConnectionListener` and `RemoveDeviceListener`: the first entry of the remote object
goes, and its death recipient. -/
def removeFirst (remote : O) : World C O :=
  match w.deviceListeners.find? fun entry => asObject entry.listener = remote with
  | none => w
  | some entry =>
    { w with
      deviceListeners := w.deviceListeners.eraseP fun entry => asObject entry.listener = remote
      installed := w.installed.erase (remote, entry.deathRecipient) }

/-- An entry holds on to its remote object, so where `promote` fails there is none to remove. -/
def removeDeviceListener (remote : O) : World C O := w.removeFirst asObject remote

def advance (call : Call C) (deathRecipient addDeathRecipient : Bool) : World C O :=
  match call with
  | .enter (.registerConnectionListener none _) => w.finish call .uecServiceInvalidValue
  | .enter (.registerConnectionListener (some cb) checkSysApiPermission) =>
    if checkSysApiPermission ≠ .uecOk then w.finish call checkSysApiPermission
    else if ∃ entry ∈ w.deviceListeners, asObject entry.listener = asObject cb then
      w.finish call .uecServiceAlreadyExists
    else w.goto call (.addDeathRecipient cb)
  | .addDeathRecipient cb =>
    if deathRecipient = false then w.finish call .uecServiceInvalidValue
    else if addDeathRecipient = false then w.finish call .uecServiceAddDeathRecipientFailed
    else
      { w with
        created := w.created + 1
        installed := insert (asObject cb, w.created) w.installed }.goto call (.push cb w.created)
  | .push cb deathRecipient =>
    { w with deviceListeners := w.deviceListeners ++ [⟨cb, deathRecipient⟩] : World C O }.finish call .uecOk
  | .enter (.unRegisterConnectionListener none _) => w.finish call .uecServiceInvalidValue
  | .enter (.unRegisterConnectionListener (some cb) checkSysApiPermission) =>
    if checkSysApiPermission ≠ .uecOk then w.finish call checkSysApiPermission
    else (w.removeFirst asObject (asObject cb)).finish call .uecOk

def step : Action C O → Option (World C O)
  | .start request => some { w with calls := .enter request :: w.calls, returned := none }
  | .advance call deathRecipient addDeathRecipient =>
    if call ∈ w.calls then some (w.advance asObject call deathRecipient addDeathRecipient) else none
  | .die remote =>
    some
      { w with
        installed := w.installed.filter (·.1 ≠ remote)
        dying := w.dying ∪ w.installed.filter (·.1 = remote)
        returned := none }
  | .onRemoteDied remote deathRecipient =>
    if (remote, deathRecipient) ∈ w.dying then
      some
        { w.removeDeviceListener asObject remote with
          dying := w.dying.erase (remote, deathRecipient)
          returned := none }
    else none

/-! ## The registrations that are under way -/

end World

namespace Call

variable {C O : Type} (asObject : C → O)

/-- The remote object whose listener a registration is going to insert: it has found none. -/
def inserting : Call C → Option O
  | addDeathRecipient cb | push cb _ => some (asObject cb)
  | enter _ => none

/-- The remote object of a registration. -/
def registering : Call C → Option O
  | enter (.registerConnectionListener (some cb) _) | addDeathRecipient cb | push cb _ => some (asObject cb)
  | enter (.registerConnectionListener none _) | enter (.unRegisterConnectionListener _ _) => none

/-- The death recipient of an entry that is not in the list yet, and its remote object. -/
def token : Call C → Option (O × Nat)
  | push cb deathRecipient => some (asObject cb, deathRecipient)
  | enter _ | addDeathRecipient _ => none

end Call

def DeviceListenerEntry.token {C O : Type} (asObject : C → O) (entry : DeviceListenerEntry C) : O × Nat :=
  (asObject entry.listener, entry.deathRecipient)

namespace World

variable {C O : Type} [DecidableEq C] [DecidableEq O] (asObject : C → O) (w : World C O)

/-- The first lock scope of a registration that lets it go on. -/
def Passes (cb : C) (checkSysApiPermission : UsbErrCode) : Prop :=
  checkSysApiPermission = .uecOk ∧ ∀ entry ∈ w.deviceListeners, asObject entry.listener ≠ asObject cb

/-- No registration passes the check while another one of its remote object is between check and insertion, and
no death recipient runs before its entry is in the list. -/
def Orderly : Action C O → Prop
  | .advance (.enter (.registerConnectionListener (some cb) checkSysApiPermission)) _ _ =>
    w.Passes asObject cb checkSysApiPermission → ∀ call ∈ w.calls, call.inserting asObject ≠ some (asObject cb)
  | .onRemoteDied remote deathRecipient => ∀ call ∈ w.calls, call.token asObject ≠ some (remote, deathRecipient)
  | .start _ | .die _ | .advance (.enter (.registerConnectionListener none _)) _ _
  | .advance (.enter (.unRegisterConnectionListener _ _)) _ _ | .advance (.addDeathRecipient _) _ _
  | .advance (.push _ _) _ _ => True

instance (cb : C) (checkSysApiPermission : UsbErrCode) : Decidable (w.Passes asObject cb checkSysApiPermission) :=
  inferInstanceAs (Decidable (_ ∧ _))

instance : (action : Action C O) → Decidable (w.Orderly asObject action)
  | .advance (.enter (.registerConnectionListener (some cb) checkSysApiPermission)) _ _ =>
    inferInstanceAs (Decidable (w.Passes asObject cb checkSysApiPermission →
      ∀ call ∈ w.calls, call.inserting asObject ≠ some (asObject cb)))
  | .onRemoteDied remote deathRecipient =>
    inferInstanceAs (Decidable (∀ call ∈ w.calls, call.token asObject ≠ some (remote, deathRecipient)))
  | .start _ | .die _ | .advance (.enter (.registerConnectionListener none _)) _ _
  | .advance (.enter (.unRegisterConnectionListener _ _)) _ _ | .advance (.addDeathRecipient _) _ _
  | .advance (.push _ _) _ _ => isTrue trivial

/-- The call that has just been ended is no `UnRegisterConnectionListener` that returned `UEC_OK`, or the listener
has no entry any more. -/
def Unregistered : Prop :=
  ∀ cb checkSysApiPermission,
    w.returned = some (.enter (.unRegisterConnectionListener (some cb) checkSysApiPermission), .uecOk) →
      ∀ entry ∈ w.deviceListeners, asObject entry.listener ≠ asObject cb

/-- The listeners are a set, with a death recipient for each. -/
structure ListenersAreSet : Prop where
  distinct : (w.deviceListeners.map (asObject ·.listener)).Nodup
  /-- The death recipient of an entry is on the remote object, unless that has died and it is still to run. -/
  installed : ∀ entry ∈ w.deviceListeners,
    entry.token asObject ∈ w.installed ∨ entry.token asObject ∈ w.dying
  /-- There is no other death recipient but that of a registration which is about to insert its entry. -/
  owned : ∀ token ∈ w.installed, (∃ entry ∈ w.deviceListeners, entry.token asObject = token) ∨
    ∃ call ∈ w.calls, call.token asObject = some token
  unregistered : w.Unregistered asObject

/-- The remote objects that have an entry or are about to get one. -/
def claimed : List O := w.deviceListeners.map (asObject ·.listener) ++ w.calls.filterMap (·.inserting asObject)

/-- The death recipients of the entries, also of those that are about to be made. -/
def tokens : List (O × Nat) := w.deviceListeners.map (·.token asObject) ++ w.calls.filterMap (·.token asObject)

/-- What the steps keep. -/
structure Kept : Prop where
  claimed : (w.claimed asObject).Nodup
  watched : ∀ token ∈ w.tokens asObject, token ∈ w.installed ∨ token ∈ w.dying
  owned : ∀ token ∈ w.installed, token ∈ w.tokens asObject
  numbered : ∀ token, token ∈ w.installed ∨ token ∈ w.dying → token.2 < w.created
  dead : ∀ token ∈ w.dying, token ∉ w.installed

variable {asObject} {w}

omit [DecidableEq C] [DecidableEq O] in
theorem mem_tokens {token : O × Nat} : token ∈ w.tokens asObject ↔
    (∃ entry ∈ w.deviceListeners, entry.token asObject = token) ∨
      ∃ call ∈ w.calls, call.token asObject = some token := by
  rw [tokens, List.mem_append, List.mem_map, List.mem_filterMap]

omit [DecidableEq C] [DecidableEq O] in
theorem Kept.listenersAreSet (kept : w.Kept asObject) (unregistered : w.Unregistered asObject) :
    w.ListenersAreSet asObject where
  distinct := kept.claimed.of_append_left
  installed entry member := kept.watched _ (mem_tokens.2 (.inl ⟨entry, member, rfl⟩))
  owned token there := mem_tokens.1 (kept.owned token there)
  unregistered := unregistered

variable (asObject) in
omit [DecidableEq O] in
/-- A call gives up what it has claimed when it ends. -/
theorem claimed_perm {call : Call C} (inFlight : call ∈ w.calls) : (w.claimed asObject).Perm
    ((call.inserting asObject).toList ++
      (w.deviceListeners.map (asObject ·.listener) ++ (w.calls.erase call).filterMap (·.inserting asObject))) :=
  ((perm_filterMap_erase _ inFlight).append_left _).trans (List.perm_append_comm_assoc ..)

variable (asObject) in
omit [DecidableEq O] in
theorem tokens_perm {call : Call C} (inFlight : call ∈ w.calls) : (w.tokens asObject).Perm
    ((call.token asObject).toList ++
      (w.deviceListeners.map (·.token asObject) ++ (w.calls.erase call).filterMap (·.token asObject))) :=
  ((perm_filterMap_erase _ inFlight).append_left _).trans (List.perm_append_comm_assoc ..)

omit [DecidableEq O] in
/-- A call that has no death recipient ends. -/
theorem Kept.finish {call : Call C} {ret : UsbErrCode} (kept : w.Kept asObject) (inFlight : call ∈ w.calls)
    (none : call.token asObject = none) : (w.finish call ret).Kept asObject where
  claimed := ((claimed_perm asObject inFlight).nodup_iff.1 kept.claimed).of_append_right
  watched token member := by
    have held := tokens_perm asObject inFlight
    rw [none] at held
    exact kept.watched token (held.mem_iff.2 member)
  owned token there := by
    have held := tokens_perm asObject inFlight
    rw [none] at held
    exact held.mem_iff.1 (kept.owned token there)
  numbered := kept.numbered
  dead := kept.dead

omit [DecidableEq O] in
/-- A registration finds no entry and no other registration of its remote object. -/
theorem Kept.passed {call : Call C} {cb : C} (kept : w.Kept asObject) (inFlight : call ∈ w.calls)
    (before : call.inserting asObject = none) (none : call.token asObject = none)
    (noEntry : ∀ entry ∈ w.deviceListeners, asObject entry.listener ≠ asObject cb)
    (alone : ∀ call ∈ w.calls, call.inserting asObject ≠ some (asObject cb)) :
    (w.goto call (.addDeathRecipient cb)).Kept asObject := by
  have held := tokens_perm asObject inFlight
  rw [none] at held
  refine { claimed := ?_, watched := ?_, owned := ?_, numbered := kept.numbered, dead := kept.dead }
  · have rest := claimed_perm asObject inFlight
    rw [before] at rest
    refine List.nodup_middle.2 (List.nodup_cons.2 ⟨fun member => ?_, rest.nodup_iff.1 kept.claimed⟩)
    obtain entries | calls := List.mem_append.1 member
    · obtain ⟨entry, listed, same⟩ := List.mem_map.1 entries
      exact noEntry entry listed same
    · obtain ⟨other, inFlight, same⟩ := List.mem_filterMap.1 calls
      exact alone other (List.mem_of_mem_erase inFlight) same
  · exact fun token member => kept.watched token (held.mem_iff.2 member)
  · exact fun token there => held.mem_iff.1 (kept.owned token there)

/-- A registration has got its death recipient. -/
theorem Kept.added {cb : C} (kept : w.Kept asObject) (inFlight : .addDeathRecipient cb ∈ w.calls) :
    ({ w with
        created := w.created + 1
        installed := insert (asObject cb, w.created) w.installed }.goto (.addDeathRecipient cb)
      (.push cb w.created)).Kept asObject := by
  have claims := claimed_perm asObject inFlight
  have held := tokens_perm asObject inFlight
  refine { claimed := ?_, watched := ?_, owned := ?_, numbered := ?_, dead := ?_ }
  · exact List.nodup_middle.2 (claims.nodup_iff.1 kept.claimed)
  · intro token member
    obtain rfl | old := List.mem_cons.1 (List.perm_middle.mem_iff.1 member)
    · exact .inl (Finset.mem_insert_self ..)
    · exact (kept.watched token (held.mem_iff.2 old)).imp_left (Finset.mem_insert_of_mem ·)
  · intro token there
    refine List.perm_middle.mem_iff.2 ?_
    obtain rfl | old := Finset.mem_insert.1 there
    · exact List.mem_cons_self ..
    · exact List.mem_cons_of_mem _ (held.mem_iff.1 (kept.owned token old))
  · intro token there
    obtain there | dying := there
    · obtain rfl | old := Finset.mem_insert.1 there
      · exact Nat.lt_succ_self _
      · exact Nat.lt_succ_of_lt (kept.numbered token (.inl old))
    · exact Nat.lt_succ_of_lt (kept.numbered token (.inr dying))
  · intro token dying there
    obtain rfl | old := Finset.mem_insert.1 there
    · exact Nat.lt_irrefl _ (kept.numbered _ (.inr dying))
    · exact kept.dead token dying old

omit [DecidableEq O] in
/-- A registration inserts its entry. -/
theorem Kept.pushed {cb : C} {deathRecipient : Nat} {ret : UsbErrCode} (kept : w.Kept asObject)
    (inFlight : .push cb deathRecipient ∈ w.calls) :
    ({ w with deviceListeners := w.deviceListeners ++ [⟨cb, deathRecipient⟩] : World C O }.finish
      (.push cb deathRecipient) ret).Kept asObject := by
  have claims := claimed_perm asObject inFlight
  have held : ∀ token, token ∈ w.tokens asObject ↔
      token ∈ ({ w with deviceListeners := w.deviceListeners ++ [⟨cb, deathRecipient⟩] : World C O }.finish
        (.push cb deathRecipient) ret).tokens asObject := by
    intro token
    rw [(tokens_perm asObject inFlight).mem_iff]
    simp only [Call.token, DeviceListenerEntry.token, Option.toList_some, World.tokens, World.finish,
      List.map_append, List.map_cons, List.map_nil, List.mem_append, List.mem_cons, List.not_mem_nil, or_false]
    tauto
  refine { claimed := ?_, watched := ?_, owned := ?_, numbered := kept.numbered, dead := kept.dead }
  · dsimp only [World.claimed, World.finish]
    rw [List.map_append, List.append_assoc]
    exact List.nodup_middle.2 (claims.nodup_iff.1 kept.claimed)
  · exact fun token member => kept.watched token ((held token).2 member)
  · exact fun token there => (held token).1 (kept.owned token there)

omit [DecidableEq C] in
/-- What the loop over the entries does. -/
theorem removeFirst_cases (remote : O) :
    (w.removeFirst asObject remote = w ∧ ∀ entry ∈ w.deviceListeners, asObject entry.listener ≠ remote) ∨
      ∃ before entry after, asObject entry.listener = remote ∧
        w.deviceListeners = before ++ entry :: after ∧
        w.removeFirst asObject remote =
          { w with
            deviceListeners := before ++ after
            installed := w.installed.erase (remote, entry.deathRecipient) } := by
  unfold removeFirst
  split
  next absent =>
    refine .inl ⟨rfl, fun entry listed same => ?_⟩
    exact List.find?_eq_none.1 absent entry listed (decide_eq_true same)
  next entry found =>
    obtain ⟨is, before, after, split, others⟩ := List.find?_eq_some_iff_append.1 found
    refine .inr ⟨before, entry, after, of_decide_eq_true is, split, ?_⟩
    have erased : w.deviceListeners.eraseP (fun entry => asObject entry.listener = remote) = before ++ after := by
      rw [split, List.eraseP_append_right _ fun other member => by simpa using others other member]
      exact congrArg (before ++ ·) (List.eraseP_cons_of_pos is)
    rw [erased]

omit [DecidableEq C] in
/-- No entry of the remote object is left, since there was one at most. -/
theorem Kept.removeFirst_gone (kept : w.Kept asObject) (remote : O) :
    ∀ entry ∈ (w.removeFirst asObject remote).deviceListeners, asObject entry.listener ≠ remote := by
  obtain ⟨same, none⟩ | ⟨before, first, after, is, split, removed⟩ := removeFirst_cases (w := w) remote
  · rw [same]
    exact none
  · rw [removed]
    rintro entry listed rfl
    have distinct := kept.claimed.of_append_left
    rw [split, List.map_append, List.map_cons] at distinct
    refine (List.nodup_cons.1 (List.nodup_middle.1 distinct)).1 ?_
    rw [is, ← List.map_append]
    exact List.mem_map.2 ⟨entry, listed, rfl⟩

omit [DecidableEq C] [DecidableEq O] in
theorem fst_mem_claimed {token : O × Nat} (held : token ∈ w.tokens asObject) : token.1 ∈ w.claimed asObject := by
  obtain ⟨entry, listed, rfl⟩ | ⟨call, inFlight, has⟩ := mem_tokens.1 held
  · exact List.mem_append_left _ (List.mem_map.2 ⟨entry, listed, rfl⟩)
  · refine List.mem_append_right _ (List.mem_filterMap.2 ⟨call, inFlight, ?_⟩)
    cases call with
    | push cb deathRecipient =>
      obtain rfl := Option.some.inj has
      rfl
    | enter _ => cases has
    | addDeathRecipient _ => cases has

omit [DecidableEq C] in
/-- The other entries keep their death recipients. -/
theorem Kept.removed (kept : w.Kept asObject) (remote : O) : (w.removeFirst asObject remote).Kept asObject := by
  obtain ⟨same, -⟩ | ⟨before, entry, after, is, split, removed⟩ := removeFirst_cases (w := w) remote
  · rw [same]
    exact kept
  have claims : (w.claimed asObject).Perm (remote :: (w.removeFirst asObject remote).claimed asObject) := by
    rw [removed, World.claimed, World.claimed, split, List.map_append, List.map_append, List.map_cons, is,
      List.append_assoc, List.append_assoc]
    exact List.perm_middle
  have held : (w.tokens asObject).Perm (entry.token asObject :: (w.removeFirst asObject remote).tokens asObject) := by
    rw [removed, World.tokens, World.tokens, split, List.map_append, List.map_append, List.map_cons,
      List.append_assoc, List.append_assoc]
    exact List.perm_middle
  have token_eq : entry.token asObject = (remote, entry.deathRecipient) := congrArg (·, entry.deathRecipient) is
  have installed : (w.removeFirst asObject remote).installed = w.installed.erase (remote, entry.deathRecipient) := by
    rw [removed]
  have dying : (w.removeFirst asObject remote).dying = w.dying := by rw [removed]
  have created : (w.removeFirst asObject remote).created = w.created := by rw [removed]
  obtain ⟨others, rest⟩ := List.nodup_cons.1 (claims.nodup_iff.1 kept.claimed)
  refine { claimed := rest, watched := ?_, owned := ?_, numbered := ?_, dead := ?_ }
  · intro token member
    rw [installed, dying]
    refine (kept.watched token (held.mem_iff.2 (List.mem_cons_of_mem _ member))).imp_left fun there => ?_
    refine Finset.mem_erase.2 ⟨?_, there⟩
    rintro rfl
    exact others (fst_mem_claimed member)
  · intro token there
    rw [installed] at there
    obtain ⟨differs, there⟩ := Finset.mem_erase.1 there
    obtain rfl | member := List.mem_cons.1 (held.mem_iff.1 (kept.owned token there))
    · exact absurd token_eq differs
    · exact member
  · intro token there
    rw [installed, dying] at there
    rw [created]
    exact kept.numbered token (there.imp_left Finset.mem_of_mem_erase)
  · intro token gone there
    rw [installed] at there
    rw [dying] at gone
    exact kept.dead token gone (Finset.mem_of_mem_erase there)

omit [DecidableEq C] in
/-- A client dies. -/
theorem Kept.died (kept : w.Kept asObject) (remote : O) :
    ({ w with
        installed := w.installed.filter (·.1 ≠ remote)
        dying := w.dying ∪ w.installed.filter (·.1 = remote)
        returned := none } : World C O).Kept asObject where
  claimed := kept.claimed
  watched token member := by
    obtain there | dying := kept.watched token member
    · by_cases own : token.1 = remote
      · exact .inr (Finset.mem_union_right _ (Finset.mem_filter.2 ⟨there, own⟩))
      · exact .inl (Finset.mem_filter.2 ⟨there, own⟩)
    · exact .inr (Finset.mem_union_left _ dying)
  owned token there := kept.owned token (Finset.mem_filter.1 there).1
  numbered token there := by
    obtain there | dying := there
    · exact kept.numbered token (.inl (Finset.mem_filter.1 there).1)
    · obtain before | now := Finset.mem_union.1 dying
      · exact kept.numbered token (.inr before)
      · exact kept.numbered token (.inl (Finset.mem_filter.1 now).1)
  dead token dying there := by
    obtain ⟨there, other⟩ := Finset.mem_filter.1 there
    obtain before | now := Finset.mem_union.1 dying
    · exact kept.dead token before there
    · exact other (Finset.mem_filter.1 now).2

variable (asObject w) in
omit [DecidableEq C] in
theorem removeFirst_frame (remote : O) :
    (w.removeFirst asObject remote).dying = w.dying ∧ (w.removeFirst asObject remote).calls = w.calls := by
  unfold removeFirst
  split
  next => exact ⟨rfl, rfl⟩
  next => exact ⟨rfl, rfl⟩

omit [DecidableEq C] in
theorem removeFirst_subset (remote : O) : (w.removeFirst asObject remote).installed ⊆ w.installed ∧
    (w.removeFirst asObject remote).deviceListeners ⊆ w.deviceListeners := by
  unfold removeFirst
  split
  next => exact ⟨Finset.Subset.refl _, List.Subset.refl _⟩
  next => exact ⟨Finset.erase_subset .., List.eraseP_subset⟩

omit [DecidableEq C] in
/-- `OnRemoteDied` runs for a death recipient whose entry has been inserted. -/
theorem Kept.notified {remote : O} {deathRecipient : Nat} (kept : w.Kept asObject)
    (inserted : ∀ call ∈ w.calls, call.token asObject ≠ some (remote, deathRecipient)) :
    ({ w.removeFirst asObject remote with
        dying := w.dying.erase (remote, deathRecipient)
        returned := none } : World C O).Kept asObject := by
  obtain ⟨dying, calls⟩ := removeFirst_frame asObject w remote
  have after := kept.removed remote
  have unused : (remote, deathRecipient) ∉ (w.removeFirst asObject remote).tokens asObject := by
    intro member
    obtain ⟨entry, listed, same⟩ | ⟨call, inFlight, has⟩ := mem_tokens.1 member
    · exact kept.removeFirst_gone remote entry listed (congrArg Prod.fst same)
    · rw [calls] at inFlight
      exact inserted call inFlight has
  refine { claimed := after.claimed, watched := ?_, owned := after.owned, numbered := ?_, dead := ?_ }
  · intro token member
    refine (after.watched token member).imp_right fun gone => ?_
    rw [dying] at gone
    refine Finset.mem_erase.2 ⟨?_, gone⟩
    rintro rfl
    exact unused member
  · intro token there
    refine after.numbered token (there.imp_right fun gone => ?_)
    rw [dying]
    exact Finset.mem_of_mem_erase gone
  · intro token gone there
    refine after.dead token ?_ there
    rw [dying]
    exact Finset.mem_of_mem_erase gone

omit [DecidableEq C] [DecidableEq O] in
/-- A call starts. -/
theorem Kept.started (kept : w.Kept asObject) (request : Request C) :
    ({ w with calls := .enter request :: w.calls, returned := none } : World C O).Kept asObject where
  claimed := kept.claimed
  watched := kept.watched
  owned := kept.owned
  numbered := kept.numbered
  dead := kept.dead

/-- What the section of a call that is in flight comes to. -/
inductive Advanced (asObject : C → O) (w : World C O) : Call C → World C O → Prop where
  /-- The call ends, and neither makes an entry nor removes one. -/
  | refused {call : Call C} {ret : UsbErrCode} :
      call.token asObject = none → ret ≠ .uecOk → Advanced asObject w call (w.finish call ret)
  | passed {cb : C} {checkSysApiPermission : UsbErrCode} : w.Passes asObject cb checkSysApiPermission →
      Advanced asObject w (.enter (.registerConnectionListener (some cb) checkSysApiPermission))
        (w.goto (.enter (.registerConnectionListener (some cb) checkSysApiPermission)) (.addDeathRecipient cb))
  | added {cb : C} :
      Advanced asObject w (.addDeathRecipient cb)
        ({ w with
            created := w.created + 1
            installed := insert (asObject cb, w.created) w.installed }.goto (.addDeathRecipient cb)
          (.push cb w.created))
  | pushed {cb : C} {deathRecipient : Nat} :
      Advanced asObject w (.push cb deathRecipient)
        ({ w with deviceListeners := w.deviceListeners ++ [⟨cb, deathRecipient⟩] : World C O }.finish
          (.push cb deathRecipient) .uecOk)
  | removed {cb : C} {checkSysApiPermission : UsbErrCode} :
      Advanced asObject w (.enter (.unRegisterConnectionListener (some cb) checkSysApiPermission))
        ((w.removeFirst asObject (asObject cb)).finish
          (.enter (.unRegisterConnectionListener (some cb) checkSysApiPermission)) .uecOk)

variable (asObject) (w) in
theorem advance_cases (call : Call C) (deathRecipient addDeathRecipient : Bool) :
    Advanced asObject w call (w.advance asObject call deathRecipient addDeathRecipient) := by
  cases call with
  | enter request =>
    cases request with
    | registerConnectionListener cb checkSysApiPermission =>
      cases cb with
      | none => exact .refused rfl (by decide)
      | some cb =>
        dsimp only [World.advance]
        split_ifs with denied known
        · exact .refused rfl denied
        · exact .refused rfl (by decide)
        · exact .passed ⟨not_not.1 denied, fun entry listed same => known ⟨entry, listed, same⟩⟩
    | unRegisterConnectionListener cb checkSysApiPermission =>
      cases cb with
      | none => exact .refused rfl (by decide)
      | some cb =>
        dsimp only [World.advance]
        split_ifs with denied
        · exact .refused rfl denied
        · exact .removed
  | addDeathRecipient cb =>
    dsimp only [World.advance]
    split_ifs
    · exact .refused rfl (by decide)
    · exact .refused rfl (by decide)
    · exact .added
  | push cb deathRecipient => exact .pushed

theorem Kept.advance {call : Call C} {deathRecipient addDeathRecipient : Bool} (kept : w.Kept asObject)
    (inFlight : call ∈ w.calls) (orderly : w.Orderly asObject (.advance call deathRecipient addDeathRecipient)) :
    (w.advance asObject call deathRecipient addDeathRecipient).Kept asObject := by
  have outcome := advance_cases asObject w call deathRecipient addDeathRecipient
  generalize w.advance asObject call deathRecipient addDeathRecipient = w' at outcome ⊢
  cases outcome with
  | refused plain => exact kept.finish inFlight plain
  | passed passes => exact kept.passed inFlight rfl rfl passes.2 (orderly passes)
  | added => exact kept.added inFlight
  | pushed => exact kept.pushed inFlight
  | removed =>
    refine (kept.removed _).finish ?_ rfl
    rw [(removeFirst_frame _ _ _).2]
    exact inFlight

/-- An orderly step keeps the invariant. -/
theorem Kept.step {action : Action C O} {w' : World C O} (kept : w.Kept asObject)
    (orderly : w.Orderly asObject action) (taken : w.step asObject action = some w') : w'.Kept asObject := by
  cases action with
  | start request =>
    obtain rfl := Option.some.inj taken
    exact kept.started request
  | advance call deathRecipient addDeathRecipient =>
    obtain ⟨inFlight, advanced⟩ := Option.ite_none_right_eq_some.1 taken
    obtain rfl := Option.some.inj advanced
    exact kept.advance inFlight orderly
  | die remote =>
    obtain rfl := Option.some.inj taken
    exact kept.died remote
  | onRemoteDied remote deathRecipient =>
    obtain ⟨-, ran⟩ := Option.ite_none_right_eq_some.1 taken
    obtain rfl := Option.some.inj ran
    exact kept.notified orderly

/-- What an `UnRegisterConnectionListener` leaves. -/
theorem Kept.unregistered {action : Action C O} {w' : World C O} (kept : w.Kept asObject)
    (taken : w.step asObject action = some w') : w'.Unregistered asObject := by
  intro cb' check' ended
  cases action with
  | start request =>
    obtain rfl := Option.some.inj taken
    cases ended
  | advance call deathRecipient addDeathRecipient =>
    obtain ⟨-, advanced⟩ := Option.ite_none_right_eq_some.1 taken
    obtain rfl := Option.some.inj advanced
    have outcome := advance_cases asObject w call deathRecipient addDeathRecipient
    generalize w.advance asObject call deathRecipient addDeathRecipient = w' at outcome ended
    cases outcome with
    | refused _ failed =>
      cases ended
      exact absurd rfl failed
    | removed =>
      cases ended
      exact kept.removeFirst_gone _
    | passed | added | pushed => cases ended
  | die remote =>
    obtain rfl := Option.some.inj taken
    cases ended
  | onRemoteDied remote deathRecipient =>
    obtain ⟨-, ran⟩ := Option.ite_none_right_eq_some.1 taken
    obtain rfl := Option.some.inj ran
    cases ended

theorem kept_reached (reached : Reach (World.step asObject) (World.Orderly asObject) {} w) :
    w.Kept asObject ∧ w.Unregistered asObject := by
  refine Reach.invariant (fun w => w.Kept asObject ∧ w.Unregistered asObject) ?_ ?_ reached
  · exact ⟨⟨List.nodup_nil, nofun, nofun, nofun, nofun⟩, nofun⟩
  · exact fun s a s' kept orderly taken => ⟨kept.1.step orderly taken, kept.1.unregistered taken⟩

/-! ### A step out of order -/

/-- A registration that has passed the check can insert its entry. -/
theorem leads_pushed {call : Call C} {remote : O} (inFlight : call ∈ w.calls)
    (inserting : call.inserting asObject = some remote) :
    ∃ entry w', Leads (World.step asObject) w w' ∧ asObject entry.listener = remote ∧
      w'.deviceListeners = w.deviceListeners ++ [entry] ∧ w'.calls = w.calls.erase call := by
  cases call with
  | enter _ => cases inserting
  | addDeathRecipient cb =>
    let adding := w.advance asObject (.addDeathRecipient cb) true true
    have added : Leads (World.step asObject) w adding :=
      .of_step (a := .advance (.addDeathRecipient cb) true true) (if_pos inFlight)
    have pushed : Leads (World.step asObject) adding (adding.advance asObject (.push cb w.created) true true) :=
      .of_step (a := .advance (.push cb w.created) true true) (if_pos (List.mem_cons_self ..))
    refine ⟨⟨cb, w.created⟩, _, added.trans pushed, Option.some.inj inserting, rfl, ?_⟩
    exact List.erase_cons_head ..
  | push cb deathRecipient =>
    have pushed : Leads (World.step asObject) w _ := .of_step
      (a := .advance (.push cb deathRecipient) true true) (if_pos inFlight)
    exact ⟨⟨cb, deathRecipient⟩, _, pushed, Option.some.inj inserting, rfl, rfl⟩

/-- Two registrations of one remote object that have both passed the check can make two entries. -/
theorem leads_twice {first second : Call C} {remote : O} (inFlight : first ∈ w.calls)
    (other : second ∈ w.calls.erase first) (inserting : first.inserting asObject = some remote)
    (inserting' : second.inserting asObject = some remote) :
    ∃ w', Leads (World.step asObject) w w' ∧ ¬ w'.ListenersAreSet asObject := by
  obtain ⟨entry, mid, leads, is, listeners, calls⟩ := leads_pushed inFlight inserting
  rw [← calls] at other
  obtain ⟨entry', w', leads', is', listeners', -⟩ := leads_pushed other inserting'
  refine ⟨w', leads.trans leads', fun listenersAreSet => ?_⟩
  have distinct := listenersAreSet.distinct
  rw [listeners', listeners, List.map_append, List.map_append, List.append_assoc] at distinct
  refine (List.nodup_cons.1 distinct.of_append_right).1 ?_
  exact List.mem_singleton.2 (is.trans is'.symm)

/-- A death recipient that runs before its entry is inserted leaves the entry without one. -/
theorem leads_unwatched {cb : C} {deathRecipient : Nat} (inFlight : .push cb deathRecipient ∈ w.calls)
    (gone : (asObject cb, deathRecipient) ∉ w.installed ∧ (asObject cb, deathRecipient) ∉ w.dying) :
    ∃ w', Leads (World.step asObject) w w' ∧ ¬ w'.ListenersAreSet asObject := by
  have pushed : Leads (World.step asObject) w _ := .of_step
    (a := .advance (.push cb deathRecipient) true true) (if_pos inFlight)
  refine ⟨_, pushed, fun listenersAreSet => ?_⟩
  obtain there | dying := listenersAreSet.installed ⟨cb, deathRecipient⟩
    (List.mem_append_right _ (List.mem_singleton_self _))
  · exact gone.1 there
  · exact gone.2 dying

/-- A step out of order can be followed by a state in which the listeners are no set. -/
theorem Kept.broken {action : Action C O} {w' : World C O} (kept : w.Kept asObject)
    (taken : w.step asObject action = some w') (disorderly : ¬ w.Orderly asObject action) :
    ∃ worse, Leads (World.step asObject) w' worse ∧ ¬ worse.ListenersAreSet asObject := by
  cases action with
  | start _ => exact absurd trivial disorderly
  | die _ => exact absurd trivial disorderly
  | advance call deathRecipient addDeathRecipient =>
    cases call with
    | addDeathRecipient _ => exact absurd trivial disorderly
    | push _ _ => exact absurd trivial disorderly
    | enter request =>
      cases request with
      | unRegisterConnectionListener _ _ => exact absurd trivial disorderly
      | registerConnectionListener cb checkSysApiPermission =>
        cases cb with
        | none => exact absurd trivial disorderly
        | some cb =>
          obtain ⟨passes, rival⟩ := Classical.not_imp.1 disorderly
          obtain ⟨-, advanced⟩ := Option.ite_none_right_eq_some.1 taken
          dsimp only [World.advance] at advanced
          rw [if_neg (not_not.2 passes.1), if_neg fun ⟨entry, listed, same⟩ => passes.2 entry listed same] at advanced
          obtain rfl := Option.some.inj advanced
          simp only [not_forall, not_not] at rival
          obtain ⟨other, inFlight, inserting⟩ := rival
          have first : ∀ call, .addDeathRecipient cb ∈ (w.goto call (.addDeathRecipient cb)).calls := fun _ =>
            List.mem_cons_self ..
          refine leads_twice (first _) ?_ rfl inserting
          rw [goto, List.erase_cons_head]
          refine (List.mem_erase_of_ne ?_).2 inFlight
          rintro rfl
          cases inserting
  | onRemoteDied remote deathRecipient =>
    obtain ⟨dying, ran⟩ := Option.ite_none_right_eq_some.1 taken
    obtain rfl := Option.some.inj ran
    simp only [Orderly, not_forall, not_not] at disorderly
    obtain ⟨call, inFlight, has⟩ := disorderly
    cases call with
    | enter _ => cases has
    | addDeathRecipient _ => cases has
    | push cb deathRecipient' =>
      cases has
      have notDying : (asObject cb, deathRecipient) ∉ w.dying.erase (asObject cb, deathRecipient) :=
        Finset.notMem_erase _ _
      refine leads_unwatched ?_ ⟨?_, notDying⟩
      · rw [← (removeFirst_frame asObject w (asObject cb)).2] at inFlight
        exact inFlight
      · exact fun there => kept.dead _ dying ((removeFirst_subset _).1 there)

/-! ### After an unregistration -/

/-- The client registers no listener with that remote object. -/
def NotRegistering (asObject : C → O) (remote : O) (_ : World C O) : Action C O → Prop
  | .start request => (Call.enter request).registering asObject ≠ some remote
  | .advance _ _ _ | .die _ | .onRemoteDied _ _ => True

/-- There is no entry of the remote object and none to come. -/
def Absent (asObject : C → O) (remote : O) (w : World C O) : Prop :=
  (∀ entry ∈ w.deviceListeners, asObject entry.listener ≠ remote) ∧
    ∀ call ∈ w.calls, call.registering asObject ≠ some remote

omit [DecidableEq C] in
theorem Absent.removed {remote : O} (absent : w.Absent asObject remote) (removed : O) :
    (w.removeFirst asObject removed).Absent asObject remote := by
  refine ⟨fun entry listed => absent.1 entry ((removeFirst_subset removed).2 listed), ?_⟩
  rw [(removeFirst_frame asObject w removed).2]
  exact absent.2

omit [DecidableEq O] in
theorem Absent.finish {remote : O} (absent : w.Absent asObject remote) (call : Call C) (ret : UsbErrCode) :
    (w.finish call ret).Absent asObject remote :=
  ⟨absent.1, all_of_ended absent.2⟩

omit [DecidableEq O] in
theorem Absent.goto {remote : O} {call next : Call C} (absent : w.Absent asObject remote)
    (other : next.registering asObject ≠ some remote) : (w.goto call next).Absent asObject remote :=
  ⟨absent.1, List.forall_mem_cons.2 ⟨other, all_of_ended absent.2⟩⟩

/-- A call for another remote object, or an unregistration, brings no entry of this one. -/
theorem Absent.advance {remote : O} {call : Call C} {deathRecipient addDeathRecipient : Bool}
    (absent : w.Absent asObject remote) (inFlight : call ∈ w.calls) :
    (w.advance asObject call deathRecipient addDeathRecipient).Absent asObject remote := by
  have notThis := absent.2 call inFlight
  have outcome := advance_cases asObject w call deathRecipient addDeathRecipient
  generalize w.advance asObject call deathRecipient addDeathRecipient = w' at outcome ⊢
  cases outcome with
  | refused => exact absent.finish _ _
  | passed => exact absent.goto notThis
  | added => exact absent.goto notThis
  | pushed =>
    refine ⟨fun entry listed => ?_, all_of_ended absent.2⟩
    obtain old | new := List.mem_append.1 listed
    · exact absent.1 entry old
    · obtain rfl := List.mem_singleton.1 new
      exact fun same => notThis (congrArg some same)
  | @removed cb => exact (absent.removed (asObject cb)).finish _ _

theorem Absent.step {remote : O} {action : Action C O} {w' : World C O} (absent : w.Absent asObject remote)
    (notRegistering : w.NotRegistering asObject remote action) (taken : w.step asObject action = some w') :
    w'.Absent asObject remote := by
  cases action with
  | start request =>
    obtain rfl := Option.some.inj taken
    exact ⟨absent.1, List.forall_mem_cons.2 ⟨notRegistering, absent.2⟩⟩
  | advance call deathRecipient addDeathRecipient =>
    obtain ⟨inFlight, advanced⟩ := Option.ite_none_right_eq_some.1 taken
    obtain rfl := Option.some.inj advanced
    exact absent.advance inFlight
  | die died =>
    obtain rfl := Option.some.inj taken
    exact absent
  | onRemoteDied died deathRecipient =>
    obtain ⟨-, ran⟩ := Option.ite_none_right_eq_some.1 taken
    obtain rfl := Option.some.inj ran
    exact absent.removed died

end World

variable {C O : Type} [DecidableEq C] [DecidableEq O]

/-- The listeners are a set in every orderly run, and one that is unregistered stays away until it is registered
again. A step out of order can be followed by a state in which they are no set. -/
theorem connection_listeners_set (asObject : C → O) (w : World C O)
    (reached : Reach (World.step asObject) (World.Orderly asObject) {} w) :
    w.ListenersAreSet asObject ∧
      (∀ cb checkSysApiPermission,
        w.returned = some (.enter (.unRegisterConnectionListener (some cb) checkSysApiPermission), .uecOk) →
        (∀ call ∈ w.calls, call.registering asObject ≠ some (asObject cb)) →
        ∀ w', Reach (World.step asObject) (World.NotRegistering asObject (asObject cb)) w w' →
          ∀ entry ∈ w'.deviceListeners, asObject entry.listener ≠ asObject cb) ∧
      ∀ action w', w.step asObject action = some w' → ¬ w.Orderly asObject action →
        ∃ worse, Leads (World.step asObject) w' worse ∧ ¬ worse.ListenersAreSet asObject := by
  obtain ⟨kept, unregistered⟩ := World.kept_reached reached
  refine ⟨kept.listenersAreSet unregistered, ?_, fun action w' taken disorderly => kept.broken taken disorderly⟩
  intro cb checkSysApiPermission ended none w' later
  exact (Reach.invariant _ ⟨unregistered cb checkSysApiPermission ended, none⟩
    (fun s a s' absent notRegistering taken => World.Absent.step absent notRegistering taken) later).1

/-- A call of `RegisterConnectionListener` and of `UnRegisterConnectionListener`. -/
def registration : Request Nat := .registerConnectionListener (some 7) .uecOk

def unregistration : Request Nat := .unRegisterConnectionListener (some 7) .uecOk

/-- A registration that is not disturbed. -/
def registers (deathRecipient : Nat) : List (Action Nat Nat) :=
  [.start registration, .advance (.enter registration) true true, .advance (.addDeathRecipient 7) true true,
    .advance (.push 7 deathRecipient) true true]

def unregisters : List (Action Nat Nat) := [.start unregistration, .advance (.enter unregistration) true true]

/-- The listener registers, tries to register again and dies; it registers anew and unregisters. -/
theorem connection_listeners_set_again : ∃ w : World Nat Nat,
    Reach (World.step id) (World.Orderly id) {} w ∧ w.ListenersAreSet id ∧
      ∀ entry ∈ w.deviceListeners, id entry.listener ≠ id 7 := by
  have reached : Reach (World.step id) (World.Orderly id) ({} : World Nat Nat) _ := reach_of_guarded
    (registers 0 ++ [.start registration, .advance (.enter registration) true true, .die 7, .onRemoteDied 7 0] ++
      registers 1 ++ unregisters)
    .init rfl
  obtain ⟨set, later, -⟩ := connection_listeners_set id _ reached
  exact ⟨_, reached, set, later 7 .uecOk rfl nofun _ .init⟩

/-- Two registrations of the listener both find no entry: it gets two, and one of them survives its
unregistration. If it dies before its entry is inserted, that stays without a death recipient. -/
theorem listener_registered_twice :
    (∃ w : World Nat Nat, Reach (World.step id) anyStep {} w ∧ w.calls = [] ∧
      ¬ (w.deviceListeners.map (·.listener)).Nodup) ∧
    (∃ w : World Nat Nat, Reach (World.step id) anyStep {} w ∧ w.calls = [] ∧
      w.returned = some (.enter unregistration, .uecOk) ∧ ∃ entry ∈ w.deviceListeners, entry.listener = 7) ∧
    ∃ w : World Nat Nat, Reach (World.step id) anyStep {} w ∧ w.calls = [] ∧
      ∃ entry ∈ w.deviceListeners, entry.token id ∉ w.installed ∧ entry.token id ∉ w.dying := by
  have registered : Reach (World.step id) anyStep ({} : World Nat Nat) _ := reach_of_runFrom
    [.start registration, .start registration, .advance (.enter registration) true true,
      .advance (.enter registration) true true, .advance (.addDeathRecipient 7) true true,
      .advance (.addDeathRecipient 7) true true, .advance (.push 7 0) true true, .advance (.push 7 1) true true]
    (fun _ _ _ => trivial) .init rfl
  have left : Reach (World.step id) anyStep ({} : World Nat Nat) _ :=
    reach_of_runFrom unregisters (fun _ _ _ => trivial) registered rfl
  have unwatched : Reach (World.step id) anyStep ({} : World Nat Nat) _ := reach_of_runFrom
    [.start registration, .advance (.enter registration) true true, .advance (.addDeathRecipient 7) true true,
      .die 7, .onRemoteDied 7 0, .advance (.push 7 0) true true]
    (fun _ _ _ => trivial) .init rfl
  exact ⟨⟨_, registered, rfl, by decide⟩, ⟨_, left, rfl, rfl, by decide⟩, _, unwatched, rfl, by decide⟩

end UsbManager.Connection.Registration
