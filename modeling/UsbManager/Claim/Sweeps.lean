import UsbManager.Claim.Listeners
import UsbManager.Lib.MapLoop

/-!
# The sweeps of a device, as they walk their maps

`RemoveExclusiveClaimByDevice`, `RemoveAllClaimByDevice` and `RemoveListenersByDevice` walk a map with an iterator,
tell the keys of the device by their prefix, and erase while they go. Each loop comes to the one-pass form of
`Claim/State.lean` and `Claim/Client.lean`. The maps of any run have no keys but built ones, and there the prefix
selects the keys built for the device and no other.
-/

namespace UsbManager.Claim

open Std (ExtTreeMap)
open MapLoop Transition

variable {V Listener : Type} {b d : UInt8} {table : ClaimTable}

/-! ## The loops -/

namespace Loop

def exclusiveBody (b d : UInt8) (tokenId : UInt32) : Body String ClaimInterfaceState (List DeathLink) :=
  fun key state links =>
    if comparePrefix key (claimPrefix b d) && state.exclusiveOwner == tokenId then
      let links := removeDeathRecipient links state.deathLink
      let cleared := state.clearExclusive
      if !cleared.normalClaimed then (none, links) else (some cleared, links)
    else (some state, links)

def removeExclusiveClaimByDevice (b d : UInt8) (tokenId : UInt32) (table : ClaimTable) : Option ClaimTable :=
  (loop (exclusiveBody b d tokenId) table.claimStateMap table.deathLinks).map fun (map, links) => ⟨map, links⟩

def allBody (b d : UInt8) : Body String ClaimInterfaceState (List DeathLink) := fun key state links =>
  if comparePrefix key (claimPrefix b d) then (none, removeDeathRecipient links state.deathLink)
  else (some state, links)

def removeAllClaimByDevice (b d : UInt8) (table : ClaimTable) : Option ClaimTable :=
  (loop (allBody b d) table.claimStateMap table.deathLinks).map fun (map, links) => ⟨map, links⟩

/-- The loop over `listeners_` has no state besides the map. -/
def listenersBody (b d : UInt8) : Body String Listener Unit := fun key listener _ =>
  if comparePrefix key (claimPrefix b d) then (none, ()) else (some listener, ())

def removeListenersByDevice (b d : UInt8) (l : Listeners Listener) : Option (Listeners Listener) :=
  (loop (listenersBody b d) l ()).map Prod.fst

end Loop

/-! ## What the loops leave -/

/-- The links that the entries of a list hold are removed one after the other. -/
theorem foldl_removeDeathRecipient (selects : String → ClaimInterfaceState → Bool)
    (entries : List (String × ClaimInterfaceState)) (links : List DeathLink) :
    entries.foldl (fun links entry =>
        if selects entry.1 entry.2 then removeDeathRecipient links entry.2.deathLink else links) links =
      links.diff (entries.filterMap fun entry => if selects entry.1 entry.2 then entry.2.deathLink else none) := by
  induction entries generalizing links with
  | nil => rfl
  | cons entry entries ih =>
    rw [List.foldl_cons, List.filterMap_cons, ih]
    cases selects entry.1 entry.2 with
    | false => rfl
    | true =>
      cases entry.2.deathLink with
      | none => rfl
      | some link => exact (List.diff_cons ..).symm

/-- A loop that selects entries, undoes their links and does with them what `next` says is a sweep. -/
theorem loop_eq_sweep {body : Body String ClaimInterfaceState (List DeathLink)}
    {selects : String → ClaimInterfaceState → Bool} {next : ClaimInterfaceState → Option ClaimInterfaceState}
    (steps : ∀ key state links, body key state links =
      (if selects key state then next state else some state,
        if selects key state then removeDeathRecipient links state.deathLink else links)) :
    (loop body table.claimStateMap table.deathLinks).map (fun (map, links) => (⟨map, links⟩ : ClaimTable)) =
      some (sweep selects next table) := by
  rw [loop_eq_filterMap steps, foldl_removeDeathRecipient]
  rfl

/-- The loop for any token. For a caller's own, which is never 0, the sweep is `Claim.removeExclusiveClaimByDevice`. -/
theorem Loop.removeExclusiveClaimByDevice_eq (t : UInt32) :
    Loop.removeExclusiveClaimByDevice b d t table = some (sweep
      (fun key state => comparePrefix key (claimPrefix b d) && state.exclusiveOwner == t)
      ClaimInterfaceState.dropExclusive table) := by
  refine loop_eq_sweep fun key state links => ?_
  unfold Loop.exclusiveBody ClaimInterfaceState.dropExclusive
  split
  · cases normal : state.normalClaimed <;> simp [ClaimInterfaceState.clearExclusive, normal]
  · rfl

theorem Loop.removeAllClaimByDevice_eq_some :
    Loop.removeAllClaimByDevice b d table = some (Claim.removeAllClaimByDevice b d table) := by
  refine loop_eq_sweep fun key state links => ?_
  unfold Loop.allBody
  split <;> rfl

theorem Loop.removeListenersByDevice_eq_some (l : Listeners Listener) :
    Loop.removeListenersByDevice b d l = some (l.removeListenersByDevice b d) := by
  have steps (key : String) (listener : Listener) (state : Unit) : Loop.listenersBody b d key listener state =
      (if comparePrefix key (claimPrefix b d) then none else some listener, ()) := by
    unfold Loop.listenersBody
    split <;> rfl
  rw [Loop.removeListenersByDevice, loop_eq_filterMap steps, Option.map_some]
  refine congrArg some (ExtTreeMap.ext_getElem? fun key => ?_)
  rw [ExtTreeMap.getElem?_filterMap', removeListenersByDevice_getElem?]
  cases comparePrefix key (claimPrefix b d) <;> cases l[key]? <;> rfl

/-! ## Maps from built keys -/

/-- Every key of the map was built for an interface. -/
def Keyed (m : ExtTreeMap String V) : Prop := ∀ key v, m[key]? = some v → ∃ p : Place, key = p.key

theorem keyed_empty : Keyed (∅ : ExtTreeMap String V) := by
  intro key v found
  simp at found

theorem Keyed.insert {m : ExtTreeMap String V} (keyed : Keyed m) (p : Place) (v : V) : Keyed (m.insert p.key v) := by
  intro key found here
  rw [ExtTreeMap.getElem?_insert] at here
  split at here
  next same => exact ⟨p, (Std.LawfulEqCmp.compare_eq_iff_eq.1 same).symm⟩
  next => exact keyed key found here

/-- Nothing is found that was not there. -/
theorem Keyed.of_subset {m m' : ExtTreeMap String V} (keyed : Keyed m)
    (subset : ∀ key : String, m'[key]? = none ∨ m'[key]? = m[key]?) : Keyed m' := by
  intro key v found
  rcases subset key with none | same
  · rw [none] at found
    cases found
  · exact keyed key v (same.symm.trans found)

/-- The prefix selects a key of the map exactly if it was built for the device. -/
theorem Keyed.comparePrefix_iff {m : ExtTreeMap String V} (keyed : Keyed m) {key : String} {v : V}
    (found : m[key]? = some v) : comparePrefix key (claimPrefix b d) = true ↔ ∃ i, key = makeClaimKey b d i := by
  obtain ⟨p, rfl⟩ := keyed key v found
  rw [Place.comparePrefix_key]
  constructor
  · rintro ⟨rfl, rfl⟩
    exact ⟨p.i, rfl⟩
  · rintro ⟨i, same⟩
    obtain ⟨bus, dev, -⟩ := makeClaimKey_inj.1 same
    exact ⟨bus, dev⟩

/-- `after` is `before` without the keys that were built for the device. -/
structure RemovesDevice (b d : UInt8) (before after : ExtTreeMap String V) : Prop where
  removed : ∀ i, after[makeClaimKey b d i]? = none
  others : ∀ key, (∀ i, key ≠ makeClaimKey b d i) → after[key]? = before[key]?
  elsewhere : ∀ p : Place, ¬ (p.b = b ∧ p.d = d) → after[p.key]? = before[p.key]?

/-- `after` is `before` without what `t` claimed exclusively on the device. -/
structure RemovesExclusive (b d : UInt8) (t : UInt32) (before after : ExtTreeMap String ClaimInterfaceState) :
    Prop where
  erased : ∀ i state, before[makeClaimKey b d i]? = some state → state.exclusiveOwner = t →
    (after[makeClaimKey b d i]? = none ↔ state.normalClaimed = false)
  cleared : ∀ i state, before[makeClaimKey b d i]? = some state → state.exclusiveOwner = t →
    state.normalClaimed = true → after[makeClaimKey b d i]? = some state.clearExclusive
  others : ∀ key, (∀ i state, key = makeClaimKey b d i → before[key]? = some state → state.exclusiveOwner ≠ t) →
    after[key]? = before[key]?
  changed : t ≠ 0 → ∀ key, after[key]? ≠ before[key]? ↔
    ∃ i state, key = makeClaimKey b d i ∧ before[key]? = some state ∧ state.exclusiveOwner = t
  elsewhere : ∀ p : Place, ¬ (p.b = b ∧ p.d = d) → after[p.key]? = before[p.key]?

theorem Place.key_ne {p : Place} (other : ¬ (p.b = b ∧ p.d = d)) (i : UInt8) : p.key ≠ makeClaimKey b d i := by
  intro same
  obtain ⟨bus, dev, -⟩ := makeClaimKey_inj.1 same
  exact other ⟨bus, dev⟩

/-- An erasure by the prefix. -/
theorem Keyed.removesDevice {m m' : ExtTreeMap String V} (keyed : Keyed m)
    (found : ∀ key : String, m'[key]? = if comparePrefix key (claimPrefix b d) then none else m[key]?) :
    RemovesDevice b d m m' := by
  have others (key : String) (other : ∀ i, key ≠ makeClaimKey b d i) : m'[key]? = m[key]? := by
    rw [found key]
    cases there : m[key]? with
    | none => exact ite_self _
    | some v =>
      rw [if_neg]
      intro selected
      obtain ⟨i, same⟩ := (keyed.comparePrefix_iff there).1 selected
      exact other i same
  refine ⟨fun i => ?_, others, fun p other => others p.key (Place.key_ne other)⟩
  rw [found, if_pos (comparePrefix_makeClaimKey.2 ⟨rfl, rfl⟩)]

/-- An entry that `t` claimed exclusively does not stay as it is. -/
theorem dropExclusive_ne {state : ClaimInterfaceState} {t : UInt32} (token : t ≠ 0) (mine : state.exclusiveOwner = t) :
    state.dropExclusive ≠ some state := by
  intro same
  obtain ⟨-, cleared⟩ := ClaimInterfaceState.dropExclusive_eq_some.1 same
  have none : state.exclusiveOwner = 0 := (congrArg ClaimInterfaceState.exclusiveOwner cleared).symm
  exact token (mine.symm.trans none)

theorem Keyed.removesExclusive {m m' : ExtTreeMap String ClaimInterfaceState} (keyed : Keyed m) {t : UInt32}
    (found : ∀ key : String, m'[key]? = (m[key]?).bind fun state : ClaimInterfaceState =>
      if comparePrefix key (claimPrefix b d) && state.exclusiveOwner == t then state.dropExclusive else some state) :
    RemovesExclusive b d t m m' := by
  have selected (i : UInt8) (state : ClaimInterfaceState) (there : m[makeClaimKey b d i]? = some state)
      (mine : state.exclusiveOwner = t) : m'[makeClaimKey b d i]? = state.dropExclusive := by
    have device : comparePrefix (makeClaimKey b d i) (claimPrefix b d) = true :=
      comparePrefix_makeClaimKey.2 ⟨rfl, rfl⟩
    rw [found, there, Option.bind_some, device, mine, Bool.true_and, beq_self_eq_true, if_pos rfl]
  have others (key : String)
      (other : ∀ i state, key = makeClaimKey b d i → m[key]? = some state → state.exclusiveOwner ≠ t) :
      m'[key]? = m[key]? := by
    rw [found key]
    cases there : m[key]? with
    | none => rfl
    | some state =>
      rw [Option.bind_some, if_neg]
      rw [Bool.and_eq_true, keyed.comparePrefix_iff there, beq_iff_eq]
      rintro ⟨⟨i, same⟩, mine⟩
      exact other i state same there mine
  constructor
  case erased =>
    intro i state there mine
    rw [selected i state there mine, ClaimInterfaceState.dropExclusive]
    cases state.normalClaimed <;> simp
  case cleared =>
    intro i state there mine normal
    rw [selected i state there mine, ClaimInterfaceState.dropExclusive, if_pos normal]
  case others => exact others
  case changed =>
    intro token key
    constructor
    · intro changed
      by_contra other
      exact changed (others key fun i state same there mine => other ⟨i, state, same, there, mine⟩)
    · rintro ⟨i, state, rfl, there, mine⟩
      rw [selected i state there mine, there]
      exact dropExclusive_ne token mine
  case elsewhere =>
    intro p other
    exact others p.key fun i _ same => absurd same (Place.key_ne other i)

/-- On maps from built keys each of the three loops comes to its end and takes what it should from the device, and
nothing from any other device. -/
theorem sweeps_exact (b d : UInt8) (t : UInt32) (keyed : Keyed table.claimStateMap) {l : Listeners Listener}
    (listened : Keyed l) :
    (∃ after, Loop.removeAllClaimByDevice b d table = some after ∧
      RemovesDevice b d table.claimStateMap after.claimStateMap) ∧
    (∃ after, Loop.removeExclusiveClaimByDevice b d t table = some after ∧
      RemovesExclusive b d t table.claimStateMap after.claimStateMap) ∧
    ∃ after, Loop.removeListenersByDevice b d l = some after ∧ RemovesDevice b d l after := by
  refine ⟨⟨_, Loop.removeAllClaimByDevice_eq_some, ?_⟩, ⟨_, Loop.removeExclusiveClaimByDevice_eq t, ?_⟩,
    ⟨_, Loop.removeListenersByDevice_eq_some l, ?_⟩⟩
  · exact keyed.removesDevice fun key => removeAllClaimByDevice_getElem? key
  · exact keyed.removesExclusive fun key => sweep_getElem? key
  · exact listened.removesDevice fun key => removeListenersByDevice_getElem? key

/-- Three devices whose keys differ in the number of ones alone. -/
def neighbours : ClaimTable where
  claimStateMap := (∅ : ExtTreeMap String ClaimInterfaceState)
    |>.insert (Place.key ⟨1, 1, 0⟩) { exclusiveOwner := 5 }
    |>.insert (Place.key ⟨1, 11, 0⟩) { exclusiveOwner := 5 }
    |>.insert (Place.key ⟨11, 1, 0⟩) { normalClaimed := true }

theorem sweeps_exact_neighbours :
    ∃ after, Loop.removeAllClaimByDevice 1 11 neighbours = some after ∧
      after.claimStateMap[Place.key ⟨1, 11, 0⟩]? = none ∧
      after.claimStateMap[Place.key ⟨1, 1, 0⟩]? = some { exclusiveOwner := 5 } ∧
      after.claimStateMap[Place.key ⟨11, 1, 0⟩]? = some { normalClaimed := true } := by
  have keyed : Keyed neighbours.claimStateMap := ((keyed_empty.insert _ _).insert _ _).insert _ _
  obtain ⟨⟨after, run, removes⟩, -, -⟩ := sweeps_exact 1 11 5 keyed (keyed_empty : Keyed (∅ : Listeners Unit))
  refine ⟨after, run, removes.removed 0, ?_, ?_⟩
  · exact (removes.elsewhere ⟨1, 1, 0⟩ (by decide)).trans (by decide +kernel)
  · exact (removes.elsewhere ⟨11, 1, 0⟩ (by decide)).trans (by decide +kernel)

/-! ## The keys of a run -/

/-- The service makes entries under built keys only. -/
theorem Keyed.sections {op : Op} {after : ClaimTable} (keyed : Keyed table.claimStateMap)
    (sections : Sections table op after) : Keyed after.claimStateMap := by
  intro key state found
  cases sections.entry found with
  | kept before | cleared before | denormalized before => exact keyed key _ before
  | @normalized t b d i _ same => exact ⟨⟨b, d, i⟩, same.symm⟩
  | @registered t b d i _ _ _ same => exact ⟨⟨b, d, i⟩, same.symm⟩

namespace Listeners

variable {l : Listeners Listener}

theorem keyed_addListener (keyed : Keyed l) (p : Place) (listener : Option Listener) :
    Keyed (l.addListener p.b p.d p.i listener) := by
  cases listener with
  | none => exact keyed
  | some listener => exact keyed.insert p listener

theorem keyed_removeListener (keyed : Keyed l) (b d i : UInt8) : Keyed (l.removeListener b d i) := by
  refine keyed.of_subset fun key => ?_
  rw [removeListener, ExtTreeMap.getElem?_erase]
  split
  · exact .inl rfl
  · exact .inr rfl

theorem keyed_removeListenersByDevice (keyed : Keyed l) (b d : UInt8) : Keyed (l.removeListenersByDevice b d) := by
  refine keyed.of_subset fun key => ?_
  rw [removeListenersByDevice_getElem?]
  split
  · exact .inl rfl
  · exact .inr rfl

end Listeners

/-- The table of the client, if it has one. -/
def UsbSrvClient.Keyed (c : UsbSrvClient Listener) : Prop := ∀ l, c.claimCallback = some l → Claim.Keyed l

theorem UsbSrvClient.Keyed.forward {c : UsbSrvClient Listener} (keyed : c.Keyed) (outcome : Outcome)
    {tell : Listeners Listener → Listeners Listener}
    (kept : ∀ l : Listeners Listener, Claim.Keyed l → Claim.Keyed (tell l)) :
    (c.forward outcome tell).client.Keyed := by
  intro l found
  obtain ⟨old, had, rfl⟩ := Option.map_eq_some_iff.1 found
  exact kept old (keyed old had)

/-- The client makes listeners under built keys only. -/
theorem UsbSrvClient.Keyed.exec {c : UsbSrvClient Listener} (keyed : c.Keyed) (call : ClientCall Listener)
    (proxy : Bool) (env : Env) (table : ClaimTable) : (call.exec proxy env c table).client.Keyed := by
  cases call with
  | claimInterface p force =>
    cases proxy with
    | false => exact keyed
    | true => exact keyed.forward _ fun _ => id
  | claimInterfaceExclusive p force callback =>
    cases proxy with
    | false => exact keyed
    | true =>
      simp only [ClientCall.exec, UsbSrvClient.claimInterfaceExclusive, if_true]
      split
      next => exact keyed
      next listeners has =>
        have added := Listeners.keyed_addListener (keyed listeners has) p (some callback)
        split
        · intro l found
          obtain rfl := Option.some.inj found
          exact Listeners.keyed_removeListener added p.b p.d p.i
        · intro l found
          obtain rfl := Option.some.inj found
          exact added
  | releaseInterface p =>
    cases proxy with
    | false => exact keyed
    | true => exact keyed.forward _ fun _ kept => Listeners.keyed_removeListener kept p.b p.d p.i
  | close b d =>
    cases proxy with
    | false => exact keyed
    | true => exact keyed.forward _ fun _ kept => Listeners.keyed_removeListenersByDevice kept b d
  | closeEx b d connected =>
    cases connected <;> cases proxy
    · exact keyed
    · exact keyed
    · exact keyed
    · exact keyed.forward _ fun _ => id

namespace Shared

/-- Both tables have keys that were built, in every run of the client, the service and the other clients. -/
theorem keyed_of_reach {tokenId : TokenId} {object : Callback} {w : Shared Listener}
    (run : Reach step anyStep (init tokenId object) w) : Keyed w.table.claimStateMap ∧ w.client.Keyed := by
  refine run.invariant (fun w => Keyed w.table.claimStateMap ∧ w.client.Keyed) ⟨keyed_empty, ?_⟩ ?_
  · intro l found
    obtain rfl := Option.some.inj found
    exact keyed_empty
  · rintro w e w' ⟨keyed, listened⟩ - taken
    cases e with
    | call call proxy env =>
      cases taken
      refine ⟨?_, listened.exec call proxy env w.table⟩
      rcases exec_table_cases call proxy env w.client w.table with same | ⟨op, same, -⟩
      · dsimp only
        rw [same]
        exact keyed
      · dsimp only
        rw [same]
        exact keyed.sections (op.exec_sections env w.table)
    | other op env =>
      rw [step] at taken
      split at taken
      next => cases taken
      next =>
        cases taken
        exact ⟨keyed.sections (op.exec_sections env w.table), listened⟩

end Shared

end UsbManager.Claim
