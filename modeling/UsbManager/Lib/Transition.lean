import Mathlib.Data.List.Basic
import Mathlib.Logic.Relation

/-!
# Guarded runs of a transition function

A system is a partial step function `step : S → A → Option S`: `none` says the action is
not enabled. `Reach step guard init` are the states of the runs from `init` all of whose
steps meet `guard` in the state they are taken from; with the guard `anyStep` these are all
runs. Every safety result is `Reach.invariant`: one fact about the initial state and one
about a single step.
-/

namespace Transition

variable {S A : Type}

/-- The states reached from `init` by steps that all meet `guard`. -/
inductive Reach (step : S → A → Option S) (guard : S → A → Prop) (init : S) : S → Prop where
  | init : Reach step guard init init
  | step {s s' : S} {a : A} : Reach step guard init s → guard s a → step s a = some s' →
      Reach step guard init s'

/-- The guard of an unrestricted run. -/
def anyStep (_ : S) (_ : A) : Prop := True

/-- The state after the actions `as`, if each is enabled in its turn. -/
def runFrom (step : S → A → Option S) : S → List A → Option S
  | s, [] => some s
  | s, a :: as => (step s a).bind fun s' => runFrom step s' as

/-- The invariant rule. -/
theorem Reach.invariant {step : S → A → Option S} {guard : S → A → Prop} {init : S} (I : S → Prop)
    (start : I init)
    (keep : ∀ s a s', I s → guard s a → step s a = some s' → I s')
    {s : S} (reached : Reach step guard init s) : I s := by
  induction reached with
  | init => exact start
  | step _ allowed taken ih => exact keep _ _ _ ih allowed taken

/-- An evaluated action list extends a run, if its actions meet the guard wherever they are taken. -/
theorem reach_of_runFrom {step : S → A → Option S} {guard : S → A → Prop} {init : S} :
    ∀ (as : List A) {s s' : S}, (∀ a ∈ as, ∀ s, guard s a) → Reach step guard init s →
      runFrom step s as = some s' → Reach step guard init s' := by
  intro as
  induction as with
  | nil =>
    intro s s' allowed reached run
    cases run
    exact reached
  | cons a as ih =>
    intro s s' allowed reached run
    obtain ⟨mid, taken, rest⟩ := Option.bind_eq_some_iff.1 run
    have first := allowed a (List.mem_cons_self ..) s
    exact ih (fun b member => allowed b (List.mem_cons_of_mem _ member)) (.step reached first taken) rest

/-- Some steps lead from one state to the other. -/
def Leads (step : S → A → Option S) : S → S → Prop := Relation.ReflTransGen fun s s' => ∃ a, step s a = some s'

theorem Leads.of_step {step : S → A → Option S} {s s' : S} {a : A} (taken : step s a = some s') : Leads step s s' :=
  .single ⟨a, taken⟩

theorem Leads.trans {step : S → A → Option S} {s mid s' : S} (first : Leads step s mid) (rest : Leads step mid s') :
    Leads step s s' :=
  Relation.ReflTransGen.trans first rest

/-- The step that is enabled only where a decidable guard holds. -/
def guarded (step : S → A → Option S) (guard : S → A → Prop) [∀ s a, Decidable (guard s a)] (s : S) (a : A) :
    Option S :=
  if guard s a then step s a else none

theorem reach_of_guarded {step : S → A → Option S} {guard : S → A → Prop} [∀ s a, Decidable (guard s a)] {init : S} :
    ∀ (as : List A) {s s' : S}, Reach step guard init s → runFrom (guarded step guard) s as = some s' →
      Reach step guard init s' := by
  intro as
  induction as with
  | nil =>
    intro s s' reached run
    cases run
    exact reached
  | cons a as ih =>
    intro s s' reached run
    obtain ⟨mid, taken, rest⟩ := Option.bind_eq_some_iff.1 run
    unfold guarded at taken
    split at taken
    next allowed => exact ih (.step reached allowed taken) rest
    next => cases taken

/-! ### Calls in flight

The calls in flight are a list: a call that ends is erased, one that goes on gives way to what it is next. -/

section InFlight

variable {C : Type} [BEq C] {calls : List C} {call next : C} {P : C → Prop}

theorem all_of_ended (all : ∀ other ∈ calls, P other) : ∀ other ∈ calls.erase call, P other :=
  fun other member => all other (List.mem_of_mem_erase member)

theorem all_of_goes_on (all : ∀ other ∈ calls, P other) (there : P next) :
    ∀ other ∈ next :: calls.erase call, P other :=
  List.forall_mem_cons.2 ⟨there, all_of_ended all⟩

variable [LawfulBEq C]

/-- What the calls hold is what this one holds and what the others do. -/
theorem perm_filterMap_erase {X : Type} (held : C → Option X) (inFlight : call ∈ calls) :
    (calls.filterMap held).Perm ((held call).toList ++ (calls.erase call).filterMap held) := by
  refine ((List.perm_cons_erase inFlight).filterMap held).trans ?_
  rw [List.filterMap_cons]
  cases held call with
  | none => exact .refl _
  | some x => exact .refl _

theorem exists_of_ended (some : ∃ other ∈ calls, P other) (none : ¬ P call) : ∃ other ∈ calls.erase call, P other := by
  obtain ⟨other, member, holds⟩ := some
  have differs : other ≠ call := by
    rintro rfl
    exact none holds
  exact ⟨other, (List.mem_erase_of_ne differs).2 member, holds⟩

theorem exists_of_goes_on (some : ∃ other ∈ calls, P other) (keeps : P call → P next) :
    ∃ other ∈ next :: calls.erase call, P other := by
  by_cases holds : P call
  · exact ⟨next, List.mem_cons_self .., keeps holds⟩
  · obtain ⟨other, member, there⟩ := exists_of_ended some holds
    exact ⟨other, List.mem_cons_of_mem _ member, there⟩

end InFlight

end Transition
