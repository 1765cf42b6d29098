import Mathlib.Data.List.Basic

/-!
# One-shot timers

A service registers tasks that run later and may unregister them before they do. `fire` is enabled
for a registered timer only and takes it out of the table, so that an unregistered timer never
fires and a registered one fires at most once. Intervals are recorded and order nothing: the timers
may fire in any order.

An owner that keeps the number of its last timer and unregisters it before it registers the next
one has at most one timer pending; `Sole` is that invariant. Where several owners share the timers,
each with a task of its own, `Owns` is what holds for each of them.
-/

namespace Timer

structure Registered (Task : Type) where
  id : Nat
  task : Task
  interval : Nat
  deriving DecidableEq, Repr

structure Timers (Task : Type) where
  pending : List (Registered Task) := []
  nextId : Nat := 0
  deriving DecidableEq, Repr

namespace Timers

variable {Task : Type} (t : Timers Task)

def register (task : Task) (interval : Nat) : Nat × Timers Task :=
  (t.nextId, { pending := ⟨t.nextId, task, interval⟩ :: t.pending, nextId := t.nextId + 1 })

/-- The owner's number is `none` before its first registration. -/
def unregister (id : Option Nat) : Timers Task :=
  { t with pending := t.pending.filter fun r => some r.id ≠ id }

def fire (id : Nat) : Option (Task × Timers Task) :=
  (t.pending.find? fun r => r.id = id).map fun r => (r.task, t.unregister (some id))

/-- Nothing but the timer `id` is pending. -/
def Sole (id : Option Nat) : Prop :=
  t.pending = [] ∨ ∃ r, t.pending = [r] ∧ id = some r.id

variable {t} {id : Option Nat}

theorem Sole.unregister (sole : t.Sole id) : (t.unregister id).pending = [] := by
  rcases sole with empty | ⟨r, single, own⟩
  · simp [Timers.unregister, empty]
  · simp [Timers.unregister, single, own]

theorem Sole.register (empty : t.pending = []) (task : Task) (interval : Nat) :
    (t.register task interval).2.Sole (some (t.register task interval).1) := by
  right
  exact ⟨⟨t.nextId, task, interval⟩, by simp [Timers.register, empty], rfl⟩

/-- The sole timer fires with the task it was registered with, and leaves nothing pending. -/
theorem Sole.fire (sole : t.Sole id) {fired : Nat} {task : Task} {t' : Timers Task}
    (taken : t.fire fired = some (task, t')) :
    (∃ r, t.pending = [r] ∧ r.task = task) ∧ t'.pending = [] := by
  obtain ⟨r, found, same⟩ := Option.map_eq_some_iff.1 taken
  obtain ⟨rfl, rfl⟩ := Prod.mk.inj same
  have hit : r.id = fired := by simpa using List.find?_some found
  have member := List.mem_of_find?_eq_some found
  rcases sole with empty | ⟨only, single, own⟩
  · rw [empty] at member
    cases member
  · rw [single, List.mem_singleton] at member
    subst member
    refine ⟨⟨r, single, rfl⟩, ?_⟩
    simp [Timers.unregister, single, hit]

/-! ## Several owners -/

variable {task other : Task} {id' : Option Nat}

variable (t) in
def Pending (task : Task) : Prop := ∃ r ∈ t.pending, r.task = task

variable (t) in
/-- Numbers are not given twice. -/
def Fresh : Prop := ∀ r ∈ t.pending, r.id < t.nextId

variable (t) in
/-- The number `id` is that of the pending timer of `task`, if there is one, and of no other. -/
structure Owns (task : Task) (id : Option Nat) : Prop where
  own : ∀ r ∈ t.pending, r.task = task ↔ id = some r.id
  old : ∀ i, id = some i → i < t.nextId

theorem mem_unregister {r : Registered Task} : r ∈ (t.unregister id).pending ↔ r ∈ t.pending ∧ id ≠ some r.id := by
  rw [unregister, List.mem_filter, decide_eq_true_eq, ne_comm]

theorem fire_cases {i : Nat} {t' : Timers Task} (taken : t.fire i = some (task, t')) :
    (∃ r ∈ t.pending, r.id = i ∧ r.task = task) ∧ t' = t.unregister (some i) := by
  obtain ⟨r, found, same⟩ := Option.map_eq_some_iff.1 taken
  obtain ⟨rfl, rfl⟩ := Prod.mk.inj same
  have hit : r.id = i := by simpa using List.find?_some found
  exact ⟨⟨r, List.mem_of_find?_eq_some found, hit, rfl⟩, rfl⟩

theorem Fresh.unregister (fresh : t.Fresh) (id : Option Nat) : (t.unregister id).Fresh :=
  fun r member => fresh r (mem_unregister.1 member).1

theorem Fresh.register (fresh : t.Fresh) (task : Task) (interval : Nat) : (t.register task interval).2.Fresh := by
  intro r member
  rcases List.mem_cons.1 member with rfl | old
  · exact Nat.lt_succ_self _
  · exact Nat.lt_succ_of_lt (fresh r old)

theorem pending_register (interval : Nat) :
    (t.register other interval).2.Pending task ↔ other = task ∨ t.Pending task := by
  simp [Pending, Timers.register]

theorem Owns.unregister (owns : t.Owns task id) (id' : Option Nat) : (t.unregister id').Owns task id :=
  ⟨fun r member => owns.own r (mem_unregister.1 member).1, owns.old⟩

theorem Owns.not_pending (owns : t.Owns task id) : ¬ (t.unregister id).Pending task := by
  rintro ⟨r, member, same⟩
  obtain ⟨old, differs⟩ := mem_unregister.1 member
  exact differs ((owns.own r old).1 same)

/-- Unregistering another owner's timer leaves this owner's pending. -/
theorem Owns.pending_unregister (owns : t.Owns other id') (differ : task ≠ other) :
    (t.unregister id').Pending task ↔ t.Pending task := by
  constructor
  · rintro ⟨r, member, same⟩
    exact ⟨r, (mem_unregister.1 member).1, same⟩
  · rintro ⟨r, member, same⟩
    refine ⟨r, mem_unregister.2 ⟨member, fun mine => ?_⟩, same⟩
    exact differ (same.symm.trans ((owns.own r member).2 mine))

/-- With nothing of its own pending, an owner registers its next timer. -/
theorem Owns.register (fresh : t.Fresh) (none : ¬ t.Pending task) (interval : Nat) :
    (t.register task interval).2.Owns task (some (t.register task interval).1) := by
  constructor
  · intro r member
    rcases List.mem_cons.1 member with rfl | old
    · simp [Timers.register]
    · have later : t.nextId ≠ r.id := Nat.ne_of_gt (fresh r old)
      constructor
      · intro same
        exact absurd ⟨r, old, same⟩ none
      · intro same
        exact absurd (Option.some.inj same) later
  · rintro i same
    obtain rfl := Option.some.inj same
    exact Nat.lt_succ_self _

theorem Owns.register_other (owns : t.Owns task id) (differ : other ≠ task) (interval : Nat) :
    (t.register other interval).2.Owns task id := by
  constructor
  · intro r member
    rcases List.mem_cons.1 member with rfl | old
    · constructor
      · intro same
        exact absurd same differ
      · intro same
        exact absurd (owns.old _ same) (Nat.lt_irrefl _)
    · exact owns.own r old
  · intro i same
    exact Nat.lt_succ_of_lt (owns.old i same)

/-- The timer that fires is that of its owner. -/
theorem Owns.fire {t' : Timers Task} {i : Nat} (owns : t.Owns task id) (taken : t.fire i = some (task, t')) :
    t' = t.unregister id := by
  obtain ⟨⟨r, member, rfl, same⟩, rfl⟩ := fire_cases taken
  rw [(owns.own r member).1 same]

end Timers

end Timer
