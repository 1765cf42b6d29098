import Mathlib.Logic.Relation
import Mathlib.Data.List.Basic

/-!
# Threads that share locks

A thread is a program of lock operations and of sections between them. A section works on the shared
state and on an answer of the environment, and both decide how the program goes on. A lock is not
recursive: it is acquired only while no thread holds it.

The pool has no deadlock if a thread that holds or waits for a lock always finds such a thread that
can go on, and if no threads wait for each other in a cycle. `DeadlockFree.of_rank` is the rule for
both: a rank that drops from a waiting thread to each holder of the lock it waits for.
-/

namespace Locks

/-- Programs over the locks `L`, the shared state `S` and the answers `A`; a section has the name
`point`. -/
inductive Prog (L S A P : Type) where
  | done
  | acquire (lock : L) (rest : Prog L S A P)
  | release (lock : L) (rest : Prog L S A P)
  | act (point : P) (effect : S → A → S) (next : S → A → Prog L S A P)

structure Thread (L S A P : Type) where
  held : List L := []
  prog : Prog L S A P

structure Pool (L S A P : Type) where
  shared : S
  threads : List (Thread L S A P) := []

variable {L S A P : Type}

/-! ## Programs -/

namespace Prog

/-- The lock that the next step asks for. -/
def wants : Prog L S A P → Option L
  | acquire lock _ => some lock
  | _ => none

/-- The section that the next step runs. -/
def point? : Prog L S A P → Option P
  | act point _ _ => some point
  | _ => none

/-- Some way through the program acquires the lock. -/
inductive MayLock (lock : L) : Prog L S A P → Prop where
  | here (rest : Prog L S A P) : MayLock lock (acquire lock rest)
  | acquire (other : L) {rest : Prog L S A P} : MayLock lock rest → MayLock lock (acquire other rest)
  | release (other : L) {rest : Prog L S A P} : MayLock lock rest → MayLock lock (release other rest)
  | act (point : P) (effect : S → A → S) {next : S → A → Prog L S A P} (s : S) (a : A) :
      MayLock lock (next s a) → MayLock lock (act point effect next)

/-- The whole program with no other thread running and the same answers throughout. -/
def alone : Prog L S A P → A → S → S
  | done, _, s => s
  | acquire _ rest, a, s => rest.alone a s
  | release _ rest, a, s => rest.alone a s
  | act _ effect next, a, s => (next s a).alone a (effect s a)

variable [DecidableEq L]

/-- `Q` holds wherever the program gets to from here, of the locks then held and the rest of it. -/
def Always (Q : List L → Prog L S A P → Prop) : List L → Prog L S A P → Prop
  | held, done => Q held done
  | held, acquire lock rest => Q held (acquire lock rest) ∧ rest.Always Q (lock :: held)
  | held, release lock rest => Q held (release lock rest) ∧ rest.Always Q (held.erase lock)
  | held, act point effect next => Q held (act point effect next) ∧ ∀ s a, (next s a).Always Q held

theorem Always.now {Q : List L → Prog L S A P → Prop} {held : List L} {p : Prog L S A P} (all : p.Always Q held) :
    Q held p := by
  cases p with
  | done => exact all
  | acquire lock rest => exact all.1
  | release lock rest => exact all.1
  | act point effect next => exact all.1

/-- Lock operations in order: nothing is acquired twice, and all is released at the end. -/
def Sound (held : List L) : Prog L S A P → Prop
  | done => held = []
  | acquire lock _ => lock ∉ held
  | release lock _ => lock ∈ held
  | act .. => True

end Prog

/-! ## Threads -/

namespace Thread

/-- The next step of a thread, as far as the thread itself is concerned. -/
inductive Next [DecidableEq L] (s : S) (a : A) : Thread L S A P → Thread L S A P → Prop where
  | acquire (held : List L) (lock : L) (rest : Prog L S A P) :
      Next s a ⟨held, .acquire lock rest⟩ ⟨lock :: held, rest⟩
  | release (held : List L) (lock : L) (rest : Prog L S A P) :
      Next s a ⟨held, .release lock rest⟩ ⟨held.erase lock, rest⟩
  | act (held : List L) (point : P) (effect : S → A → S) (next : S → A → Prog L S A P) :
      Next s a ⟨held, .act point effect next⟩ ⟨held, next s a⟩

variable (t : Thread L S A P)

def Waits (lock : L) : Prop := t.prog.wants = some lock

/-- It holds or waits for a lock. -/
def Engaged : Prop := t.held ≠ [] ∨ ∃ lock, t.Waits lock

theorem Next.always [DecidableEq L] {Q : List L → Prog L S A P → Prop} {s : S} {a : A} {t t' : Thread L S A P}
    (next : t.Next s a t') (all : t.prog.Always Q t.held) : t'.prog.Always Q t'.held := by
  cases next with
  | acquire held lock rest => exact all.2
  | release held lock rest => exact all.2
  | act held point effect next => exact all.2 s a

variable {t} in
theorem Waits.exists_rest {lock : L} (waits : t.Waits lock) : ∃ rest, t.prog = .acquire lock rest := by
  obtain ⟨held, prog⟩ := t
  cases prog with
  | acquire wanted rest =>
    obtain rfl := Option.some.inj waits
    exact ⟨rest, rfl⟩
  | done => cases waits
  | release other rest => cases waits
  | act point effect next => cases waits

variable {t} in
/-- A thread does not wait for a lock that it has. -/
theorem Waits.not_held {lock : L} (waits : t.Waits lock) (sound : t.prog.Sound t.held) : lock ∉ t.held := by
  obtain ⟨rest, next⟩ := waits.exists_rest
  rwa [next] at sound

/-- What the rest of the program may acquire, the program may. -/
theorem Next.mayLock [DecidableEq L] {s : S} {a : A} {lock : L} {t t' : Thread L S A P}
    (next : t.Next s a t') (later : t'.prog.MayLock lock) : t.prog.MayLock lock := by
  cases next with
  | acquire held other rest => exact .acquire other later
  | release held other rest => exact .release other later
  | act held point effect next => exact .act point effect s a later

end Thread

/-! ## The pool -/

namespace Pool

variable [DecidableEq L] (p : Pool L S A P)

def Free (lock : L) : Prop := ∀ t ∈ p.threads, lock ∉ t.held

instance (lock : L) : Decidable (p.Free lock) := inferInstanceAs (Decidable (∀ t ∈ p.threads, lock ∉ t.held))

/-- The next step of the thread `i`, which meets the answer `a`. -/
def step (i : Nat) (a : A) : Option (Pool L S A P) :=
  match p.threads[i]? with
  | none => none
  | some ⟨_, .done⟩ => none
  | some ⟨held, .acquire lock rest⟩ =>
    if p.Free lock then some { p with threads := p.threads.set i ⟨lock :: held, rest⟩ } else none
  | some ⟨held, .release lock rest⟩ => some { p with threads := p.threads.set i ⟨held.erase lock, rest⟩ }
  | some ⟨held, .act _ effect next⟩ =>
    some { shared := effect p.shared a, threads := p.threads.set i ⟨held, next p.shared a⟩ }

def spawn (prog : Prog L S A P) : Pool L S A P := { p with threads := p.threads ++ [{ prog := prog }] }

/-- The thread `i` waits for a lock that the thread `j` holds. -/
def WaitsFor (i j : Nat) : Prop :=
  ∃ t u lock, p.threads[i]? = some t ∧ p.threads[j]? = some u ∧ t.Waits lock ∧ lock ∈ u.held

structure DeadlockFree : Prop where
  progress : ∀ t ∈ p.threads, t.Engaged →
    ∃ i u, p.threads[i]? = some u ∧ u.Engaged ∧ ∀ a, ∃ p', p.step i a = some p'
  acyclic : ∀ i, ¬ Relation.TransGen p.WaitsFor i i

variable {p}

theorem step_cases {i : Nat} {a : A} {p' : Pool L S A P} (taken : p.step i a = some p') :
    ∃ t t', p.threads[i]? = some t ∧ t.Next p.shared a t' ∧ p'.threads = p.threads.set i t' ∧
      ∀ lock, t.Waits lock → p.Free lock := by
  unfold step at taken
  cases found : p.threads[i]? with
  | none =>
    rw [found] at taken
    cases taken
  | some t =>
    obtain ⟨held, prog⟩ := t
    rw [found] at taken
    cases prog with
    | done => cases taken
    | acquire lock rest =>
      obtain ⟨free, moved⟩ := Option.ite_none_right_eq_some.1 taken
      obtain rfl := Option.some.inj moved
      refine ⟨_, _, rfl, .acquire held lock rest, rfl, fun other waits => ?_⟩
      obtain rfl := Option.some.inj waits
      exact free
    | release lock rest =>
      obtain rfl := Option.some.inj taken
      exact ⟨_, _, rfl, .release held lock rest, rfl, fun other waits => nomatch waits⟩
    | act point effect next =>
      obtain rfl := Option.some.inj taken
      exact ⟨_, _, rfl, .act held point effect next, rfl, fun other waits => nomatch waits⟩

/-- Only a thread that waits for a lock in use, or that has ended, cannot go on. -/
theorem step_enabled {i : Nat} {t : Thread L S A P} (found : p.threads[i]? = some t)
    (running : t.prog ≠ .done) (free : ∀ lock, t.Waits lock → p.Free lock) (a : A) : ∃ p', p.step i a = some p' := by
  obtain ⟨held, prog⟩ := t
  unfold step
  rw [found]
  cases prog with
  | done => exact absurd rfl running
  | acquire lock rest => exact ⟨_, if_pos (free lock rfl)⟩
  | release lock rest => exact ⟨_, rfl⟩
  | act point effect next => exact ⟨_, rfl⟩

/-! ## What all threads keep -/

/-- A property of all threads is kept if the next step of a thread keeps it. -/
theorem step_threads {K : Thread L S A P → Prop} {i : Nat} {a : A} {p' : Pool L S A P}
    (taken : p.step i a = some p') (all : ∀ t ∈ p.threads, K t)
    (keep : ∀ t t', t.Next p.shared a t' → K t → K t') : ∀ t ∈ p'.threads, K t := by
  obtain ⟨t, t', found, next, threads, -⟩ := step_cases taken
  intro u member
  rw [threads] at member
  rcases List.mem_or_eq_of_mem_set member with old | rfl
  · exact all u old
  · exact keep t u next (all t (List.mem_of_getElem? found))

omit [DecidableEq L] in
theorem spawn_threads {K : Thread L S A P → Prop} {prog : Prog L S A P} (all : ∀ t ∈ p.threads, K t)
    (fresh : K { prog := prog }) : ∀ t ∈ (p.spawn prog).threads, K t := by
  intro t member
  rcases List.mem_append.1 member with old | new
  · exact all t old
  · rw [List.mem_singleton.1 new]
    exact fresh

/-! ## The rank rule -/

section Rank

variable (rank : Thread L S A P → Nat)

/-- The rank drops from a waiting thread to the holders of its lock. -/
def Ranked (p : Pool L S A P) : Prop :=
  ∀ t ∈ p.threads, ∀ u ∈ p.threads, ∀ lock, t.Waits lock → lock ∈ u.held → rank u < rank t

variable {rank}

theorem Ranked.progress (ranked : Ranked rank p) (sound : ∀ t ∈ p.threads, t.prog.Sound t.held) :
    ∀ n, ∀ t ∈ p.threads, rank t = n → t.Engaged →
      ∃ i u, p.threads[i]? = some u ∧ u.Engaged ∧ ∀ a, ∃ p', p.step i a = some p' := by
  intro n
  induction n using Nat.strongRecOn with
  | _ n ih =>
    intro t member rankEq engaged
    by_cases blocked : ∃ lock, t.Waits lock ∧ ¬ p.Free lock
    · -- the holder of the lock is engaged too, with a lower rank
      obtain ⟨lock, waits, used⟩ := blocked
      simp only [Free, not_forall, not_not] at used
      obtain ⟨u, holder, holds⟩ := used
      have lower := ranked t member u holder lock waits holds
      exact ih (rank u) (rankEq ▸ lower) u holder rfl (.inl (List.ne_nil_of_mem holds))
    · obtain ⟨i, found⟩ := List.getElem?_of_mem member
      refine ⟨i, t, found, engaged, fun a => step_enabled found ?_ ?_ a⟩
      · intro ended
        have empty := sound t member
        simp only [ended, Prog.Sound] at empty
        rcases engaged with holds | ⟨lock, waits⟩
        · exact holds empty
        · simp [Thread.Waits, ended, Prog.wants] at waits
      · intro lock waits
        by_contra used
        exact blocked ⟨lock, waits, used⟩

omit [DecidableEq L] in
theorem Ranked.lower (ranked : Ranked rank p) {i j : Nat} (path : Relation.TransGen p.WaitsFor i j) :
    ∃ t u, p.threads[i]? = some t ∧ p.threads[j]? = some u ∧ rank u < rank t := by
  induction path with
  | single waits =>
    obtain ⟨t, u, lock, atI, atJ, wants, holds⟩ := waits
    exact ⟨t, u, atI, atJ, ranked t (List.mem_of_getElem? atI) u (List.mem_of_getElem? atJ) lock wants holds⟩
  | tail _ waits ih =>
    obtain ⟨t, u, atI, atJ, below⟩ := ih
    obtain ⟨u', v, lock, atJ', atK, wants, holds⟩ := waits
    obtain rfl := Option.some.inj (atJ.symm.trans atJ')
    have more := ranked u (List.mem_of_getElem? atJ) v (List.mem_of_getElem? atK) lock wants holds
    exact ⟨t, v, atI, atK, Nat.lt_trans more below⟩

theorem DeadlockFree.of_rank (ranked : Ranked rank p) (sound : ∀ t ∈ p.threads, t.prog.Sound t.held) :
    p.DeadlockFree where
  progress t member engaged := ranked.progress sound (rank t) t member rfl engaged
  acyclic i cycle := by
    obtain ⟨t, u, atI, atI', lower⟩ := ranked.lower cycle
    obtain rfl := Option.some.inj (atI.symm.trans atI')
    exact Nat.lt_irrefl _ lower

end Rank

end Pool

end Locks
