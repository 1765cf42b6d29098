import Mathlib.Data.List.Forall2

/-!
# Blocks, and who owns them

The memory of a program holds blocks at addresses; address `0` is null. An allocation may be refused,
and yields null then; otherwise the block lies at an address that was free. A program that releases or
reads what is not there has no result (`none`).

An assertion describes a part of the memory, and `P.sep Q` two parts that share no address. A `Triple`
says what a program makes of the part that it is given, whatever else the memory holds: the rest stays
as it is. So a program that is given nothing and keeps nothing leaves the memory as it was (`Triple.on`).

The memory counts the requests that were refused. A triple at `R` is about the runs that end without a
refusal, and about all runs if `R` holds: at `True` it says that the program ends, at `False` what it does
when it gets what it asks for. Its proof has `R` at hand wherever a request is refused.
-/

namespace Heaplet

variable {B α β γ : Type}

/-! ## Parts of the memory -/

abbrev Fragment (B : Type) := Nat → Option B

namespace Fragment

def empty : Fragment B := fun _ => none

def single (p : Nat) (b : B) : Fragment B := fun a => if a = p then some b else none

def union (f g : Fragment B) : Fragment B := fun a => (f a).or (g a)

def Apart (f g : Fragment B) : Prop := ∀ a, f a = none ∨ g a = none

variable {f g h : Fragment B} {p : Nat} {b : B}

theorem single_same : single p b p = some b := if_pos rfl

theorem single_other {a : Nat} (differ : a ≠ p) : single p b a = none := if_neg differ

theorem empty_union : empty.union f = f := funext fun _ => Option.none_or

theorem union_assoc : (f.union g).union h = f.union (g.union h) := funext fun _ => Option.or_assoc

theorem union_eq_none {a : Nat} : f.union g a = none ↔ f a = none ∧ g a = none := Option.or_eq_none_iff

theorem Apart.symm (apart : f.Apart g) : g.Apart f := fun a => (apart a).symm

theorem Apart.empty : Fragment.Apart empty f := fun _ => .inl rfl

theorem union_comm (apart : f.Apart g) : f.union g = g.union f := by
  funext a
  rcases apart a with left | right
  · simp [union, left]
  · simp [union, right]

theorem apart_union : f.Apart (g.union h) ↔ f.Apart g ∧ f.Apart h := by
  constructor
  · intro apart
    refine ⟨fun a => ?_, fun a => ?_⟩
    · exact (apart a).imp id fun none => (union_eq_none.1 none).1
    · exact (apart a).imp id fun none => (union_eq_none.1 none).2
  · rintro ⟨first, second⟩ a
    rcases first a with none | left
    · exact .inl none
    · exact (second a).imp id fun right => union_eq_none.2 ⟨left, right⟩

theorem union_apart : (f.union g).Apart h ↔ f.Apart h ∧ g.Apart h := by
  constructor
  · intro apart
    have both := apart_union.1 apart.symm
    exact ⟨both.1.symm, both.2.symm⟩
  · rintro ⟨first, second⟩
    exact (apart_union.2 ⟨first.symm, second.symm⟩).symm

/-- A block apart from the rest is found, and is all that is found at its address. -/
theorem single_union (rest : Fragment B) : (single p b).union rest p = some b := by
  rw [union, single_same, Option.some_or]

theorem Apart.free (apart : (single p b).Apart f) : f p = none := by
  have here := apart p
  rw [single_same] at here
  exact here.resolve_left (Option.some_ne_none _)

theorem apart_single (free : f p = none) : (single p b).Apart f := by
  intro a
  by_cases same : a = p
  · exact .inr (same ▸ free)
  · exact .inl (single_other same)

end Fragment

/-! ## Programs -/

structure Heap (B : Type) where
  blocks : Fragment B
  /-- How many allocations there have been. -/
  requests : Nat
  /-- How many of them were refused. -/
  refused : Nat

/-- A program changes the memory, and no refusal is forgotten. -/
structure Program (B α : Type) where
  run : Heap B → Option (α × Heap B)
  refused_le : ∀ {m a m'}, run m = some (a, m') → m.refused ≤ m'.refused

namespace Program

protected def pure (a : α) : Program B α where
  run m := some (a, m)
  refused_le ran := by
    cases ran
    exact Nat.le_refl _

protected def bind (first : Program B α) (next : α → Program B β) : Program B β where
  run m := (first.run m).bind fun result => (next result.1).run result.2
  refused_le ran := by
    obtain ⟨⟨a, m'⟩, ran, ran'⟩ := Option.bind_eq_some_iff.1 ran
    exact Nat.le_trans (first.refused_le ran) ((next a).refused_le ran')

instance : Monad (Program B) where
  pure := Program.pure
  bind := Program.bind

/-- A program that asks for nothing, from what it does to the blocks. -/
def onBlocks (change : Fragment B → Option (α × Fragment B)) : Program B α where
  run m := (change m.blocks).map fun result => (result.1, { m with blocks := result.2 })
  refused_le ran := by
    obtain ⟨_, -, same⟩ := Option.map_eq_some_iff.1 ran
    cases same
    exact Nat.le_refl _

/-- The run ends without a refusal, unless `R` holds. -/
def Allowed (R : Prop) (m : Program B α) (memory : Heap B) : Prop :=
  R ∨ ∃ a memory', m.run memory = some (a, memory') ∧ memory'.refused = memory.refused

/-- A run is allowed if the refusals in it are. -/
theorem allowed_of_refused {m : Program B α} {memory memory' : Heap B} {a : α}
    (ran : m.run memory = some (a, memory')) : m.Allowed (memory.refused < memory'.refused) memory := by
  rcases Nat.eq_or_lt_of_le (m.refused_le ran) with same | more
  · exact .inr ⟨a, memory', ran, same.symm⟩
  · exact .inl more

/-- Of an allowed run both parts are. -/
theorem Allowed.bind {R : Prop} {m : Program B α} {k : α → Program B β} {memory : Heap B}
    (allowed : (m >>= k).Allowed R memory) : m.Allowed R memory ∧
      ∀ {a memory'}, m.run memory = some (a, memory') → (k a).Allowed R memory' := by
  rcases allowed with holds | ⟨b, last, ran, same⟩
  · exact ⟨.inl holds, fun _ => .inl holds⟩
  · obtain ⟨⟨a, mid⟩, first, next⟩ := Option.bind_eq_some_iff.1 ran
    have before : memory.refused ≤ mid.refused := m.refused_le first
    have after : mid.refused ≤ last.refused := (k a).refused_le next
    refine ⟨.inr ⟨a, mid, first, by omega⟩, fun ran' => ?_⟩
    cases first.symm.trans ran'
    exact .inr ⟨b, last, next, by omega⟩

end Program

/-- What an allocation is answered: a refusal, or an address where nothing lies. -/
structure Allocator (B : Type) where
  answer : Nat → Fragment B → Option Nat
  fresh : ∀ {n blocks p}, answer n blocks = some p → p ≠ 0 ∧ blocks p = none

def alloc (A : Allocator B) (b : B) : Program B Nat where
  run m :=
    match A.answer m.requests m.blocks with
    | none => some (0, { m with requests := m.requests + 1, refused := m.refused + 1 })
    | some p => some (p, { m with
        blocks := fun a => if a = p then some b else m.blocks a
        requests := m.requests + 1 })
  refused_le ran := by
    split at ran <;> cases ran
    · exact Nat.le_succ _
    · exact Nat.le_refl _

/-- To release null does nothing. -/
def free (p : Nat) : Program B PUnit := .onBlocks fun blocks =>
  if p = 0 then some ((), blocks)
  else (blocks p).map fun _ => ((), fun a => if a = p then none else blocks a)

def fetch (p : Nat) : Program B B := .onBlocks fun blocks => (blocks p).map fun b => (b, blocks)

def save (p : Nat) (b : B) : Program B PUnit := .onBlocks fun blocks =>
  (blocks p).map fun _ => ((), fun a => if a = p then some b else blocks a)

/-- The program goes wrong. -/
def wrong : Program B α := .onBlocks fun _ => none

/-! ## Assertions -/

abbrev Assertion (B : Type) := Fragment B → Prop

namespace Assertion

def emp : Assertion B := fun f => f = Fragment.empty

def sep (P Q : Assertion B) : Assertion B := fun f => ∃ g h, f = Fragment.union g h ∧ Fragment.Apart g h ∧ P g ∧ Q h

/-- A fact, which holds no block. -/
def lift (φ : Prop) : Assertion B := fun f => φ ∧ f = Fragment.empty

def ex (P : γ → Assertion B) : Assertion B := fun f => ∃ c, P c f

def either (P Q : Assertion B) : Assertion B := fun f => P f ∨ Q f

/-- The block `b` at `p`, and nothing else. -/
def at_ (p : Nat) (b : B) : Assertion B := fun f => p ≠ 0 ∧ f = Fragment.single p b

/-- One part for each pair of entries. -/
def each (E : α → β → Assertion B) : List α → List β → Assertion B
  | [], [] => emp
  | x :: xs, y :: ys => (E x y).sep (each E xs ys)
  | _, _ => lift False

variable {P Q R : Assertion B} {φ : Prop}

theorem sep_comm (P Q : Assertion B) : P.sep Q = Q.sep P := by
  have half : ∀ P Q : Assertion B, ∀ f, P.sep Q f → Q.sep P f := by
    rintro P Q f ⟨g, h, rfl, apart, left, right⟩
    exact ⟨h, g, Fragment.union_comm apart, apart.symm, right, left⟩
  exact funext fun f => propext ⟨half P Q f, half Q P f⟩

theorem sep_assoc (P Q R : Assertion B) : (P.sep Q).sep R = P.sep (Q.sep R) := by
  funext f
  apply propext
  constructor
  · rintro ⟨_, h, rfl, apart, ⟨g, g', rfl, apart', left, mid⟩, right⟩
    obtain ⟨first, second⟩ := Fragment.union_apart.1 apart
    exact ⟨g, g'.union h, Fragment.union_assoc, Fragment.apart_union.2 ⟨apart', first⟩, left, g', h, rfl, second,
      mid, right⟩
  · rintro ⟨g, _, rfl, apart, left, g', h, rfl, apart', mid, right⟩
    obtain ⟨first, second⟩ := Fragment.apart_union.1 apart
    exact ⟨g.union g', h, Fragment.union_assoc.symm, Fragment.union_apart.2 ⟨second, apart'⟩,
      ⟨g, g', rfl, first, left, mid⟩, right⟩

instance : Std.Associative (sep (B := B)) := ⟨sep_assoc⟩

instance : Std.Commutative (sep (B := B)) := ⟨sep_comm⟩

theorem emp_sep (P : Assertion B) : emp.sep P = P := by
  funext f
  apply propext
  constructor
  · rintro ⟨_, h, rfl, -, rfl, right⟩
    rwa [Fragment.empty_union]
  · exact fun here => ⟨Fragment.empty, f, Fragment.empty_union.symm, .empty, rfl, here⟩

theorem sep_emp (P : Assertion B) : P.sep emp = P := by
  rw [sep_comm, emp_sep]

theorem lift_sep {f : Fragment B} : (lift φ).sep P f ↔ φ ∧ P f := by
  constructor
  · rintro ⟨_, h, rfl, -, ⟨fact, rfl⟩, right⟩
    exact ⟨fact, by rwa [Fragment.empty_union]⟩
  · rintro ⟨fact, here⟩
    exact ⟨Fragment.empty, f, Fragment.empty_union.symm, .empty, ⟨fact, rfl⟩, here⟩

theorem sep_mono {P' Q' : Assertion B} (first : ∀ f, P f → P' f) (second : ∀ f, Q f → Q' f) {f : Fragment B}
    (here : P.sep Q f) : P'.sep Q' f := by
  obtain ⟨g, h, whole, apart, left, right⟩ := here
  exact ⟨g, h, whole, apart, first g left, second h right⟩

theorem ex_sep (P : γ → Assertion B) (Q : Assertion B) : (ex P).sep Q = ex fun c => (P c).sep Q := by
  funext f
  apply propext
  constructor
  · rintro ⟨g, h, whole, apart, ⟨c, left⟩, right⟩
    exact ⟨c, g, h, whole, apart, left, right⟩
  · rintro ⟨c, g, h, whole, apart, left, right⟩
    exact ⟨g, h, whole, apart, ⟨c, left⟩, right⟩

theorem either_sep (P Q R : Assertion B) : (either P Q).sep R = either (P.sep R) (Q.sep R) := by
  funext f
  apply propext
  constructor
  · rintro ⟨g, h, whole, apart, left | left, right⟩
    · exact .inl ⟨g, h, whole, apart, left, right⟩
    · exact .inr ⟨g, h, whole, apart, left, right⟩
  · rintro (⟨g, h, whole, apart, left, right⟩ | ⟨g, h, whole, apart, left, right⟩)
    · exact ⟨g, h, whole, apart, .inl left, right⟩
    · exact ⟨g, h, whole, apart, .inr left, right⟩

theorem each_length {E : α → β → Assertion B} : ∀ {xs : List α} {ys : List β} {f : Fragment B}, each E xs ys f →
    xs.length = ys.length
  | [], [], _, _ => rfl
  | _ :: _, _ :: _, _, ⟨_, _, _, _, _, rest⟩ => congrArg Nat.succ (each_length rest)
  | [], _ :: _, _, here => here.1.elim
  | _ :: _, [], _, here => here.1.elim

theorem each_append {E : α → β → Assertion B} {xs' : List α} {ys' : List β} :
    ∀ {xs : List α} {ys : List β}, xs.length = ys.length →
      each E (xs ++ xs') (ys ++ ys') = (each E xs ys).sep (each E xs' ys')
  | [], [], _ => (emp_sep _).symm
  | x :: xs, y :: ys, same => by
    have rest : each E (xs ++ xs') (ys ++ ys') = (each E xs ys).sep (each E xs' ys') :=
      each_append (Nat.succ.inj same)
    simp only [List.cons_append, each, rest, sep_assoc]

theorem each_concat {E : α → β → Assertion B} {xs : List α} {ys : List β} (same : xs.length = ys.length) (x : α)
    (y : β) : each E (xs ++ [x]) (ys ++ [y]) = (E x y).sep (each E xs ys) := by
  rw [each_append same, each, each, sep_emp, sep_comm]

theorem each_lift {R : α → β → Prop} : ∀ {xs : List α} {ys : List β} {f : Fragment B},
    each (fun x y => lift (R x y)) xs ys f ↔ List.Forall₂ R xs ys ∧ f = Fragment.empty
  | [], [], _ => by simp [each, emp]
  | x :: xs, y :: ys, f => by rw [each, lift_sep, each_lift, List.forall₂_cons, and_assoc]
  | [], _ :: _, _ => by simp [each, lift]
  | _ :: _, [], _ => by simp [each, lift]

end Assertion

open Assertion

/-! ## Triples -/

def Triple (R : Prop) (P : Assertion B) (m : Program B α) (Q : α → Assertion B) : Prop :=
  ∀ f rest n r, P f → Fragment.Apart f rest → m.Allowed R ⟨Fragment.union f rest, n, r⟩ →
    ∃ a f' n' r', m.run ⟨Fragment.union f rest, n, r⟩ = some (a, ⟨Fragment.union f' rest, n', r'⟩) ∧ Q a f' ∧
      Fragment.Apart f' rest

namespace Triple

variable {R : Prop} {P P' : Assertion B} {Q Q' : α → Assertion B} {S : β → Assertion B} {m : Program B α}

theorem pure {a : α} (here : ∀ f, P f → Q a f) : Triple R P (Pure.pure a) Q :=
  fun f _ n r part apart _ => ⟨a, f, n, r, rfl, here f part, apart⟩

theorem bind {k : α → Program B β} (first : Triple R P m Q) (next : ∀ a, Triple R (Q a) (k a) S) :
    Triple R P (m >>= k) S := by
  intro f rest n r part apart allowed
  obtain ⟨allowed, allowed'⟩ := allowed.bind
  obtain ⟨a, f', n', r', ran, mid, apart'⟩ := first f rest n r part apart allowed
  obtain ⟨b, f'', n'', r'', ran', last, apart''⟩ := next a f' rest n' r' mid apart' (allowed' ran)
  exact ⟨b, f'', n'', r'', Option.bind_eq_some_iff.2 ⟨_, ran, ran'⟩, last, apart''⟩

theorem weaken (triple : Triple R P m Q) (pre : ∀ f, P' f → P f) (post : ∀ a f, Q a f → Q' a f) :
    Triple R P' m Q' := by
  intro f rest n r part apart allowed
  obtain ⟨a, f', n', r', ran, last, apart'⟩ := triple f rest n r (pre f part) apart allowed
  exact ⟨a, f', n', r', ran, post a f' last, apart'⟩

theorem post (triple : Triple R P m Q) (after : ∀ a f, Q a f → Q' a f) : Triple R P m Q' :=
  triple.weaken (fun _ => id) after

/-- What the program is not given stays. -/
theorem frame (triple : Triple R P m Q) (F : Assertion B) : Triple R (P.sep F) m fun a => (Q a).sep F := by
  rintro _ rest n r ⟨g, h, rfl, apart, left, right⟩ outside allowed
  obtain ⟨first, second⟩ := Fragment.union_apart.1 outside
  rw [Fragment.union_assoc] at allowed ⊢
  obtain ⟨a, g', n', r', ran, last, apart'⟩ :=
    triple g (h.union rest) n r left (Fragment.apart_union.2 ⟨apart, first⟩) allowed
  obtain ⟨third, fourth⟩ := Fragment.apart_union.1 apart'
  refine ⟨a, g'.union h, n', r', ?_, ⟨g', h, rfl, third, last, right⟩, Fragment.union_apart.2 ⟨fourth, second⟩⟩
  rw [Fragment.union_assoc]
  exact ran

/-- A program that is given nothing runs beside any part. -/
theorem beside (triple : Triple R emp m Q) (P : Assertion B) : Triple R P m fun a => (Q a).sep P := by
  have framed := triple.frame P
  rwa [emp_sep] at framed

theorem of_fact {φ : Prop} (fact : ∀ f, P f → φ) (triple : φ → Triple R P m Q) : Triple R P m Q :=
  fun f rest n r part => triple (fact f part) f rest n r part

/-- The first program releases its part, the second one goes on with the other part. -/
theorem chain {k : α → Program B β} (first : Triple R P m fun _ => emp) (next : ∀ a, Triple R P' (k a) S) :
    Triple R (P.sep P') (m >>= k) S := by
  refine .bind (first.frame P') fun a => ?_
  rw [emp_sep]
  exact next a

theorem of_lift {φ : Prop} (triple : φ → Triple R P m Q) : Triple R ((lift φ).sep P) m Q := by
  intro f rest n r part apart
  obtain ⟨fact, here⟩ := lift_sep.1 part
  exact triple fact f rest n r here apart

theorem of_pure {φ : Prop} (triple : φ → Triple R emp m Q) : Triple R (lift φ) m Q := by
  rintro f rest n r ⟨fact, here⟩
  exact triple fact f rest n r here

theorem of_ex {P : γ → Assertion B} (triple : ∀ c, Triple R (P c) m Q) : Triple R (ex P) m Q := by
  rintro f rest n r ⟨c, here⟩ apart
  exact triple c f rest n r here apart

theorem of_either (left : Triple R P m Q) (right : Triple R P' m Q) : Triple R (either P P') m Q := by
  rintro f rest n r (here | here) apart
  · exact left f rest n r here apart
  · exact right f rest n r here apart

theorem ite {c : Prop} [Decidable c] {m' : Program B α} (yes : c → Triple R P m Q) (no : ¬ c → Triple R P m' Q) :
    Triple R P (if c then m else m') Q := by
  split_ifs with h
  · exact yes h
  · exact no h

/-! ### The operations -/

/-- The allocation is refused, or the block is there. -/
theorem alloc (A : Allocator B) (b : B) :
    Triple R emp (Heaplet.alloc A b) fun p => either (lift (p = 0 ∧ R)) (at_ p b) := by
  rintro _ rest n r rfl - allowed
  rw [Fragment.empty_union] at allowed ⊢
  cases answered : A.answer n rest with
  | none =>
    have ran : (Heaplet.alloc A b).run ⟨rest, n, r⟩ = some (0, ⟨rest, n + 1, r + 1⟩) := by
      simp only [Heaplet.alloc, answered]
    -- the counter has grown, so it is `R` that allows the run
    have holds : R := allowed.resolve_right fun ⟨_, _, ran', same⟩ => by
      cases ran.symm.trans ran'
      exact Nat.succ_ne_self r same
    exact ⟨0, Fragment.empty, n + 1, r + 1, by rw [ran, Fragment.empty_union], .inl ⟨⟨rfl, holds⟩, rfl⟩, .empty⟩
  | some p =>
    obtain ⟨notNull, unused⟩ := A.fresh answered
    refine ⟨p, Fragment.single p b, n + 1, r, ?_, .inr ⟨notNull, rfl⟩, Fragment.apart_single unused⟩
    have blocks : (fun a => if a = p then some b else rest a) = (Fragment.single p b).union rest := by
      funext a
      by_cases same : a = p <;> simp [Fragment.union, Fragment.single, same]
    simp only [Heaplet.alloc, answered, blocks]

theorem free_null : Triple R emp (free 0 : Program B PUnit) fun _ => emp :=
  fun f _ n r part apart _ => ⟨(), f, n, r, rfl, part, apart⟩

theorem free {p : Nat} {b : B} : Triple R (at_ p b) (Heaplet.free p) fun _ => emp := by
  rintro _ rest n r ⟨notNull, rfl⟩ apart -
  refine ⟨(), Fragment.empty, n, r, ?_, rfl, .empty⟩
  have blocks : (fun a => if a = p then none else (Fragment.single p b).union rest a) = Fragment.empty.union rest := by
    funext a
    rw [Fragment.empty_union]
    by_cases same : a = p
    · rw [if_pos same, same, apart.free]
    · rw [if_neg same, Fragment.union, Fragment.single_other same, Option.none_or]
  simp [Heaplet.free, Program.onBlocks, notNull, Fragment.single_union, blocks]

theorem fetch {p : Nat} {b : B} : Triple R (at_ p b) (Heaplet.fetch p) fun x => (lift (x = b)).sep (at_ p b) := by
  rintro _ rest n r ⟨notNull, rfl⟩ apart -
  exact ⟨b, _, n, r, by simp [Heaplet.fetch, Program.onBlocks, Fragment.single_union],
    lift_sep.2 ⟨rfl, notNull, rfl⟩, apart⟩

theorem save {p : Nat} {b : B} (b' : B) : Triple R (at_ p b) (Heaplet.save p b') fun _ => at_ p b' := by
  rintro _ rest n r ⟨notNull, rfl⟩ apart -
  refine ⟨(), Fragment.single p b', n, r, ?_, ⟨notNull, rfl⟩, Fragment.apart_single apart.free⟩
  have blocks : (fun a => if a = p then some b' else (Fragment.single p b).union rest a) =
      (Fragment.single p b').union rest := by
    funext a
    by_cases same : a = p <;> simp [Fragment.union, Fragment.single, same]
  simp [Heaplet.save, Program.onBlocks, Fragment.single_union, blocks]

/-! ### Whole memories -/

/-- What a program does to a memory of which it is given no part. -/
theorem on (triple : Triple R emp m Q) (memory : Heap B) (allowed : m.Allowed R memory) :
    ∃ a f n r, m.run memory = some (a, ⟨Fragment.union f memory.blocks, n, r⟩) ∧ Q a f ∧
      Fragment.Apart f memory.blocks := by
  have found := triple Fragment.empty memory.blocks memory.requests memory.refused rfl .empty
  rw [Fragment.empty_union] at found
  exact found allowed

/-- A program whose triple holds whatever is refused ends, and what it leaves owes nothing to a refusal unless
there was one. -/
theorem ends {Q : Prop → α → Assertion B} (triple : ∀ R, Triple R emp m (Q R)) (memory : Heap B) :
    ∃ a f memory', m.run memory = some (a, memory') ∧ memory'.blocks = Fragment.union f memory.blocks ∧
      Q (memory.refused < memory'.refused) a f := by
  obtain ⟨a, memory', ran⟩ : ∃ a memory', m.run memory = some (a, memory') := by
    obtain ⟨a, _, _, _, ran, -, -⟩ := (triple True).on memory (.inl trivial)
    exact ⟨a, _, ran⟩
  obtain ⟨a', f, n, r, ran', last, -⟩ := (triple _).on memory (Program.allowed_of_refused ran)
  obtain ⟨rfl, rfl⟩ := Prod.mk.inj (Option.some.inj (ran.symm.trans ran'))
  exact ⟨a, f, _, ran, rfl, last⟩

end Triple

/-- A program finds the value, and leaves what it is read from. -/
def Reads (R : Prop) (P : Assertion B) (m : Program B α) (a : α) : Prop :=
  Triple R P m fun a' => (lift (a' = a)).sep P

section Reads

variable {R : Prop}

theorem Reads.bind {P Q : Assertion B} {m : Program B α} {a : α} {k : α → Program B β} {b : β} (first : Reads R P m a)
    (next : Reads R Q (k a) b) : Reads R (P.sep Q) (m >>= k) b := by
  have framed := first.frame Q
  simp only [sep_assoc] at framed
  refine Triple.bind framed fun a' => .of_lift fun same => ?_
  have after := next.frame P
  simp only [sep_assoc] at after
  rw [same, sep_comm P Q]
  exact after

theorem Reads.map {P : Assertion B} {m : Program B α} {a : α} (first : Reads R P m a) (g : α → β) :
    Reads R P (m >>= fun a' => pure (g a')) (g a) := by
  refine Triple.bind first fun a' => .of_lift fun same => .pure fun f here => ?_
  exact lift_sep.2 ⟨congrArg g same, here⟩

theorem Reads.of_lift {φ : Prop} {P : Assertion B} {m : Program B α} {a : α} (reads : φ → Reads R P m a) :
    Reads R ((lift φ).sep P) m a := by
  refine Triple.of_lift fun fact => (reads fact).post fun a' f here => ?_
  obtain ⟨same, here⟩ := lift_sep.1 here
  exact lift_sep.2 ⟨same, lift_sep.2 ⟨fact, here⟩⟩

end Reads

/-! ## Arrays

A block may hold an array of structures, which a program reads and changes one element at a time. -/

structure View (B α : Type) where
  put : List α → B
  get : B → Option (List α)
  get_put : ∀ xs, get (put xs) = some xs
  /-- An element whose bytes are all zero. -/
  zero : α

namespace View

variable (v : View B α) {R : Prop} {p : Nat} {x y : α} {xs done rest : List α}

def at_ (p : Nat) (xs : List α) : Assertion B := Assertion.at_ p (v.put xs)

def calloc (A : Allocator B) (count : Nat) : Program B Nat := alloc A (v.put (.replicate count v.zero))

def read (p i : Nat) : Program B α := do
  let b ← fetch p
  match (v.get b).bind (·[i]?) with
  | some x => pure x
  | none => wrong

def modify (p i : Nat) (change : α → α) : Program B PUnit := do
  let b ← fetch p
  match v.get b with
  | some xs => if i < xs.length then save p (v.put (xs.modify i change)) else wrong
  | none => wrong

theorem calloc_triple (A : Allocator B) (count : Nat) :
    Triple R emp (v.calloc A count) fun p => either (lift (p = 0 ∧ R)) (v.at_ p (.replicate count v.zero)) :=
  .alloc A _

theorem read_triple (i : Nat) (there : xs[i]? = some x) : Reads R (v.at_ p xs) (v.read p i) x := by
  refine Triple.bind .fetch fun b => .of_lift fun same => ?_
  rw [same, v.get_put, Option.bind_some, there]
  exact .pure fun f here => lift_sep.2 ⟨rfl, here⟩

theorem modify_triple {i : Nat} (change : α → α) (inside : i < xs.length) :
    Triple R (v.at_ p xs) (v.modify p i change) fun _ => v.at_ p (xs.modify i change) := by
  refine .bind .fetch fun b => .of_lift fun same => ?_
  rw [same, v.get_put]
  simp only [if_pos inside]
  exact .save _

/-- The element behind those that are done. -/
theorem modify_next (change : α → α) :
    Triple R (v.at_ p (done ++ x :: rest)) (v.modify p done.length change) fun _ =>
      v.at_ p (done ++ change x :: rest) := by
  have inside : done.length < (done ++ x :: rest).length := by simp
  have changed : (done ++ x :: rest).modify done.length change = done ++ change x :: rest := by
    rw [List.modify_eq_take_cons_drop inside]
    simp
  rw [← changed]
  exact v.modify_triple change inside

/-- Writes the elements one after the other. -/
def fill (p : Nat) : Nat → List α → Program B PUnit
  | _, [] => pure ()
  | i, x :: xs => do
    v.modify p i fun _ => x
    fill p (i + 1) xs

theorem fill_triple : ∀ (xs done : List α),
    Triple R (v.at_ p (done ++ .replicate xs.length v.zero)) (v.fill p done.length xs) fun _ => v.at_ p (done ++ xs)
  | [], _ => .pure fun _ => id
  | x :: xs, done => by
    have next := fill_triple xs (done ++ [x])
    rw [List.length_append, List.append_assoc, List.append_assoc] at next
    exact .bind (v.modify_next fun _ => x) fun _ => next

/-- Runs `body` for the indices from `i` on, `n` of them. -/
def times (body : Nat → Program B PUnit) : Nat → Nat → Program B PUnit
  | _, 0 => pure ()
  | i, n + 1 => do
    body i
    times body (i + 1) n

/-- A loop that releases what each element owns leaves the array. -/
theorem times_triple {E : α → β → Assertion B} {body : Nat → Program B PUnit}
    (one : ∀ i x y, xs[i]? = some x → Triple R ((v.at_ p xs).sep (E x y)) (body i) fun _ => v.at_ p xs) :
    ∀ (todo done : List α) (ys : List β), done ++ (todo ++ rest) = xs →
      Triple R ((v.at_ p xs).sep (each E todo ys)) (times body done.length todo.length) fun _ => v.at_ p xs
  | [], _, [], _ => by
    rw [each, sep_emp]
    exact .pure fun _ => id
  | x :: todo, done, y :: ys, split => by
    have next := times_triple one todo (done ++ [x]) ys (by rw [← split]; simp)
    rw [List.length_append] at next
    have here : xs[done.length]? = some x := by simp [← split]
    have first := (one done.length x y here).frame (each E todo ys)
    rw [sep_assoc] at first
    exact .bind first fun _ => next
  | [], _, _ :: _, _ => fun _ _ _ _ ⟨_, _, _, _, _, absurd, _⟩ => absurd.elim
  | _ :: _, _, [], _ => fun _ _ _ _ ⟨_, _, _, _, _, absurd, _⟩ => absurd.elim

/-- Releases what the first `n` elements own, and the array. -/
def release (drop : α → Program B PUnit) (p n : Nat) : Program B PUnit := do
  times (fun i => do drop (← v.read p i)) 0 n
  free p

theorem release_triple {E : α → β → Assertion B} {drop : α → Program B PUnit} {ys : List β}
    (one : ∀ x y, Triple R (E x y) (drop x) fun _ => emp) :
    Triple R ((v.at_ p (done ++ rest)).sep (each E done ys)) (v.release drop p done.length) fun _ => emp := by
  have element : ∀ i x y, (done ++ rest)[i]? = some x →
      Triple R ((v.at_ p (done ++ rest)).sep (E x y)) (do drop (← v.read p i)) fun _ => v.at_ p (done ++ rest) := by
    intro i x y there
    have found := (v.read_triple (R := R) (p := p) i there).frame (E x y)
    simp only [sep_assoc] at found
    refine .bind found fun x' => .of_lift fun same => ?_
    have dropped := (one x y).frame (v.at_ p (done ++ rest))
    rw [emp_sep, sep_comm (E x y)] at dropped
    rw [same]
    exact dropped
  exact .bind (v.times_triple element done [] ys rfl) fun _ => .free

/-- Reads the elements from the index `i` on, `n` of them, each together with what it owns. -/
def collect (one : α → Program B β) (p : Nat) : Nat → Nat → Program B (List β)
  | _, 0 => pure []
  | i, n + 1 => do
    let y ← one (← v.read p i)
    let ys ← collect one p (i + 1) n
    pure (y :: ys)

theorem collect_triple {E : α → β → Assertion B} {read : α → Program B β}
    (one : ∀ x y, Reads R (E x y) (read x) y) : ∀ (todo done : List α) (ys : List β), done ++ todo = xs →
      Reads R ((v.at_ p xs).sep (each E todo ys)) (v.collect read p done.length todo.length) ys
  | [], _, [], _ => Triple.pure fun f here => lift_sep.2 ⟨rfl, here⟩
  | x :: todo, done, y :: ys, split => by
    have next := collect_triple one todo (done ++ [x]) ys (by rw [← split]; simp)
    rw [List.length_append] at next
    have here : xs[done.length]? = some x := by simp [← split]
    have element := (v.read_triple (R := R) (p := p) done.length here).frame (each E (x :: todo) (y :: ys))
    simp only [sep_assoc] at element
    refine Triple.bind element fun x' => .of_lift fun same => ?_
    subst same
    have owned := (one x' y).frame ((v.at_ p xs).sep (each E todo ys))
    have order : (v.at_ p xs).sep (each E (x' :: todo) (y :: ys)) =
        (E x' y).sep ((v.at_ p xs).sep (each E todo ys)) := by
      rw [each]
      ac_rfl
    simp only [sep_assoc] at owned
    rw [order]
    refine .bind owned fun y' => .of_lift fun same => ?_
    subst same
    have rest := next.frame (E x' y')
    rw [sep_comm _ (E x' y')] at rest
    refine .bind rest fun ys' => ?_
    rw [sep_assoc, sep_comm _ (E x' y')]
    refine .of_lift fun same => ?_
    subst same
    exact .pure fun f here => lift_sep.2 ⟨rfl, here⟩
  | [], _, _ :: _, _ => fun _ _ _ _ ⟨_, _, _, _, _, absurd, _⟩ => absurd.elim
  | _ :: _, _, [], _ => fun _ _ _ _ ⟨_, _, _, _, _, absurd, _⟩ => absurd.elim

end View

end Heaplet
