import Mathlib.Data.List.Basic

/-!
# What a computation keeps

A computation with a state keeps a predicate if it holds after the computation whenever it held before.
The rules follow the structure of a computation, so that a predicate which the single operations keep
is kept by all programs over them, loops included. A computation that carries one predicate to another
keeps the first one up to some step. The equations run a computation step by step.
-/

namespace UsbManager

section Run

variable {σ α β : Type}

theorem stateM_pure (a : α) (s : σ) : (pure a : StateM σ α) s = (a, s) := rfl

theorem stateM_pure_ite {c : Prop} [Decidable c] (a b : α) (s : σ) :
    ((if c then pure a else pure b : StateM σ α) s).2 = s := by
  split_ifs <;> rfl

theorem stateM_pure_ite_fst {c : Prop} [Decidable c] (a b : α) (s : σ) :
    ((if c then pure a else pure b : StateM σ α) s).1 = if c then a else b := by
  split_ifs <;> rfl

theorem stateM_bind (m : StateM σ α) (f : α → StateM σ β) (s : σ) : (m >>= f) s = f (m s).1 (m s).2 := rfl

theorem stateM_map (f : α → β) (m : StateM σ α) (s : σ) : (f <$> m) s = (f (m s).1, (m s).2) := rfl

theorem stateM_get (s : σ) : (get : StateM σ σ) s = (s, s) := rfl

end Run

/-! ## Results that no state changes -/

section Yields

variable {σ α β : Type} {m : StateM σ α} {f : α → StateM σ β} {a : α} {b : β}

/-- The computation has the same result in every state. -/
def Yields (m : StateM σ α) (a : α) : Prop := ∀ s, (m s).1 = a

theorem Yields.pure (a : α) : Yields (Pure.pure a : StateM σ α) a := fun _ => rfl

theorem Yields.bind (first : Yields m a) (next : Yields (f a) b) : Yields (m >>= f) b := by
  intro s
  rw [stateM_bind, first s]
  exact next _

theorem Yields.get {f : σ → StateM σ β} (next : ∀ s, Yields (f s) b) : Yields (MonadState.get >>= f) b :=
  fun s => next s s

theorem Yields.ite {c : Prop} [Decidable c] {m' : StateM σ α} (yes : c → Yields m a) (no : ¬ c → Yields m' a) :
    Yields (if c then m else m') a := by
  split_ifs with h
  · exact yes h
  · exact no h

end Yields

section Keeps

variable {σ α β : Type} {P : σ → Prop}

def Keeps (P : σ → Prop) (m : StateM σ α) : Prop := ∀ s, P s → P (m s).2

namespace Keeps

theorem pure (a : α) : Keeps P (Pure.pure a : StateM σ α) := fun _ here => here

theorem bind {m : StateM σ α} {f : α → StateM σ β} (first : Keeps P m) (next : ∀ a, Keeps P (f a)) :
    Keeps P (m >>= f) :=
  fun s here => next _ _ (first s here)

/-- Something is known of what the first computation yields. -/
theorem bind_of {R : α → Prop} {m : StateM σ α} {f : α → StateM σ β} (first : Keeps P m) (yields : ∀ s, R (m s).1)
    (next : ∀ a, R a → Keeps P (f a)) : Keeps P (m >>= f) :=
  fun s here => next _ (yields s) _ (first s here)

/-- What is read is a state in which the predicate holds. -/
theorem get {f : σ → StateM σ β} (next : ∀ s, P s → Keeps P (f s)) : Keeps P (MonadState.get >>= f) :=
  fun s here => next s here s here

theorem modify {f : σ → σ} (step : ∀ s, P s → P (f s)) : Keeps P (modify f) := fun s here => step s here

theorem discard {m : StateM σ α} (kept : Keeps P m) : Keeps P (Functor.discard m) := fun s here => kept s here

theorem ite {c : Prop} [Decidable c] {m n : StateM σ α} (yes : c → Keeps P m) (no : ¬ c → Keeps P n) :
    Keeps P (if c then m else n) := by
  split_ifs with h
  · exact yes h
  · exact no h

theorem forM {f : α → StateM σ PUnit} {xs : List α} (each : ∀ x ∈ xs, Keeps P (f x)) : Keeps P (xs.forM f) := by
  induction xs with
  | nil => exact .pure _
  | cons x xs ih =>
    exact .bind (each x (List.mem_cons_self ..)) fun _ => ih fun y member => each y (List.mem_cons_of_mem _ member)

theorem foldlM {f : β → α → StateM σ β} {xs : List α} (each : ∀ b, ∀ x ∈ xs, Keeps P (f b x)) (b : β) :
    Keeps P (xs.foldlM f b) := by
  induction xs generalizing b with
  | nil => exact .pure _
  | cons x xs ih =>
    rw [List.foldlM_cons]
    exact .bind (each b x (List.mem_cons_self ..)) fun b =>
      ih (fun b y member => each b y (List.mem_cons_of_mem _ member)) b

/-- Loops are the same if their bodies are, where the predicate holds. -/
theorem foldlM_congr {f g : β → α → StateM σ β} {xs : List α} (kept : ∀ b, ∀ x ∈ xs, Keeps P (g b x))
    (same : ∀ b, ∀ x ∈ xs, ∀ s, P s → f b x s = g b x s) (b : β) {s : σ} (here : P s) :
    xs.foldlM f b s = xs.foldlM g b s := by
  induction xs generalizing b s with
  | nil => rfl
  | cons x xs ih =>
    have first := List.mem_cons_self (a := x) (l := xs)
    rw [List.foldlM_cons, List.foldlM_cons, stateM_bind, stateM_bind, same b x first s here]
    exact ih (fun b y member => kept b y (List.mem_cons_of_mem _ member))
      (fun b y member => same b y (List.mem_cons_of_mem _ member)) _ (kept b x first s here)

theorem bind_congr {m m' : StateM σ α} {f g : α → StateM σ β} (kept : Keeps P m') (same : ∀ s, P s → m s = m' s)
    (next : ∀ a s, P s → f a s = g a s) {s : σ} (here : P s) : (m >>= f) s = (m' >>= g) s := by
  rw [stateM_bind, stateM_bind, same s here]
  exact next _ _ (kept s here)

theorem forM_congr {f g : α → StateM σ PUnit} {xs : List α} (kept : ∀ x ∈ xs, Keeps P (g x))
    (same : ∀ x ∈ xs, ∀ s, P s → f x s = g x s) {s : σ} (here : P s) : xs.forM f s = xs.forM g s := by
  induction xs generalizing s with
  | nil => rfl
  | cons x xs ih =>
    have first := List.mem_cons_self (a := x) (l := xs)
    change xs.forM f (f x s).2 = xs.forM g (g x s).2
    rw [same x first s here]
    exact ih (fun y member => kept y (List.mem_cons_of_mem _ member))
      (fun y member => same y (List.mem_cons_of_mem _ member)) (kept x first s here)

end Keeps

/-! ### From one predicate to another -/

variable {Q : σ → Prop}

def Carries (P Q : σ → Prop) (m : StateM σ α) : Prop := ∀ s, P s → Q (m s).2

namespace Carries

theorem pure (a : α) (weaker : ∀ s, P s → Q s) : Carries P Q (Pure.pure a : StateM σ α) := weaker

theorem get {f : σ → StateM σ β} (next : ∀ s, P s → Carries P Q (f s)) : Carries P Q (MonadState.get >>= f) :=
  fun s here => next s here s here

theorem ite {c : Prop} [Decidable c] {m n : StateM σ α} (yes : c → Carries P Q m) (no : ¬ c → Carries P Q n) :
    Carries P Q (if c then m else n) := by
  split_ifs with h
  · exact yes h
  · exact no h

theorem discard {m : StateM σ α} (carries : Carries P Q m) : Carries P Q (Functor.discard m) :=
  fun s here => carries s here

/-- Something is kept first. -/
theorem after {m : StateM σ α} {f : α → StateM σ β} (first : Keeps P m) (next : ∀ a, Carries P Q (f a)) :
    Carries P Q (m >>= f) :=
  fun s here => next _ _ (first s here)

/-- Something is kept afterwards. -/
theorem before {m : StateM σ α} {f : α → StateM σ β} (first : Carries P Q m) (next : ∀ a, Keeps Q (f a)) :
    Carries P Q (m >>= f) :=
  fun s here => next _ _ (first s here)

/-- There and back again. -/
theorem back {m : StateM σ α} {f : α → StateM σ β} (first : Carries P Q m) (next : ∀ a, Carries Q P (f a)) :
    Keeps P (m >>= f) :=
  fun s here => next _ _ (first s here)

end Carries

end Keeps

end UsbManager
