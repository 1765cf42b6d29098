import Mathlib.Data.List.Nodup
import UsbManager.Lib.Keeps

/-!
# Loops over components

A state is seen through a view that shows its components one by one. A computation acts on them if it makes
of each component a function of what it was. A loop that visits distinct components, and changes only the
one that it visits, acts on all of them, and the order of the visits does not matter.

A table whose rows exclude each other is a choice: going through all its rows, and doing what a row says
where the row fits, is doing what the one row says that fits.
-/

namespace UsbManager

section Acts

variable {σ ι δ κ α β : Type} {P : σ → Prop} {view : ι → σ → δ} {F G : ι → δ → δ}

/-- Where `P` holds, the computation makes `F x` of each component `x`. -/
structure Acts (P : σ → Prop) (view : ι → σ → δ) (F : ι → δ → δ) (m : StateM σ α) : Prop where
  keeps : Keeps P m
  acts : ∀ s, P s → ∀ x, view x (m s).2 = F x (view x s)

namespace Acts

theorem pure (a : α) : Acts P view (fun _ d => d) (Pure.pure a : StateM σ α) := ⟨.pure a, fun _ _ _ => rfl⟩

theorem congr {m : StateM σ α} (acts : Acts P view F m) (same : ∀ x d, F x d = G x d) : Acts P view G m :=
  ⟨acts.keeps, fun s here x => (acts.acts s here x).trans (same x _)⟩

theorem discard {m : StateM σ α} (acts : Acts P view F m) : Acts P view F (Functor.discard m) :=
  ⟨.discard acts.keeps, fun s here x => acts.acts s here x⟩

theorem bind {m : StateM σ α} {f : α → StateM σ β} (first : Acts P view F m) (next : ∀ a, Acts P view G (f a)) :
    Acts P view (fun x d => G x (F x d)) (m >>= f) := by
  refine ⟨.bind first.keeps fun a => (next a).keeps, fun s here x => ?_⟩
  rw [stateM_bind, (next _).acts _ (first.keeps s here), first.acts s here]

/-- The computation that goes on may rely on the result. -/
theorem bindOf {m : StateM σ α} {f : α → StateM σ β} (a : α) (first : Acts P view F m)
    (returns : ∀ s, P s → (m s).1 = a) (next : Acts P view G (f a)) :
    Acts P view (fun x d => G x (F x d)) (m >>= f) := by
  have run : ∀ s, P s → (m >>= f) s = f a (m s).2 := fun s here => by rw [stateM_bind, returns s here]
  refine ⟨fun s here => ?_, fun s here x => ?_⟩
  · rw [run s here]
    exact next.keeps _ (first.keeps s here)
  · rw [run s here, next.acts _ (first.keeps s here), first.acts s here]

/-- What is done may depend on the state that is read. -/
theorem get {f : σ → StateM σ β}
    (next : ∀ s, P s → ∃ G, Acts P view G (f s) ∧ ∀ x, G x (view x s) = F x (view x s)) :
    Acts P view F (MonadState.get >>= f) := by
  refine ⟨.get fun s here => ?_, fun s here x => ?_⟩
  · obtain ⟨G, acts, -⟩ := next s here
    exact acts.keeps
  · obtain ⟨G, acts, same⟩ := next s here
    rw [stateM_bind, stateM_get, ← same]
    exact acts.acts s here x

theorem forM {F : κ → ι → δ → δ} {f : κ → StateM σ PUnit} {ks : List κ}
    (each : ∀ k ∈ ks, Acts P view (F k) (f k)) :
    Acts P view (fun x d => ks.foldl (fun d k => F k x d) d) (ks.forM f) := by
  induction ks with
  | nil => exact .pure _
  | cons k ks ih =>
    exact .bind (each k (List.mem_cons_self ..)) fun _ => ih fun j member => each j (List.mem_cons_of_mem _ member)

/-- One component is visited, and what is done to it may depend on the state that is read. -/
theorem visit [DecidableEq ι] {x : ι} {f : σ → StateM σ β}
    (next : ∀ s, P s →
      ∃ g : δ → δ, Acts P view (fun y d => if y = x then g d else d) (f s) ∧ g (view x s) = F x (view x s)) :
    Acts P view (fun y d => if y = x then F y d else d) (MonadState.get >>= f) := by
  refine .get fun s here => ?_
  obtain ⟨g, acts, done⟩ := next s here
  refine ⟨_, acts, fun y => ?_⟩
  split_ifs with same
  · rw [same, done]
  · rfl

theorem idle [DecidableEq ι] {x : ι} {m : StateM σ α} (acts : Acts P view (fun _ d => d) m) :
    Acts P view (fun y d => if y = x then d else d) m :=
  acts.congr fun _ _ => (ite_self _).symm

/-- Distinct components are visited. -/
theorem visits [DecidableEq ι] {f : ι → StateM σ PUnit} {xs : List ι} (distinct : xs.Nodup)
    (each : ∀ x ∈ xs, Acts P view (fun y d => if y = x then F y d else d) (f x)) :
    Acts P view (fun x d => if x ∈ xs then F x d else d) (xs.forM f) := by
  induction xs with
  | nil => exact (pure PUnit.unit).congr fun x d => (if_neg List.not_mem_nil).symm
  | cons x xs ih =>
    obtain ⟨new, distinct⟩ := List.nodup_cons.1 distinct
    have first := each x (List.mem_cons_self ..)
    have later := ih distinct fun y member => each y (List.mem_cons_of_mem _ member)
    refine (first.bind fun _ => later).congr fun y d => ?_
    by_cases same : y = x
    · rw [if_pos same, if_neg (same ▸ new), if_pos (List.mem_cons.2 (.inl same))]
    · rw [if_neg same]
      exact if_congr (by rw [List.mem_cons, or_iff_right same]) rfl rfl

/-- Distinct components are visited again and again. -/
theorem rounds [DecidableEq ι] {F : κ → ι → δ → δ} {f : κ → ι → StateM σ PUnit} {ks : List κ} {xs : List ι}
    (distinct : xs.Nodup)
    (each : ∀ k ∈ ks, ∀ x ∈ xs, Acts P view (fun y d => if y = x then F k y d else d) (f k x)) :
    Acts P view (fun x d => if x ∈ xs then ks.foldl (fun d k => F k x d) d else d)
      (ks.forM fun k => xs.forM (f k)) := by
  refine (forM fun k member => visits distinct (each k member)).congr fun x d => ?_
  split_ifs
  · rfl
  · exact List.foldl_fixed ..

end Acts

end Acts

section Table

variable {κ δ : Type} {fits : κ → δ → Bool} {f : κ → δ → δ} {ks : List κ}

/-- No row fits where another one does. -/
def Exclusive (fits : κ → δ → Bool) (ks : List κ) : Prop :=
  ks.Pairwise fun j k => ∀ d, fits j d = true → fits k d = false

theorem foldl_of_not_fits {d : δ} (none : ∀ k ∈ ks, fits k d = false) :
    ks.foldl (fun d k => if fits k d then f k d else d) d = d := by
  induction ks with
  | nil => rfl
  | cons k ks ih =>
    have here : ¬ fits k d = true := by
      rw [none k (List.mem_cons_self ..)]
      exact Bool.false_ne_true
    rw [List.foldl_cons, if_neg here]
    exact ih fun j member => none j (List.mem_cons_of_mem _ member)

/-- Going through the table is doing what the row says that fits. -/
theorem foldl_of_exclusive (exclusive : Exclusive fits ks) (kept : ∀ j k d, fits j (f k d) = fits j d) (d : δ) :
    ks.foldl (fun d k => if fits k d then f k d else d) d = (ks.find? (fits · d)).elim d (f · d) := by
  induction ks generalizing d with
  | nil => rfl
  | cons k ks ih =>
    obtain ⟨others, later⟩ := List.pairwise_cons.1 exclusive
    rw [List.foldl_cons, List.find?_cons]
    cases here : fits k d with
    | false =>
      rw [if_neg Bool.false_ne_true]
      exact ih later d
    | true =>
      rw [if_pos rfl]
      refine foldl_of_not_fits fun j member => ?_
      rw [kept]
      exact others j member d here

/-- The row that fits is found in any order of the table. -/
theorem find?_of_exclusive (exclusive : Exclusive fits ks) {k : κ} (member : k ∈ ks) {d : δ} (here : fits k d = true) :
    ks.find? (fits · d) = some k := by
  induction ks with
  | nil => cases member
  | cons j ks ih =>
    obtain ⟨others, later⟩ := List.pairwise_cons.1 exclusive
    rw [List.find?_cons]
    obtain rfl | member := List.mem_cons.1 member
    · rw [here]
    · cases fit : fits j d with
      | false => exact ih later member
      | true =>
        have excluded := others k member d fit
        rw [here] at excluded
        cases excluded

theorem Exclusive.comap {γ : Type} (exclusive : Exclusive fits ks) (g : γ → δ) :
    Exclusive (fun k c => fits k (g c)) ks :=
  exclusive.imp fun apart c => apart (g c)

theorem Exclusive.perm {ks' : List κ} (exclusive : Exclusive fits ks) (perm : ks'.Perm ks) : Exclusive fits ks' := by
  refine (List.Perm.pairwise_iff (fun {j k} apart d fit => ?_) perm).2 exclusive
  by_contra other
  rw [Bool.not_eq_false] at other
  rw [apart d other] at fit
  cases fit

theorem find?_perm {ks' : List κ} (exclusive : Exclusive fits ks) (perm : ks'.Perm ks) (d : δ) :
    ks'.find? (fits · d) = ks.find? (fits · d) := by
  cases found : ks.find? (fits · d) with
  | none =>
    refine List.find?_eq_none.2 fun k member => ?_
    exact List.find?_eq_none.1 found k (perm.mem_iff.1 member)
  | some k =>
    have member := perm.mem_iff.2 (List.mem_of_find?_eq_some found)
    have here : fits k d = true := by simpa using List.find?_some found
    exact find?_of_exclusive (exclusive.perm perm) member here

end Table

end UsbManager
