import UsbManager.Lib.Keeps

/-!
# A relational table with transactions that may fail

One table of rows of an arbitrary type. Every call on the store is answered by `answers`, in the
order of the calls: a call that fails has no effect. A transaction keeps the rows it started from
until it ends. The log shows the calls that have been made.
-/

namespace Rdb

variable {R : Type}

inductive Statement where
  | beginTransaction
  | commit
  | rollBack
  | insert
  | update
  | delete
  | query
  deriving DecidableEq, Repr

structure Store (R : Type) where
  rows : List R := []
  saved : Option (List R) := none
  calls : Nat := 0
  /-- The calls with their answers, the last one first. -/
  log : List (Statement × Bool) := []

abbrev Session (R : Type) := StateM (Store R)

/-- No transaction is open. -/
def Store.Quiet (s : Store R) : Prop := s.saved = none

/-- The rows that stay if the transaction that is open now is never committed. -/
def Store.stored (s : Store R) : List R := s.saved.getD s.rows

theorem Store.Quiet.stored {s : Store R} (quiet : s.Quiet) : s.stored = s.rows := by
  rw [Store.stored, show s.saved = none from quiet, Option.getD_none]

/-- The store after calls that succeed, but for their effects; the last one comes first. -/
def Store.succeeded (s : Store R) (made : List Statement) : Store R :=
  { s with calls := s.calls + made.length, log := made.map (·, true) ++ s.log }

@[simp] theorem Store.succeeded_rows (s : Store R) (made : List Statement) : (s.succeeded made).rows = s.rows := rfl

@[simp] theorem Store.succeeded_saved (s : Store R) (made : List Statement) : (s.succeeded made).saved = s.saved :=
  rfl

@[simp] theorem Store.succeeded_calls (s : Store R) (made : List Statement) :
    (s.succeeded made).calls = s.calls + made.length := rfl

theorem Store.succeeded_succeeded (s : Store R) (made more : List Statement) :
    (s.succeeded made).succeeded more = s.succeeded (more ++ made) := by
  simp only [succeeded, List.length_append, List.map_append, List.append_assoc, Nat.add_assoc, Nat.add_comm]

section Calls

variable (answers : Nat → Bool)

/-- One call: its answer, and its effect if it succeeds. -/
def call (statement : Statement) (effect : Store R → Store R) : Session R Bool := fun s =>
  let s' := { s with calls := s.calls + 1, log := (statement, answers s.calls) :: s.log }
  if answers s.calls then (true, effect s') else (false, s')

/-- A transaction does not start inside another. -/
def beginTransaction : Session R Bool := fun s =>
  if s.saved.isSome then (false, { s with calls := s.calls + 1, log := (.beginTransaction, false) :: s.log })
  else call answers .beginTransaction (fun s => { s with saved := some s.rows }) s

def commit : Session R Bool := call answers .commit fun s => { s with saved := none }

def rollBack : Session R Bool := call answers .rollBack fun s => { s with rows := s.saved.getD s.rows, saved := none }

def insert (row : R) : Session R Bool := call answers .insert fun s => { s with rows := s.rows ++ [row] }

/-- The number of rows changed is that of the rows selected. -/
def update (clause : R → Bool) (change : R → R) : Session R (Bool × Nat) := do
  let selected := ((← get).rows.filter clause).length
  let ok ← call answers .update fun s => { s with rows := s.rows.map fun row => if clause row then change row else row }
  return (ok, if ok then selected else 0)

def delete (clause : R → Bool) : Session R (Bool × Nat) := do
  let selected := ((← get).rows.filter clause).length
  let ok ← call answers .delete fun s => { s with rows := s.rows.filter fun row => !clause row }
  return (ok, if ok then selected else 0)

def query (clause : R → Bool) : Session R (Option (List R)) := do
  let selected := (← get).rows.filter clause
  let ok ← call answers .query id
  return if ok then some selected else none

end Calls

/-! ### Transactions

What a session does between a `BeginTransaction` and the call that ends it, one rule for each call. -/

section Transactions

open UsbManager (Keeps stateM_bind stateM_get stateM_pure)

/-- Every `RollBack` so far has succeeded. -/
def Store.RollsBack (s : Store R) : Prop := ∀ made ∈ s.log, made.1 = .rollBack → made.2 = true

instance (s : Store R) : Decidable s.RollsBack :=
  inferInstanceAs (Decidable (∀ made ∈ s.log, made.1 = .rollBack → made.2 = true))

def begins (made : List (Statement × Bool)) : Nat := made.count (.beginTransaction, true)

/-- The successful `Commit`s and all `RollBack`s. -/
def ends (made : List (Statement × Bool)) : Nat := made.countP fun call => call = (.commit, true) ∨ call.1 = .rollBack

/-- One transaction at most has been begun, and it has been ended once. -/
def Balanced (made : List (Statement × Bool)) : Prop := begins made ≤ 1 ∧ ends made = begins made

/-- A session that started in `s` is over and leaves these rows. -/
structure Ended (s : Store R) (rows : List R) (s' : Store R) : Prop where
  rows_eq : s'.rows = rows
  quiet : s'.Quiet
  balanced : ∃ made, s'.log = made ++ s.log ∧ Balanced made

/-- A session that started in `s` is in its transaction and sees these rows. -/
structure Inside (s : Store R) (rows : List R) (s' : Store R) : Prop where
  rows_eq : s'.rows = rows
  saved : s'.saved = some s.rows
  begun : ∃ made, s'.log = made ++ s.log ∧ begins made = 1 ∧ ends made = 0

variable {s s' : Store R} {rows : List R} {answers : Nat → Bool}

theorem Ended.refl (quiet : s.Quiet) : Ended s s.rows s :=
  ⟨rfl, quiet, [], rfl, Nat.zero_le _, rfl⟩

theorem call_cases (answers : Nat → Bool) (statement : Statement) (effect : Store R → Store R) (s : Store R) :
    call answers statement effect s =
        (false, { s with calls := s.calls + 1, log := (statement, false) :: s.log }) ∨
      call answers statement effect s =
        (true, effect { s with calls := s.calls + 1, log := (statement, true) :: s.log }) := by
  unfold call
  cases answers s.calls with
  | false => exact .inl rfl
  | true => exact .inr rfl

theorem call_answer (answers : Nat → Bool) (statement : Statement) (effect : Store R → Store R) (s : Store R) :
    (call answers statement effect s).1 = answers s.calls := by
  unfold call
  cases answers s.calls <;> rfl

theorem call_calls (answers : Nat → Bool) (statement : Statement) {effect : Store R → Store R}
    (frame : ∀ s, (effect s).calls = s.calls) (s : Store R) :
    (call answers statement effect s).2.calls = s.calls + 1 := by
  unfold call
  dsimp only
  split_ifs
  · exact frame _
  · rfl

theorem beginTransaction_cases (answers : Nat → Bool) (quiet : s.Quiet) :
    ((beginTransaction answers s).1 = false ∧ Ended s s.rows (beginTransaction answers s).2) ∨
      ((beginTransaction answers s).1 = true ∧ Inside s s.rows (beginTransaction answers s).2) := by
  have none : s.saved = none := quiet
  unfold beginTransaction
  rw [none, Option.isSome_none, if_neg Bool.false_ne_true]
  obtain failed | done := call_cases answers .beginTransaction (fun s => { s with saved := some s.rows }) s
  · rw [failed]
    exact .inl ⟨rfl, rfl, none, [(.beginTransaction, false)], rfl, Nat.zero_le _, rfl⟩
  · rw [done]
    exact .inr ⟨rfl, rfl, rfl, [(.beginTransaction, true)], rfl, rfl, rfl⟩

/-- Another call that neither begins nor ends a transaction. -/
theorem Inside.extend {s'' : Store R} {rows' : List R} (inside : Inside s rows s') (made : Statement × Bool)
    (rows_eq : s''.rows = rows') (saved : s''.saved = s'.saved) (log : s''.log = made :: s'.log)
    (plain : begins [made] = 0 ∧ ends [made] = 0) : Inside s rows' s'' := by
  obtain ⟨before, log', one, none⟩ := inside.begun
  refine ⟨rows_eq, saved.trans inside.saved, made :: before, ?_, ?_, ?_⟩
  · rw [log, log', List.cons_append]
  · have here := plain.1
    unfold begins at here one ⊢
    rw [← List.singleton_append, List.count_append, here, one]
  · have here := plain.2
    unfold ends at here none ⊢
    rw [← List.singleton_append, List.countP_append, here, none]

theorem Inside.insert (inside : Inside s rows s') (answers : Nat → Bool) (row : R) :
    ((Rdb.insert answers row s').1 = false ∧ Inside s rows (Rdb.insert answers row s').2) ∨
      ((Rdb.insert answers row s').1 = true ∧ Inside s (rows ++ [row]) (Rdb.insert answers row s').2) := by
  obtain rfl := inside.rows_eq
  unfold Rdb.insert
  obtain failed | done := call_cases answers .insert (fun s => { s with rows := s.rows ++ [row] }) s'
  · rw [failed]
    exact .inl ⟨rfl, inside.extend (.insert, false) rfl rfl rfl ⟨rfl, rfl⟩⟩
  · rw [done]
    exact .inr ⟨rfl, inside.extend (.insert, true) rfl rfl rfl ⟨rfl, rfl⟩⟩

theorem Inside.update (inside : Inside s rows s') (answers : Nat → Bool) (clause : R → Bool) (change : R → R) :
    ((Rdb.update answers clause change s').1 = (false, 0) ∧ Inside s rows (Rdb.update answers clause change s').2) ∨
      ((Rdb.update answers clause change s').1 = (true, (rows.filter clause).length) ∧
        Inside s (rows.map fun row => if clause row then change row else row)
          (Rdb.update answers clause change s').2) := by
  obtain rfl := inside.rows_eq
  simp only [Rdb.update, stateM_bind, stateM_get, stateM_pure]
  obtain failed | done := call_cases answers .update
    (fun s => { s with rows := s.rows.map fun row => if clause row then change row else row }) s'
  · rw [failed]
    exact .inl ⟨rfl, inside.extend (.update, false) rfl rfl rfl ⟨rfl, rfl⟩⟩
  · rw [done]
    exact .inr ⟨rfl, inside.extend (.update, true) rfl rfl rfl ⟨rfl, rfl⟩⟩

theorem Inside.delete (inside : Inside s rows s') (answers : Nat → Bool) (clause : R → Bool) :
    ((Rdb.delete answers clause s').1 = (false, 0) ∧ Inside s rows (Rdb.delete answers clause s').2) ∨
      ((Rdb.delete answers clause s').1 = (true, (rows.filter clause).length) ∧
        Inside s (rows.filter fun row => !clause row) (Rdb.delete answers clause s').2) := by
  obtain rfl := inside.rows_eq
  simp only [Rdb.delete, stateM_bind, stateM_get, stateM_pure]
  obtain failed | done := call_cases answers .delete
    (fun s => { s with rows := s.rows.filter fun row => !clause row }) s'
  · rw [failed]
    exact .inl ⟨rfl, inside.extend (.delete, false) rfl rfl rfl ⟨rfl, rfl⟩⟩
  · rw [done]
    exact .inr ⟨rfl, inside.extend (.delete, true) rfl rfl rfl ⟨rfl, rfl⟩⟩

theorem Inside.query (inside : Inside s rows s') (answers : Nat → Bool) (clause : R → Bool) :
    ((Rdb.query answers clause s').1 = none ∨ (Rdb.query answers clause s').1 = some (rows.filter clause)) ∧
      Inside s rows (Rdb.query answers clause s').2 := by
  obtain rfl := inside.rows_eq
  simp only [Rdb.query, stateM_bind, stateM_get, stateM_pure]
  obtain failed | done := call_cases answers .query id s'
  · rw [failed]
    exact ⟨.inl rfl, inside.extend (.query, false) rfl rfl rfl ⟨rfl, rfl⟩⟩
  · rw [done]
    exact ⟨.inr rfl, inside.extend (.query, true) rfl rfl rfl ⟨rfl, rfl⟩⟩

/-- A call that ends the transaction. -/
theorem Inside.close {s'' : Store R} {rows' : List R} (inside : Inside s rows s') (made : Statement × Bool)
    (rows_eq : s''.rows = rows') (quiet : s''.Quiet) (log : s''.log = made :: s'.log)
    (last : begins [made] = 0 ∧ ends [made] = 1) : Ended s rows' s'' := by
  obtain ⟨before, log', one, none⟩ := inside.begun
  have begun : begins (made :: before) = 1 := by
    have here := last.1
    unfold begins at here one ⊢
    rw [← List.singleton_append, List.count_append, here, one]
  have ended : ends (made :: before) = 1 := by
    have here := last.2
    unfold ends at here none ⊢
    rw [← List.singleton_append, List.countP_append, here, none]
  refine ⟨rows_eq, quiet, made :: before, ?_, Nat.le_of_eq begun, ended.trans begun.symm⟩
  rw [log, log', List.cons_append]

theorem Inside.commit (inside : Inside s rows s') (answers : Nat → Bool) :
    ((Rdb.commit answers s').1 = false ∧ Inside s rows (Rdb.commit answers s').2) ∨
      ((Rdb.commit answers s').1 = true ∧ Ended s rows (Rdb.commit answers s').2) := by
  obtain rfl := inside.rows_eq
  unfold Rdb.commit
  obtain failed | done := call_cases answers .commit (fun s => { s with saved := none }) s'
  · rw [failed]
    exact .inl ⟨rfl, inside.extend (.commit, false) rfl rfl rfl ⟨rfl, rfl⟩⟩
  · rw [done]
    exact .inr ⟨rfl, inside.close (.commit, true) rfl rfl rfl ⟨rfl, rfl⟩⟩

/-- A transaction whose `RollBack` fails stays open. -/
theorem Inside.rollBack (inside : Inside s rows s') (answers : Nat → Bool) :
    Ended s s.rows (Rdb.rollBack answers s').2 ∨
      ((Rdb.rollBack answers s').2.saved = some s.rows ∧ ¬ (Rdb.rollBack answers s').2.RollsBack) := by
  unfold Rdb.rollBack
  obtain failed | done := call_cases answers .rollBack
    (fun s => { s with rows := s.saved.getD s.rows, saved := none }) s'
  · rw [failed]
    exact .inr ⟨inside.saved, fun all => Bool.false_ne_true (all _ (List.mem_cons_self ..) rfl)⟩
  · rw [done]
    have restored : s'.saved.getD s'.rows = s.rows := by
      rw [inside.saved, Option.getD_some]
    exact .inl (inside.close (.rollBack, true) restored rfl rfl ⟨rfl, rfl⟩)

/-! A `RollBack` that has failed stays in the log. -/

theorem call_keeps_failure (answers : Nat → Bool) (statement : Statement) {effect : Store R → Store R}
    (frame : ∀ s, (effect s).log = s.log) : Keeps (fun s => ¬ s.RollsBack) (call answers statement effect) := by
  intro s failed later
  refine failed fun made member => later made ?_
  obtain done | done := call_cases answers statement effect s
  · rw [done]
    exact List.mem_cons_of_mem _ member
  · rw [done, frame]
    exact List.mem_cons_of_mem _ member

theorem beginTransaction_keeps_failure (answers : Nat → Bool) :
    Keeps (fun s : Store R => ¬ s.RollsBack) (beginTransaction answers) := by
  intro s failed
  unfold beginTransaction
  split_ifs
  · exact fun later => failed fun made member => later made (List.mem_cons_of_mem _ member)
  · exact @call_keeps_failure R answers .beginTransaction (fun s => { s with saved := some s.rows }) (fun _ => rfl) s
      failed

theorem update_keeps_failure (answers : Nat → Bool) (clause : R → Bool) (change : R → R) :
    Keeps (fun s : Store R => ¬ s.RollsBack) (update answers clause change) :=
  .get fun _ _ => .bind (call_keeps_failure answers .update fun _ => rfl) fun _ => .pure _

theorem delete_keeps_failure (answers : Nat → Bool) (clause : R → Bool) :
    Keeps (fun s : Store R => ¬ s.RollsBack) (delete answers clause) :=
  .get fun _ _ => .bind (call_keeps_failure answers .delete fun _ => rfl) fun _ => .pure _

theorem query_keeps_failure (answers : Nat → Bool) (clause : R → Bool) :
    Keeps (fun s : Store R => ¬ s.RollsBack) (query answers clause) :=
  .get fun _ _ => .bind (call_keeps_failure answers .query fun _ => rfl) fun _ => .pure _

end Transactions

/-! ### Lost rows -/

/-- From one store to the next rows have only been taken out of what is stored, each of them for a reason. -/
structure Sheds (P : R → Prop) (s s' : Store R) : Prop where
  subset : ∀ row ∈ s'.stored, row ∈ s.stored
  lost : ∀ row ∈ s.stored, row ∉ s'.stored → P row

namespace Sheds

variable {P Q : R → Prop} {s s' s'' : Store R}

theorem of_stored (same : s'.stored = s.stored) : Sheds P s s' := by
  refine ⟨fun row member => same ▸ member, fun row member gone => ?_⟩
  rw [same] at gone
  exact absurd member gone

theorem of_filter {keep : R → Bool} (left : s'.stored = s.stored.filter keep)
    (each : ∀ row ∈ s.stored, keep row = false → P row) : Sheds P s s' := by
  refine ⟨fun row member => ?_, fun row member gone => each row member ?_⟩
  · rw [left] at member
    exact (List.mem_filter.1 member).1
  · rw [left, List.mem_filter] at gone
    exact Bool.eq_false_iff.2 fun kept => gone ⟨member, kept⟩

theorem trans (first : Sheds P s s') (second : Sheds P s' s'') : Sheds P s s'' := by
  refine ⟨fun row member => first.subset row (second.subset row member), fun row member gone => ?_⟩
  by_cases there : row ∈ s'.stored
  · exact second.lost row there gone
  · exact first.lost row member there

theorem mono (sheds : Sheds P s s') (weaker : ∀ row ∈ s.stored, P row → Q row) : Sheds Q s s' :=
  ⟨sheds.subset, fun row member gone => weaker row member (sheds.lost row member gone)⟩

/-- What is lost on the way is lost in the first part or in the rest. -/
theorem lost_iff (first : Sheds P s s') (second : Sheds Q s' s'') {E : R → Prop} :
    (∀ row ∈ s.stored, row ∉ s''.stored → E row) ↔
      (∀ row ∈ s.stored, row ∉ s'.stored → E row) ∧ ∀ row ∈ s'.stored, row ∉ s''.stored → E row := by
  constructor
  · intro all
    refine ⟨fun row member gone => all row member fun there => gone (second.subset row there), ?_⟩
    exact fun row there => all row (first.subset row there)
  · rintro ⟨before, after⟩ row member gone
    by_cases there : row ∈ s'.stored
    · exact after row there gone
    · exact before row member there

end Sheds

end Rdb
