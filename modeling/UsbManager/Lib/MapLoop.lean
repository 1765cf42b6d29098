import Mathlib.Data.List.Sort

/-!
# Loops that edit an ordered map while they walk it

`for (it = m.begin(); it != m.end();)` with a body that erases the entry at `it` and takes the iterator that `erase`
returns, or else leaves a value there and increments `it`. The iterator is the key that it stands at.

Such a loop meets every entry once, in the order of the keys, and finds it as it was at the start. A loop over a map
whose body only looks at its own entry is `filterMap`.
-/

namespace MapLoop

open Std (ExtTreeMap TransCmp LawfulEqCmp)

variable {K V σ : Type} {cmp : K → K → Ordering} [TransCmp cmp]

/-! ## The loop -/

/-- What is left of an entry, `none` if it is erased, and of the rest of the state. -/
abbrev Body (K V σ : Type) := K → V → σ → Option V × σ

def begin (m : ExtTreeMap K V cmp) : Option K := m.keys.head?

/-- The first key past `k`, whether or not `k` is still there. -/
def next (m : ExtTreeMap K V cmp) (k : K) : Option K := m.keys.find? fun other => cmp k other = .lt

/-- The loop from an iterator on; `none` if it stands at no entry, or is not through with the map in time. -/
def iterate (body : Body K V σ) : Nat → Option K → ExtTreeMap K V cmp → σ → Option (ExtTreeMap K V cmp × σ)
  | _, none, m, acc => some (m, acc)
  | 0, some _, _, _ => none
  | fuel + 1, some k, m, acc =>
    m[k]?.bind fun v =>
      match body k v acc with
      | (none, acc) => iterate body fuel (next (m.erase k) k) (m.erase k) acc
      | (some v, acc) => iterate body fuel (next (m.insert k v) k) (m.insert k v) acc

/-- The loop over the whole map. -/
def loop (body : Body K V σ) (m : ExtTreeMap K V cmp) (acc : σ) : Option (ExtTreeMap K V cmp × σ) :=
  iterate body m.size (begin m) m acc

/-- What the loop makes of the entries that are still ahead. -/
def walk (body : Body K V σ) : List (K × V) → σ → List (K × V) × σ
  | [], acc => ([], acc)
  | (k, v) :: rest, acc =>
    let (kept, acc) := body k v acc
    let (rest, acc) := walk body rest acc
    (kept.toList.map (k, ·) ++ rest, acc)

/-! ## One entry in the order of the keys -/

section Order

variable {m : ExtTreeMap K V cmp} {before rest l : List (K × V)} {k : K} {v : V}

theorem ordered_of_split (split : m.toList = before ++ rest) :
    ((before ++ rest).map Prod.fst).Pairwise fun a b => cmp a b = .lt := by
  rw [← split, ExtTreeMap.map_fst_toList_eq_keys]
  exact ExtTreeMap.ordered_keys

/-- The keys on both sides of an entry. -/
theorem sides_of_split (split : m.toList = before ++ (k, v) :: rest) :
    (∀ entry ∈ before, cmp entry.1 k = .lt) ∧ ∀ entry ∈ rest, cmp k entry.1 = .lt := by
  have ordered := List.pairwise_append.1 (List.pairwise_map.1 (ordered_of_split split))
  refine ⟨fun entry member => ordered.2.2 entry member (k, v) (List.mem_cons_self ..), ?_⟩
  exact (List.pairwise_cons.1 ordered.2.1).1

theorem not_mem_sides (split : m.toList = before ++ (k, v) :: rest) (value : V) : (k, value) ∉ before ++ rest := by
  obtain ⟨less, more⟩ := sides_of_split split
  intro member
  rcases List.mem_append.1 member with passed | ahead
  · exact Std.OrientedCmp.not_lt_of_lt (less _ passed) (less _ passed)
  · exact Std.OrientedCmp.not_lt_of_lt (more _ ahead) (more _ ahead)

theorem next_of_split (split : m.toList = before ++ rest) (passed : ∀ entry ∈ before, cmp k entry.1 ≠ .lt)
    (ahead : ∀ entry ∈ rest, cmp k entry.1 = .lt) : next m k = rest.head?.map Prod.fst := by
  have none : (before.map Prod.fst).find? (fun other => decide (cmp k other = .lt)) = none := by
    rw [List.find?_eq_none]
    intro key member
    obtain ⟨entry, listed, rfl⟩ := List.mem_map.1 member
    exact mt of_decide_eq_true (passed entry listed)
  rw [next, ← ExtTreeMap.map_fst_toList_eq_keys, split, List.map_append, List.find?_append, none, Option.none_or]
  cases rest with
  | nil => rfl
  | cons entry rest =>
    exact List.find?_cons_of_pos (decide_eq_true (ahead entry (List.mem_cons_self ..)))

variable [LawfulEqCmp cmp]

/-- A list in the order of the keys that has the entries of the map. -/
theorem toList_eq_of_mem_iff (ordered : (l.map Prod.fst).Pairwise fun a b => cmp a b = .lt)
    (entries : ∀ k v, (k, v) ∈ l ↔ m[k]? = some v) : m.toList = l := by
  have irrefl : Std.Irrefl fun a b : K × V => cmp a.1 b.1 = .lt :=
    ⟨fun _ less => Std.OrientedCmp.not_lt_of_lt less less⟩
  have antisymm : Std.Antisymm fun a b : K × V => cmp a.1 b.1 = .lt :=
    ⟨fun _ _ less more => absurd more (Std.OrientedCmp.not_lt_of_lt less)⟩
  refine ExtTreeMap.ordered_keys_toList.eq_of_mem_iff (List.pairwise_map.1 ordered) ?_
  rintro ⟨k, v⟩
  rw [entries, ExtTreeMap.mem_toList_iff_getElem?_eq_some]

theorem getElem?_of_split (split : m.toList = before ++ (k, v) :: rest) : m[k]? = some v := by
  rw [← ExtTreeMap.mem_toList_iff_getElem?_eq_some, split]
  exact List.mem_append_right _ (List.mem_cons_self ..)

/-- The other entries are those on both sides. -/
theorem mem_sides_iff (split : m.toList = before ++ (k, v) :: rest) {key : K} (other : k ≠ key) (value : V) :
    (key, value) ∈ before ++ rest ↔ m[key]? = some value := by
  have same : (key, value) ≠ (k, v) := fun same => other (congrArg Prod.fst same).symm
  rw [← ExtTreeMap.mem_toList_iff_getElem?_eq_some, split, List.mem_append, List.mem_append, List.mem_cons,
    or_iff_right same]

theorem toList_erase_of_split (split : m.toList = before ++ (k, v) :: rest) : (m.erase k).toList = before ++ rest := by
  have sides : (before ++ rest).Sublist (before ++ (k, v) :: rest) :=
    (List.sublist_cons_self ..).append_left before
  refine toList_eq_of_mem_iff ((ordered_of_split split).sublist (sides.map _)) fun key value => ?_
  rw [ExtTreeMap.getElem?_erase]
  by_cases same : k = key
  · rw [if_pos (LawfulEqCmp.compare_eq_iff_eq.2 same)]
    exact iff_of_false (same ▸ not_mem_sides split value) nofun
  · rw [if_neg (mt LawfulEqCmp.compare_eq_iff_eq.1 same)]
    exact mem_sides_iff split same value

theorem toList_insert_of_split (split : m.toList = before ++ (k, v) :: rest) (new : V) :
    (m.insert k new).toList = before ++ (k, new) :: rest := by
  have keys : (before ++ (k, new) :: rest).map Prod.fst = (before ++ (k, v) :: rest).map Prod.fst := by
    simp only [List.map_append, List.map_cons]
  refine toList_eq_of_mem_iff (keys ▸ ordered_of_split split) fun key value => ?_
  have sides : (key, value) ∈ before ++ (k, new) :: rest ↔ (key, value) = (k, new) ∨ (key, value) ∈ before ++ rest := by
    simp only [List.mem_append, List.mem_cons, or_left_comm]
  rw [ExtTreeMap.getElem?_insert, sides]
  by_cases same : k = key
  · subst same
    rw [if_pos Std.ReflCmp.compare_self, or_iff_left (not_mem_sides split value), Prod.mk.injEq, Option.some.injEq,
      eq_self_iff_true, true_and]
    exact eq_comm
  · rw [if_neg (mt LawfulEqCmp.compare_eq_iff_eq.1 same), or_iff_right fun here => same (congrArg Prod.fst here).symm]
    exact mem_sides_iff split same value

end Order

/-! ## The whole loop -/

section Loop

variable [LawfulEqCmp cmp] (body : Body K V σ)

/-- From an entry on, the loop leaves what is before it alone and walks over what is not. -/
theorem iterate_eq {rest before : List (K × V)} {m : ExtTreeMap K V cmp} (acc : σ) {fuel : Nat}
    (split : m.toList = before ++ rest) (enough : rest.length ≤ fuel) :
    ∃ m', iterate body fuel (rest.head?.map Prod.fst) m acc = some (m', (walk body rest acc).2) ∧
      m'.toList = before ++ (walk body rest acc).1 := by
  induction rest generalizing before m acc fuel with
  | nil =>
    refine ⟨m, ?_, split⟩
    cases fuel <;> rfl
  | cons entry rest ih =>
    obtain ⟨k, v⟩ := entry
    obtain ⟨less, more⟩ := sides_of_split split
    have passed : ∀ entry ∈ before, cmp k entry.1 ≠ .lt := fun entry member =>
      Std.OrientedCmp.not_lt_of_lt (less entry member)
    obtain ⟨fuel, rfl⟩ : ∃ n, fuel = n + 1 := Nat.exists_eq_add_one_of_ne_zero (by rintro rfl; simp at enough)
    have enough : rest.length ≤ fuel := Nat.le_of_succ_le_succ enough
    simp only [List.head?_cons, Option.map_some, iterate, getElem?_of_split split, Option.bind_some, walk]
    rcases body k v acc with ⟨_ | new, acc⟩
    case none =>
      have erased := toList_erase_of_split split
      dsimp only
      rw [next_of_split erased passed more]
      exact ih acc erased enough
    case some =>
      have inserted := toList_insert_of_split split new
      rw [List.append_cons] at inserted
      have passed : ∀ entry ∈ before ++ [(k, new)], cmp k entry.1 ≠ .lt := by
        intro entry member
        rcases List.mem_append.1 member with old | here
        · exact passed entry old
        · rw [List.mem_singleton.1 here]
          exact fun less => Std.OrientedCmp.not_lt_of_lt less less
      obtain ⟨m', run, list⟩ := ih acc inserted enough
      refine ⟨m', ?_, ?_⟩
      · dsimp only
        rw [next_of_split inserted passed more]
        exact run
      · rw [list, List.append_assoc]
        rfl

theorem loop_eq (m : ExtTreeMap K V cmp) (acc : σ) :
    ∃ m', loop body m acc = some (m', (walk body m.toList acc).2) ∧ m'.toList = (walk body m.toList acc).1 := by
  obtain ⟨m', run, list⟩ := iterate_eq body acc (List.nil_append m.toList).symm ExtTreeMap.length_toList.le
  refine ⟨m', ?_, list⟩
  rw [loop, begin, ← ExtTreeMap.map_fst_toList_eq_keys, List.head?_map]
  exact run

variable {body}

/-- The body looks at its own entry only. -/
theorem walk_eq {edit : K → V → Option V} {note : K → V → σ → σ}
    (edits : ∀ k v acc, body k v acc = (edit k v, note k v acc)) (l : List (K × V)) (acc : σ) :
    walk body l acc = (l.filterMap fun entry => (edit entry.1 entry.2).map (entry.1, ·),
      l.foldl (fun acc entry => note entry.1 entry.2 acc) acc) := by
  induction l generalizing acc with
  | nil => rfl
  | cons entry l ih =>
    obtain ⟨k, v⟩ := entry
    simp only [walk, edits, ih, List.filterMap_cons, List.foldl_cons]
    cases edit k v <;> rfl

theorem loop_eq_filterMap {edit : K → V → Option V} {note : K → V → σ → σ}
    (edits : ∀ k v acc, body k v acc = (edit k v, note k v acc)) (m : ExtTreeMap K V cmp) (acc : σ) :
    loop body m acc = some (m.filterMap edit, m.toList.foldl (fun acc entry => note entry.1 entry.2 acc) acc) := by
  obtain ⟨m', run, list⟩ := loop_eq body m acc
  rw [walk_eq edits] at run list
  have same : m' = m.filterMap edit := ExtTreeMap.toList_inj.1 (list.trans ExtTreeMap.toList_filterMap.symm)
  rw [run, same]

end Loop

end MapLoop
