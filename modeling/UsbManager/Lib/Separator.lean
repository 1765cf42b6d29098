import Mathlib.Data.List.Basic

/-!
# Names joined by a separator

A list cut at its first separator determines both parts, and decimal numerals contain no
`'-'`. From these two facts every name of the form `"a-b-…"` over decimal numerals
determines its components, and so does every prefix of it that ends in a separator.
-/

namespace Separator

variable {α : Type}

/-- The part before the first separator and the part after it are unique. -/
theorem append_cons_inj {x : α} {as bs cs ds : List α} (ha : x ∉ as) (hc : x ∉ cs) :
    as ++ x :: bs = cs ++ x :: ds ↔ as = cs ∧ bs = ds := by
  constructor
  · intro same
    induction as generalizing cs with
    | nil =>
      cases cs with
      | nil => simpa using same
      | cons c cs =>
        simp only [List.nil_append, List.cons_append, List.cons.injEq] at same
        exact absurd same.1 (by intro e; exact hc (by simp [e]))
    | cons a as ih =>
      cases cs with
      | nil =>
        simp only [List.nil_append, List.cons_append, List.cons.injEq] at same
        exact absurd same.1.symm (by intro e; exact ha (by simp [e]))
      | cons c cs =>
        simp only [List.cons_append, List.cons.injEq] at same
        obtain ⟨he, ht⟩ := ih (fun h => ha (by simp [h])) (fun h => hc (by simp [h])) same.2
        exact ⟨by rw [same.1, he], ht⟩
  · rintro ⟨rfl, rfl⟩
    rfl

/-- The same cut, for a prefix that reaches past the first separator. -/
theorem append_cons_prefix {x : α} {as bs cs ds : List α} (ha : x ∉ as) (hc : x ∉ cs) :
    as ++ x :: bs <+: cs ++ x :: ds ↔ as = cs ∧ bs <+: ds := by
  constructor
  · rintro ⟨rest, same⟩
    rw [List.append_assoc, List.cons_append] at same
    obtain ⟨he, ht⟩ := (append_cons_inj ha hc).1 same
    exact ⟨he, rest, ht⟩
  · rintro ⟨rfl, rest, rfl⟩
    exact ⟨rest, by simp⟩

theorem takeWhile_append_cons [DecidableEq α] {x : α} {as : List α} (plain : x ∉ as) (bs : List α) :
    (as ++ x :: bs).takeWhile (· ≠ x) = as := by
  rw [List.takeWhile_append_of_pos fun a member => decide_eq_true (ne_of_mem_of_not_mem member plain)]
  simp

theorem dropWhile_append_cons [DecidableEq α] {x : α} {as : List α} (plain : x ∉ as) (bs : List α) :
    (as ++ x :: bs).dropWhile (· ≠ x) = x :: bs := by
  rw [List.dropWhile_append_of_pos fun a member => decide_eq_true (ne_of_mem_of_not_mem member plain)]
  simp

/-- The characters of a decimal numeral. -/
def digits (n : Nat) : List Char := Nat.toDigits 10 n

theorem dash_notMem_digits (n : Nat) : '-' ∉ digits n := by
  intro member
  have digit := Nat.isDigit_of_mem_toDigits (by decide) (by decide) member
  exact absurd digit (by decide)

theorem digits_inj {m n : Nat} : digits m = digits n ↔ m = n := by
  constructor
  · intro same
    have value := congrArg (Nat.ofDigitChars 10 · 0) same
    simpa only [digits, Nat.ofDigitChars_ten_toDigits] using value
  · rintro rfl
    rfl

theorem toString_inj {m n : Nat} : toString m = toString n ↔ m = n := by
  rw [← String.toList_inj, ← digits_inj]
  simp [digits]

end Separator
