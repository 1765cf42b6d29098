import Mathlib.Data.List.Basic

/-!
# Toggles

A toggle is on or off, and setting it to what it is already does nothing. So its turns, in the order in
which they were made, alternate, and the first one turns it on.
-/

structure Toggle where
  isOn : Bool := false
  turns : List Bool := []
  deriving DecidableEq, Repr

namespace Toggle

variable {t : Toggle} (on : Bool)

def set (t : Toggle) (on : Bool) : Toggle :=
  if t.isOn = on then t else { isOn := on, turns := t.turns ++ [on] }

/-- The toggle is as its last turn left it. -/
structure Sound (t : Toggle) : Prop where
  alternate : ∀ i turn, t.turns[i]? = some turn → turn = decide (i % 2 = 0)
  isOn : t.isOn = decide (t.turns.length % 2 = 1)

theorem sound_start : ({} : Toggle).Sound where
  alternate _ _ none := nomatch none
  isOn := rfl

@[simp]
theorem set_isOn : (t.set on).isOn = on := by
  unfold set
  split
  · assumption
  · rfl

theorem Sound.set (sound : t.Sound) : (t.set on).Sound := by
  unfold Toggle.set
  split
  next => exact sound
  next other =>
    have parity : (t.turns.length + 1) % 2 = 1 ↔ t.turns.length % 2 = 0 := by omega
    have turned : on = decide (t.turns.length % 2 = 0) := by
      rw [Bool.eq_not.2 (Ne.symm other), sound.isOn, ← decide_not, decide_eq_decide]
      omega
    constructor
    case alternate =>
      intro i turn found
      rw [List.getElem?_append] at found
      split at found
      next => exact sound.alternate i turn found
      next past =>
        obtain ⟨here, rfl⟩ := List.getElem?_eq_some_iff.1 found
        have last : i = t.turns.length := by
          rw [List.length_singleton] at here
          omega
        subst last
        simpa using turned
    case isOn =>
      rw [List.length_append, List.length_singleton]
      exact turned.trans (decide_eq_decide.2 parity.symm)

end Toggle
