import Mathlib.Data.List.Basic

/-!
# UTF-16

A character is one code unit, or a high and a low surrogate. `decode` rejects a surrogate without its
partner. It inverts `encode`, and what it accepts is the encoding of what it yields.

`convert` writes the characters in UTF-8 and fails where they do not fit; three bytes for each code unit are
enough.
-/

namespace Utf16

/-- The first unit of a pair. -/
def IsHigh (u : UInt16) : Prop := 0xD800 ≤ u.toNat ∧ u.toNat < 0xDC00

/-- The second unit of a pair. -/
def IsLow (u : UInt16) : Prop := 0xDC00 ≤ u.toNat ∧ u.toNat < 0xE000

instance : DecidablePred IsHigh := fun _ => inferInstanceAs (Decidable (_ ∧ _))

instance : DecidablePred IsLow := fun _ => inferInstanceAs (Decidable (_ ∧ _))

/-- The units of a character: one in the basic plane, a pair beyond it. -/
def units (c : Char) : List UInt16 :=
  if c.toNat < 0x10000 then [.ofNat c.toNat]
  else [.ofNat (0xD800 + (c.toNat - 0x10000) / 0x400), .ofNat (0xDC00 + (c.toNat - 0x10000) % 0x400)]

def encode (text : List Char) : List UInt16 := text.flatMap units

/-- The character of a unit by itself. -/
def single (u : UInt16) : Char := .ofNat u.toNat

/-- The character of a high and a low surrogate. -/
def pair (high low : UInt16) : Char := .ofNat (0x10000 + (high.toNat - 0xD800) * 0x400 + (low.toNat - 0xDC00))

/-- The text of a list of units, if no surrogate is without its partner. -/
def decode : List UInt16 → Option (List Char)
  | [] => some []
  | [u] => if IsHigh u ∨ IsLow u then none else some [single u]
  | u :: v :: rest =>
    if IsHigh u then
      if IsLow v then (decode rest).map (pair u v :: ·) else none
    else if IsLow u then none
    else (decode (v :: rest)).map (single u :: ·)

/-! ## Characters and their units -/

theorem toNat_ofNat {n : Nat} (valid : n.isValidChar) : (Char.ofNat n).toNat = n := by
  rw [Char.ofNat, dif_pos valid]
  rfl

theorem toNat_valid (c : Char) : c.toNat < 0xD800 ∨ 0xDFFF < c.toNat ∧ c.toNat < 0x110000 := c.valid

/-- A unit that is no surrogate is the encoding of its character. -/
theorem units_single {u : UInt16} (notHigh : ¬ IsHigh u) (notLow : ¬ IsLow u) : units (single u) = [u] := by
  have small := u.toNat_lt
  have valid : u.toNat.isValidChar := by
    simp only [IsHigh, IsLow] at notHigh notLow
    unfold Nat.isValidChar
    omega
  rw [units, single, toNat_ofNat valid, if_pos small, UInt16.ofNat_toNat]

/-- So is a pair. -/
theorem units_pair {u v : UInt16} (high : IsHigh u) (low : IsLow v) : units (pair u v) = [u, v] := by
  obtain ⟨high, high'⟩ := high
  obtain ⟨low, low'⟩ := low
  have valid : (0x10000 + (u.toNat - 0xD800) * 0x400 + (v.toNat - 0xDC00)).isValidChar := by
    unfold Nat.isValidChar
    omega
  rw [units, pair, toNat_ofNat valid, if_neg (by omega)]
  have first : UInt16.ofNat (0xD800 + (0x10000 + (u.toNat - 0xD800) * 0x400 + (v.toNat - 0xDC00) - 0x10000) / 0x400) =
      u := by
    apply UInt16.toNat_inj.1
    rw [UInt16.toNat_ofNat']
    omega
  have second : UInt16.ofNat (0xDC00 + (0x10000 + (u.toNat - 0xD800) * 0x400 + (v.toNat - 0xDC00) - 0x10000) % 0x400) =
      v := by
    apply UInt16.toNat_inj.1
    rw [UInt16.toNat_ofNat']
    omega
  rw [first, second]

/-- A character has one unit that is no surrogate, or a pair. -/
theorem units_cases (c : Char) :
    (∃ u, units c = [u] ∧ ¬ IsHigh u ∧ ¬ IsLow u ∧ single u = c) ∨
      ∃ u v, units c = [u, v] ∧ IsHigh u ∧ IsLow v ∧ pair u v = c := by
  have valid := toNat_valid c
  by_cases small : c.toNat < 0x10000
  · have value : (UInt16.ofNat c.toNat).toNat = c.toNat := by
      rw [UInt16.toNat_ofNat']
      omega
    refine .inl ⟨.ofNat c.toNat, if_pos small, ?_, ?_, ?_⟩
    · unfold IsHigh
      omega
    · unfold IsLow
      omega
    · rw [single, value, Char.ofNat_toNat]
  · have high : (UInt16.ofNat (0xD800 + (c.toNat - 0x10000) / 0x400)).toNat =
        0xD800 + (c.toNat - 0x10000) / 0x400 := by
      rw [UInt16.toNat_ofNat']
      omega
    have low : (UInt16.ofNat (0xDC00 + (c.toNat - 0x10000) % 0x400)).toNat =
        0xDC00 + (c.toNat - 0x10000) % 0x400 := by
      rw [UInt16.toNat_ofNat']
      omega
    refine .inr ⟨_, _, if_neg small, ?_, ?_, ?_⟩
    · unfold IsHigh
      omega
    · unfold IsLow
      omega
    · have whole : 0x10000 + (0xD800 + (c.toNat - 0x10000) / 0x400 - 0xD800) * 0x400 +
          (0xDC00 + (c.toNat - 0x10000) % 0x400 - 0xDC00) = c.toNat := by omega
      rw [pair, high, low, whole, Char.ofNat_toNat]

/-! ## Round trips -/

theorem decode_single {u : UInt16} (notHigh : ¬ IsHigh u) (notLow : ¬ IsLow u) (us : List UInt16) :
    decode (u :: us) = (decode us).map (single u :: ·) := by
  cases us with
  | nil => simp [decode, notHigh, notLow]
  | cons v rest => rw [decode, if_neg notHigh, if_neg notLow]

theorem decode_pair {u v : UInt16} (high : IsHigh u) (low : IsLow v) (us : List UInt16) :
    decode (u :: v :: us) = (decode us).map (pair u v :: ·) := by
  rw [decode, if_pos high, if_pos low]

/-- The units of a character are read as that character, whatever follows. -/
theorem decode_units (c : Char) (us : List UInt16) : decode (units c ++ us) = (decode us).map (c :: ·) := by
  rcases units_cases c with ⟨u, eq, notHigh, notLow, rfl⟩ | ⟨u, v, eq, high, low, rfl⟩
  · rw [eq]
    exact decode_single notHigh notLow us
  · rw [eq]
    exact decode_pair high low us

/-- What is encoded is decoded as what it was. -/
theorem decode_encode : ∀ text : List Char, decode (encode text) = some text
  | [] => rfl
  | c :: text => by
    rw [encode, List.flatMap_cons, decode_units, ← encode, decode_encode text, Option.map_some]

/-- What is accepted is the encoding of what it is decoded as. -/
theorem encode_decode : ∀ {us : List UInt16} {text : List Char}, decode us = some text → encode text = us
  | [], _, decoded => by
    cases decoded
    rfl
  | [u], _, decoded => by
    obtain ⟨plain, text⟩ := Option.ite_none_left_eq_some.1 decoded
    cases text
    rw [not_or] at plain
    exact (List.flatMap_singleton ..).trans (units_single plain.1 plain.2)
  | u :: v :: rest, text, decoded => by
    by_cases high : IsHigh u
    · by_cases low : IsLow v
      · rw [decode_pair high low, Option.map_eq_some_iff] at decoded
        obtain ⟨others, decoded, rfl⟩ := decoded
        rw [encode, List.flatMap_cons, units_pair high low, ← encode, encode_decode decoded]
        rfl
      · rw [decode, if_pos high, if_neg low] at decoded
        cases decoded
    · by_cases low : IsLow u
      · rw [decode, if_neg high, if_pos low] at decoded
        cases decoded
      · rw [decode_single high low, Option.map_eq_some_iff] at decoded
        obtain ⟨others, decoded, rfl⟩ := decoded
        rw [encode, List.flatMap_cons, units_single high low, ← encode, encode_decode decoded]
        rfl

/-! ## Conversion to UTF-8 -/

/-- A character is written if it fits into the room that is left. -/
def emit (room : Nat) (c : Char) (rest : Nat → Option (List Char)) : Option (List Char) :=
  if c.utf8Size ≤ room then (rest (room - c.utf8Size)).map (c :: ·) else none

/-- `decode` with a bound on the bytes that the text takes in UTF-8. -/
def convert : List UInt16 → Nat → Option (List Char)
  | [], _ => some []
  | [u], room => if IsHigh u ∨ IsLow u then none else emit room (single u) fun _ => some []
  | u :: v :: rest, room =>
    if IsHigh u then
      if IsLow v then emit room (pair u v) (convert rest) else none
    else if IsLow u then none
    else emit room (single u) (convert (v :: rest))

/-- A character of the basic plane takes three bytes at most. -/
theorem utf8Size_single (u : UInt16) : (single u).utf8Size ≤ 3 := by
  have small : (single u).toNat < 0x10000 := by
    by_cases valid : u.toNat.isValidChar
    · rw [single, toNat_ofNat valid]
      exact u.toNat_lt
    · rw [single, Char.ofNat, dif_neg valid]
      decide
  have value : (single u).val ≤ 0xFFFF := UInt32.le_iff_toNat_le.2 (Nat.le_of_lt_succ small)
  unfold Char.utf8Size
  dsimp only
  split_ifs with one two three
  · decide
  · decide
  · decide
  · exact absurd value three

theorem emit_of_le {room : Nat} {c : Char} {rest : Nat → Option (List Char)} {text : Option (List Char)}
    (fits : c.utf8Size ≤ room) (same : rest (room - c.utf8Size) = text) :
    emit room c rest = text.map (c :: ·) := by
  rw [emit, if_pos fits, same]

/-- Three bytes for each unit are enough. -/
theorem convert_eq_decode : ∀ {us : List UInt16} {room : Nat}, 3 * us.length ≤ room → convert us room = decode us
  | [], _, _ => rfl
  | [u], room, enough => by
    have small := utf8Size_single u
    rw [List.length_singleton] at enough
    exact if_congr Iff.rfl rfl (emit_of_le (by omega) rfl)
  | u :: v :: rest, room, enough => by
    have small := utf8Size_single u
    have four := Char.utf8Size_le_four (pair u v)
    simp only [List.length_cons] at enough
    refine if_congr Iff.rfl (if_congr Iff.rfl ?_ rfl) (if_congr Iff.rfl rfl ?_)
    · exact emit_of_le (by omega) (convert_eq_decode (by omega))
    · exact emit_of_le (by omega) (convert_eq_decode (by simp only [List.length_cons]; omega))

end Utf16
