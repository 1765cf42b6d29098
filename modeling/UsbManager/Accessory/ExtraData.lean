import Mathlib.Algebra.Group.Int.Defs
import Mathlib.Algebra.Group.Nat.Defs
import UsbManager.Accessory.Manager
import UsbManager.Lib.Base64

/-!
# The extra data of an accessory

The sixth string of the accessory is base64 text, and `Base64Decode` turns it into the bytes of the
broadcast. It collects four characters in one small array, combines them in another, and starts again; the
last, incomplete group is filled with the byte that `npos` becomes. The index of a stored character is
checked against its array here, and the two `int` counters against their range: `none` stands for an
access outside an array and for a signed overflow.
-/

namespace UsbManager.Accessory

abbrev Bytes := List UInt8

/-! ## The decoder -/

def base64Chars : Bytes :=
  ['A', 'B', 'C', 'D', 'E', 'F', 'G', 'H', 'I', 'J', 'K', 'L', 'M', 'N', 'O', 'P', 'Q', 'R', 'S', 'T', 'U', 'V', 'W',
    'X', 'Y', 'Z', 'a', 'b', 'c', 'd', 'e', 'f', 'g', 'h', 'i', 'j', 'k', 'l', 'm', 'n', 'o', 'p', 'q', 'r', 's', 't',
    'u', 'v', 'w', 'x', 'y', 'z', '0', '1', '2', '3', '4', '5', '6', '7', '8', '9', '+', '/'].map Char.toUInt8

/-- `std::string::npos`. -/
def npos : Nat := 2 ^ 64 - 1

/-- `BASE_64_CHARS.find(c)`, as the `unsigned char` that it is stored as. -/
def findChar (c : UInt8) : UInt8 := .ofNat ((base64Chars.idxOf? c).getD npos)

/-- `isalnum` in the locale "C". -/
def isalnum (c : UInt8) : Bool :=
  (48 ≤ c && c ≤ 57) || (65 ≤ c && c ≤ 90) || (97 ≤ c && c ≤ 122)

def isBase64 (c : UInt8) : Bool := isalnum c || c == 43 || c == 47

/-- An assignment to an element of an array. -/
def assign (array : Bytes) (i : Nat) (c : UInt8) : Option Bytes :=
  if i < array.length then some (array.set i c) else none

structure Decoding where
  i : Nat
  charArray3 : Bytes
  charArray4 : Bytes
  decodedData : Bytes
  deriving DecidableEq, Repr

def findElement (charArray4 : Bytes) (i : Nat) : Option Bytes := do
  let c ← charArray4[i]?
  assign charArray4 i (findChar c)

def firstByte (first second : UInt8) : UInt8 := .ofNat ((first.toNat <<< 2) + ((second.toNat &&& 0x30) >>> 4))

def secondByte (second third : UInt8) : UInt8 :=
  .ofNat (((second.toNat &&& 0xf) <<< 4) + ((third.toNat &&& 0x3c) >>> 2))

def thirdByte (third forth : UInt8) : UInt8 := .ofNat (((third.toNat &&& 0x3) <<< 6) + forth.toNat)

/-- The three assignments to `charArray3`. The operands are promoted to `int`, the sums are cut to a byte. -/
def combine (charArray3 charArray4 : Bytes) : Option Bytes := do
  let first ← charArray4[0]?
  let second ← charArray4[1]?
  let third ← charArray4[2]?
  let forth ← charArray4[3]?
  let charArray3 ← assign charArray3 0 (firstByte first second)
  let charArray3 ← assign charArray3 1 (secondByte second third)
  assign charArray3 2 (thirdByte third forth)

def push (charArray3 decodedData : Bytes) (i : Nat) : Option Bytes := do
  let c ← charArray3[i]?
  some (decodedData ++ [c])

/-- One character of the text. -/
def Decoding.collect (d : Decoding) (c : UInt8) : Option Decoding := do
  let charArray4 ← assign d.charArray4 d.i c
  if d.i + 1 = 4 then
    let charArray4 ← (List.range 4).foldlM findElement charArray4
    let charArray3 ← combine d.charArray3 charArray4
    let decodedData ← (List.range 3).foldlM (push charArray3) d.decodedData
    some { i := 0, charArray3, charArray4, decodedData }
  else some { d with i := d.i + 1, charArray4 }

def intMin : Int := -2 ^ 31
def intMax : Int := 2 ^ 31 - 1

/-- The loop goes on at this character: it is not `=`, and it is a character of base64. -/
def inAlphabet (c : UInt8) : Bool := c ≠ 61 && isBase64 c

/-- The loop over the text. `text` starts at `index`, and behind it `operator[]` finds the NUL. -/
def collectAll (text : Bytes) (len index : Int) (d : Decoding) : Option Decoding :=
  if len = 0 then some d
  else if len = intMin then none
  else
    match text with
    | [] => some d
    | c :: text =>
      if inAlphabet c then do
        let d ← d.collect c
        if index = intMax then none else collectAll text (len - 1) (index + 1) d
      else some d

def Decoding.finish (d : Decoding) : Option Bytes :=
  if d.i ≠ 0 then do
    let charArray4 ← (List.range' d.i (4 - d.i)).foldlM (fun array j => assign array j 0) d.charArray4
    let charArray4 ← (List.range 4).foldlM findElement charArray4
    let charArray3 ← combine d.charArray3 charArray4
    (List.range (d.i - 1)).foldlM (push charArray3) d.decodedData
  else some d.decodedData

/-- The two work arrays as they are found on the stack. -/
structure WorkArrays where
  charArray3 : Bytes
  charArray4 : Bytes
  size3 : charArray3.length = 3
  size4 : charArray4.length = 4

/-- `static_cast<int>` of a size. -/
def toInt (size : Nat) : Int := (size : Int).bmod (2 ^ 32)

def WorkArrays.start (stack : WorkArrays) : Decoding :=
  { i := 0, charArray3 := stack.charArray3, charArray4 := stack.charArray4, decodedData := [] }

def base64Decode (stack : WorkArrays) (basicString : Bytes) : Option Bytes := do
  let d ← collectAll basicString (toInt basicString.length) 0 stack.start
  d.finish

/-! ## The alphabet -/

open Base64

/-- The text ends, or goes on with a character that ends the loop. -/
def Stops (text : Bytes) : Prop := ∀ c ∈ text.head?, isChar c = false

theorem findChar_alphabet (v : Fin 64) : (findChar (alphabet v)).toNat = v.val := by
  revert v
  decide

theorem inAlphabet_alphabet (v : Fin 64) : inAlphabet (alphabet v) = true := by
  revert v
  decide

/-- The group of six bits that a character stands for. -/
def sextetOf (c : UInt8) : Fin 64 := ⟨(findChar c).toNat % 64, Nat.mod_lt _ (by decide)⟩

theorem alphabet_sextetOf {c : UInt8} (inside : inAlphabet c = true) : alphabet (sextetOf c) = c := by
  have all : ∀ n : Fin 256, inAlphabet (.ofNat n) = true → alphabet (sextetOf (.ofNat n)) = .ofNat n := by
    decide +kernel
  have own := all ⟨c.toNat, c.toNat_lt⟩
  rw [UInt8.ofNat_toNat] at own
  exact own inside

/-- The test of the loop is the standard alphabet. -/
theorem inAlphabet_eq (c : UInt8) : inAlphabet c = isChar c := by
  rw [Bool.eq_iff_iff, isChar, decide_eq_true_eq]
  constructor
  · intro inside
    exact ⟨sextetOf c, alphabet_sextetOf inside⟩
  · rintro ⟨v, rfl⟩
    exact inAlphabet_alphabet v

/-! ## A group of four -/

section Combine

variable (v w x y : Fin 64)

theorem mask_first : (w.val &&& 0x30) >>> 4 = w.val / 16 := by
  revert w
  decide

theorem mask_second : (w.val &&& 0xf) <<< 4 = w.val % 16 * 16 := by
  revert w
  decide

theorem mask_third : (x.val &&& 0x3c) >>> 2 = x.val / 4 := by
  revert x
  decide

theorem mask_forth : (x.val &&& 0x3) <<< 6 = x.val % 4 * 64 := by
  revert x
  decide

theorem firstByte_alphabet : firstByte (findChar (alphabet v)) (findChar (alphabet w)) = firstOctet v w := by
  rw [firstByte, findChar_alphabet, findChar_alphabet, mask_first, Nat.shiftLeft_eq, firstOctet]

theorem secondByte_alphabet : secondByte (findChar (alphabet w)) (findChar (alphabet x)) = secondOctet w x := by
  rw [secondByte, findChar_alphabet, findChar_alphabet, mask_second, mask_third, secondOctet]

theorem thirdByte_alphabet : thirdByte (findChar (alphabet x)) (findChar (alphabet y)) = thirdOctet x y := by
  rw [thirdByte, findChar_alphabet, findChar_alphabet, mask_forth, thirdOctet]

end Combine

/-- What the two loops over a full `charArray4` leave in the arrays. -/
theorem combine_found {charArray3 charArray4 : Bytes} (size3 : charArray3.length = 3) {a b c d : UInt8}
    (full : charArray4 = [a, b, c, d]) :
    (List.range 4).foldlM findElement charArray4 = some [findChar a, findChar b, findChar c, findChar d] ∧
      combine charArray3 [findChar a, findChar b, findChar c, findChar d] =
        some [firstByte (findChar a) (findChar b), secondByte (findChar b) (findChar c),
          thirdByte (findChar c) (findChar d)] := by
  obtain ⟨x, y, z, rfl⟩ := List.length_eq_three.1 size3
  rw [full]
  exact ⟨rfl, rfl⟩

/-- The bytes of the last round, once the array is filled. -/
theorem finish_filled {d : Decoding} {a b c e : UInt8} (left : d.i ≠ 0) (size3 : d.charArray3.length = 3)
    (filled : (List.range' d.i (4 - d.i)).foldlM (fun array j => assign array j 0) d.charArray4 = some [a, b, c, e]) :
    d.finish = (List.range (d.i - 1)).foldlM (push [firstByte (findChar a) (findChar b),
      secondByte (findChar b) (findChar c), thirdByte (findChar c) (findChar e)]) d.decodedData := by
  obtain ⟨found, combined⟩ := combine_found size3 (Eq.refl [a, b, c, e])
  simp only [Decoding.finish, if_pos left, filled, Option.bind_eq_bind, Option.bind_some, found, combined]

/-! ## Rounds -/

/-- `whole` are the groups of the rounds that are over, `pending` those of the characters stored since. -/
structure Collected (whole pending : List (Fin 64)) (d : Decoding) : Prop where
  rounds : 4 ∣ whole.length
  short : pending.length < 4
  count : d.i = pending.length
  size3 : d.charArray3.length = 3
  size4 : d.charArray4.length = 4
  stored : d.charArray4.take d.i = pending.map alphabet
  decoded : d.decodedData = octets whole

theorem octets_append {whole : List (Fin 64)} (rounds : 4 ∣ whole.length) (pending : List (Fin 64)) :
    octets (whole ++ pending) = octets whole ++ octets pending := by
  induction whole using octets.induct with
  | case1 v w x y rest ih =>
    have fewer : 4 ∣ rest.length := by
      simp only [List.length_cons] at rounds
      omega
    simp [octets, ih fewer]
  | case2 v w x => simp at rounds
  | case3 v w => simp at rounds
  | case4 v => simp at rounds
  | case5 => rfl

section Step

variable {whole pending : List (Fin 64)} {d : Decoding}

/-- A stored character waits, or the fourth one ends a round. -/
theorem Collected.step (held : Collected whole pending d) (v : Fin 64) :
    ∃ d' whole' pending', d.collect (alphabet v) = some d' ∧ whole' ++ pending' = whole ++ pending ++ [v] ∧
      Collected whole' pending' d' := by
  obtain ⟨rounds, short, count, size3, size4, stored, decoded⟩ := held
  have within : d.i < d.charArray4.length := by omega
  have assigned : assign d.charArray4 d.i (alphabet v) = some (d.charArray4.set d.i (alphabet v)) := if_pos within
  by_cases last : d.i + 1 = 4
  · obtain ⟨a, b, c, three⟩ := List.length_eq_three.1 (show pending.length = 3 by omega)
    have full : d.charArray4.set d.i (alphabet v) = [alphabet a, alphabet b, alphabet c, alphabet v] := by
      have third : d.i = 3 := by omega
      rw [three, third] at stored
      rw [List.set_eq_take_append_cons_drop, if_pos within, third, stored, List.drop_eq_nil_of_le (by omega)]
      rfl
    obtain ⟨found, combined⟩ := combine_found size3 full
    rw [firstByte_alphabet, secondByte_alphabet, thirdByte_alphabet] at combined
    let d' : Decoding :=
      { i := 0
        charArray3 := [firstOctet a b, secondOctet b c, thirdOctet c v]
        charArray4 := [findChar (alphabet a), findChar (alphabet b), findChar (alphabet c), findChar (alphabet v)]
        decodedData := d.decodedData ++ [firstOctet a b] ++ [secondOctet b c] ++ [thirdOctet c v] }
    refine ⟨d', whole ++ pending ++ [v], [], ?_, List.append_nil _, ?_, by simp, rfl, rfl, rfl, rfl, ?_⟩
    · simp only [Decoding.collect, assigned, Option.bind_eq_bind, Option.bind_some, if_pos last, found, combined]
      rfl
    · rw [three]
      simp only [List.length_append, List.length_cons, List.length_nil]
      omega
    · rw [List.append_assoc, octets_append rounds, three, ← decoded]
      simp [d', octets]
  · refine ⟨{ d with i := d.i + 1, charArray4 := d.charArray4.set d.i (alphabet v) }, whole, pending ++ [v], ?_,
      (List.append_assoc ..).symm, rounds, ?_, ?_, size3, ?_, ?_, decoded⟩
    · simp only [Decoding.collect, assigned, Option.bind_eq_bind, Option.bind_some, if_neg last]
    · simp only [List.length_append, List.length_singleton]
      omega
    · simp [count]
    · simpa using size4
    · rw [List.map_append, ← stored, List.map_singleton]
      simp only
      rw [List.take_add_one, List.take_set_of_le (Nat.le_refl _), List.getElem?_set_self within]
      rfl

/-- The last round gives the whole octets of what is pending. -/
theorem Collected.finished (held : Collected whole pending d) : d.finish = some (octets (whole ++ pending)) := by
  obtain ⟨rounds, short, count, size3, size4, stored, decoded⟩ := held
  obtain ⟨p, q, r, s, four⟩ : ∃ p q r s, d.charArray4 = [p, q, r, s] := by
    match array : d.charArray4, size4 with
    | [p, q, r, s], _ => exact ⟨p, q, r, s, rfl⟩
  rw [octets_append rounds, ← decoded]
  rw [four] at stored
  match pending, count, short with
  | [], count, _ =>
    simp [Decoding.finish, count, octets]
  | [v], count, _ =>
    rw [count] at stored
    obtain rfl : p = alphabet v := by simpa using stored
    have filled : (List.range' d.i (4 - d.i)).foldlM (fun array j => assign array j 0) d.charArray4 =
        some [alphabet v, 0, 0, 0] := by
      rw [count, four]
      rfl
    rw [finish_filled (by simp [count]) size3 filled, count, octets, List.append_nil]
    rfl
  | [v, w], count, _ =>
    rw [count] at stored
    obtain ⟨rfl, rfl⟩ : p = alphabet v ∧ q = alphabet w := by simpa using stored
    have filled : (List.range' d.i (4 - d.i)).foldlM (fun array j => assign array j 0) d.charArray4 =
        some [alphabet v, alphabet w, 0, 0] := by
      rw [count, four]
      rfl
    rw [finish_filled (by simp [count]) size3 filled, count, firstByte_alphabet]
    rfl
  | [v, w, x], count, _ =>
    rw [count] at stored
    obtain ⟨rfl, rfl, rfl⟩ : p = alphabet v ∧ q = alphabet w ∧ r = alphabet x := by simpa using stored
    have filled : (List.range' d.i (4 - d.i)).foldlM (fun array j => assign array j 0) d.charArray4 =
        some [alphabet v, alphabet w, alphabet x, 0] := by
      rw [count, four]
      rfl
    rw [finish_filled (by simp [count]) size3 filled, count, firstByte_alphabet, secondByte_alphabet]
    exact congrArg some (List.append_assoc ..)

end Step

/-! ## The text -/

/-- The loop collects the characters of the alphabet that the text begins with, and ends behind them, because
the count is used up or because of the character that follows. -/
theorem collectAll_eq {groups : List (Fin 64)} {rest : Bytes} {len index : Int} (enough : groups.length ≤ len)
    (ends : len = groups.length ∨ Stops rest) (indexed : 0 ≤ index) (bound : index + len < 2 ^ 31)
    {whole pending : List (Fin 64)} {d : Decoding} (held : Collected whole pending d) :
    ∃ d' whole' pending', collectAll (groups.map alphabet ++ rest) len index d = some d' ∧
      whole' ++ pending' = whole ++ pending ++ groups ∧ Collected whole' pending' d' := by
  induction groups generalizing len index whole pending d with
  | nil =>
    refine ⟨d, whole, pending, ?_, (List.append_nil _).symm, held⟩
    have noOverflow : len ≠ intMin := by
      simp only [List.length_nil, intMin] at enough ⊢
      omega
    rw [List.map_nil, List.nil_append]
    by_cases used : len = 0
    · rw [collectAll.eq_def, if_pos used]
    · have stops := ends.resolve_left (by simpa using used)
      cases rest with
      | nil => rw [collectAll, if_neg used, if_neg noOverflow]
      | cons c rest =>
        rw [collectAll, if_neg used, if_neg noOverflow]
        exact if_neg (by simp [inAlphabet_eq, stops c rfl])
  | cons v groups ih =>
    obtain ⟨next, whole', pending', collected, order, held'⟩ := held.step v
    have positive : len ≠ 0 ∧ len ≠ intMin := by
      simp only [List.length_cons, intMin] at enough ⊢
      omega
    have noOverflow : index ≠ intMax := by
      simp only [List.length_cons, intMax] at enough ⊢
      omega
    have left : (groups.length : Int) ≤ len - 1 := by
      simp only [List.length_cons] at enough
      omega
    have ends' : len - 1 = groups.length ∨ Stops rest := by
      refine ends.imp_left fun all => ?_
      simp only [List.length_cons] at all
      omega
    obtain ⟨d', wholeAll, pendingAll, collectedAll, orderAll, heldAll⟩ :=
      ih left ends' (show 0 ≤ index + 1 by omega) (by omega) held'
    refine ⟨d', wholeAll, pendingAll, ?_, ?_, heldAll⟩
    · rw [List.map_cons, List.cons_append, collectAll, if_neg positive.1, if_neg positive.2]
      simp only [if_pos (inAlphabet_alphabet v), collected, Option.bind_eq_bind, Option.bind_some, if_neg noOverflow]
      exact collectedAll
    · rw [orderAll, order]
      simp

/-- What a text decodes to, with the count `len` that its size becomes. -/
theorem base64Decode_eq {groups : List (Fin 64)} {rest : Bytes} (stack : WorkArrays)
    (enough : groups.length ≤ toInt (groups.map alphabet ++ rest).length)
    (ends : toInt (groups.map alphabet ++ rest).length = groups.length ∨ Stops rest)
    (bound : toInt (groups.map alphabet ++ rest).length < 2 ^ 31) :
    base64Decode stack (groups.map alphabet ++ rest) = some (octets groups) := by
  have start : Collected [] [] stack.start :=
    ⟨by simp, by simp, rfl, stack.size3, stack.size4, rfl, rfl⟩
  obtain ⟨d, whole, pending, collected, order, held⟩ :=
    collectAll_eq enough ends (Int.le_refl 0) (by omega) start
  rw [base64Decode, collected]
  simp only [Option.bind_eq_bind, Option.bind_some]
  rw [held.finished, order]
  simp

theorem toInt_of_lt {size : Nat} (bound : size < 2 ^ 31) : toInt size = size := by
  exact Int.bmod_eq_of_le (by omega) (by omega)

/-- A text that the count can hold. -/
theorem base64Decode_short {groups : List (Fin 64)} {rest : Bytes} (stack : WorkArrays) (stops : Stops rest)
    (bound : (groups.map alphabet ++ rest).length < 2 ^ 31) :
    base64Decode stack (groups.map alphabet ++ rest) = some (octets groups) := by
  have count := toInt_of_lt bound
  have enough : groups.length ≤ (groups.map alphabet ++ rest).length := by simp
  exact base64Decode_eq stack (by omega) (.inr stops) (by omega)

/-- The leading characters are those of some groups. -/
theorem leading_eq (text : Bytes) :
    ∃ (groups : List (Fin 64)) (rest : Bytes),
      text = groups.map alphabet ++ rest ∧ leading text = groups.map alphabet ∧ Stops rest := by
  have own : ((leading text).map sextetOf).map alphabet = leading text := by
    rw [List.map_map]
    refine (List.map_congr_left fun c member => ?_).trans (List.map_id _)
    have inside : isChar c = true := List.all_eq_true.1 List.all_takeWhile c member
    rw [← inAlphabet_eq] at inside
    exact alphabet_sextetOf inside
  refine ⟨(leading text).map sextetOf, text.dropWhile isChar, ?_, own.symm, ?_⟩
  · rw [own]
    exact List.takeWhile_append_dropWhile.symm
  · intro c first
    have ended := List.head?_dropWhile_not isChar text
    rw [Option.mem_def.1 first] at ended
    simpa using ended

/-- What is said of a decoder, whatever is in its arrays; `limit` are the texts for which it reads the encoded
bytes back. -/
structure Decodes (limit : Bytes → Prop) (decode : WorkArrays → Bytes → Option Bytes) : Prop where
  standard : ∀ stack bytes sign text, sign = [] ∨ sign = padding bytes → Stops (sign ++ text) →
    limit (encode bytes ++ sign ++ text) → decode stack (encode bytes ++ sign ++ text) = some bytes
  prefixes : ∀ stack other text, text.length < 2 ^ 31 → decode stack text = decode other (leading text)
  inside : ∀ stack text, text.length < 2 ^ 31 →
    ∃ bytes, decode stack text = some bytes ∧ bytes.length = 3 * (leading text).length / 4

/-- `Base64Decode` reads back what a standard encoder wrote and stays inside its arrays, for the texts whose
size is an `int`. -/
theorem base64_decodes : Decodes (fun text => text.length < 2 ^ 31) base64Decode := by
  constructor
  case standard =>
    intro stack bytes sign text _ stops bound
    rw [List.append_assoc] at bound ⊢
    rw [encode, base64Decode_short stack stops bound, octets_sextets]
  case prefixes =>
    intro stack other text bound
    obtain ⟨groups, rest, rfl, whole, stops⟩ := leading_eq text
    have shorter : (groups.map alphabet ++ []).length < 2 ^ 31 := by
      simp only [List.length_append, List.length_nil] at bound ⊢
      omega
    have own := base64Decode_short other (show Stops [] by simp [Stops]) shorter
    rw [List.append_nil] at own
    rw [base64Decode_short stack stops bound, whole, own]
  case inside =>
    intro stack text bound
    obtain ⟨groups, rest, rfl, whole, stops⟩ := leading_eq text
    refine ⟨_, base64Decode_short stack stops bound, ?_⟩
    rw [length_octets, whole, List.length_map]

/-- The arrays before the first store. -/
def zeroArrays (size : Nat) (three : size = 3) : WorkArrays :=
  ⟨List.replicate size 0, List.replicate (size + 1) 0, by simpa using three, by simpa using three⟩

/-- A text of 2^32 + 4 characters is counted as one of four. -/
theorem base64_decodes_unlimited :
    base64Decode (zeroArrays 3 rfl) (encode (List.replicate (3 * 2 ^ 30 + 3) 0)) = some [0, 0, 0] ∧
      ¬ Decodes (fun _ => True) base64Decode := by
  obtain ⟨many, manyEq⟩ : ∃ many : Nat, many = 3 * 2 ^ 30 := ⟨_, rfl⟩
  rw [← manyEq]
  have groups : encode (List.replicate (many + 3) 0) =
      [0, 0, 0, 0].map alphabet ++ encode (List.replicate many 0) := rfl
  have size : (encode (List.replicate (many + 3) 0)).length = 2 ^ 32 + 4 := by
    rw [encode, List.length_map, length_sextets, List.length_replicate]
    omega
  have count : toInt (encode (List.replicate (many + 3) 0)).length = 4 := by
    rw [size]
    decide
  have decoded : base64Decode (zeroArrays 3 rfl) (encode (List.replicate (many + 3) 0)) = some [0, 0, 0] := by
    rw [groups] at count ⊢
    exact base64Decode_eq _ (by rw [count]; decide) (.inl (by rw [count]; rfl)) (by rw [count]; decide)
  refine ⟨decoded, fun all => ?_⟩
  have whole := all.standard (zeroArrays 3 rfl) (List.replicate (many + 3) 0) [] [] (.inl rfl) (by simp [Stops]) trivial
  rw [List.append_nil, List.append_nil, decoded] at whole
  have lengths := congrArg List.length (Option.some.inj whole)
  rw [List.length_replicate] at lengths
  simp only [List.length_cons, List.length_nil] at lengths
  omega

end UsbManager.Accessory
