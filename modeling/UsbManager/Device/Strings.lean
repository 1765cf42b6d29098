import UsbManager.Device.Json
import UsbManager.Lib.Utf16

/-!
# String descriptors

A string descriptor has its length, its type and a text in UTF-16LE. `GetDevStringValFromIdx` converts the
text to UTF-8 and keeps it up to its first NUL; whatever it cannot convert becomes a blank.

A byte order mark is skipped by comparing a `char` with `0xFF`, which never holds where `char` is signed.
-/

namespace UsbManager

open Utf16

def descriptorTypeString : UInt8 := 3

def bytesPerUtf8Char : Nat := 4

/-- The code units of an array of bytes. -/
def codeUnits : List UInt8 → List UInt16
  | low :: high :: rest => .ofNat (low.toNat + 256 * high.toNat) :: codeUnits rest
  | _ => []

/-- `Utf16leToUtf8`, where `iconv_open` succeeds; it is not called with a null pointer. -/
def utf16leToUtf8 (charSigned : Bool) (utf16leBytes : List UInt8) : String :=
  if utf16leBytes.length % 2 ≠ 0 then " "
  else
    let bom := !charSigned && utf16leBytes.take 2 = [0xFF, 0xFE]
    let utf16leBytes := if bom then utf16leBytes.drop 2 else utf16leBytes
    let charCount := utf16leBytes.length / 2
    if charCount = 0 then " "
    else
      match convert (codeUnits utf16leBytes) (charCount * bytesPerUtf8Char + 1) with
      | none => " "
      | some text => cStr (.ofList text)

/-- What `GetDevStringValFromIdx` makes of the descriptor `strV`. -/
def stringOfDescriptor (charSigned : Bool) (strV : List UInt8) : String :=
  if strV.length < 2 ∨ strV[1]? ≠ some descriptorTypeString then " "
  else utf16leToUtf8 charSigned (strV.drop 2)

/-! ## Bytes and code units -/

def unitBytes (u : UInt16) : List UInt8 := [.ofNat u.toNat, .ofNat (u.toNat / 256)]

/-- A text in UTF-16LE. -/
def utf16leBytes (text : List Char) : List UInt8 := (encode text).flatMap unitBytes

theorem codeUnits_unitBytes (u : UInt16) (rest : List UInt8) :
    codeUnits (unitBytes u ++ rest) = u :: codeUnits rest := by
  have small := u.toNat_lt
  have whole : UInt16.ofNat ((UInt8.ofNat u.toNat).toNat + 256 * (UInt8.ofNat (u.toNat / 256)).toNat) = u := by
    apply UInt16.toNat_inj.1
    simp only [UInt16.toNat_ofNat', UInt8.toNat_ofNat']
    omega
  change UInt16.ofNat _ :: codeUnits rest = _
  rw [whole]

theorem codeUnits_flatMap : ∀ us : List UInt16, codeUnits (us.flatMap unitBytes) = us
  | [] => rfl
  | u :: us => by rw [List.flatMap_cons, codeUnits_unitBytes, codeUnits_flatMap us]

theorem unitBytes_codeUnits : ∀ bytes : List UInt8, bytes.length % 2 = 0 → (codeUnits bytes).flatMap unitBytes = bytes
  | [], _ => rfl
  | [_], odd => by simp at odd
  | low :: high :: rest, even => by
    have others := unitBytes_codeUnits rest (by simp only [List.length_cons] at even; omega)
    have lowSmall := low.toNat_lt
    have highSmall := high.toNat_lt
    have value : (UInt16.ofNat (low.toNat + 256 * high.toNat)).toNat = low.toNat + 256 * high.toNat := by
      rw [UInt16.toNat_ofNat']
      omega
    have first : UInt8.ofNat (low.toNat + 256 * high.toNat) = low := by
      apply UInt8.toNat_inj.1
      rw [UInt8.toNat_ofNat']
      omega
    have second : UInt8.ofNat ((low.toNat + 256 * high.toNat) / 256) = high := by
      apply UInt8.toNat_inj.1
      rw [UInt8.toNat_ofNat']
      omega
    rw [codeUnits, List.flatMap_cons, others, unitBytes, value, first, second]
    rfl

theorem length_flatMap_unitBytes : ∀ us : List UInt16, (us.flatMap unitBytes).length = 2 * us.length
  | [] => rfl
  | u :: us => by
    rw [List.flatMap_cons, List.length_append, length_flatMap_unitBytes us, List.length_cons, unitBytes,
      List.length_cons, List.length_singleton]
    omega

/-! ## The text of a descriptor -/

/-- Without a byte order mark, where the comparison finds it. -/
def unmarked (charSigned : Bool) (us : List UInt16) : List UInt16 :=
  if charSigned = false ∧ us.head? = some 0xFEFF then us.tail else us

/-- The conversion without a limit on what it writes. -/
def textOfUnits (us : List UInt16) : String :=
  if us = [] then " "
  else
    match decode us with
    | none => " "
    | some text => cStr (.ofList text)

theorem converted_eq (us : List UInt16) :
    (if (us.flatMap unitBytes).length / 2 = 0 then " "
      else
        match convert (codeUnits (us.flatMap unitBytes))
          ((us.flatMap unitBytes).length / 2 * bytesPerUtf8Char + 1) with
        | none => " "
        | some text => cStr (.ofList text)) = textOfUnits us := by
  have count : (us.flatMap unitBytes).length / 2 = us.length := by
    rw [length_flatMap_unitBytes]
    omega
  have enough : 3 * us.length ≤ us.length * bytesPerUtf8Char + 1 := by
    rw [bytesPerUtf8Char]
    omega
  rw [count, codeUnits_flatMap, convert_eq_decode enough, textOfUnits]
  exact if_congr List.length_eq_zero_iff rfl rfl

theorem marked_iff : ∀ us : List UInt16, (us.flatMap unitBytes).take 2 = [0xFF, 0xFE] ↔ us.head? = some 0xFEFF
  | [] => by simp
  | u :: us => by
    change unitBytes u = unitBytes 0xFEFF ↔ some u = some 0xFEFF
    rw [Option.some.injEq]
    refine ⟨fun same => ?_, congrArg unitBytes⟩
    have first := congrArg (fun bytes => codeUnits (bytes ++ [])) same
    simp only [codeUnits_unitBytes] at first
    exact (List.cons.inj first).1

/-- The buffer is large enough for every text. -/
theorem utf16leToUtf8_eq (charSigned : Bool) (us : List UInt16) :
    utf16leToUtf8 charSigned (us.flatMap unitBytes) = textOfUnits (unmarked charSigned us) := by
  have even : ¬ (us.flatMap unitBytes).length % 2 ≠ 0 := by
    rw [length_flatMap_unitBytes]
    omega
  have skipped : (if (!charSigned && decide ((us.flatMap unitBytes).take 2 = [0xFF, 0xFE])) = true then
      (us.flatMap unitBytes).drop 2 else us.flatMap unitBytes) = (unmarked charSigned us).flatMap unitBytes := by
    have marked : (!charSigned && decide ((us.flatMap unitBytes).take 2 = [0xFF, 0xFE])) = true ↔
        charSigned = false ∧ us.head? = some 0xFEFF := by
      rw [Bool.and_eq_true, decide_eq_true_iff, marked_iff, Bool.not_eq_true']
    unfold unmarked
    by_cases mark : charSigned = false ∧ us.head? = some 0xFEFF
    · rw [if_pos (marked.2 mark), if_pos mark]
      cases us <;> rfl
    · rw [if_neg (mt marked.1 mark), if_neg mark]
  rw [utf16leToUtf8, if_neg even]
  dsimp only
  rw [skipped]
  exact converted_eq _

/-- A text as it is shown. -/
def shownText (charSigned : Bool) (text : List Char) : String :=
  let text := if charSigned = false ∧ text.head? = some '\uFEFF' then text.tail else text
  if text = [] then " " else cStr (.ofList text)

theorem encode_cons_mark (text : List Char) : encode ('\uFEFF' :: text) = 0xFEFF :: encode text := rfl

theorem head_encode (text : List Char) : (encode text).head? = some 0xFEFF ↔ text.head? = some '\uFEFF' := by
  cases text with
  | nil => simp [encode]
  | cons c text =>
    rw [encode, List.flatMap_cons, List.head?_cons, Option.some.injEq]
    have mark : units '\uFEFF' = [0xFEFF] := rfl
    constructor
    · intro first
      rcases units_cases c with ⟨u, own, -, -, rfl⟩ | ⟨u, v, own, high, -, -⟩
      · rw [own] at first
        cases first
        rfl
      · rw [own] at first
        cases first
        exact absurd high (by decide)
    · rintro rfl
      rw [mark]
      rfl

theorem textOfUnits_encode (text : List Char) :
    textOfUnits (encode text) = if text = [] then " " else cStr (.ofList text) := by
  rw [textOfUnits, decode_encode]
  refine if_congr ⟨fun none => ?_, fun none => ?_⟩ rfl rfl
  · have decoded := decode_encode text
    rw [none] at decoded
    exact (Option.some.inj decoded).symm
  · rw [none]
    rfl

theorem unmarked_encode (charSigned : Bool) (text : List Char) :
    unmarked charSigned (encode text) =
      encode (if charSigned = false ∧ text.head? = some '\uFEFF' then text.tail else text) := by
  unfold unmarked
  simp only [head_encode]
  split_ifs with mark
  · cases text with
    | nil => cases mark.2
    | cons c text =>
      cases mark.2
      rfl
  · rfl

theorem stringOfDescriptor_encode (charSigned : Bool) (bLength : UInt8) (text : List Char) :
    stringOfDescriptor charSigned (bLength :: descriptorTypeString :: utf16leBytes text) =
      shownText charSigned text := by
  have typed : ¬ ((bLength :: descriptorTypeString :: utf16leBytes text).length < 2 ∨
      (bLength :: descriptorTypeString :: utf16leBytes text)[1]? ≠ some descriptorTypeString) := by
    simp [List.length_cons]
  rw [stringOfDescriptor, if_neg typed]
  change utf16leToUtf8 charSigned ((encode text).flatMap unitBytes) = _
  rw [utf16leToUtf8_eq, unmarked_encode, textOfUnits_encode]
  rfl

theorem exists_encode {charSigned : Bool} {us : List UInt16} {text : List Char}
    (decoded : decode (unmarked charSigned us) = some text) : ∃ text', us = encode text' := by
  have encoded := encode_decode decoded
  unfold unmarked at encoded
  split_ifs at encoded with mark
  · cases us with
    | nil => exact ⟨[], rfl⟩
    | cons u us =>
      cases mark.2
      exact ⟨'\uFEFF' :: text, by rw [encode_cons_mark, encoded]; rfl⟩
  · exact ⟨text, encoded.symm⟩

/-- A text comes back as it is shown, whatever the length byte of its descriptor says; a descriptor that holds no
text becomes a blank. -/
theorem string_descriptor_read (charSigned : Bool) :
    (∀ (bLength : UInt8) (text : List Char),
      stringOfDescriptor charSigned (bLength :: descriptorTypeString :: utf16leBytes text) =
        shownText charSigned text) ∧
      ∀ strV, (∀ (bLength : UInt8) (text : List Char), strV ≠ bLength :: descriptorTypeString :: utf16leBytes text) →
        stringOfDescriptor charSigned strV = " " := by
  refine ⟨stringOfDescriptor_encode charSigned, fun strV noText => ?_⟩
  unfold stringOfDescriptor
  split_ifs with untyped
  · rfl
  obtain ⟨long, typed⟩ := not_or.1 untyped
  obtain ⟨bLength, type, rest, rfl⟩ : ∃ bLength type rest, strV = bLength :: type :: rest := by
    match strV with
    | [] => exact absurd Nat.two_pos long
    | [_] => exact absurd Nat.one_lt_two long
    | bLength :: type :: rest => exact ⟨bLength, type, rest, rfl⟩
  have isString : type = descriptorTypeString := Option.some.inj (not_not.1 typed)
  subst isString
  change utf16leToUtf8 charSigned rest = " "
  by_cases even : rest.length % 2 = 0
  · have noText' (text : List Char) : codeUnits rest ≠ encode text := fun same =>
      noText bLength text (by rw [utf16leBytes, ← same, unitBytes_codeUnits rest even])
    rw [← unitBytes_codeUnits rest even, utf16leToUtf8_eq, textOfUnits]
    split_ifs
    · rfl
    · cases decoded : decode (unmarked charSigned (codeUnits rest)) with
      | none => rfl
      | some text =>
        obtain ⟨text', same⟩ := exists_encode decoded
        exact absurd same (noText' text')
  · rw [utf16leToUtf8, if_pos even]

theorem cStr_eq_iff {text : String} : cStr text = text ↔ NulFree text := by
  refine ⟨fun same nul => ?_, cStr_eq⟩
  have kept := congrArg String.toList same
  rw [cStr, String.toList_ofList, List.takeWhile_eq_self_iff] at kept
  exact absurd (kept _ nul) (by decide)

theorem length_cStr (text : List Char) : (cStr (.ofList text)).toList.length ≤ text.length := by
  rw [cStr, String.toList_ofList, String.toList_ofList]
  exact (List.takeWhile_prefix _).length_le

/-- And it is the text, exactly if this is not empty, has no NUL and no byte order mark that is skipped. -/
theorem string_descriptor_faithful_iff (charSigned : Bool) (bLength : UInt8) (text : String) :
    stringOfDescriptor charSigned (bLength :: descriptorTypeString :: utf16leBytes text.toList) = text ↔
      NulFree text ∧ text ≠ "" ∧ (charSigned = false → text.toList.head? ≠ some '\uFEFF') := by
  rw [stringOfDescriptor_encode, shownText]
  by_cases mark : charSigned = false ∧ text.toList.head? = some '\uFEFF'
  · rw [if_pos mark]
    refine ⟨fun same => ?_, fun ⟨_, _, unmarked⟩ => absurd mark.2 (unmarked mark.1)⟩
    obtain ⟨rest, chars⟩ : ∃ rest, text.toList = '\uFEFF' :: rest := by
      cases chars : text.toList with
      | nil => rw [chars] at mark; cases mark.2
      | cons c rest => rw [chars] at mark; cases mark.2; exact ⟨rest, rfl⟩
    rw [chars, List.tail_cons] at same
    exfalso
    split_ifs at same
    · have blank := congrArg String.toList same
      rw [chars] at blank
      exact absurd blank (by simp)
    · have short := length_cStr rest
      rw [same, chars, List.length_cons] at short
      omega
  · rw [if_neg mark]
    have noMark : charSigned = false → text.toList.head? ≠ some '\uFEFF' := fun unsigned head => mark ⟨unsigned, head⟩
    simp only [String.ofList_toList]
    by_cases empty : text.toList = []
    · have none : text = "" := String.toList_inj.1 (by rw [empty]; rfl)
      subst none
      simp
    · rw [if_neg empty, cStr_eq_iff]
      have some : text ≠ "" := fun none => empty (by rw [none]; rfl)
      exact ⟨fun nulFree => ⟨nulFree, some, noMark⟩, fun ⟨nulFree, _⟩ => nulFree⟩

end UsbManager
