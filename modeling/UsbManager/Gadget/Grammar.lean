import Mathlib.Data.Multiset.Fold
import UsbManager.Gadget.Names

/-!
# The grammar of a function string

`ConvertFromString` walks over the string with a position: `find` looks for the next comma, `substr` cuts
the item before it, and a comma that ends the string ends the walk. Its answer is a `uint32_t` in every
case, the error code as well. The strings it accepts are the lists of names of the table between commas,
with or without a comma at their end, and the value is the union of the items as a set. The error code has
a bit that no function has, so that it is no value.
-/

namespace UsbManager.Gadget

open Separator

/-! ## The walk -/

/-- `strFun.find(",", pos)`, `none` for `npos`. -/
def findComma (strFun : Name) (pos : Nat) : Option Nat :=
  if ',' ∈ strFun.drop pos then some (pos + ((strFun.drop pos).takeWhile (· ≠ ',')).length) else none

def substr (strFun : Name) (pos count : Nat) : Name := (strFun.drop pos).take count

/-- The next comma is behind an item without one. -/
theorem findComma_cases (strFun : Name) (pos : Nat) :
    findComma strFun pos = none ∧ ',' ∉ strFun.drop pos ∨
      ∃ item rest, findComma strFun pos = some (pos + item.length) ∧ ',' ∉ item ∧
        strFun.drop pos = item ++ ',' :: rest := by
  by_cases comma : ',' ∈ strFun.drop pos
  · obtain ⟨item, rest, cut, plain⟩ := List.eq_append_cons_of_mem comma
    refine .inr ⟨item, rest, ?_, plain, cut⟩
    rw [findComma, if_pos comma, cut, takeWhile_append_cons plain]
  · exact .inl ⟨if_neg comma, comma⟩

theorem le_findComma {strFun : Name} {pos findPos : Nat} (found : findComma strFun pos = some findPos) :
    pos ≤ findPos := by
  obtain ⟨missing, -⟩ | ⟨item, rest, at_comma, -⟩ := findComma_cases strFun pos
  · rw [missing] at found
    cases found
  · rw [at_comma] at found
    obtain rfl := Option.some.inj found
    exact Nat.le_add_right ..

/-- The loop that fills `vModeStr`, from the position `pos`. -/
def vModeStr (strFun : Name) (pos : Nat) : List Name :=
  if pos < strFun.length then
    match found : findComma strFun pos with
    | none => [substr strFun pos (strFun.length - pos)]
    | some findPos => substr strFun pos (findPos - pos) :: vModeStr strFun (findPos + 1)
  else []
termination_by strFun.length - pos
decreasing_by
  have later := le_findComma found
  omega

theorem drop_after {s item rest : Name} {pos : Nat} (cut : s.drop pos = item ++ ',' :: rest) :
    s.drop (pos + item.length + 1) = rest := by
  rw [Nat.add_assoc, ← List.drop_drop, cut, ← List.drop_drop, List.drop_left, List.drop_one, List.tail_cons]

/-- The walk from a position cuts what is left of the string. -/
theorem vModeStr_eq (strFun : Name) (pos : Nat) : vModeStr strFun pos = modeStrings (strFun.drop pos) := by
  induction pos using vModeStr.induct strFun with
  | case1 pos within missing =>
    rw [vModeStr, if_pos within]
    obtain ⟨-, plain⟩ | ⟨item, rest, found, -⟩ := findComma_cases strFun pos
    · rw [modeStrings_single (by simpa using within) plain]
      split
      · rw [substr, ← List.length_drop, List.take_length]
      next found =>
        rw [missing] at found
        cases found
    · rw [missing] at found
      cases found
  | case2 pos within findPos found ih =>
    rw [vModeStr, if_pos within]
    obtain ⟨missing, -⟩ | ⟨item, rest, at_comma, plain, cut⟩ := findComma_cases strFun pos
    · rw [missing] at found
      cases found
    · split
      next missing =>
        rw [missing] at found
        cases found
      next other same =>
        obtain rfl := Option.some.inj (found.symm.trans same)
        obtain rfl := Option.some.inj (found.symm.trans at_comma)
        rw [ih, drop_after cut, cut, modeStrings_append plain, substr, Nat.add_sub_cancel_left, cut,
          List.take_left]
  | case3 pos beyond =>
    rw [vModeStr, if_neg beyond, List.drop_eq_nil_of_le (by omega), modeStrings]

/-! ## The answer -/

section Codes

variable (errCodeOffset : UInt32 → UInt32 → UInt32) (subsysUsb : UInt32)

def usbModuleTypeService : UInt32 := 0

def usbOffset : UInt32 := 100

/-- `UEC_SERVICE_INVALID_VALUE`, the third code of the service, as the `uint32_t` that is returned. -/
def uecServiceInvalidValue : UInt32 := errCodeOffset subsysUsb usbModuleTypeService + usbOffset + 2

/-- The union of the named functions with `ret`; the first unknown name ends the loop. -/
def orItems : List Name → UInt32 → UInt32
  | [], ret => ret
  | item :: items, ret =>
    match functionMappingN2C.lookup item with
    | some bits => orItems items (ret ||| bits)
    | none => uecServiceInvalidValue errCodeOffset subsysUsb

/-- `ConvertFromString` as it returns: the value and the error code share a type. -/
def convertFromStringCode (strFun : Name) : UInt32 :=
  if strFun = functionNameNone then 0
  else if strFun.length = 0 then uecServiceInvalidValue errCodeOffset subsysUsb
  else orItems errCodeOffset subsysUsb (vModeStr strFun 0) 0

/-- The returned word of an answer. -/
def returned : Except UsbErrCode UInt32 → UInt32
  | .ok function => function
  | .error _ => uecServiceInvalidValue errCodeOffset subsysUsb

theorem orItems_eq (items : List Name) (ret : UInt32) :
    orItems errCodeOffset subsysUsb items ret = returned errCodeOffset subsysUsb (convertNames items ret) := by
  induction items generalizing ret with
  | nil => rfl
  | cons item items ih =>
    rw [orItems, convertNames]
    cases functionMappingN2C.lookup item with
    | some bits => exact ih (ret ||| bits)
    | none => rfl

theorem convertFromStringCode_eq (strFun : Name) :
    convertFromStringCode errCodeOffset subsysUsb strFun =
      returned errCodeOffset subsysUsb (convertFromString strFun) := by
  unfold convertFromStringCode convertFromString
  split
  · rfl
  · split
    · rfl
    · rw [orItems_eq, vModeStr_eq, List.drop_zero]

end Codes

/-! ## The grammar -/

/-- `strFun` is the items between commas, perhaps with a comma at its end. -/
structure ListOf (items : List Name) (strFun : Name) : Prop where
  nonempty : items ≠ []
  known : ∀ item ∈ items, ∃ bits, (item, bits) ∈ functionMappingN2C
  written : strFun = [','].intercalate items ∨ strFun = [','].intercalate items ++ [',']

def valueOf (item : Name) : UInt32 := (functionMappingN2C.lookup item).getD 0

def orOf (items : List Name) : UInt32 := (items.map valueOf).foldr (· ||| ·) 0

theorem orOf_cons (item : Name) (items : List Name) : orOf (item :: items) = valueOf item ||| orOf items := rfl

/-- The union knows neither an order nor repetitions. -/
theorem orOf_congr {items others : List Name} (same : ∀ item, item ∈ items ↔ item ∈ others) :
    orOf items = orOf others := by
  have asFold (list : List Name) :
      orOf list =
        Multiset.fold (fun a b : UInt32 => a ||| b) 0 (Multiset.dedup (list.map valueOf : Multiset UInt32)) := by
    rw [Multiset.fold_dedup_idem, Multiset.coe_fold_r]
    rfl
  have values : Multiset.dedup (items.map valueOf : Multiset UInt32) =
      Multiset.dedup (others.map valueOf : Multiset UInt32) := by
    refine Multiset.dedup_ext.2 fun bits => ?_
    simp only [Multiset.mem_coe, List.mem_map, same]
  rw [asFold, asFold, values]

/-- A cut string is its items between commas, with or without a comma at its end. -/
theorem written_modeStrings {strFun : Name} (ne : strFun ≠ []) :
    modeStrings strFun ≠ [] ∧
      (strFun = [','].intercalate (modeStrings strFun) ∨
        strFun = [','].intercalate (modeStrings strFun) ++ [',']) := by
  induction length : strFun.length using Nat.strong_induction_on generalizing strFun with
  | _ length' ih =>
    by_cases comma : ',' ∈ strFun
    · obtain ⟨item, rest, rfl, plain⟩ := List.eq_append_cons_of_mem comma
      rw [modeStrings_append plain]
      refine ⟨List.cons_ne_nil _ _, ?_⟩
      by_cases last : rest = []
      · rw [last, modeStrings, List.intercalate_singleton]
        exact .inr rfl
      · have shorter : rest.length < length' := by
          rw [← length]
          simp
          omega
        obtain ⟨others, cut⟩ := ih rest.length shorter last rfl
        obtain ⟨next, items, names⟩ := List.exists_cons_of_ne_nil others
        rw [names] at cut ⊢
        rw [List.intercalate_cons_cons, List.append_assoc, List.singleton_append, List.append_assoc, List.cons_append]
        rcases cut with cut | cut
        · exact .inl (by rw [← cut])
        · exact .inr (by rw [← cut])
    · rw [modeStrings_single ne comma, List.intercalate_singleton]
      exact ⟨List.cons_ne_nil _ _, .inl rfl⟩

section Items

variable {items : List Name} {strFun : Name}

theorem plain_of_known {item : Name} (known : ∃ bits, (item, bits) ∈ functionMappingN2C) :
    item ≠ [] ∧ ',' ∉ item := by
  have entries : ∀ entry ∈ functionMappingN2C, entry.1 ≠ [] ∧ ',' ∉ entry.1 := by decide
  obtain ⟨bits, entry⟩ := known
  exact entries _ entry

/-- A comma at the end adds no item. -/
theorem modeStrings_comma (ne : ∀ item ∈ items, item ≠ []) (plain : ∀ item ∈ items, ',' ∉ item) (any : items ≠ []) :
    modeStrings ([','].intercalate items ++ [',']) = items := by
  induction items with
  | nil => exact absurd rfl any
  | cons item items ih =>
    cases items with
    | nil =>
      rw [List.intercalate_singleton, modeStrings_append (plain item (by simp)), modeStrings]
    | cons next others =>
      rw [List.intercalate_cons_cons, List.append_assoc, List.append_assoc, List.singleton_append,
        modeStrings_append (plain item (by simp))]
      rw [ih (fun other member => ne other (by simp [member])) (fun other member => plain other (by simp [member]))
        (List.cons_ne_nil _ _)]

/-- The items of a string are determined. -/
theorem ListOf.cut (list : ListOf items strFun) : modeStrings strFun = items := by
  have ne : ∀ item ∈ items, item ≠ [] := fun item member => (plain_of_known (list.known item member)).1
  have plain : ∀ item ∈ items, ',' ∉ item := fun item member => (plain_of_known (list.known item member)).2
  rcases list.written with written | written
  · rw [written, modeStrings_intercalate ne plain]
  · rw [written, modeStrings_comma ne plain list.nonempty]

theorem convertNames_known (known : ∀ item ∈ items, ∃ bits, (item, bits) ∈ functionMappingN2C) (ret : UInt32) :
    convertNames items ret = .ok (ret ||| orOf items) := by
  have found : ∀ entry ∈ functionMappingN2C, functionMappingN2C.lookup entry.1 = some entry.2 := by decide
  induction items generalizing ret with
  | nil => simp [convertNames, orOf]
  | cons item items ih =>
    obtain ⟨bits, entry⟩ := known item (List.mem_cons_self ..)
    have here : functionMappingN2C.lookup item = some bits := found _ entry
    have value : valueOf item = bits := by rw [valueOf, here, Option.getD_some]
    rw [convertNames, here, orOf_cons, value, ← UInt32.or_assoc]
    exact ih (fun other member => known other (List.mem_cons_of_mem _ member)) (ret ||| bits)

theorem known_of_convertNames {ret f : UInt32} (converted : convertNames items ret = .ok f) :
    ∀ item ∈ items, ∃ bits, (item, bits) ∈ functionMappingN2C := by
  induction items generalizing ret with
  | nil => simp
  | cons item items ih =>
    rw [convertNames] at converted
    split at converted
    next bits found =>
      intro other member
      rcases List.mem_cons.1 member with rfl | member
      · exact ⟨bits, lookup_mem found⟩
      · exact ih converted other member
    next => cases converted

/-- A list of names is accepted, with the union of its items. -/
theorem ListOf.accepted (list : ListOf items strFun) : convertFromString strFun = .ok (orOf items) := by
  have ne : strFun ≠ [] := by
    rintro rfl
    have none := list.cut
    rw [modeStrings] at none
    exact list.nonempty none.symm
  rw [convertFromString_eq ne, list.cut, convertNames_known list.known, UInt32.zero_or]

/-- Nothing else is accepted. -/
theorem listOf_of_accepted {f : UInt32} (accepted : convertFromString strFun = .ok f) :
    ListOf (modeStrings strFun) strFun := by
  have ne : strFun ≠ [] := by
    rintro rfl
    cases accepted
  obtain ⟨any, written⟩ := written_modeStrings ne
  rw [convertFromString_eq ne] at accepted
  exact ⟨any, known_of_convertNames accepted, written⟩

end Items

/-! ## The error code -/

section Layout

variable {errCodeOffset : UInt32 → UInt32 → UInt32}
  (layout : ∀ subsystem module, errCodeOffset subsystem module = subsystem <<< 21 ||| module <<< 16)
  (subsysUsb : UInt32)

/-- A bit of the number in the low half, and no function. -/
def codeBit : Nat := 6

include layout

theorem hasBit_code : hasBit (uecServiceInvalidValue errCodeOffset subsysUsb) codeBit = true := by
  have shifted : (subsysUsb <<< 21).toNat = subsysUsb.toNat * 2 ^ 21 % 2 ^ 32 := by
    rw [UInt32.toNat_shiftLeft, Nat.shiftLeft_eq]
    rfl
  have value : (uecServiceInvalidValue errCodeOffset subsysUsb).toNat =
      ((subsysUsb.toNat * 2 ^ 21 % 2 ^ 32 + 100) % 2 ^ 32 + 2) % 2 ^ 32 := by
    rw [uecServiceInvalidValue, layout, usbModuleTypeService, usbOffset, UInt32.zero_shiftLeft, UInt32.or_zero,
      UInt32.toNat_add, UInt32.toNat_add, shifted]
    rfl
  have bit : hasBit (uecServiceInvalidValue errCodeOffset subsysUsb) codeBit =
      Nat.testBit (uecServiceInvalidValue errCodeOffset subsysUsb).toNat 6 := rfl
  rw [bit, value, Nat.testBit_eq_decide_div_mod_eq, decide_eq_true_eq]
  omega

omit layout in
theorem hasBit_function {f : UInt32} (named : f &&& functionNamed = f) : hasBit f codeBit = false := by
  have none : functionNamed &&& bitAt codeBit = 0 := by decide
  by_contra set
  have kept : f &&& bitAt codeBit = bitAt codeBit := by rw [and_bitAt, if_pos (by simpa using set)]
  rw [← named, UInt32.and_assoc, none, UInt32.and_zero] at kept
  exact absurd kept (by decide)

/-- No accepted string has the error code as its value. -/
theorem accepted_ne_code {strFun : Name} {f : UInt32} (accepted : convertFromString strFun = .ok f) :
    f ≠ uecServiceInvalidValue errCodeOffset subsysUsb := by
  have ne : strFun ≠ [] := by
    rintro rfl
    cases accepted
  rw [convertFromString_eq ne] at accepted
  have clear := hasBit_function (named_of_convertNames accepted UInt32.zero_and)
  rintro rfl
  rw [hasBit_code layout] at clear
  cases clear

end Layout

/-- What the words returned for all strings say, `code` being the error code. -/
structure GrammarOf (convert : Name → UInt32) (code : UInt32) : Prop where
  accepted : ∀ strFun, convert strFun ≠ code ↔ ∃ items, ListOf items strFun
  value : ∀ items strFun, ListOf items strFun → convert strFun = orOf items
  as_sets : ∀ items others strFun other, ListOf items strFun → ListOf others other →
    (∀ item, item ∈ items ↔ item ∈ others) → convert strFun = convert other
  apart : ∀ items strFun, ListOf items strFun → orOf items ≠ code

/-- `ConvertFromString` accepts the lists of names and nothing else, with the union of the items as its value. -/
theorem function_string_grammar {errCodeOffset : UInt32 → UInt32 → UInt32} {subsysUsb : UInt32}
    (layout : ∀ subsystem module, errCodeOffset subsystem module = subsystem <<< 21 ||| module <<< 16) :
    GrammarOf (convertFromStringCode errCodeOffset subsysUsb) (uecServiceInvalidValue errCodeOffset subsysUsb) := by
  have value (items : List Name) (strFun : Name) (list : ListOf items strFun) :
      convertFromStringCode errCodeOffset subsysUsb strFun = orOf items := by
    rw [convertFromStringCode_eq, list.accepted]
    rfl
  have apart (items : List Name) (strFun : Name) (list : ListOf items strFun) :
      orOf items ≠ uecServiceInvalidValue errCodeOffset subsysUsb :=
    accepted_ne_code layout subsysUsb list.accepted
  constructor
  case accepted =>
    intro strFun
    constructor
    · intro differs
      rw [convertFromStringCode_eq] at differs
      cases answer : convertFromString strFun with
      | ok f => exact ⟨modeStrings strFun, listOf_of_accepted answer⟩
      | error code =>
        rw [answer] at differs
        exact absurd rfl differs
    · rintro ⟨items, list⟩
      rw [value items strFun list]
      exact apart items strFun list
  case value => exact value
  case as_sets =>
    intro items others strFun other list list' same
    rw [value items strFun list, value others other list', orOf_congr same]
  case apart => exact apart

def sampleOffset (subsystem module : UInt32) : UInt32 := subsystem <<< 21 ||| module <<< 16

/-- "mtp,hdc," is read as "hdc,mtp,hdc" is, as the two functions. -/
theorem function_string_grammar_hdc_mtp :
    convertFromStringCode sampleOffset 39 ['m', 't', 'p', ',', 'h', 'd', 'c', ','] =
        convertFromStringCode sampleOffset 39 ['h', 'd', 'c', ',', 'm', 't', 'p', ',', 'h', 'd', 'c'] ∧
      convertFromStringCode sampleOffset 39 ['m', 't', 'p', ',', 'h', 'd', 'c', ','] = 12 := by
  have grammar := @function_string_grammar sampleOffset 39 fun _ _ => rfl
  have hdc : ∃ bits, (['h', 'd', 'c'], bits) ∈ functionMappingN2C := ⟨usbFunctionHdc, by decide⟩
  have mtp : ∃ bits, (['m', 't', 'p'], bits) ∈ functionMappingN2C := ⟨usbFunctionMtp, by decide⟩
  have short : ListOf [['m', 't', 'p'], ['h', 'd', 'c']] ['m', 't', 'p', ',', 'h', 'd', 'c', ','] :=
    ⟨by decide, by simp only [List.forall_mem_cons, mtp, hdc]; simp, .inr rfl⟩
  have long : ListOf [['h', 'd', 'c'], ['m', 't', 'p'], ['h', 'd', 'c']]
      ['h', 'd', 'c', ',', 'm', 't', 'p', ',', 'h', 'd', 'c'] :=
    ⟨by decide, by simp only [List.forall_mem_cons, mtp, hdc]; simp, .inl rfl⟩
  exact ⟨grammar.as_sets _ _ _ _ short long (by simp), grammar.value _ _ short⟩

end UsbManager.Gadget
