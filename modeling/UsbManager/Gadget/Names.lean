import UsbManager.Gadget.Manager
import UsbManager.Lib.Separator

/-!
# The names of the functions

`FUNCTION_MAPPING_N2C` names the single functions. `ConvertFromString` reads a list of names,
`ConvertToString` writes one, and `BroadcastFuncChange` writes the name of each function of a mask into
the sticky event, bit by bit. The reader knows every name of the table; the writer answers "none" above
the functions that a client may set, and the developer authentication is above them. A mask with the
authentication is therefore written as no function at all, and announced under the name "none".
-/

namespace UsbManager.Gadget

open Separator

abbrev Name := List Char

def usbFunctionAcm : UInt32 := (1 : UInt32) <<< 0
def usbFunctionEcm : UInt32 := (1 : UInt32) <<< 1
def usbFunctionRndis : UInt32 := (1 : UInt32) <<< 5
def usbFunctionNcm : UInt32 := (1 : UInt32) <<< 8

def functionNameNone : Name := ['n', 'o', 'n', 'e']
def functionNameDevmodeAuth : Name := ['d', 'e', 'v', 'm', 'o', 'd', 'e', '_', 'a', 'u', 't', 'h']

/-- `FUNCTION_MAPPING_N2C`, in the order in which a `std::map` goes through its keys. -/
def functionMappingN2C : List (Name × UInt32) :=
  [(['a', 'c', 'm'], usbFunctionAcm),
   (functionNameDevmodeAuth, usbFunctionDevmodeAuth),
   (['e', 'c', 'm'], usbFunctionEcm),
   (['h', 'd', 'c'], usbFunctionHdc),
   (['m', 't', 'p'], usbFunctionMtp),
   (['n', 'c', 'm'], usbFunctionNcm),
   (functionNameNone, 0),
   (['p', 't', 'p'], usbFunctionPtp),
   (['r', 'n', 'd', 'i', 's'], usbFunctionRndis),
   (['s', 't', 'o', 'r', 'a', 'g', 'e'], usbFunctionStorage)]

def functionSettable : UInt32 :=
  usbFunctionHdc ||| usbFunctionAcm ||| usbFunctionEcm ||| usbFunctionMtp ||| usbFunctionPtp ||| usbFunctionRndis |||
    usbFunctionNcm ||| usbFunctionStorage

/-! ## Reading -/

/-- The names between the commas. A comma at the end starts no further name. -/
def modeStrings (strFun : Name) : List Name :=
  match strFun with
  | [] => []
  | c :: cs =>
    if ',' ∈ c :: cs then
      (c :: cs).takeWhile (· ≠ ',') :: modeStrings ((c :: cs).dropWhile (· ≠ ',')).tail
    else [c :: cs]
termination_by strFun.length
decreasing_by
  have shorter := List.Sublist.length_le (List.dropWhile_sublist (· ≠ ',') (l := c :: cs))
  rw [List.length_tail]
  simp only [List.length_cons] at shorter ⊢
  omega

/-- The union of the named functions with `ret`, if all names are known. -/
def convertNames : List Name → UInt32 → Except UsbErrCode UInt32
  | [], ret => .ok ret
  | item :: items, ret =>
    match functionMappingN2C.lookup item with
    | some bits => convertNames items (ret ||| bits)
    | none => .error .uecServiceInvalidValue

def convertFromString (strFun : Name) : Except UsbErrCode UInt32 :=
  if strFun = functionNameNone then .ok 0
  else if strFun.length = 0 then .error .uecServiceInvalidValue
  else convertNames (modeStrings strFun) 0

/-! ## Writing -/

def appendName (function : UInt32) (written : Name × Bool) (entry : Name × UInt32) : Name × Bool :=
  let (stream, flag) := written
  if function &&& entry.2 ≠ 0 then ((if flag then stream ++ [','] else stream) ++ entry.1, true) else (stream, flag)

def convertToString (function : UInt32) : Name :=
  if function ≤ 0 || function > functionSettable then functionNameNone
  else (functionMappingN2C.foldl (appendName function) ([], false)).1

/-! ## The event -/

abbrev WantParams := List (Name × Bool)

/-- `Want::SetParam`: a key has one value. -/
def setParam (params : WantParams) (key : Name) (value : Bool) : WantParams :=
  (key, value) :: params.filter (·.1 ≠ key)

/-- The loop of `BroadcastFuncChange`, as far as `fuel` goes. -/
def functionParams : Nat → UInt32 → UInt32 → WantParams → Option WantParams
  | 0, _, _, _ => none
  | fuel + 1, remainderFunc, bit, params =>
    if remainderFunc ≠ 0 then
      if remainderFunc &&& bit ≠ 0 then
        functionParams fuel (remainderFunc &&& ~~~bit) (bit <<< 1) (setParam params (convertToString bit) true)
      else functionParams fuel remainderFunc (bit <<< 1) params
    else some params

def connectedKey : Name := ['c', 'o', 'n', 'n', 'e', 'c', 't', 'e', 'd']

/-- The parameters of the event that `BroadcastFuncChange` publishes: 33 rounds look at all bits. -/
def broadcastParams (connected : Bool) (currentFunc : UInt32) : Option WantParams :=
  functionParams 33 currentFunc 1 (setParam [] connectedKey connected)

/-! ## The names of a string -/

theorem modeStrings_single {item : Name} (ne : item ≠ []) (plain : ',' ∉ item) : modeStrings item = [item] := by
  cases item with
  | nil => exact absurd rfl ne
  | cons c cs => rw [modeStrings, if_neg plain]

theorem modeStrings_append {item : Name} (plain : ',' ∉ item) (rest : Name) :
    modeStrings (item ++ ',' :: rest) = item :: modeStrings rest := by
  have comma : ',' ∈ item ++ ',' :: rest := by simp
  cases whole : item ++ ',' :: rest with
  | nil => simp at whole
  | cons c cs =>
    rw [modeStrings, ← whole, if_pos comma, takeWhile_append_cons plain, dropWhile_append_cons plain, List.tail_cons]

theorem modeStrings_intercalate {items : List Name} (ne : ∀ item ∈ items, item ≠ [])
    (plain : ∀ item ∈ items, ',' ∉ item) : modeStrings ([','].intercalate items) = items := by
  induction items with
  | nil => rw [List.intercalate_nil, modeStrings]
  | cons item items ih =>
    cases items with
    | nil =>
      rw [List.intercalate_singleton]
      exact modeStrings_single (ne item (by simp)) (plain item (by simp))
    | cons next others =>
      rw [List.intercalate_cons_cons, List.append_assoc, List.singleton_append,
        modeStrings_append (plain item (by simp))]
      rw [ih (fun other member => ne other (by simp [member])) fun other member => plain other (by simp [member])]

/-- The name "none" needs no case of its own. -/
theorem convertFromString_eq {strFun : Name} (ne : strFun ≠ []) :
    convertFromString strFun = convertNames (modeStrings strFun) 0 := by
  unfold convertFromString
  split
  next none =>
    rw [none, modeStrings_single (by decide) (by decide)]
    rfl
  next =>
    rw [if_neg (by simpa using ne)]

/-! ## Bits -/

section Bits

variable (f : UInt32)

def bitAt (i : Nat) : UInt32 := .ofBitVec (BitVec.twoPow 32 i)

def hasBit (i : Nat) : Bool := f.toBitVec.getLsbD i

theorem and_bitAt (i : Nat) : f &&& bitAt i = if hasBit f i then bitAt i else 0 := by
  refine UInt32.toBitVec_inj.1 ?_
  rw [UInt32.toBitVec_and, bitAt, BitVec.and_twoPow, hasBit]
  split <;> rfl

theorem and_or (a b : UInt32) : f &&& (a ||| b) = f &&& a ||| f &&& b := by
  refine UInt32.toBitVec_inj.1 ?_
  simp only [UInt32.toBitVec_and, UInt32.toBitVec_or, BitVec.and_or_distrib_left]

/-- An entry of the table is in a mask as a whole or not at all. -/
theorem and_entry {entry : Name × UInt32} (member : entry ∈ functionMappingN2C) :
    f &&& entry.2 = 0 ∨ f &&& entry.2 = entry.2 := by
  have bits : ∀ entry ∈ functionMappingN2C, ∃ i : Fin 33, entry.2 = bitAt i := by decide
  obtain ⟨i, single⟩ := bits entry member
  rw [single, and_bitAt]
  split
  · exact .inr rfl
  · exact .inl rfl

end Bits

/-- The functions of a table. -/
def union (table : List (Name × UInt32)) : UInt32 := table.foldr (fun entry rest => entry.2 ||| rest) 0

/-! ## What is written -/

/-- The names of the functions of a mask. -/
def namesIn (function : UInt32) (table : List (Name × UInt32)) : List Name :=
  (table.filter fun entry => function &&& entry.2 ≠ 0).map Prod.fst

theorem foldl_appendName_true (function : UInt32) (table : List (Name × UInt32)) (stream : Name) :
    table.foldl (appendName function) (stream, true) =
      (stream ++ (namesIn function table).flatMap (',' :: ·), true) := by
  induction table generalizing stream with
  | nil => simp [namesIn]
  | cons entry table ih =>
    rw [List.foldl_cons, appendName]
    by_cases set : function &&& entry.2 = 0
    · simp [set, ih, namesIn]
    · simp [set, ih, namesIn]

theorem intercalate_cons (item : Name) (items : List Name) :
    [','].intercalate (item :: items) = item ++ items.flatMap (',' :: ·) := by
  induction items generalizing item with
  | nil => simp
  | cons next items ih => rw [List.intercalate_cons_cons, ih next, List.flatMap_cons]; simp

theorem foldl_appendName (function : UInt32) (table : List (Name × UInt32)) :
    (table.foldl (appendName function) ([], false)).1 = [','].intercalate (namesIn function table) := by
  induction table with
  | nil => rfl
  | cons entry table ih =>
    rw [List.foldl_cons, appendName]
    by_cases set : function &&& entry.2 = 0
    · simp [set, ih, namesIn]
    · have written : namesIn function (entry :: table) = entry.1 :: namesIn function table := by simp [namesIn, set]
      rw [written, intercalate_cons]
      simp [set, foldl_appendName_true]

/-- Reading the names of a mask gives the part of it that the table knows. -/
theorem convertNames_namesIn (function : UInt32) {table : List (Name × UInt32)}
    (known : ∀ entry ∈ table, entry ∈ functionMappingN2C) (ret : UInt32) :
    convertNames (namesIn function table) ret = .ok (ret ||| function &&& union table) := by
  have found : ∀ entry ∈ functionMappingN2C, functionMappingN2C.lookup entry.1 = some entry.2 := by decide
  induction table generalizing ret with
  | nil => simp [namesIn, convertNames, union]
  | cons entry table ih =>
    have member := known entry (List.mem_cons_self ..)
    have rest := ih fun other inTable => known other (List.mem_cons_of_mem _ inTable)
    have split : function &&& union (entry :: table) = function &&& entry.2 ||| function &&& union table :=
      and_or function entry.2 (union table)
    rw [split]
    by_cases set : function &&& entry.2 = 0
    · have skipped : namesIn function (entry :: table) = namesIn function table := by simp [namesIn, set]
      rw [skipped, rest, set, UInt32.zero_or]
    · have written : namesIn function (entry :: table) = entry.1 :: namesIn function table := by simp [namesIn, set]
      rw [written, convertNames, found entry member]
      simp only [rest]
      rw [(and_entry function member).resolve_left set, UInt32.or_assoc]

/-! ## Accepted strings -/

/-- All functions that have a name. -/
def functionNamed : UInt32 := union functionMappingN2C

section Accepted

variable {items : List Name} {ret f : UInt32}

theorem lookup_mem {item : Name} {bits : UInt32} (found : functionMappingN2C.lookup item = some bits) :
    (item, bits) ∈ functionMappingN2C := by
  obtain ⟨before, after, split, -⟩ := List.lookup_eq_some_iff.1 found
  rw [split]
  simp

theorem named_of_convertNames (converted : convertNames items ret = .ok f) (named : ret &&& functionNamed = ret) :
    f &&& functionNamed = f := by
  have known : ∀ entry ∈ functionMappingN2C, functionNamed &&& entry.2 = entry.2 := by decide
  induction items generalizing ret with
  | nil =>
    obtain rfl := Except.ok.inj converted
    exact named
  | cons item items ih =>
    rw [convertNames] at converted
    split at converted
    next bits found =>
      refine ih converted ?_
      rw [UInt32.and_comm, and_or, UInt32.and_comm, named, known _ (lookup_mem found)]
    next => cases converted

/-- The authentication is in the mask exactly if its name is in the list. -/
theorem auth_of_convertNames (converted : convertNames items ret = .ok f) :
    f &&& usbFunctionDevmodeAuth = 0 ↔ ret &&& usbFunctionDevmodeAuth = 0 ∧ functionNameDevmodeAuth ∉ items := by
  have own : ∀ entry ∈ functionMappingN2C, usbFunctionDevmodeAuth &&& entry.2 = 0 ↔
    functionNameDevmodeAuth ≠ entry.1 := by
    decide
  induction items generalizing ret with
  | nil =>
    obtain rfl := Except.ok.inj converted
    simp
  | cons item items ih =>
    rw [convertNames] at converted
    split at converted
    next bits found =>
      refine (ih converted).trans ?_
      rw [UInt32.and_comm (ret ||| bits), and_or, UInt32.or_eq_zero_iff, own _ (lookup_mem found), List.mem_cons,
        not_or, UInt32.and_comm, and_assoc]
    next => cases converted

end Accepted

/-- A mask of named functions can be set by a client unless it has the authentication. -/
theorem settable_iff {f : UInt32} (named : f &&& functionNamed = f) :
    f ≤ functionSettable ↔ f &&& usbFunctionDevmodeAuth = 0 := by
  have limit : f.toNat ≤ 831 ↔ f ≤ functionSettable := by
    rw [UInt32.le_iff_toNat_le]
    rfl
  rw [← limit]
  constructor
  · intro low
    have off : hasBit f 12 = false := Nat.testBit_lt_two_pow (show f.toNat < 4096 by omega)
    rw [show usbFunctionDevmodeAuth = bitAt 12 by decide, and_bitAt, off]
    rfl
  · intro clear
    have other : f &&& functionSettable = f := by
      calc f &&& functionSettable
        _ = f &&& functionNamed := by
          rw [show functionNamed = functionSettable ||| usbFunctionDevmodeAuth by decide, and_or, clear, UInt32.or_zero]
        _ = f := named
    have bounded : (f &&& functionSettable).toNat ≤ functionSettable.toNat := by
      rw [UInt32.toNat_and]
      exact Nat.and_le_right
    rw [other] at bounded
    exact bounded

theorem convertToString_named {f : UInt32} (some_bit : f ≠ 0) (named : f &&& functionNamed = f)
    (clear : f &&& usbFunctionDevmodeAuth = 0) :
    convertToString f = [','].intercalate (namesIn f functionMappingN2C) := by
  have positive : ¬ f ≤ 0 := fun low => some_bit (UInt32.le_zero_iff.1 low)
  have settable : ¬ f > functionSettable := UInt32.not_lt.2 ((settable_iff named).2 clear)
  rw [convertToString, if_neg (by simp [positive, settable]), foldl_appendName]

theorem convertToString_auth {f : UInt32} (named : f &&& functionNamed = f) (auth : f &&& usbFunctionDevmodeAuth ≠ 0) :
    convertToString f = functionNameNone := by
  have above : f > functionSettable := by
    rw [gt_iff_lt, ← UInt32.not_le, settable_iff named]
    exact auth
  rw [convertToString, if_pos (by simp [above])]

/-- What the writer writes of a named mask, the reader reads back, but for the authentication. -/
theorem roundtrip_iff {f : UInt32} (named : f &&& functionNamed = f) :
    convertFromString (convertToString f) = .ok f ↔ f &&& usbFunctionDevmodeAuth = 0 := by
  have nonempty : ∀ entry ∈ functionMappingN2C, entry.1 ≠ [] ∧ ',' ∉ entry.1 := by decide
  have fine : ∀ item ∈ namesIn f functionMappingN2C, item ≠ [] ∧ ',' ∉ item := by
    intro item member
    obtain ⟨entry, kept, rfl⟩ := List.mem_map.1 member
    exact nonempty entry (List.mem_of_mem_filter kept)
  constructor
  · intro same
    by_contra auth
    rw [convertToString_auth named auth] at same
    have zero : f = 0 := (Except.ok.inj same).symm
    exact auth (by rw [zero, UInt32.zero_and])
  · intro clear
    by_cases zero : f = 0
    · rw [zero]
      rfl
    · have read := convertNames_namesIn f (fun _ member => member) 0
      rw [UInt32.zero_or, show union functionMappingN2C = functionNamed from rfl, named] at read
      have split := modeStrings_intercalate (fun item member => (fine item member).1)
        fun item member => (fine item member).2
      rw [convertToString_named zero named clear, convertFromString_eq, split, read]
      intro empty
      rw [empty, modeStrings] at split
      rw [← split] at read
      exact zero (Except.ok.inj read).symm

/-! ## What is announced -/

theorem hasBit_clear {r : UInt32} {i j : Nat} (bound : j < 32) :
    hasBit (r &&& ~~~bitAt i) j = (hasBit r j && decide (j ≠ i)) := by
  simp [hasBit, bitAt, bound, eq_comm]

theorem eq_zero_of_hasBit {r : UInt32} (none : ∀ j < 32, hasBit r j = false) : r = 0 := by
  refine UInt32.toBitVec_inj.1 (BitVec.eq_of_getLsbD_eq fun j bound => ?_)
  rw [show r.toBitVec.getLsbD j = false from none j bound]
  simp

theorem bitAt_shiftLeft (i : Nat) : bitAt i <<< 1 = bitAt (i + 1) := by
  refine UInt32.toBitVec_inj.1 ?_
  simp [bitAt, BitVec.twoPow_eq, BitVec.shiftLeft_add]

theorem bitAt_ne_zero {i : Nat} (bound : i < 32) : bitAt i ≠ 0 := by
  intro zero
  have bit := congrArg (fun f => hasBit f i) zero
  simp [hasBit, bitAt, bound] at bit

def announce (params : WantParams) (i : Nat) : WantParams := setParam params (convertToString (bitAt i)) true

/-- The loop announces the bits that are left, and comes to its end. -/
theorem functionParams_eq {fuel i : Nat} (rounds : fuel + i = 32) {r : UInt32}
    (done : ∀ j < i, hasBit r j = false) (params : WantParams) :
    functionParams (fuel + 1) r (bitAt i) params =
      some (((List.range' i fuel).filter (hasBit r)).foldl announce params) := by
  induction fuel generalizing i r params with
  | zero =>
    have zero : r = 0 := eq_zero_of_hasBit fun j bound => done j (by omega)
    simp [functionParams, zero]
  | succ fuel ih =>
    rw [functionParams]
    by_cases zero : r = 0
    · have none : (List.range' i (fuel + 1)).filter (hasBit r) = [] := by
        refine List.filter_eq_nil_iff.2 fun j _ => ?_
        simp [zero, hasBit]
      rw [none, zero]
      rfl
    · rw [if_pos zero, and_bitAt, bitAt_shiftLeft, List.range'_succ, List.filter_cons]
      have nonzero : bitAt i ≠ 0 := bitAt_ne_zero (by omega)
      cases set : hasBit r i with
      | true =>
        rw [if_pos rfl, if_pos nonzero, if_pos rfl, List.foldl_cons]
        have rest : (List.range' (i + 1) fuel).filter (hasBit (r &&& ~~~bitAt i)) =
            (List.range' (i + 1) fuel).filter (hasBit r) := by
          refine List.filter_congr fun j member => ?_
          obtain ⟨low, high⟩ := List.mem_range'_1.1 member
          rw [hasBit_clear (by omega)]
          simp [show j ≠ i by omega]
        rw [← rest]
        refine ih (by omega) (fun j below => ?_) _
        rw [hasBit_clear (by omega)]
        by_cases here : j = i
        · simp [here]
        · rw [done j (by omega)]
          rfl
      | false =>
        rw [if_neg (by simp), if_neg (by simp)]
        refine ih (by omega) (fun j below => ?_) params
        by_cases here : j = i
        · rw [here, set]
        · exact done j (by omega)

theorem mem_setParam {params : WantParams} {key name : Name} {value given : Bool} :
    (name, value) ∈ setParam params key given ↔ name = key ∧ value = given ∨ name ≠ key ∧ (name, value) ∈ params := by
  simp only [setParam, List.mem_cons, Prod.mk.injEq, List.mem_filter, decide_eq_true_eq]
  tauto

theorem nodup_setParam {params : WantParams} (once : (params.map Prod.fst).Nodup) (key : Name) (value : Bool) :
    ((setParam params key value).map Prod.fst).Nodup := by
  rw [setParam, List.map_cons, List.nodup_cons]
  constructor
  · intro member
    obtain ⟨entry, kept, same⟩ := List.mem_map.1 member
    have other := (List.mem_filter.1 kept).2
    simp [same] at other
  · exact once.sublist (List.filter_sublist.map Prod.fst)

theorem mem_foldl_announce {bits : List Nat} {params : WantParams} {name : Name} {value : Bool} :
    (name, value) ∈ bits.foldl announce params ↔
      (value = true ∧ ∃ i ∈ bits, name = convertToString (bitAt i)) ∨
        (∀ i ∈ bits, name ≠ convertToString (bitAt i)) ∧ (name, value) ∈ params := by
  induction bits generalizing params with
  | nil => simp
  | cons i bits ih =>
    have none : (∀ j ∈ bits, name ≠ convertToString (bitAt j)) ↔ ¬ ∃ j ∈ bits, name = convertToString (bitAt j) := by
      simp
    rw [List.foldl_cons, ih, announce, mem_setParam]
    simp only [List.mem_cons, exists_eq_or_imp, forall_eq_or_imp, none]
    by_cases later : ∃ j ∈ bits, name = convertToString (bitAt j)
    · simp [later]
    · simp only [later, and_false, false_or, not_false_eq_true, true_and, or_false, and_true]
      tauto

theorem nodup_foldl_announce {bits : List Nat} {params : WantParams} (once : (params.map Prod.fst).Nodup) :
    ((bits.foldl announce params).map Prod.fst).Nodup := by
  induction bits generalizing params with
  | nil => exact once
  | cons i bits ih => exact ih (nodup_setParam once _ _)

/-- The parameters of an event about the functions `f`. -/
structure EventNames (connected : Bool) (f : UInt32) (params : WantParams) : Prop where
  once : (params.map Prod.fst).Nodup
  carried : ∀ name value, (name, value) ∈ params ↔
    name = connectedKey ∧ value = connected ∨
      value = true ∧ ∃ bits, (name, bits) ∈ functionMappingN2C ∧ f &&& bits ≠ 0
  no_none : f ≠ 0 → functionNameNone ∉ params.map Prod.fst

section Event

variable {f : UInt32}

def bitsOf (f : UInt32) : List Nat := (List.range' 0 32).filter (hasBit f)

theorem mem_bitsOf {i : Nat} : i ∈ bitsOf f ↔ i < 32 ∧ f &&& bitAt i ≠ 0 := by
  rw [bitsOf, List.mem_filter, List.mem_range'_1, and_bitAt]
  by_cases bound : i < 32
  · have nonzero := bitAt_ne_zero bound
    simp [bound, nonzero]
  · simp [bound]

theorem broadcastParams_eq (connected : Bool) (f : UInt32) :
    broadcastParams connected f = some ((bitsOf f).foldl announce (setParam [] connectedKey connected)) := by
  have loop := @functionParams_eq 32 0 rfl f (fun j below => absurd below (Nat.not_lt_zero j))
    (setParam [] connectedKey connected)
  rw [show bitAt 0 = 1 by decide] at loop
  exact loop

/-- The single functions are announced under their own names. -/
theorem announced_mem {i : Nat} (bound : i < 32) (known : functionNamed &&& bitAt i ≠ 0)
    (other : usbFunctionDevmodeAuth ≠ bitAt i) : (convertToString (bitAt i), bitAt i) ∈ functionMappingN2C := by
  have all : ∀ i : Fin 32, functionNamed &&& bitAt i ≠ 0 → usbFunctionDevmodeAuth ≠ bitAt i →
      (convertToString (bitAt i), bitAt i) ∈ functionMappingN2C := by
    decide
  exact all ⟨i, bound⟩ known other

theorem mem_announced {name : Name} {bits : UInt32} (entry : (name, bits) ∈ functionMappingN2C) (nonzero : bits ≠ 0)
    (other : usbFunctionDevmodeAuth ≠ bits) : ∃ i < 32, bits = bitAt i ∧ name = convertToString (bitAt i) := by
  have all : ∀ entry ∈ functionMappingN2C, entry.2 ≠ 0 → usbFunctionDevmodeAuth ≠ entry.2 →
      ∃ i : Fin 32, entry.2 = bitAt i ∧ entry.1 = convertToString (bitAt i) := by
    decide
  obtain ⟨i, single, own⟩ := all _ entry nonzero other
  exact ⟨i, i.isLt, single, own⟩

theorem bit_named (named : f &&& functionNamed = f) {i : Nat} (set : f &&& bitAt i ≠ 0) :
    functionNamed &&& bitAt i ≠ 0 := by
  intro unknown
  rw [← named, UInt32.and_assoc, unknown, UInt32.and_zero] at set
  exact set rfl

/-- A mask with the authentication is announced as no function. -/
theorem none_announced (auth : f &&& usbFunctionDevmodeAuth ≠ 0) (params : WantParams) :
    functionNameNone ∈ ((bitsOf f).foldl announce params).map Prod.fst := by
  refine List.mem_map.2 ⟨(functionNameNone, true), mem_foldl_announce.2 (.inl ⟨rfl, 12, ?_, by decide⟩), rfl⟩
  refine mem_bitsOf.2 ⟨by decide, ?_⟩
  rw [show bitAt 12 = usbFunctionDevmodeAuth by decide]
  exact auth

theorem eventNames_of_clear (named : f &&& functionNamed = f) (clear : f &&& usbFunctionDevmodeAuth = 0)
    (connected : Bool) :
    EventNames connected f ((bitsOf f).foldl announce (setParam [] connectedKey connected)) := by
  have other (bits : UInt32) (set : f &&& bits ≠ 0) : usbFunctionDevmodeAuth ≠ bits := by
    rintro rfl
    exact set clear
  -- the names in the event are those of the table whose bits are set
  have own (name : Name) : (∃ i ∈ bitsOf f, name = convertToString (bitAt i)) ↔
      ∃ bits, (name, bits) ∈ functionMappingN2C ∧ f &&& bits ≠ 0 := by
    constructor
    · rintro ⟨i, member, rfl⟩
      obtain ⟨bound, set⟩ := mem_bitsOf.1 member
      exact ⟨bitAt i, announced_mem bound (bit_named named set) (other _ set), set⟩
    · rintro ⟨bits, entry, set⟩
      have nonzero : bits ≠ 0 := by
        rintro rfl
        exact set UInt32.and_zero
      obtain ⟨i, bound, rfl, same⟩ := mem_announced entry nonzero (other bits set)
      exact ⟨i, mem_bitsOf.2 ⟨bound, set⟩, same⟩
  have apart : ∀ entry ∈ functionMappingN2C, connectedKey ≠ entry.1 := by decide
  have distinct : ∀ entry ∈ functionMappingN2C, functionNameNone = entry.1 → entry.2 = 0 := by decide
  have carried (name : Name) (value : Bool) :
      (name, value) ∈ (bitsOf f).foldl announce (setParam [] connectedKey connected) ↔
        name = connectedKey ∧ value = connected ∨
          value = true ∧ ∃ bits, (name, bits) ∈ functionMappingN2C ∧ f &&& bits ≠ 0 := by
    rw [mem_foldl_announce, own, mem_setParam]
    constructor
    · rintro (function | ⟨-, key | ⟨-, none⟩⟩)
      · exact .inr function
      · exact .inl key
      · cases none
    · rintro (⟨rfl, same⟩ | function)
      · refine .inr ⟨fun i member taken => ?_, .inl ⟨rfl, same⟩⟩
        obtain ⟨bits, entry, -⟩ := (own connectedKey).1 ⟨i, member, taken⟩
        exact apart _ entry rfl
      · exact .inl function
  refine ⟨nodup_foldl_announce (by simp [setParam]), carried, fun _ member => ?_⟩
  obtain ⟨⟨name, value⟩, carries, rfl⟩ := List.mem_map.1 member
  rcases (carried _ _).1 carries with ⟨key, -⟩ | ⟨-, bits, entry, set⟩
  · exact absurd key (by decide)
  · have zero : bits = 0 := distinct _ entry rfl
    rw [zero, UInt32.and_zero] at set
    exact set rfl

theorem eventNames_iff (named : f &&& functionNamed = f) (connected : Bool) :
    (∃ params, broadcastParams connected f = some params ∧ EventNames connected f params) ↔
      f &&& usbFunctionDevmodeAuth = 0 := by
  constructor
  · rintro ⟨params, sent, names⟩
    by_contra auth
    rw [broadcastParams_eq] at sent
    obtain rfl := Option.some.inj sent
    refine names.no_none ?_ (none_announced auth _)
    rintro rfl
    exact auth UInt32.zero_and
  · intro clear
    exact ⟨_, broadcastParams_eq connected f, eventNames_of_clear named clear connected⟩

end Event

/-- A string that `ConvertFromString` accepts as `f` is written and announced as `f` exactly if the
authentication is not among its names. -/
theorem function_names_survive {strFun : Name} {f : UInt32} (accepted : convertFromString strFun = .ok f) :
    (convertFromString (convertToString f) = .ok f ∧
      ∀ connected, ∃ params, broadcastParams connected f = some params ∧ EventNames connected f params) ↔
      functionNameDevmodeAuth ∉ modeStrings strFun := by
  have ne : strFun ≠ [] := by
    rintro rfl
    cases accepted
  rw [convertFromString_eq ne] at accepted
  have named := named_of_convertNames accepted UInt32.zero_and
  have auth := auth_of_convertNames accepted
  rw [UInt32.zero_and] at auth
  have condition : f &&& usbFunctionDevmodeAuth = 0 ↔ functionNameDevmodeAuth ∉ modeStrings strFun :=
    auth.trans ⟨fun both => both.2, fun absent => ⟨rfl, absent⟩⟩
  rw [roundtrip_iff named, ← condition]
  constructor
  · rintro ⟨clear, -⟩
    exact clear
  · intro clear
    exact ⟨clear, fun connected => (eventNames_iff named connected).2 clear⟩

theorem function_names_survive_hdc_mtp :
    convertFromString ['h', 'd', 'c', ',', 'm', 't', 'p'] = .ok (usbFunctionHdc ||| usbFunctionMtp) ∧
      convertFromString (convertToString (usbFunctionHdc ||| usbFunctionMtp)) =
        .ok (usbFunctionHdc ||| usbFunctionMtp) := by
  have split : modeStrings ['h', 'd', 'c', ',', 'm', 't', 'p'] = [['h', 'd', 'c'], ['m', 't', 'p']] :=
    by
    rw [← modeStrings_intercalate (show ∀ item ∈ [['h', 'd', 'c'], ['m', 't', 'p']], item ≠ [] by decide) (by decide)]
    rfl
  have accepted : convertFromString ['h', 'd', 'c', ',', 'm', 't', 'p'] = .ok (usbFunctionHdc ||| usbFunctionMtp) := by
    rw [convertFromString_eq (by decide), split]
    rfl
  exact ⟨accepted, ((function_names_survive accepted).2 (by rw [split]; decide)).1⟩

/-- "devmode_auth" is accepted, written as "none", read back as no function, and announced as "none". -/
theorem devmode_auth_lost :
    convertFromString functionNameDevmodeAuth = .ok usbFunctionDevmodeAuth ∧
      convertToString usbFunctionDevmodeAuth = functionNameNone ∧
      convertFromString (convertToString usbFunctionDevmodeAuth) = .ok 0 ∧
      broadcastParams true usbFunctionDevmodeAuth = some [(functionNameNone, true), (connectedKey, true)] := by
  refine ⟨?_, by decide, by decide, by decide⟩
  rw [convertFromString_eq (by decide), modeStrings_single (by decide) (by decide)]
  rfl

end UsbManager.Gadget
