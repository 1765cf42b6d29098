import Mathlib.Data.String.Basic
import UsbManager.Device.Json

/-!
# JavaScript values

What `NapiUtil` reads of a JavaScript value and writes into one. The numbers of the engine and its
conversions are parameters: an `Engine` with what its documentation promises of them. A reader leaves
its result alone if the object has no such property, and throws, with this message, if the property is
of another type; `Except.error` is the first exception that is thrown.
-/

namespace UsbManager.Napi

open Parcel

/-- A value, as far as the bindings tell values apart. -/
inductive JsValue (Number : Type) where
  | boolean (value : Bool)
  | number (value : Number)
  | string (value : String)
  | object (properties : List (String × JsValue Number))
  | array (elements : List (JsValue Number))
  | other

/-- The conversions of the engine; `getValueStringUtf8` fills a buffer of the given size. -/
structure Engine (Number : Type) where
  createInt32 : Int → Number
  createUint32 : UInt32 → Number
  getValueInt32 : Number → Int
  getValueStringUtf8 : String → Nat → String

variable {Number : Type}

/-- What the engine promises: a number is read as its lower 32 bits, and a text that does not fit into
the buffer with its terminating NUL is cut. -/
structure Engine.Documented (e : Engine Number) : Prop where
  int32 : ∀ {n}, IsInt32 n → e.getValueInt32 (e.createInt32 n) = n
  uint32 : ∀ n, e.getValueInt32 (e.createUint32 n) = intOfUint32 n
  fits : ∀ {text size}, text.utf8ByteSize < size → e.getValueStringUtf8 text size = text
  terminated : ∀ text size, 0 < size → (e.getValueStringUtf8 text size).utf8ByteSize < size

namespace JsValue

/-- `napi_object` is the type of arrays too. -/
def isObject : JsValue Number → Bool
  | object _ | array _ => true
  | _ => false

/-- The property that `napi_has_named_property` finds; none of the names is a property of an array. -/
def namedProperty (value : JsValue Number) (fieldStr : String) : Option (JsValue Number) :=
  match value with
  | object properties => properties.lookup fieldStr
  | _ => none

/-- The elements below `napi_get_array_length`, which leaves the length `0` for what is no array. -/
def elements : JsValue Number → List (JsValue Number)
  | array elements => elements
  | _ => []

@[simp] theorem namedProperty_cons (fieldStr name : String) (value : JsValue Number)
    (properties : List (String × JsValue Number)) :
    (object ((name, value) :: properties)).namedProperty fieldStr =
      if fieldStr = name then some value else (object properties).namedProperty fieldStr := by
  rw [namedProperty, namedProperty, List.lookup_cons]
  by_cases same : fieldStr = name
  · simp [same]
  · rw [if_neg same, beq_eq_false_iff_ne.2 same]

@[simp] theorem elements_array (elements : List (JsValue Number)) : (array elements).elements = elements := rfl

@[simp] theorem isObject_object (properties : List (String × JsValue Number)) : (object properties).isObject = true :=
  rfl

@[simp] theorem isObject_array (elements : List (JsValue Number)) : (array elements).isObject = true := rfl

end JsValue

/-! ## The readers and writers -/

namespace NapiUtil

section

variable (e : Engine Number) (object : JsValue Number) (fieldStr : String)

/-- The property of that name as a value of the named type. -/
def property {α : Type} (fieldRef : α) (type : String) (value : JsValue Number → Option α) : Except String α :=
  match object.namedProperty fieldStr with
  | none => .ok fieldRef
  | some field =>
    match value field with
    | some result => .ok result
    | none => .error ("The type of " ++ fieldStr ++ " must be " ++ type ++ ".")

def jsObjectToString (bufLen : Nat) (fieldRef : String) : Except String String :=
  property object fieldStr fieldRef "string" fun
    | .string field => some (cStr (e.getValueStringUtf8 field (bufLen + 1)))
    | _ => none

def jsObjectToBool (fieldRef : Bool) : Except String Bool :=
  property object fieldStr fieldRef "boolean" fun
    | .boolean field => some field
    | _ => none

def jsObjectToInt (fieldRef : Int) : Except String Int :=
  property object fieldStr fieldRef "number" fun
    | .number field => some (e.getValueInt32 field)
    | _ => none

end

/-- `SetValueUtf8String`, which passes on what C sees of the string. -/
def setValueUtf8String (str : String) : JsValue Number := .string (cStr str)

def setValueInt32 (e : Engine Number) (intValue : Int) : JsValue Number := .number (e.createInt32 intValue)

def setValueUint32 (e : Engine Number) (uintValue : UInt32) : JsValue Number := .number (e.createUint32 uintValue)

def setValueBool (boolValue : Bool) : JsValue Number := .boolean boolValue

end NapiUtil

/-! ## What comes back -/

/-- A text that goes to JavaScript and is read back into a buffer for `bufLen` bytes. -/
def Engine.text (e : Engine Number) (bufLen : Nat) (str : String) : String :=
  cStr (e.getValueStringUtf8 (cStr str) (bufLen + 1))

theorem nulFree_cStr (str : String) : NulFree (cStr str) := by
  unfold NulFree cStr
  rw [String.toList_ofList]
  intro nul
  simpa using List.mem_takeWhile_imp nul

theorem nulFree_append {s t : String} (first : NulFree s) (second : NulFree t) : NulFree (s ++ t) := by
  simpa [NulFree] using ⟨first, second⟩

theorem utf8ByteSize_cStr_le (str : String) : (cStr str).utf8ByteSize ≤ str.utf8ByteSize := by
  rw [cStr, String.utf8ByteSize_ofList, ← String.utf8Len_toList]
  exact String.utf8Len_le_of_prefix (List.takeWhile_prefix _)

section Documented

variable {e : Engine Number} (doc : e.Documented)

include doc

/-- A text comes back if C can read all of it and it fits into the buffer. -/
theorem text_eq_iff {bufLen : Nat} {str : String} :
    e.text bufLen str = str ↔ NulFree str ∧ str.utf8ByteSize ≤ bufLen := by
  unfold Engine.text
  constructor
  · intro same
    have terminated := doc.terminated (cStr str) (bufLen + 1) (Nat.succ_pos bufLen)
    have short := utf8ByteSize_cStr_le (e.getValueStringUtf8 (cStr str) (bufLen + 1))
    have free := nulFree_cStr (e.getValueStringUtf8 (cStr str) (bufLen + 1))
    rw [same] at short free
    exact ⟨free, by omega⟩
  · rintro ⟨free, short⟩
    rw [cStr_eq free, doc.fits (Nat.lt_succ_of_le short), cStr_eq free]

end Documented

/-! ## An engine -/

/-- The first characters that together take no more bytes than there is room. -/
def firstBytes : Nat → List Char → List Char
  | _, [] => []
  | room, char :: rest => if char.utf8Size ≤ room then char :: firstBytes (room - char.utf8Size) rest else []

theorem firstBytes_eq {room : Nat} {text : List Char} (fits : String.utf8Len text ≤ room) :
    firstBytes room text = text := by
  induction text generalizing room with
  | nil => rfl
  | cons char rest ih =>
    rw [String.utf8Len_cons] at fits
    rw [firstBytes, if_pos (by omega), ih (by omega)]

theorem utf8Len_firstBytes (room : Nat) (text : List Char) : String.utf8Len (firstBytes room text) ≤ room := by
  induction text generalizing room with
  | nil => exact Nat.zero_le _
  | cons char rest ih =>
    rw [firstBytes]
    split
    · have := ih (room - char.utf8Size)
      rw [String.utf8Len_cons]
      omega
    · exact Nat.zero_le _

/-- An engine whose numbers are the integers. -/
def integers : Engine Int where
  createInt32 n := n
  createUint32 n := n.toNat
  getValueInt32 n := intOfUint32 (uint32OfInt n)
  getValueStringUtf8 text size := .ofList (firstBytes (size - 1) text.toList)

theorem integers_documented : integers.Documented where
  int32 range := intOfUint32_uint32OfInt range
  uint32 n := by
    show (BitVec.ofInt 32 (n.toBitVec.toNat : Int)).toInt = n.toBitVec.toInt
    rw [BitVec.ofInt_natCast, BitVec.ofNat_toNat, BitVec.setWidth_eq]
  fits {text size} fits := by
    show String.ofList (firstBytes (size - 1) text.toList) = text
    rw [firstBytes_eq (by rw [String.utf8Len_toList]; omega), String.ofList_toList]
  terminated text size some := by
    show (String.ofList (firstBytes (size - 1) text.toList)).utf8ByteSize < size
    have := utf8Len_firstBytes (size - 1) text.toList
    rw [String.utf8ByteSize_ofList]
    omega

end UsbManager.Napi
