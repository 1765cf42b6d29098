import Mathlib.Algebra.Group.Int.Defs
import Mathlib.Algebra.Group.Nat.Defs
import Mathlib.Data.List.Basic

/-!
# JSON trees

The trees of a C library for JSON and its accessors. A lookup in an object ignores the case of the key
and takes the first match; the accessor of a number saturates at the range of an `int`. All accessors
take a null pointer, which is `none`. Printing and parsing are parameters, a `Codec`.
-/

namespace UsbManager

inductive Json where
  | number (value : Int)
  | string (value : String)
  | bool (value : Bool)
  | array (items : List Json)
  | object (members : List (String × Json))

namespace Json

def sameKey (a b : String) : Bool := a.toList.map Char.toLower == b.toList.map Char.toLower

/-- `cJSON_GetObjectItem`. -/
def getObjectItem (item : Option Json) (key : String) : Option Json :=
  match item with
  | some (.object members) => (members.find? fun member => sameKey member.1 key).map (·.2)
  | _ => none

/-- The items that `cJSON_GetArrayItem` gives below `cJSON_GetArraySize`. -/
def getArrayItems (item : Option Json) : List Json :=
  match item with
  | some (.array items) => items
  | some (.object members) => members.map (·.2)
  | _ => []

/-- The `valueint` of a number. -/
def valueInt (value : Int) : Int := max (-2 ^ 31) (min (2 ^ 31 - 1) value)

/-- The number of that key, or `0`. -/
def getIntValue (jsonObject : Option Json) (key : String) : Int :=
  match getObjectItem jsonObject key with
  | some (.number value) => valueInt value
  | _ => 0

/-- The string of that key, or the empty one. -/
def getStringValue (jsonObject : Option Json) (key : String) : String :=
  match getObjectItem jsonObject key with
  | some (.string value) => value
  | _ => ""

@[simp] theorem getObjectItem_cons (key name : String) (value : Json) (members : List (String × Json)) :
    getObjectItem (some (.object ((name, value) :: members))) key =
      if sameKey name key then some value else getObjectItem (some (.object members)) key := by
  simp only [getObjectItem, List.find?_cons]
  cases sameKey name key <;> rfl

@[simp] theorem getArrayItems_array (items : List Json) : getArrayItems (some (.array items)) = items := rfl

theorem valueInt_eq {value : Int} (low : -2 ^ 31 ≤ value) (high : value < 2 ^ 31) : valueInt value = value := by
  unfold valueInt
  omega

/-! ### Texts -/

/-- A printer and a parser. -/
structure Codec where
  print : Json → String
  parse : String → Option Json

/-- The tree is parsed back from its text. -/
def Codec.Faithful (c : Codec) (j : Json) : Prop := c.parse (c.print j) = some j

/-- The character in a quoted text. -/
def escape (char : Char) : List Char :=
  if char = '"' then ['\\', '"']
  else if char = '\\' then ['\\', '\\']
  else if char = '\x08' then ['\\', 'b']
  else if char = '\x0c' then ['\\', 'f']
  else if char = '\n' then ['\\', 'n']
  else if char = '\r' then ['\\', 'r']
  else if char = '\t' then ['\\', 't']
  else if char.toNat < 32 then ['\\', 'u', '0', '0', Nat.digitChar (char.toNat / 16), Nat.digitChar (char.toNat % 16)]
  else [char]

def quote (text : String) : List Char := '"' :: text.toList.flatMap escape ++ ['"']

mutual

/-- The text without blanks of `cJSON_PrintUnformatted`. -/
def unformatted : Json → List Char
  | .number value => (toString value).toList
  | .string value => quote value
  | .bool value => (toString value).toList
  | .array items => '[' :: unformattedItems items ++ [']']
  | .object members => '\x7b' :: unformattedMembers members ++ ['\x7d']

def unformattedItems : List Json → List Char
  | [] => []
  | [item] => unformatted item
  | item :: items => unformatted item ++ ',' :: unformattedItems items

def unformattedMembers : List (String × Json) → List Char
  | [] => []
  | [(key, value)] => quote key ++ ':' :: unformatted value
  | (key, value) :: members => quote key ++ ':' :: unformatted value ++ ',' :: unformattedMembers members

end

/-- A codec that prints the library's text, and that parses the texts of some trees. -/
def Codec.ofTrees (trees : List Json) : Codec where
  print j := .ofList (unformatted j)
  parse text := trees.find? fun j => unformatted j = text.toList

theorem Codec.ofTrees_faithful {trees : List Json} (distinct : (trees.map unformatted).Nodup) :
    ∀ j ∈ trees, (ofTrees trees).Faithful j := by
  intro j member
  unfold Faithful ofTrees
  dsimp only
  rw [String.toList_ofList]
  induction trees with
  | nil => cases member
  | cons first trees ih =>
    rw [List.map_cons, List.nodup_cons] at distinct
    rcases List.mem_cons.1 member with rfl | later
    · exact List.find?_cons_of_pos (by simp)
    · have other : unformatted first ≠ unformatted j := fun same =>
        distinct.1 (same ▸ List.mem_map_of_mem later)
      rw [List.find?_cons_of_neg (by simpa using other)]
      exact ih distinct.2 later

end Json

end UsbManager
