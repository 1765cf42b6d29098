import Mathlib.Algebra.Group.Int.Defs
import Mathlib.Algebra.Group.Nat.Defs
import Mathlib.Data.List.Basic

/-!
# Parcels

A parcel is a queue of typed words: what is written first is read first, and a signed and an unsigned
32-bit word share their bits. A read takes the front word if it has the type asked for; otherwise it
yields the type's default and takes nothing.

`Reads m ws a` says that the reader `m` yields `a` from a parcel that starts with the words `ws`, and
takes exactly these. Its rules follow the structure of a reader: a read and what comes after it, and
a loop that reads one item after the other.
-/

namespace Parcel

inductive Word where
  | bits8 (value : UInt8)
  | bits16 (value : UInt16)
  | bits32 (value : UInt32)
  | text (value : String)
  deriving DecidableEq, Repr

abbrev Reader (α : Type) := StateM (List Word) α

/-! ## Words -/

/-- The value of an `int32_t`. -/
def IsInt32 (value : Int) : Prop := -2 ^ 31 ≤ value ∧ value < 2 ^ 31

instance (value : Int) : Decidable (IsInt32 value) := inferInstanceAs (Decidable (_ ∧ _))

def uint32OfInt (value : Int) : UInt32 := .ofBitVec (.ofInt 32 value)

def intOfUint32 (bits : UInt32) : Int := bits.toBitVec.toInt

theorem intOfUint32_uint32OfInt {value : Int} (fits : IsInt32 value) : intOfUint32 (uint32OfInt value) = value := by
  obtain ⟨low, high⟩ := fits
  simp only [intOfUint32, uint32OfInt, BitVec.toInt_ofInt]
  exact Int.bmod_eq_of_le (by omega) (by omega)

def int32 (value : Int) : Word := .bits32 (uint32OfInt value)

/-- A truth value takes a 32-bit word. -/
def bool (value : Bool) : Word := .bits32 (if value then 1 else 0)

def boolOfUint32 (bits : UInt32) : Bool := bits ≠ 0

@[simp] theorem boolOfUint32_bool (value : Bool) : boolOfUint32 (if value then 1 else 0) = value := by
  cases value <;> decide

/-! ## Reads -/

def readUint8 : Reader UInt8 := fun
  | .bits8 value :: rest => (value, rest)
  | words => (0, words)

def readUint16 : Reader UInt16 := fun
  | .bits16 value :: rest => (value, rest)
  | words => (0, words)

def readUint32 : Reader UInt32 := fun
  | .bits32 value :: rest => (value, rest)
  | words => (0, words)

def readInt32 : Reader Int := do
  let bits ← readUint32
  pure (intOfUint32 bits)

def readString : Reader String := fun
  | .text value :: rest => (value, rest)
  | words => ("", words)

/-- The reads that say whether they took a word. -/
def tryReadUint32 : Reader (Option UInt32) := fun
  | .bits32 value :: rest => (some value, rest)
  | words => (none, words)

def tryReadInt32 : Reader (Option Int) := do
  let bits ← tryReadUint32
  pure (bits.map intOfUint32)

def tryReadBool : Reader (Option Bool) := do
  let bits ← tryReadUint32
  pure (bits.map boolOfUint32)

def readMany {α : Type} : Nat → Reader α → Reader (List α)
  | 0, _ => pure []
  | n + 1, item => do
    let first ← item
    let others ← readMany n item
    pure (first :: others)

/-! ## The words a reader takes -/

section Reads

variable {α β : Type}

def Reads (m : Reader α) (words : List Word) (value : α) : Prop := ∀ rest, m (words ++ rest) = (value, rest)

variable {m : Reader α} {f : α → Reader β} {words others : List Word} {a : α} {b : β}

theorem Reads.pure (value : α) : Reads (pure value) [] value := fun _ => rfl

theorem Reads.bind (first : Reads m words a) (next : Reads (f a) others b) :
    Reads (m >>= f) (words ++ others) b := by
  intro rest
  change (f (m (words ++ others ++ rest)).1) (m (words ++ others ++ rest)).2 = (b, rest)
  rw [List.append_assoc, first]
  exact next rest

theorem Reads.uint8 {f : UInt8 → Reader β} {value : UInt8} (next : Reads (f value) words b) :
    Reads (readUint8 >>= f) (.bits8 value :: words) b := by
  have word : Reads readUint8 [.bits8 value] value := fun _ => rfl
  exact word.bind next

theorem Reads.uint16 {f : UInt16 → Reader β} {value : UInt16} (next : Reads (f value) words b) :
    Reads (readUint16 >>= f) (.bits16 value :: words) b := by
  have word : Reads readUint16 [.bits16 value] value := fun _ => rfl
  exact word.bind next

theorem Reads.uint32 {f : UInt32 → Reader β} {value : UInt32} (next : Reads (f value) words b) :
    Reads (readUint32 >>= f) (.bits32 value :: words) b := by
  have word : Reads readUint32 [.bits32 value] value := fun _ => rfl
  exact word.bind next

theorem Reads.int32 {f : Int → Reader β} {value : Int} (fits : IsInt32 value) (next : Reads (f value) words b) :
    Reads (readInt32 >>= f) (Parcel.int32 value :: words) b := by
  have word : Reads readInt32 [Parcel.int32 value] value := fun rest => by
    change (intOfUint32 (uint32OfInt value), rest) = (value, rest)
    rw [intOfUint32_uint32OfInt fits]
  exact word.bind next

theorem Reads.string {f : String → Reader β} {value : String} (next : Reads (f value) words b) :
    Reads (readString >>= f) (.text value :: words) b := by
  have word : Reads readString [.text value] value := fun _ => rfl
  exact word.bind next

/-- A loop over items reads back what was written for them one after the other. -/
theorem Reads.many {item : Reader β} {write : α → List Word} {image : α → β} :
    ∀ {items : List α}, (∀ x ∈ items, Reads item (write x) (image x)) →
      Reads (readMany items.length item) (items.flatMap write) (items.map image) := by
  intro items
  induction items with
  | nil => exact fun _ => .pure []
  | cons x items ih =>
    intro each
    have first := each x (List.mem_cons_self ..)
    have others := ih fun y member => each y (List.mem_cons_of_mem _ member)
    have last : Reads (Pure.pure (image x :: items.map image) : Reader (List β)) [] _ := .pure _
    have all :=
      first.bind (f := fun y => readMany items.length item >>= fun ys => Pure.pure (y :: ys)) (others.bind last)
    rwa [List.append_nil] at all

end Reads

end Parcel
