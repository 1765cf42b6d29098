import Mathlib.Algebra.GroupWithZero.Nat
import UsbManager.Lib.Parcel

/-!
# Messages of bounded size

A message is a parcel that is written word by word up to a capacity. A word that does not fit fails the
whole message. The receiver fails at the first word that is not of the type asked for.

`Writes m ws` says that the writer `m` adds the words `ws` if they fit, and fails otherwise; `Takes m ws a`
that the receiver `m` finds `a` in these words. Both follow the structure of the program.
-/

namespace Parcel

variable {α β : Type}

/-! ## Writers -/

/-- A program that adds words to a message, or fails it. -/
abbrev Writer := StateT (List Word) Option PUnit

section Writer

variable (size : Word → Nat) (capacity : Nat)

/-- The size of a message. -/
def total (words : List Word) : Nat := (words.map size).sum

/-- A word that does not fit fails the message. -/
def put (w : Word) : Writer := fun words =>
  if total size (words ++ [w]) ≤ capacity then some ((), words ++ [w]) else none

/-- The items of a list, one after the other. -/
def putMany (write : α → Writer) : List α → Writer
  | [] => pure ()
  | x :: xs => do
    write x
    putMany write xs

/-- The writer adds these words to a message within the capacity, or fails it if they do not fit. -/
def Writes (m : Writer) (added : List Word) : Prop :=
  ∀ words, total size words ≤ capacity →
    m words = if total size (words ++ added) ≤ capacity then some ((), words ++ added) else none

variable {size capacity} {m : Writer} {k : PUnit → Writer} {w : Word} {first rest : List Word}

theorem total_append {words words' : List Word} :
    total size (words ++ words') = total size words + total size words' := by
  simp [total]

/-- Nothing is written. -/
theorem Writes.pure : Writes size capacity (Pure.pure ()) [] := by
  intro words fits
  rw [List.append_nil, if_pos fits]
  rfl

theorem Writes.put (w : Word) : Writes size capacity (Parcel.put size capacity w) [w] := fun _ _ => rfl

/-- What is written is the words of both parts, and the whole fits exactly if each part does when it comes. -/
theorem Writes.bind (start : Writes size capacity m first) (next : Writes size capacity (k ()) rest) :
    Writes size capacity (m >>= k) (first ++ rest) := by
  intro words fits
  change (m words).bind _ = _
  rw [start words fits, ← List.append_assoc]
  split_ifs with half whole whole
  · exact (next _ half).trans (if_pos whole)
  · exact (next _ half).trans (if_neg whole)
  · rw [total_append] at whole
    omega
  · rfl

/-- A list is written as the images of its items. -/
theorem Writes.many {write : α → Writer} {image : α → List Word} (one : ∀ x, Writes size capacity (write x) (image x)) :
    ∀ xs : List α, Writes size capacity (putMany write xs) (xs.flatMap image)
  | [] => .pure
  | x :: xs => (one x).bind (many one xs)

end Writer

/-! ## Receivers -/

/-- A program that takes words from the front of a message, and yields what it has read. -/
abbrev Taker (α : Type) := StateT (List Word) Option α

/-- A word of another type fails. -/
def takeUint32 : Taker UInt32
  | .bits32 value :: rest => some (value, rest)
  | _ => none

/-- Likewise for a text. -/
def takeText : Taker String
  | .text value :: rest => some (value, rest)
  | _ => none

/-- A fixed number of items. -/
def takeMany : Nat → Taker α → Taker (List α)
  | 0, _ => pure []
  | n + 1, item => do
    let x ← item
    let xs ← takeMany n item
    pure (x :: xs)

/-- The receiver finds `a` in the words, whatever follows them. -/
def Takes (m : Taker α) (words : List Word) (a : α) : Prop := ∀ rest, m (words ++ rest) = some (a, rest)

section Taker

variable {m : Taker α} {f : α → Taker β} {words others : List Word} {a : α} {b : β}

theorem Takes.pure (a : α) : Takes (Pure.pure a) [] a := fun _ => rfl

/-- What follows is read from the words after those of the first part. -/
theorem Takes.bind (first : Takes m words a) (next : Takes (f a) others b) : Takes (m >>= f) (words ++ others) b := by
  intro rest
  change (m (words ++ others ++ rest)).bind _ = _
  rw [List.append_assoc, first]
  exact next rest

theorem Takes.map (first : Takes m words a) (g : α → β) : Takes (m >>= fun x => Pure.pure (g x)) words (g a) := by
  have both := first.bind (f := fun x => Pure.pure (g x)) (.pure (g a))
  rwa [List.append_nil] at both

theorem Takes.uint32 {f : UInt32 → Taker β} {value : UInt32} (next : Takes (f value) words b) :
    Takes (takeUint32 >>= f) (.bits32 value :: words) b := by
  have word : Takes takeUint32 [.bits32 value] value := fun _ => rfl
  exact word.bind next

/-- Items that are found in their images are found in the images of a list. -/
theorem Takes.many {item : Taker α} {image : α → List Word} (one : ∀ x, Takes item (image x) x) :
    ∀ xs : List α, Takes (takeMany xs.length item) (xs.flatMap image) xs
  | [] => .pure []
  | x :: xs => (one x).bind ((many one xs).map (x :: ·))

end Taker

end Parcel
