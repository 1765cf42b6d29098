import Mathlib.Data.List.GetD

/-!
# Streams of length-prefixed frames

A frame is a byte string of at least two bytes whose first byte is its length. A stream is cut into
frames as long as a whole one stands at the front, and what is left is its tail.
-/

namespace Framing

/-- The first byte of `bytes`, or `0`. -/
def declaredLength (bytes : List UInt8) : Nat := (bytes.getD 0 0).toNat

def Framed (frame : List UInt8) : Prop := 2 ≤ frame.length ∧ declaredLength frame = frame.length

/-- No whole frame stands at the front: the header is truncated, or the declared length is shorter
than a header or longer than what is left. -/
def Stops (tail : List UInt8) : Prop :=
  tail.length < 2 ∨ declaredLength tail < 2 ∨ tail.length < declaredLength tail

structure IsChain (bytes : List UInt8) (frames : List (List UInt8)) (tail : List UInt8) : Prop where
  bytes_eq : bytes = frames.flatten ++ tail
  framed : ∀ frame ∈ frames, Framed frame
  stops : Stops tail

theorem declaredLength_append {frame : List UInt8} (rest : List UInt8) (nonempty : 0 < frame.length) :
    declaredLength (frame ++ rest) = declaredLength frame := by
  rw [declaredLength, declaredLength, List.getD_append _ _ _ _ nonempty]

/-- Every stream has a chain of frames. -/
theorem exists_chain (bytes : List UInt8) : ∃ frames tail, IsChain bytes frames tail := by
  induction hn : bytes.length using Nat.strongRecOn generalizing bytes with
  | _ n ih =>
    subst hn
    by_cases stops : Stops bytes
    · exact ⟨[], bytes, rfl, nofun, stops⟩
    · simp only [Stops, not_or, Nat.not_lt] at stops
      obtain ⟨-, two, fits⟩ := stops
      have shorter : (bytes.drop (declaredLength bytes)).length < bytes.length := by
        rw [List.length_drop]
        omega
      obtain ⟨frames, tail, chain⟩ := ih _ shorter _ rfl
      have cut : (bytes.take (declaredLength bytes)).length = declaredLength bytes := by
        rw [List.length_take]
        omega
      refine ⟨bytes.take (declaredLength bytes) :: frames, tail, ?_, ?_, chain.stops⟩
      · rw [List.flatten_cons, List.append_assoc, ← chain.bytes_eq, List.take_append_drop]
      · intro frame member
        rcases List.mem_cons.1 member with rfl | member
        · have same := declaredLength_append (bytes.drop (declaredLength bytes))
            (show 0 < (bytes.take (declaredLength bytes)).length by omega)
          rw [List.take_append_drop] at same
          exact ⟨by omega, by rw [← same, cut]⟩
        · exact chain.framed frame member

theorem IsChain.tail {bytes frame : List UInt8} {frames : List (List UInt8)} {tail : List UInt8}
    (chain : IsChain bytes (frame :: frames) tail) : IsChain (bytes.drop frame.length) frames tail := by
  refine ⟨?_, fun f member => chain.framed f (List.mem_cons_of_mem _ member), chain.stops⟩
  rw [chain.bytes_eq, List.flatten_cons, List.append_assoc, List.drop_left]

end Framing
