/-
# Fields of a word

A word that packs several numbers, each in bits of its own.  A field is read by a mask and a shift,
as such code does, or by a division and a remainder, as proofs do; `and_mask` says that it is the
same.  Words packed from fields that fit are sums, so that what they were packed from can be read
back by arithmetic.
-/
import Mathlib

namespace Base

/-- The `width` bits of the word from bit `low` on. -/
def field (low width word : Nat) : Nat := (word >>> low) % 2 ^ width

/-- The mask of a field leaves the field where it is. -/
theorem and_mask (low width word : Nat) :
    word &&& ((2 ^ width - 1) <<< low) = field low width word <<< low := by
  refine Nat.eq_of_testBit_eq fun i => ?_
  simp only [field]
  by_cases hlow : low ≤ i
  · simp [hlow, Bool.and_comm]
  · simp [hlow]

end Base
