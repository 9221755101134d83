import Mathlib.Algebra.Group.Nat.Defs

/-! # Unsigned arithmetic, wrapping and exact

A program over unsigned words is written once, over the operations it uses. Run with
operations that wrap around it is the machine's program; run with operations that refuse a
result no word has, it shows whether the machine ever wraps around.
-/

namespace Arithmetic

variable {w : Nat} {left right : BitVec w}

/-- The operations on words of one width that may wrap around. -/
structure Operations (w : Nat) (m : Type → Type) where
  add : BitVec w → BitVec w → m (BitVec w)
  sub : BitVec w → BitVec w → m (BitVec w)
  mul : BitVec w → BitVec w → m (BitVec w)

/-- Operations modulo the number of words. -/
def wrapping (w : Nat) : Operations w Id where
  add := fun left right => left + right
  sub := fun left right => left - right
  mul := fun left right => left * right

/-- Operations that have a result only when it is the one of the integers. -/
def exact (w : Nat) : Operations w Option where
  add := fun left right =>
    if left.toNat + right.toNat < 2 ^ w then some (left + right) else none
  sub := fun left right => if right.toNat ≤ left.toNat then some (left - right) else none
  mul := fun left right =>
    if left.toNat * right.toNat < 2 ^ w then some (left * right) else none

/-- A sum below the number of words is exact, and the wrapping sum is the sum. -/
theorem exact_add (fits : left.toNat + right.toNat < 2 ^ w) :
    (exact w).add left right = some (left + right) ∧
      (left + right).toNat = left.toNat + right.toNat :=
  ⟨if_pos fits, by rw [BitVec.toNat_add, Nat.mod_eq_of_lt fits]⟩

/-- A difference that is not negative is exact. -/
theorem exact_sub (ordered : right.toNat ≤ left.toNat) :
    (exact w).sub left right = some (left - right) ∧
      (left - right).toNat = left.toNat - right.toNat :=
  ⟨if_pos ordered, BitVec.toNat_sub_of_le (BitVec.le_def.mpr ordered)⟩

/-- A product below the number of words is exact. -/
theorem exact_mul (fits : left.toNat * right.toNat < 2 ^ w) :
    (exact w).mul left right = some (left * right) ∧
      (left * right).toNat = left.toNat * right.toNat :=
  ⟨if_pos fits, by rw [BitVec.toNat_mul, Nat.mod_eq_of_lt fits]⟩

end Arithmetic
