/-!
Binary floating-point numbers of 64 bits, kept as their bits. Equality is that of numbers: not a
number differs from everything, itself included, and the two zeros are equal. It is symmetric
and transitive, and reflexive exactly off not-a-number.
-/

namespace ChartLint

structure Binary64 where
  bits : UInt64
deriving Repr

structure Decimal where
  negative : Bool
  digits : Nat
  exponent : Int
deriving DecidableEq, Repr

namespace Binary64

def zero : Binary64 := ⟨0⟩

def isNegative (number : Binary64) : Bool := decide (Nat.pow 2 63 ≤ number.bits.toNat)

def storedExponent (number : Binary64) : Nat := number.bits.toNat / Nat.pow 2 52 % Nat.pow 2 11

def fraction (number : Binary64) : Nat := number.bits.toNat % Nat.pow 2 52

def isNaN (number : Binary64) : Bool := number.storedExponent == 2047 && number.fraction != 0

def isInfinite (number : Binary64) : Bool := number.storedExponent == 2047 && number.fraction == 0

def isZero (number : Binary64) : Bool := number.storedExponent == 0 && number.fraction == 0

instance : BEq Binary64 where
  beq first second :=
    !first.isNaN && !second.isNaN &&
      (first.bits == second.bits || (first.isZero && second.isZero))

theorem beq_def (first second : Binary64) :
    (first == second) = (!first.isNaN && !second.isNaN &&
      (first.bits == second.bits || (first.isZero && second.isZero))) := rfl

/-- A number equals itself unless it is not a number. -/
theorem beq_self (number : Binary64) : (number == number) = !number.isNaN := by
  simp [beq_def]

theorem beq_symm {first second : Binary64} (same : (first == second) = true) :
    (second == first) = true := by
  simp only [beq_def, Bool.and_eq_true, Bool.or_eq_true, beq_iff_eq] at same ⊢
  exact ⟨⟨same.1.2, same.1.1⟩, same.2.imp Eq.symm And.symm⟩

theorem isZero_of_bits {first second : Binary64} (same : first.bits = second.bits) :
    first.isZero = second.isZero := by
  simp only [isZero, storedExponent, fraction, same]

theorem beq_trans {first second third : Binary64} (left : (first == second) = true)
    (right : (second == third) = true) : (first == third) = true := by
  simp only [beq_def, Bool.and_eq_true, Bool.or_eq_true, beq_iff_eq] at left right ⊢
  refine ⟨⟨left.1.1, right.1.2⟩, ?_⟩
  rcases left.2 with same | zeros
  · rcases right.2 with next | ends
    · exact .inl (same.trans next)
    · exact .inr ⟨(isZero_of_bits same).trans ends.1, ends.2⟩
  · rcases right.2 with next | ends
    · exact .inr ⟨zeros.1, (isZero_of_bits next).symm.trans zeros.2⟩
    · exact .inr ⟨zeros.1, ends.2⟩

theorem beq_congr {first second left right : Binary64} (same : (first == second) = true)
    (other : (left == right) = true) : (first == left) = (second == right) := by
  rw [Bool.eq_iff_iff]
  constructor
  · intro equal
    exact beq_trans (beq_trans (beq_symm same) equal) other
  · intro equal
    exact beq_trans (beq_trans same equal) (beq_symm other)

def infinityBits : UInt64 := 0x7FF0000000000000

/-- The bits of the number nearest to `digits * 10 ^ exponent`, to even at a tie. A number of
more than 310 places before the point is past every finite number and one that starts more than
330 places after it is below half the least, so no power of ten grows with the exponent. -/
def nearestBits (digits : Nat) (exponent : Int) : UInt64 :=
  let places := (Nat.toDigits 10 digits).length + exponent
  if digits = 0 then 0
  else if 310 < places then infinityBits
  else if places < -330 then 0
  else (Float.ofScientific digits (decide (exponent < 0)) exponent.natAbs).toBits

def ofDecimal (decimal : Decimal) : Binary64 :=
  let magnitude := nearestBits decimal.digits decimal.exponent
  ⟨if decimal.negative then magnitude ||| 0x8000000000000000 else magnitude⟩

end Binary64

end ChartLint
