import ChartLint.Binary64.Basic

/-!
The fewest decimal digits that read back as a given number. A finite number is the nearest one
for every real in a small interval around it; the digits are searched on ever finer grids until
one of the value's two neighbours on the grid lies in that interval.
-/

namespace ChartLint.Binary64

def significand (number : Binary64) : Nat :=
  if number.storedExponent = 0 then number.fraction else Nat.pow 2 52 + number.fraction

def scale (number : Binary64) : Int :=
  if number.storedExponent = 0 then -1074 else number.storedExponent - 1075

/-- A positive value and the ends of the interval that reads back as it, as numerators over one
denominator. The ends belong to the interval when the significand is even. -/
structure Surroundings where
  lower : Nat
  value : Nat
  upper : Nat
  denominator : Nat
  closed : Bool

/-- The interval reaches halfway to either neighbour. Below a power of two the neighbour is half
as far away as the one above it. -/
def surroundings (number : Binary64) : Surroundings :=
  let power := Nat.pow 2 number.scale.toNat
  let narrow := number.fraction = 0 ∧ 1 < number.storedExponent
  { lower := (4 * number.significand - if narrow then 1 else 2) * power
    value := 4 * number.significand * power
    upper := (4 * number.significand + 2) * power
    denominator := 4 * Nat.pow 2 (-number.scale).toNat
    closed := number.significand % 2 == 0 }

namespace Surroundings

def readsBack (around : Surroundings) (digits : Nat) (exponent : Int) : Bool :=
  let decimal := digits * Nat.pow 10 exponent.toNat * around.denominator
  let unit := Nat.pow 10 (-exponent).toNat
  if around.closed then
    decide (around.lower * unit ≤ decimal) && decide (decimal ≤ around.upper * unit)
  else
    decide (around.lower * unit < decimal) && decide (decimal < around.upper * unit)

def magnitude (around : Surroundings) : Int :=
  let places (number : Nat) : Int := (Nat.toDigits 10 number).length
  let guess := places around.value - places around.denominator
  if around.value * Nat.pow 10 (-guess).toNat < Nat.pow 10 guess.toNat * around.denominator then guess
  else guess + 1

end Surroundings

inductive Tie where
  | toEven
  | upward
deriving DecidableEq, Repr

namespace Surroundings

/-- The neighbour of the value on the grid `10 ^ exponent` that reads back; the nearer one when
both do. -/
def onGrid? (around : Surroundings) (tie : Tie) (exponent : Int) : Option Nat :=
  let unit := Nat.pow 10 (-exponent).toNat
  let step := Nat.pow 10 exponent.toNat * around.denominator
  let below := around.value * unit / step
  match around.readsBack below exponent, around.readsBack (below + 1) exponent with
  | false, false => none
  | true, false => some below
  | false, true => some (below + 1)
  | true, true =>
    match compare (2 * around.value * unit) ((2 * below + 1) * step) with
    | .lt => some below
    | .gt => some (below + 1)
    | .eq =>
      match tie with
      | .upward => some (below + 1)
      | .toEven => some (if below % 2 = 0 then below else below + 1)

def search (around : Surroundings) (tie : Tie) : Nat → Int → Option (Nat × Int)
  | 0, _ => none
  | grids + 1, exponent =>
    match around.onGrid? tie exponent with
    | some digits => some (digits, exponent)
    | none => around.search tie grids (exponent - 1)

end Surroundings

def stripZeros : Nat → Nat × Int → Nat × Int
  | 0, decimal => decimal
  | zeros + 1, (digits, exponent) =>
    if digits % 10 = 0 then stripZeros zeros (digits / 10, exponent + 1) else (digits, exponent)

def exactDecimal (number : Binary64) : Nat × Int :=
  if 0 ≤ number.scale then (number.significand * Nat.pow 2 number.scale.toNat, 0)
  else (number.significand * Nat.pow 5 (-number.scale).toNat, number.scale)

/-- The shortest digits of a finite number other than zero, and the power of ten they are
multiplied by. Seventeen digits are enough for any number; should none of the grids do, the
value is given in full. -/
def shortest (tie : Tie) (number : Binary64) : Nat × Int :=
  let around := number.surroundings
  match around.search tie 17 (around.magnitude - 1) with
  | some decimal => stripZeros 17 decimal
  | none => number.exactDecimal

end ChartLint.Binary64
