import ChartLint.Binary64.Shortest

/-!
The written forms of a number. `Layout` holds what forms differ in: which way ties go and where
positional notation ends.
-/

namespace ChartLint.Binary64

structure Layout where
  tie : Tie
  /-- Whether a number whose first digit stands at this power of ten is written positionally. -/
  positional : Int → Bool

/-- Fewest digits, positional from `10^-5` up to `10^16`, an exponent with its sign beyond. -/
def Layout.compact : Layout :=
  ⟨.toEven, fun place => decide (-5 ≤ place) && decide (place ≤ 15)⟩

def Layout.plain : Layout := ⟨.upward, fun _ => true⟩

def positionalText (digits : List Char) (exponent : Int) : List Char :=
  let whole := digits.length + exponent
  if 0 ≤ exponent then digits ++ List.replicate exponent.toNat '0' ++ ['.', '0']
  else if 0 < whole then digits.take whole.toNat ++ '.' :: digits.drop whole.toNat
  else '0' :: '.' :: (List.replicate (-whole).toNat '0' ++ digits)

def scientificText (digits : List Char) (exponent : Int) : List Char :=
  let place := digits.length + exponent - 1
  let power := 'e' :: (if place < 0 then '-' else '+') :: Nat.toDigits 10 place.natAbs
  match digits with
  | [] => power
  | [digit] => digit :: power
  | first :: rest => first :: '.' :: (rest ++ power)

def magnitudeText (layout : Layout) (number : Binary64) : List Char :=
  if number.isZero then ['0', '.', '0']
  else
    let (digits, exponent) := number.shortest layout.tie
    let written := Nat.toDigits 10 digits
    if layout.positional (written.length + exponent - 1) then positionalText written exponent
    else scientificText written exponent

/-- The written form; the sign is kept on zero and left out for not-a-number. -/
def write (layout : Layout) (number : Binary64) : String :=
  if number.isNaN then "NaN"
  else
    let sign := if number.isNegative then ['-'] else []
    let magnitude := if number.isInfinite then ['i', 'n', 'f'] else number.magnitudeText layout
    String.ofList (sign ++ magnitude)

/-- Where the two layouts part, and which way a tie goes in each. -/
example :
    (ofDecimal ⟨false, 1, 16⟩).write .compact = "1e+16" ∧
    (ofDecimal ⟨false, 1, 16⟩).write .plain = "10000000000000000.0" ∧
    (ofDecimal ⟨true, 15, -7⟩).write .compact = "-1.5e-6" ∧
    (ofDecimal ⟨false, 298023223876953125, -25⟩).write .compact = "2.9802322387695312e-8" ∧
    (ofDecimal ⟨false, 298023223876953125, -25⟩).write .plain = "0.000000029802322387695313" := by
  decide +kernel

end ChartLint.Binary64
