import ChartLint.Binary64.Basic
import ChartLint.Keyed

/-!
JSON values. Members of an object stand in the order of their names, each name once, and a
number is an integer only when it was written as one and fits in 64 bits.
-/

namespace ChartLint.Json

inductive Value where
  | null
  | bool (value : Bool)
  | integer (number : Int)
  | float (number : Binary64)
  | string (text : String)
  | list (elements : List Value)
  | object (members : List (String × Value))
deriving Inhabited

namespace Value

/-- The object with the given members; of two with one name the later counts. -/
def ofMembers (members : List (String × Value)) : Value := .object (Keyed.ofList members)

/-- The value of an integer as it is written. Past the range of 64 bits it is a float, and so is
zero with a sign. -/
def ofInteger (negative : Bool) (magnitude : Nat) : Value :=
  if negative then
    if magnitude = 0 ∨ Nat.pow 2 63 < magnitude then .float (.ofDecimal ⟨true, magnitude, 0⟩)
    else .integer (-magnitude)
  else if magnitude < Nat.pow 2 64 then .integer magnitude
  else .float (.ofDecimal ⟨false, magnitude, 0⟩)

end Value

end ChartLint.Json
