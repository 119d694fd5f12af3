import ChartLint.Binary64.Basic
import ChartLint.Keyed

/-!
TOML values. Numbers are kept as they are written, of any size; what type can hold them is the
business of whoever reads them. That goes for the few texts, too, that the grammar takes for
integers and that no digits make one.
-/

namespace ChartLint.Toml

/-- How a table came to be, which decides what may still be added to it. -/
inductive Origin where
  /-- Written between braces, and complete as it stands. -/
  | inline
  | header
  /-- On the way to a table that a header names. -/
  | implied
  /-- On the way to a value that a dotted key names. -/
  | dotted
deriving DecidableEq, Repr

inductive Value where
  | bool (value : Bool)
  | integer (number : Int)
  /-- An integer by its form whose digits are missing or are none. No type can hold it. -/
  | unreadable
  | decimal (number : Decimal)
  | infinity (negative : Bool)
  | nan
  | string (text : String)
  | moment (text : String)
  /-- An array; one that headers made holds tables and grows with every further header. -/
  | array (byHeaders : Bool) (elements : List Value)
  | table (origin : Origin) (fields : List (String × Value))
deriving Inhabited

abbrev Fields := List (String × Value)

end ChartLint.Toml
