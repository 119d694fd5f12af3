import ChartLint.Diagnostic.Code

/-!
The settings of a lint.
-/

namespace ChartLint

structure Config where
  /-- Codes left out of the report, as given: order and repetition are kept. -/
  suppress : List Code := []
  maxGroupDepth : Option Nat := none
deriving DecidableEq, Repr

namespace Config

def default : Config := {}

def isSuppressed (config : Config) (code : Code) : Bool := config.suppress.contains code

end Config

end ChartLint
