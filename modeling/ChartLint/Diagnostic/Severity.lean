/-!
How serious a finding is.
-/

namespace ChartLint

inductive Severity where
  /-- The chart is wrong and will misbehave in play. -/
  | error
  /-- The chart is probably not what its author meant. -/
  | warning
  /-- Notable and harmless. -/
  | info
deriving DecidableEq, Repr

namespace Severity

def text : Severity → String
  | error => "error"
  | warning => "warning"
  | info => "info"

def all : List Severity := [error, warning, info]

def ofText? (name : String) : Option Severity := all.find? (·.text == name)

def isError (severity : Severity) : Bool := severity == error

def isWarning (severity : Severity) : Bool := severity == warning

def isInfo (severity : Severity) : Bool := severity == info

theorem mem_all (severity : Severity) : severity ∈ all := by
  cases severity <;> decide

end Severity

end ChartLint
