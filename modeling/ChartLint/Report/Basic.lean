import ChartLint.Report.Failure

/-!
The result of a check. A report that left groups unchecked is incomplete, and an incomplete
report never passes.
-/

namespace ChartLint

structure Report where
  diagnostics : List Diagnostic := []
  skippedGroups : Nat := 0
deriving DecidableEq, Repr

namespace Report

def empty : Report := {}

def isComplete (report : Report) : Bool := report.skippedGroups == 0

def length (report : Report) : Nat := report.diagnostics.length

def isEmpty (report : Report) : Bool := report.diagnostics.isEmpty

def hasErrors (report : Report) : Bool :=
  !report.isComplete || report.diagnostics.any (·.severity.isError)

def count (report : Report) (severity : Severity) : Nat :=
  report.diagnostics.countP (·.severity == severity)

def byCode (report : Report) (code : Code) : List Diagnostic :=
  report.diagnostics.filter (·.code == code)

def outcome (report : Report) : Except Failure (List Diagnostic) :=
  if report.hasErrors then .error ⟨report.diagnostics, report.skippedGroups⟩
  else .ok report.diagnostics

end Report

end ChartLint
