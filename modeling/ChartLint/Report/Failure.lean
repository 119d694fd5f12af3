import ChartLint.Diagnostic.Basic

/-!
A check that did not pass, for callers that want a plain result.
-/

namespace ChartLint

structure Failure where
  diagnostics : List Diagnostic
  skippedGroups : Nat := 0
deriving DecidableEq, Repr

namespace Failure

def errorCount (failure : Failure) : Nat :=
  failure.diagnostics.countP (·.severity.isError)

def findingsText : List Diagnostic → String
  | [] => ""
  | [only] => only.text
  | first :: others => first.text ++ " (+" ++ toString others.length ++ " more)"

def skippedText (count : Nat) : String :=
  if count = 0 then ""
  else toString count ++ " timing group(s) nested past the depth limit were not checked"

/-- The written form. Its two parts are joined by a semicolon when both are there. -/
def text (failure : Failure) : String :=
  let joint := if failure.diagnostics.isEmpty || failure.skippedGroups == 0 then "" else "; "
  findingsText failure.diagnostics ++ joint ++ skippedText failure.skippedGroups

end Failure

end ChartLint
