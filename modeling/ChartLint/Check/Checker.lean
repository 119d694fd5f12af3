import ChartLint.Check.Walk

/-!
Checks of a whole chart. A check adds its findings after those made before and never looks at
them, so several checks can share one list.
-/

namespace ChartLint

structure Checker where
  name : String
  check : Chart → List Diagnostic → List Diagnostic

def checkTimestamp (time : Spanned Int) (earlier : List Diagnostic) : List Diagnostic :=
  earlier ++ time.negativeTime

def check (chart : Chart) (earlier : List Diagnostic) : List Diagnostic :=
  (Walk.run none chart earlier).diagnostics.toList

/-- As `check`, without going into groups deeper than the limit; also the number of groups that
were passed over. -/
def checkBounded (limit : Nat) (chart : Chart) (earlier : List Diagnostic) :
    List Diagnostic × Nat :=
  let walk := Walk.run (some limit) chart earlier
  (walk.diagnostics.toList, walk.skippedGroups)

def valueRange : Checker where
  name := "value-range"
  check := check

end ChartLint
