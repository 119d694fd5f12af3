import ChartLint.Chart.Visitor
import ChartLint.Check.Record
import ChartLint.Check.Rules

/-!
The walk that looks for values out of range. Its state knows how many groups it is inside of; a
group past the limit is counted and passed over.
-/

namespace ChartLint

structure Walk where
  depth : Nat
  limit : Option Nat
  skippedGroups : Nat
  diagnostics : Array Diagnostic
  records : Array Record

namespace Walk

def start (limit : Option Nat) (earlier : List Diagnostic) : Walk :=
  { depth := 0
    limit := limit
    skippedGroups := 0
    diagnostics := earlier.toArray
    records := #[] }

def report (walk : Walk) (diagnostic : Diagnostic) : Walk :=
  { walk with
    diagnostics := walk.diagnostics.push diagnostic
    records := walk.records.push (.found diagnostic) }

def reportAll (walk : Walk) (diagnostics : List Diagnostic) : Walk :=
  diagnostics.foldl report walk

theorem reportAll_cons (walk : Walk) (first : Diagnostic) (rest : List Diagnostic) :
    walk.reportAll (first :: rest) = (walk.report first).reportAll rest := rfl

def allows (walk : Walk) (depth : Nat) : Bool :=
  match walk.limit with
  | none => true
  | some limit => decide (depth ≤ limit)

def skip (walk : Walk) (depth items : Nat) (span : Span) : Walk :=
  { walk with
    skippedGroups := walk.skippedGroups + 1
    records := walk.records.push (.groupSkipped depth items span) }

def enterGroup (items : Items) (span : Span) (walk : Walk) : Entrance Walk :=
  let depth := walk.depth + 1
  if walk.allows depth then .enter { walk with depth := depth }
  else .passOver (walk.skip depth items.length span)

def leaveGroup (walk : Walk) : Walk := { walk with depth := walk.depth - 1 }

def visitor : Visitor Walk where
  timing timing _ walk := walk.reportAll timing.findings
  tap tap _ walk := walk.reportAll tap.findings
  hold hold span walk := walk.reportAll (hold.findings span)
  arc arc span walk := walk.reportAll (arc.findings span)
  camera camera _ walk := walk.reportAll camera.findings
  enterGroup items _ span walk := walk.enterGroup items span
  leaveGroup _ _ _ walk := walk.leaveGroup

def run (limit : Option Nat) (chart : Chart) (earlier : List Diagnostic) : Walk :=
  visitor.visit chart (start limit earlier)

end Walk

end ChartLint
