import ChartLint.Proofs.Check.Passing

/-!
The log of a lint. Between its first and its last record stands the trail of the chart. The records
of findings are the findings before any are left out, the warnings are the groups that the report
counts, and of all this the suppressed codes change no more than two numbers in the last record.
-/

namespace ChartLint

structure Line where
  level : Level
  message : String
  fields : List (String × String)
deriving DecidableEq, Repr

namespace Line

def opening (chart : Chart) : Line where
  level := .debug
  message := "Checking chart"
  fields := [("checker", "value-range"), ("items", toString chart.items.toList.length),
    ("total_items", toString (chart.items.preorder 0).length)]

def finding (diagnostic : Diagnostic) : Line where
  level := .trace
  message := "Chart diagnostic"
  fields := [("code", diagnostic.code.identifier), ("severity", diagnostic.severity.text),
    ("span", toString diagnostic.span.start ++ ".." ++ toString diagnostic.span.stop)]

def pastLimit (depth items : Nat) (span : Span) : Line where
  level := .warn
  message := "Skipping timing group nested beyond the depth limit"
  fields := [("depth", toString depth), ("items", toString items),
    ("span", toString span.start ++ ".." ++ toString span.stop)]

end Line

/-- The lines about a run with so many groups around it: one for each finding of an event, those of
its items for a group that the limit allows, and one warning for a group past the limit. -/
def Items.lines (limit : Option Nat) (around : Nat) : Items → List Line
  | .nil => []
  | .leaf event span rest => (event.listed span).map .finding ++ rest.lines limit around
  | .group items _ span rest =>
    match limit with
    | none => items.lines none (around + 1) ++ rest.lines none around
    | some bound =>
      if around < bound then items.lines limit (around + 1) ++ rest.lines limit around
      else .pastLimit (bound + 1) items.toList.length span :: rest.lines limit around

namespace Record

def line (record : Record) : Line := ⟨record.level, record.message, record.fields⟩

end Record

section

variable (config : Config) (chart : Chart)

theorem lint_log :
    (lint config chart).log = .started "value-range" chart.length chart.totalItems ::
      (chart.items.trail config.maxGroupDepth 0 ++
        [.finished (config.found chart).length (lint config chart).report.length
          ((lint config chart).report.count .error) (lint config chart).report.skippedGroups]) := by
  have made : (Walk.run config.maxGroupDepth chart []).diagnostics.toList = config.found chart := by
    rw [Walk.run_diagnostics, List.nil_append, Config.found_eq_findings]
  have records := Walk.run_records config.maxGroupDepth chart []
  rw [← records, ← made]
  rfl

end

/-- What is suppressed is still traced and counted as found; what is past the limit is neither. -/
example :
    let tap (place : Nat) : Event := .tap ⟨⟨-5, ⟨place, place + 2⟩⟩⟩
    let hold : Event := .hold ⟨⟨9, ⟨36, 37⟩⟩, ⟨8, ⟨38, 39⟩⟩⟩
    let chart : Chart := ⟨.leaf (tap 4) ⟨0, 7⟩
      (.group (.leaf (tap 26) ⟨22, 29⟩ .nil) ⟨21, 30⟩ ⟨8, 30⟩ (.leaf hold ⟨31, 40⟩ .nil))⟩
    (lint ⟨[.holdPositiveDuration], some 0⟩ chart).log.map Record.line =
      [⟨.debug, "Checking chart", [("checker", "value-range"), ("items", "3"), ("total_items", "4")]⟩,
        ⟨.trace, "Chart diagnostic",
          [("code", "TimestampNonNegative"), ("severity", "error"), ("span", "4..6")]⟩,
        ⟨.warn, "Skipping timing group nested beyond the depth limit",
          [("depth", "1"), ("items", "1"), ("span", "8..30")]⟩,
        ⟨.trace, "Chart diagnostic",
          [("code", "HoldPositiveDuration"), ("severity", "error"), ("span", "31..40")]⟩,
        ⟨.debug, "Chart checked",
          [("found", "2"), ("reported", "1"), ("errors", "1"), ("skipped_groups", "1")]⟩] := rfl

end ChartLint
