import ChartLint.Diagnostic.Basic

/-!
The log of a check. A record is kept as what it is about; its level, its source, its message and
its fields are read off it.
-/

namespace ChartLint

inductive Level where
  | trace
  | debug
  | warn
deriving DecidableEq, Repr

namespace Level

def text : Level → String
  | trace => "TRACE"
  | debug => "DEBUG"
  | warn => "WARN"

def rank : Level → Nat
  | trace => 0
  | debug => 1
  | warn => 2

end Level

inductive Record where
  | started (checker : String) (items totalItems : Nat)
  /-- A finding was made; whether the report leaves it out does not matter here. -/
  | found (diagnostic : Diagnostic)
  | groupSkipped (depth items : Nat) (span : Span)
  | finished (made reported errors skippedGroups : Nat)
deriving DecidableEq, Repr

namespace Record

def level : Record → Level
  | started .. => .debug
  | found _ => .trace
  | groupSkipped .. => .warn
  | finished .. => .debug

def source : Record → String
  | started .. => "aff_check"
  | found _ => "aff_check::checker"
  | groupSkipped .. => "aff_check::checker"
  | finished .. => "aff_check"

def message : Record → String
  | started .. => "Checking chart"
  | found _ => "Chart diagnostic"
  | groupSkipped .. => "Skipping timing group nested beyond the depth limit"
  | finished .. => "Chart checked"

def fields : Record → List (String × String)
  | started checker items totalItems =>
    [("checker", checker), ("items", toString items), ("total_items", toString totalItems)]
  | found diagnostic =>
    [("code", diagnostic.code.identifier), ("severity", diagnostic.severity.text),
      ("span", diagnostic.span.text)]
  | groupSkipped depth items span =>
    [("depth", toString depth), ("items", toString items), ("span", span.text)]
  | finished made reported errors skippedGroups =>
    [("found", toString made), ("reported", toString reported), ("errors", toString errors),
      ("skipped_groups", toString skippedGroups)]

def atLeast (level : Level) (records : List Record) : List Record :=
  records.filter fun record => decide (level.rank ≤ record.level.rank)

end Record

end ChartLint
