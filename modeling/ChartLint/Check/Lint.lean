import ChartLint.Check.Checker
import ChartLint.Config.Basic
import ChartLint.Report.Basic

/-!
The check of a chart under a configuration. Suppressed codes are dropped from the report after
the walk, so they appear in the log and in the number of findings made.
-/

namespace ChartLint

structure Outcome where
  report : Report
  log : List Record
deriving DecidableEq, Repr

def lint (config : Config) (chart : Chart) : Outcome :=
  let walk := Walk.run config.maxGroupDepth chart []
  let found := walk.diagnostics.toList
  let report : Report :=
    { diagnostics := found.filter fun diagnostic => !config.isSuppressed diagnostic.code
      skippedGroups := walk.skippedGroups }
  let first := Record.started valueRange.name chart.length chart.totalItems
  let last :=
    Record.finished found.length report.length (report.count .error) report.skippedGroups
  { report := report
    log := first :: (walk.records.toList ++ [last]) }

end ChartLint
