import ChartLint.Check.Checker
import ChartLint.Proofs.Check.Trail

/-!
The findings of a chart. A check tells every event, from left to right and at any depth, the rows of
the table that apply to it, and adds that to what was found before. Under a limit it finds what
there is to find in the pruned chart, and counts the groups that pruning cuts off at the top.
-/

namespace ChartLint

def Chart.findings (chart : Chart) : List Diagnostic :=
  chart.items.leaves.flatMap fun leaf => leaf.1.findings leaf.2

theorem check_eq_findings (chart : Chart) (earlier : List Diagnostic) :
    check chart earlier = earlier ++ chart.findings := by
  rw [check, Walk.run_diagnostics, Items.findings_trail_none]
  rfl

theorem checkBounded_fst (limit : Nat) (chart : Chart) (earlier : List Diagnostic) :
    (checkBounded limit chart earlier).1 = earlier ++ (chart.prune limit).findings := by
  have found := chart.items.findings_trail_some (Nat.zero_le limit)
  rw [checkBounded, Walk.run_diagnostics, found]
  rfl

theorem checkBounded_snd (limit : Nat) (chart : Chart) (earlier : List Diagnostic) :
    (checkBounded limit chart earlier).2 = chart.groupsAt (limit + 1) := by
  have warned := chart.items.warnings_trail_some (Nat.zero_le limit)
  rw [checkBounded, Walk.run_skippedGroups, warned]
  rfl

/-- A chart is told what the tables list for its events, in the order of the chart. Groups are told
nothing, and what was found before stays in front as it was. -/
theorem check_eq_listed (chart : Chart) (earlier : List Diagnostic) :
    check chart earlier =
        earlier ++ (chart.items.leaves.map fun leaf => leaf.1.listed leaf.2).flatten ∧
      valueRange.check chart earlier =
        earlier ++ (chart.items.leaves.map fun leaf => leaf.1.listed leaf.2).flatten := by
  have listed : chart.findings =
      (chart.items.leaves.map fun leaf => leaf.1.listed leaf.2).flatten := by
    simp only [Chart.findings, Event.findings_eq_listed, List.flatMap_def]
  have found := check_eq_findings chart earlier
  rw [listed] at found
  exact ⟨found, found⟩

/-- A check under a limit is the check of the pruned chart, and counts the groups one deeper than
the limit. -/
theorem checkBounded_eq_prune (limit : Nat) (chart : Chart) (earlier : List Diagnostic) :
    checkBounded limit chart earlier =
      (earlier ++ check (chart.prune limit) [], chart.groupsAt (limit + 1)) := by
  apply Prod.ext
  · rw [checkBounded_fst, check_eq_findings, List.nil_append]
  · exact checkBounded_snd limit chart earlier

end ChartLint
