import ChartLint.Proofs.Check.Passing
import Mathlib.Data.List.Flatten

/-!
How a report depends on the limit. What a limit lets through of a chart is again a chart, and of two
limits the nearer one lets less through, so its report leaves findings out and adds none. A limit
that reaches down to the deepest group makes no difference; only then is a report complete. The
number of groups passed over can go either way: a limit may cut one group off in which a later one
cuts off two.
-/

namespace ChartLint

namespace Chart

def upTo (limit : Option Nat) (chart : Chart) : Chart :=
  match limit with
  | none => chart
  | some bound => chart.prune bound

theorem findings_upTo_sublist (chart : Chart) (limit : Option Nat) :
    (chart.upTo limit).findings.Sublist chart.findings := by
  cases limit with
  | none => exact List.Sublist.refl _
  | some bound =>
    have fewer := chart.items.leaves_prune_sublist bound 0
    exact fewer.flatMap fun leaf => leaf.1.findings leaf.2

theorem upTo_upTo (chart : Chart) {lower upper : Nat} (nearer : lower ≤ upper) :
    (chart.upTo (some upper)).upTo (some lower) = chart.upTo (some lower) :=
  congrArg Chart.mk (chart.items.prune_prune nearer)

theorem findings_upTo_mono (chart : Chart) {lower upper : Nat} (nearer : lower ≤ upper) :
    (chart.upTo (some lower)).findings.Sublist (chart.upTo (some upper)).findings := by
  rw [← chart.upTo_upTo nearer]
  apply findings_upTo_sublist

end Chart

theorem Config.found_eq_upTo (config : Config) (chart : Chart) :
    config.found chart = (chart.upTo config.maxGroupDepth).findings := by
  cases limited : config.maxGroupDepth with
  | none =>
    rw [config.found_of_none limited, check_eq_findings]
    rfl
  | some bound =>
    rw [config.found_of_some limited, checkBounded_fst]
    rfl

theorem lint_diagnostics_upTo (suppress : List Code) (limit : Option Nat) (chart : Chart) :
    (lint ⟨suppress, limit⟩ chart).report.diagnostics =
      (chart.upTo limit).findings.filter fun diagnostic => diagnostic.code ∉ suppress := by
  rw [lint_diagnostics, Config.found_eq_upTo]

theorem lint_isComplete_iff (config : Config) (chart : Chart) :
    (lint config chart).report.isComplete = true ↔
      ∀ limit ∈ config.maxGroupDepth, chart.nesting ≤ limit := by
  unfold Report.isComplete
  rw [beq_iff_eq, lint_skippedGroups_eq_zero_iff]

theorem lint_report_of_reached (config : Config) (chart : Chart)
    (reached : ∀ limit ∈ config.maxGroupDepth, chart.nesting ≤ limit) :
    (lint config chart).report =
      { diagnostics :=
          (check chart []).filter fun diagnostic => diagnostic.code ∉ config.suppress
        skippedGroups := 0 } := by
  have diagnostics := lint_diagnostics config chart
  rw [config.found_eq_check chart reached] at diagnostics
  have skipped := (lint_skippedGroups_eq_zero_iff config chart).mpr reached
  rw [← diagnostics, ← skipped]

def Chart.twoInOne : Chart :=
  let around (items rest : Items) : Items :=
    .group (.leaf (.tap ⟨.unplaced (-1)⟩) .origin items) .origin .origin rest
  ⟨around (around .nil (around .nil .nil)) .nil⟩

theorem lint_skippedGroups_twoInOne (suppress : List Code) :
    let skipped (limit : Nat) := (lint ⟨suppress, some limit⟩ .twoInOne).report.skippedGroups
    skipped 0 = 1 ∧ skipped 1 = 2 ∧ skipped 2 = 0 := by
  simp only [lint_skippedGroups]
  decide

/-- Under a limit, a report holds some of the findings that there are under a farther one, and those
some of all findings, in their order. It is complete exactly from the depth of the deepest group on,
and is then the report without a limit; the number of groups passed over tells nothing of that
before. -/
theorem lint_limit_mono (suppress : List Code) (chart : Chart) :
    let report (limit : Option Nat) := (lint ⟨suppress, limit⟩ chart).report
    (∀ lower upper, lower ≤ upper →
        (report (some lower)).diagnostics.Sublist (report (some upper)).diagnostics ∧
          (report (some upper)).diagnostics.Sublist (report none).diagnostics ∧
          ((report (some lower)).isComplete = true → (report (some upper)).isComplete = true)) ∧
      (∀ limit, (report (some limit)).isComplete = true ↔ chart.nesting ≤ limit) ∧
      (∀ limit, (report limit).isComplete = true → report limit = report none) ∧
      ∃ other,
        let skipped (limit : Nat) := (lint ⟨suppress, some limit⟩ other).report.skippedGroups
        skipped 0 < skipped 1 ∧ skipped 2 < skipped 1 := by
  intro report
  have complete (limit : Nat) :
      (report (some limit)).isComplete = true ↔ chart.nesting ≤ limit := by
    simp only [report, lint_isComplete_iff, Option.mem_some_iff, forall_eq']
  refine ⟨?_, complete, ?_, ?_⟩
  · intro lower upper nearer
    simp only [report, lint_diagnostics_upTo]
    refine ⟨?_, ?_, ?_⟩
    · exact (chart.findings_upTo_mono nearer).filter _
    · exact (chart.findings_upTo_sublist (some upper)).filter _
    · intro whole
      rw [complete] at whole ⊢
      exact Nat.le_trans whole nearer
  · intro limit whole
    have reached := (lint_isComplete_iff _ chart).mp whole
    have free : ∀ bound ∈ (none : Option Nat), chart.nesting ≤ bound :=
      fun _ limited => nomatch limited
    exact (lint_report_of_reached _ chart reached).trans
      (lint_report_of_reached ⟨suppress, none⟩ chart free).symm
  · obtain ⟨outer, inner, deepest⟩ := lint_skippedGroups_twoInOne suppress
    refine ⟨.twoInOne, ?_⟩
    simp only [outer, inner, deepest]
    decide

/-- A limit of one shows a tap of three and is not complete; a limit of two is. -/
theorem lint_limit_mono_twoInOne :
    let report (limit : Option Nat) := (lint ⟨[.arcSolidColor], limit⟩ .twoInOne).report
    1 ≤ 2 ∧ (report (some 1)).diagnostics.Sublist (report (some 2)).diagnostics ∧
      (report (some 2)).isComplete = true ∧ (report (some 3)).isComplete = true ∧
      report (some 2) = report none := by
  intro report
  obtain ⟨compared, complete, whole, -⟩ := lint_limit_mono [.arcSolidColor] .twoInOne
  have deepest : Chart.twoInOne.nesting ≤ 2 := by decide
  have reached : (report (some 2)).isComplete = true := (complete 2).mpr deepest
  obtain ⟨fewer, -, -⟩ := compared 1 2 (by decide)
  obtain ⟨-, -, later⟩ := compared 2 3 (by decide)
  exact ⟨by decide, fewer, reached, later reached, whole (some 2) reached⟩

end ChartLint
