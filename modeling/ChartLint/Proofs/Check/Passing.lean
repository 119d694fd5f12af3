import ChartLint.Check.Lint
import ChartLint.Proofs.Check.Findings

/-!
When a chart passes. A lint passes a chart only if every group was looked into and every error that
a check without limit makes has a suppressed code; it then returns the findings of that check less
the suppressed ones. A limit that cuts something off can therefore never make a chart pass.
-/

namespace ChartLint

namespace Report

theorem hasErrors_eq_false_iff (report : Report) :
    report.hasErrors = false ↔
      report.skippedGroups = 0 ∧
        ∀ diagnostic ∈ report.diagnostics, diagnostic.severity ≠ .error := by
  simp only [hasErrors, isComplete, Severity.isError, Bool.or_eq_false_iff, Bool.not_eq_false',
    beq_iff_eq, List.any_eq_false, ne_eq]

theorem outcome_eq_ok_iff (report : Report) (diagnostics : List Diagnostic) :
    report.outcome = .ok diagnostics ↔
      report.hasErrors = false ∧ diagnostics = report.diagnostics := by
  rw [outcome]
  cases report.hasErrors with
  | true => simp only [↓reduceIte, reduceCtorEq, Bool.true_eq_false, false_and]
  | false =>
    simp only [Bool.false_eq_true, ↓reduceIte, Except.ok.injEq, true_and]
    exact eq_comm

theorem outcome_eq_error_iff (report : Report) :
    (∃ failure, report.outcome = .error failure) ↔ report.hasErrors = true := by
  rw [outcome]
  cases report.hasErrors with
  | true => simp only [↓reduceIte, Except.error.injEq, exists_eq']
  | false => simp only [Bool.false_eq_true, ↓reduceIte, reduceCtorEq, exists_false]

end Report

namespace Config

def found (config : Config) (chart : Chart) : List Diagnostic :=
  match config.maxGroupDepth with
  | none => check chart []
  | some limit => (checkBounded limit chart []).1

theorem found_of_none {config : Config} (unlimited : config.maxGroupDepth = none) (chart : Chart) :
    config.found chart = check chart [] := by
  simp only [found, unlimited]

theorem found_of_some {config : Config} {limit : Nat} (limited : config.maxGroupDepth = some limit)
    (chart : Chart) : config.found chart = (checkBounded limit chart []).1 := by
  simp only [found, limited]

theorem found_eq_findings (config : Config) (chart : Chart) :
    config.found chart = Record.findings (chart.items.trail config.maxGroupDepth 0) := by
  have kept := Walk.run_diagnostics config.maxGroupDepth chart []
  rw [List.nil_append] at kept
  rw [← kept]
  cases limited : config.maxGroupDepth with
  | none => exact found_of_none limited chart
  | some limit => exact found_of_some limited chart

/-- What a chart must be like to pass: the limit, if there is one, cuts no group off, and every
error has a suppressed code. -/
structure Passes (config : Config) (chart : Chart) : Prop where
  reached : ∀ limit ∈ config.maxGroupDepth, chart.nesting ≤ limit
  excused : ∀ diagnostic ∈ check chart [],
    diagnostic.severity = .error → diagnostic.code ∈ config.suppress

theorem found_eq_check (config : Config) (chart : Chart)
    (reached : ∀ limit ∈ config.maxGroupDepth, chart.nesting ≤ limit) :
    config.found chart = check chart [] := by
  cases limited : config.maxGroupDepth with
  | none => exact found_of_none limited chart
  | some limit =>
    have shallow : 0 + chart.items.nesting ≤ limit := by
      rw [Nat.zero_add]
      exact reached limit limited
    have whole : chart.prune limit = chart := by
      rw [Chart.prune, Items.prune_eq_self _ shallow]
    rw [found_of_some limited, checkBounded_fst, whole, check_eq_findings]

end Config

theorem lint_diagnostics (config : Config) (chart : Chart) :
    (lint config chart).report.diagnostics =
      (config.found chart).filter fun diagnostic => diagnostic.code ∉ config.suppress := by
  rw [Config.found_eq_findings]
  simp only [lint, Walk.run_diagnostics, List.nil_append, Config.isSuppressed,
    List.contains_eq_mem, decide_not]

theorem lint_skippedGroups (config : Config) (chart : Chart) :
    (lint config chart).report.skippedGroups =
      Record.warnings (chart.items.trail config.maxGroupDepth 0) :=
  Walk.run_skippedGroups config.maxGroupDepth chart []

def Report.ofTrail (suppress : List Code) (records : List Record) : Report where
  diagnostics := (Record.findings records).filter fun diagnostic => diagnostic.code ∉ suppress
  skippedGroups := Record.warnings records

theorem lint_report_eq_ofTrail (config : Config) (chart : Chart) :
    (lint config chart).report =
      .ofTrail config.suppress (chart.items.trail config.maxGroupDepth 0) := by
  have kept := lint_diagnostics config chart
  rw [Config.found_eq_findings] at kept
  rw [Report.ofTrail, ← kept, ← lint_skippedGroups]

/-- A report is complete exactly if the limit cuts nothing off. -/
theorem lint_skippedGroups_eq_zero_iff (config : Config) (chart : Chart) :
    (lint config chart).report.skippedGroups = 0 ↔
      ∀ limit ∈ config.maxGroupDepth, chart.nesting ≤ limit := by
  rw [lint_skippedGroups]
  cases config.maxGroupDepth with
  | none => simp only [Items.warnings_trail_none, Option.not_mem_none, false_implies, implies_true]
  | some limit =>
    rw [Items.warnings_trail_some _ (Nat.zero_le limit),
      Items.groupsAt_eq_zero_iff _ (Nat.zero_le limit), Nat.zero_add]
    simp only [Chart.nesting, Option.mem_some_iff, forall_eq']

theorem lint_hasErrors_eq_false_iff (config : Config) (chart : Chart) :
    (lint config chart).report.hasErrors = false ↔ config.Passes chart := by
  rw [Report.hasErrors_eq_false_iff, lint_skippedGroups_eq_zero_iff, lint_diagnostics]
  constructor
  · intro ⟨reached, harmless⟩
    refine ⟨reached, ?_⟩
    intro diagnostic member error
    rw [← config.found_eq_check chart reached] at member
    by_cases suppressed : diagnostic.code ∈ config.suppress
    · exact suppressed
    · exact absurd error
        (harmless diagnostic (List.mem_filter.mpr ⟨member, decide_eq_true suppressed⟩))
  · intro passes
    refine ⟨passes.reached, ?_⟩
    intro diagnostic member error
    rw [config.found_eq_check chart passes.reached, List.mem_filter] at member
    exact of_decide_eq_true member.2 (passes.excused diagnostic member.1 error)

/-- A lint returns findings exactly if the chart passes, and then those of a check without limit
less the suppressed ones; every other chart fails. -/
theorem lint_outcome_iff (config : Config) (chart : Chart) :
    (∀ diagnostics, (lint config chart).report.outcome = .ok diagnostics ↔
      config.Passes chart ∧ diagnostics =
        (check chart []).filter fun diagnostic => diagnostic.code ∉ config.suppress) ∧
    ((∃ failure, (lint config chart).report.outcome = .error failure) ↔
      ¬ config.Passes chart) := by
  constructor
  · intro diagnostics
    rw [Report.outcome_eq_ok_iff, lint_hasErrors_eq_false_iff, lint_diagnostics]
    apply and_congr_right
    intro passes
    rw [config.found_eq_check chart passes.reached]
  · rw [Report.outcome_eq_error_iff, ← lint_hasErrors_eq_false_iff, Bool.not_eq_false]

end ChartLint
