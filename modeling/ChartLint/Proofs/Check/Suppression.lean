import ChartLint.Proofs.Check.Limit

/-!
What suppressing codes does to a report. Findings are left out of the report of the whole walk by
their codes alone, so only the set of suppressed codes counts, codes can be suppressed one after
another, and the findings of every other code are as they were. Groups passed over stay counted:
with more codes suppressed a report that passes still does, and one that is incomplete never will.
-/

namespace ChartLint

namespace Report

def without (report : Report) (codes : List Code) : Report :=
  { report with diagnostics := report.diagnostics.filter fun diagnostic => diagnostic.code ∉ codes }

theorem without_without (report : Report) (first second : List Code) :
    (report.without first).without second = report.without (first ++ second) := by
  unfold without
  simp only [List.filter_filter, List.mem_append, not_or, Bool.decide_and, Bool.and_comm]

theorem without_congr (report : Report) {first second : List Code}
    (same : ∀ code, code ∈ first ↔ code ∈ second) :
    report.without first = report.without second := by
  unfold without
  simp only [same]

theorem byCode_without (report : Report) (codes : List Code) (code : Code) :
    (report.without codes).byCode code = if code ∈ codes then [] else report.byCode code := by
  unfold without byCode
  rw [List.filter_filter]
  by_cases suppressed : code ∈ codes
  · rw [if_pos suppressed, List.filter_eq_nil_iff]
    intro diagnostic _ kept
    simp only [Bool.and_eq_true, beq_iff_eq, decide_eq_true_eq] at kept
    obtain ⟨same, other⟩ := kept
    exact other (same ▸ suppressed)
  · rw [if_neg suppressed]
    apply List.filter_congr
    intro diagnostic _
    by_cases same : diagnostic.code = code
    · simp only [same, beq_self_eq_true, suppressed, not_false_eq_true, decide_true, Bool.and_true]
    · simp only [beq_eq_false_iff_ne.mpr same, Bool.false_and]

/-- Leaving findings out takes no error in. -/
theorem hasErrors_without (report : Report) (codes : List Code)
    (harmless : report.hasErrors = false) : (report.without codes).hasErrors = false := by
  rw [hasErrors_eq_false_iff] at harmless ⊢
  obtain ⟨whole, mild⟩ := harmless
  refine ⟨whole, ?_⟩
  intro diagnostic member
  exact mild diagnostic (List.mem_filter.mp member).1

theorem outcome_without (report : Report) (codes : List Code) {passed : List Diagnostic}
    (ok : report.outcome = .ok passed) :
    (report.without codes).outcome =
      .ok (passed.filter fun diagnostic => diagnostic.code ∉ codes) := by
  rw [outcome_eq_ok_iff] at ok ⊢
  obtain ⟨harmless, same⟩ := ok
  refine ⟨report.hasErrors_without codes harmless, ?_⟩
  rw [same]
  rfl

theorem outcome_of_incomplete (report : Report) (incomplete : report.isComplete = false) :
    ∃ failure, report.outcome = .error failure := by
  rw [outcome_eq_error_iff, hasErrors, incomplete]
  rfl

end Report

section

variable (limit : Option Nat) (chart : Chart)

theorem lint_report_eq_without (codes : List Code) :
    (lint ⟨codes, limit⟩ chart).report = (lint ⟨[], limit⟩ chart).report.without codes := by
  rw [lint_report_eq_ofTrail, lint_report_eq_ofTrail]
  simp only [Report.ofTrail, Report.without, List.not_mem_nil, not_false_eq_true, decide_true,
    List.filter_filter, Bool.and_true]

theorem lint_report_append (first second : List Code) :
    (lint ⟨first ++ second, limit⟩ chart).report =
      (lint ⟨first, limit⟩ chart).report.without second := by
  rw [lint_report_eq_without, lint_report_eq_without limit chart first, Report.without_without]

theorem lint_report_congr {first second : List Code} (same : ∀ code, code ∈ first ↔ code ∈ second) :
    (lint ⟨first, limit⟩ chart).report = (lint ⟨second, limit⟩ chart).report := by
  rw [lint_report_eq_without, lint_report_eq_without limit chart second]
  exact Report.without_congr _ same

/-- Suppressing more codes is leaving their findings out of the report. -/
theorem lint_report_of_subset {first second : List Code} (more : first ⊆ second) :
    (lint ⟨second, limit⟩ chart).report = (lint ⟨first, limit⟩ chart).report.without second := by
  rw [← lint_report_append]
  apply lint_report_congr
  intro code
  rw [List.mem_append]
  exact ⟨.inr, fun either => either.elim (more ·) id⟩

end

/-- Suppressed codes act one by one and as a set, on the findings of those codes alone; what was not
looked at is counted, and fails, whatever is suppressed. -/
theorem lint_suppress (limit : Option Nat) (chart : Chart) :
    let report (codes : List Code) := (lint ⟨codes, limit⟩ chart).report
    (∀ first second, (report (first ++ second)).diagnostics =
        (report first).diagnostics.filter fun diagnostic => diagnostic.code ∉ second) ∧
      (∀ first second, (∀ code, code ∈ first ↔ code ∈ second) → report first = report second) ∧
      (∀ first second, (report first).skippedGroups = (report second).skippedGroups ∧
        (report first).isComplete = (report second).isComplete) ∧
      (∀ codes code, (report codes).byCode code =
        if code ∈ codes then [] else (report []).byCode code) ∧
      (∀ first second, first ⊆ second → ∀ passed, (report first).outcome = .ok passed →
        (report second).outcome =
          .ok (passed.filter fun diagnostic => diagnostic.code ∉ second)) ∧
      ∀ first, (report first).isComplete = false →
        ∀ second, ∃ failure, (report second).outcome = .error failure := by
  intro report
  have counted (codes : List Code) :
      (report codes).skippedGroups = (report []).skippedGroups := by
    simp only [report, lint_report_eq_without limit chart codes, Report.without]
  have complete (first second : List Code) :
      (report first).isComplete = (report second).isComplete := by
    unfold Report.isComplete
    rw [counted first, counted second]
  refine ⟨?_, ?_, ?_, ?_, ?_, ?_⟩
  · intro first second
    exact congrArg Report.diagnostics (lint_report_append limit chart first second)
  · intro first second same
    exact lint_report_congr limit chart same
  · intro first second
    exact ⟨(counted first).trans (counted second).symm, complete first second⟩
  · intro codes code
    simp only [report, lint_report_eq_without limit chart codes]
    exact Report.byCode_without ..
  · intro first second more passed ok
    simp only [report, lint_report_of_subset limit chart more]
    exact Report.outcome_without _ _ ok
  · intro first incomplete second
    apply Report.outcome_of_incomplete
    rw [complete second first, incomplete]

/-- Three early taps are excused by their code, in whatever order and however often it is given, but
not when a limit hides two of them. -/
theorem lint_suppress_twoInOne :
    let report (limit : Nat) (codes : List Code) :=
      (lint ⟨codes, some limit⟩ .twoInOne).report
    let early : List Code := [.timestampNonNegative]
    let more : List Code := [.arcSolidColor, .timestampNonNegative]
    early ⊆ more ∧ (report 2 early).outcome = .ok [] ∧ (report 2 more).outcome = .ok [] ∧
      (∀ code, code ∈ more ++ early ↔ code ∈ more) ∧ report 2 (more ++ early) = report 2 more ∧
      (report 1 early).isComplete = false ∧
        ∃ failure, (report 1 more).outcome = .error failure := by
  intro report early more
  obtain ⟨-, asSet, -, -, passing, -⟩ := lint_suppress (some 2) .twoInOne
  obtain ⟨-, -, -, -, -, failing⟩ := lint_suppress (some 1) .twoInOne
  have fewer : early ⊆ more := by decide
  have passed : (report 2 early).outcome = .ok [] := by decide
  have hidden : (report 1 early).isComplete = false := by decide
  have same (code : Code) : code ∈ more ++ early ↔ code ∈ more := by
    cases code <;> decide
  exact ⟨fewer, passed, passing early more fewer [] passed, same,
    asSet (more ++ early) more same, hidden, failing early hidden more⟩

end ChartLint
