import ChartLint.Proofs.Check.Passing

/-!
Reports told by code. Every finding has one code, and every code is listed once, so the findings of
the codes in their order are the findings of the report in another order, as often as they were
made; and among those of one code nothing changes places. Severities divide a report likewise.
-/

namespace ChartLint

/-- Elements grouped by a key are all there, if every key they have is listed and none twice. -/
theorem grouped_perm {α κ : Type} [DecidableEq κ] (key : α → κ) {keys : List κ}
    (distinct : keys.Nodup) (elements : List α)
    (listed : ∀ element ∈ elements, key element ∈ keys) :
    (keys.flatMap fun chosen => elements.filter (key · == chosen)).Perm elements := by
  induction keys generalizing elements with
  | nil =>
    cases elements with
    | nil => exact .refl []
    | cons element rest => exact absurd (listed element List.mem_cons_self) List.not_mem_nil
  | cons first rest ih =>
    obtain ⟨absent, apart⟩ := List.nodup_cons.mp distinct
    -- Once the elements with the first key are taken out, the other keys find the same as before.
    let others := elements.filter (!key · == first)
    have unchanged : ∀ chosen ∈ rest,
        elements.filter (key · == chosen) = others.filter (key · == chosen) := by
      intro chosen member
      rw [List.filter_filter]
      apply List.filter_congr
      intro element _
      by_cases same : key element = chosen
      · have different : key element ≠ first := by
          intro equal
          rw [← equal, same] at absent
          exact absent member
        rw [beq_false_of_ne different, Bool.not_false, Bool.and_true]
      · rw [beq_false_of_ne same, Bool.false_and]
    have grouped : (rest.flatMap fun chosen => others.filter (key · == chosen)).Perm others := by
      apply ih apart
      intro element member
      obtain ⟨inside, kept⟩ := List.mem_filter.mp member
      have different : ¬ key element = first := by
        simpa only [Bool.not_eq_true', beq_eq_false_iff_ne] using kept
      exact (List.mem_cons.mp (listed element inside)).resolve_left different
    rw [List.flatMap_cons, List.flatMap_def, List.map_congr_left unchanged, ← List.flatMap_def]
    exact (grouped.append_left _).trans (List.filter_append_perm (key · == first) elements)

theorem Severity.all_distinct : Severity.all.Nodup := by decide

namespace Report

theorem byCode_perm (report : Report) : (Code.all.flatMap report.byCode).Perm report.diagnostics :=
  grouped_perm Diagnostic.code Code.all_nodup report.diagnostics fun _ _ => Code.mem_all _

/-- A finding stands as often among those of its code as in the report, and among no others. -/
theorem count_byCode (report : Report) (code : Code) (diagnostic : Diagnostic) :
    (report.byCode code).count diagnostic =
      if diagnostic.code = code then report.diagnostics.count diagnostic else 0 := by
  by_cases same : diagnostic.code = code
  · have chosen : (diagnostic.code == code) = true := beq_iff_eq.mpr same
    rw [if_pos same]
    exact List.count_filter chosen
  · rw [if_neg same, List.count_eq_zero]
    intro member
    exact same (beq_iff_eq.mp (List.mem_filter.mp member).2)

theorem sum_count (report : Report) :
    report.count .error + report.count .warning + report.count .info = report.length := by
  have whole := grouped_perm Diagnostic.severity Severity.all_distinct report.diagnostics
    fun _ _ => Severity.mem_all _
  have lengths := whole.length_eq
  simp only [Severity.all, List.flatMap_cons, List.flatMap_nil, List.append_nil, List.length_append,
    ← List.countP_eq_length_filter] at lengths
  simp only [count, length]
  omega

/-- The findings of the codes, one code after another, are those of the report in another order.
Those of one code are in the order of the report and as many as it has. Every finding counts for one
severity. So whatever the settings, to show a chart's findings by code shows what a walk finds. -/
theorem byCode_partition (report : Report) :
    (Code.all.flatMap report.byCode).Perm report.diagnostics ∧
      (∀ code, (report.byCode code).Sublist report.diagnostics ∧
        ∀ diagnostic, (report.byCode code).count diagnostic =
          if diagnostic.code = code then report.diagnostics.count diagnostic else 0) ∧
      report.count .error + report.count .warning + report.count .info = report.length ∧
      ∀ config chart diagnostic,
        (Code.all.flatMap (lint config chart).report.byCode).count diagnostic =
          ((config.found chart).filter fun found => found.code ∉ config.suppress).count
            diagnostic := by
  refine ⟨report.byCode_perm, ?_, report.sum_count, ?_⟩
  · intro code
    exact ⟨List.filter_sublist, report.count_byCode code⟩
  · intro config chart diagnostic
    rw [← lint_diagnostics]
    exact (lint config chart).report.byCode_perm.count_eq diagnostic

end Report

end ChartLint
