import ChartLint.Proofs.Check.Passing

/-!
What a report comes to. Whether it passes can be told from two numbers, its errors and the groups
left unchecked. A failure keeps the findings and both numbers, and what is written of it is never
empty: were there no findings, groups were left unchecked, and the note on them is written alone.
-/

namespace ChartLint

namespace Failure

def headline (diagnostics : List Diagnostic) : Option String :=
  diagnostics.head?.map fun first =>
    first.text ++
      if 1 < diagnostics.length then " (+" ++ toString (diagnostics.length - 1) ++ " more)" else ""

def uncheckedNote (groups : Nat) : Option String :=
  if 0 < groups then
    some (toString groups ++ " timing group(s) nested past the depth limit were not checked")
  else none

def parts (failure : Failure) : List String :=
  (headline failure.diagnostics).toList ++ (uncheckedNote failure.skippedGroups).toList

theorem headline_cons (first : Diagnostic) (others : List Diagnostic) :
    headline (first :: others) = some (findingsText (first :: others)) := by
  cases others with
  | nil =>
    have alone : ¬ 1 < [first].length := Nat.lt_irrefl 1
    rw [headline, List.head?_cons, Option.map_some, if_neg alone, String.append_empty]
    rfl
  | cons second rest =>
    have several : 1 < (first :: second :: rest).length := by
      simp only [List.length_cons]
      omega
    rw [headline, List.head?_cons, Option.map_some, if_pos several]
    simp only [findingsText, List.length_cons, Nat.add_sub_cancel, String.append_assoc]

theorem uncheckedNote_of_pos {groups : Nat} (unchecked : 0 < groups) :
    uncheckedNote groups = some (skippedText groups) := by
  rw [uncheckedNote, if_pos unchecked, skippedText, if_neg (Nat.ne_of_gt unchecked)]

theorem text_eq_intercalate (failure : Failure) :
    failure.text = "; ".intercalate failure.parts := by
  obtain ⟨diagnostics, groups⟩ := failure
  cases diagnostics with
  | nil =>
    rcases Nat.eq_zero_or_pos groups with complete | unchecked
    · subst complete
      rfl
    · rw [parts, uncheckedNote_of_pos unchecked]
      calc "" ++ "" ++ skippedText groups
        _ = skippedText groups := by rw [String.append_empty, String.empty_append]
        _ = "; ".intercalate [skippedText groups] := String.intercalate_singleton.symm
  | cons first others =>
    rw [parts, headline_cons]
    rcases Nat.eq_zero_or_pos groups with complete | unchecked
    · subst complete
      calc findingsText (first :: others) ++ "" ++ ""
        _ = findingsText (first :: others) := by rw [String.append_empty, String.append_empty]
        _ = "; ".intercalate [findingsText (first :: others)] :=
          String.intercalate_singleton.symm
    · have different : (groups == 0) = false := beq_false_of_ne (Nat.ne_of_gt unchecked)
      rw [uncheckedNote_of_pos unchecked]
      simp only [text, List.isEmpty_cons, different, Bool.or_self, Bool.false_eq_true, ↓reduceIte]
      rw [Option.toList_some, Option.toList_some, List.singleton_append,
        String.intercalate_cons_cons, String.intercalate_singleton]

end Failure

theorem Diagnostic.text_ne_empty (diagnostic : Diagnostic) : diagnostic.text ≠ "" := by
  intro empty
  simp only [text, String.append_eq_empty_iff] at empty
  exact absurd empty.1.2 (by decide)

namespace Failure

theorem findingsText_ne_empty (first : Diagnostic) (others : List Diagnostic) :
    findingsText (first :: others) ≠ "" := by
  have told : ∃ more, findingsText (first :: others) = first.text ++ more := by
    have headed := headline_cons first others
    exact ⟨_, (Option.some.inj headed).symm⟩
  obtain ⟨more, same⟩ := told
  rw [same, ne_eq, String.append_eq_empty_iff]
  intro empty
  exact first.text_ne_empty empty.1

theorem skippedText_ne_empty {groups : Nat} (unchecked : 0 < groups) : skippedText groups ≠ "" := by
  rw [skippedText, if_neg (Nat.ne_of_gt unchecked), ne_eq, String.append_eq_empty_iff]
  intro empty
  exact absurd empty.2 (by decide)

/-- Findings or groups left unchecked leave something to say. -/
theorem text_ne_empty (failure : Failure)
    (known : failure.diagnostics ≠ [] ∨ 0 < failure.skippedGroups) : failure.text ≠ "" := by
  intro empty
  simp only [text, String.append_eq_empty_iff] at empty
  obtain ⟨⟨noFindings, -⟩, noNote⟩ := empty
  rcases known with found | unchecked
  · obtain ⟨first, others, listed⟩ := List.exists_cons_of_ne_nil found
    rw [listed] at noFindings
    exact findingsText_ne_empty first others noFindings
  · exact skippedText_ne_empty unchecked noNote

end Failure

namespace Report

theorem count_error_eq_zero_iff (report : Report) :
    report.count .error = 0 ↔ ∀ diagnostic ∈ report.diagnostics, diagnostic.severity ≠ .error := by
  simp only [count, List.countP_eq_zero, beq_iff_eq, ne_eq]

theorem hasErrors_iff_count (report : Report) :
    report.hasErrors = true ↔ 0 < report.count .error + report.skippedGroups := by
  have passes : report.hasErrors = false ↔ report.skippedGroups = 0 ∧ report.count .error = 0 := by
    rw [hasErrors_eq_false_iff, count_error_eq_zero_iff]
  rw [← Bool.not_eq_false, passes]
  omega

theorem outcome_of_hasErrors {report : Report} (failed : report.hasErrors = true) :
    report.outcome = .error ⟨report.diagnostics, report.skippedGroups⟩ := by
  rw [outcome, if_pos failed]

/-- A report fails exactly if it has errors or left groups unchecked. The failure then keeps the
findings and both numbers, and says in its text, which is never empty, what there is to say of them;
a report that passes gives back its findings, and no error is among them. -/
theorem outcome_counted (report : Report) :
    ((∃ failure, report.outcome = .error failure) ↔
        0 < report.count .error + report.skippedGroups) ∧
      (∀ failure, report.outcome = .error failure →
        failure.diagnostics = report.diagnostics ∧
          failure.skippedGroups = report.skippedGroups ∧
          failure.errorCount = report.count .error ∧
          (failure.errorCount = 0 → 0 < failure.skippedGroups) ∧
          failure.text = "; ".intercalate failure.parts ∧ failure.text ≠ "") ∧
      ∀ diagnostics, report.outcome = .ok diagnostics →
        diagnostics = report.diagnostics ∧
          ∀ diagnostic ∈ diagnostics, diagnostic.severity ≠ .error := by
  refine ⟨?_, ?_, ?_⟩
  · rw [outcome_eq_error_iff, hasErrors_iff_count]
  · intro failure failed
    have wrong : report.hasErrors = true := (outcome_eq_error_iff report).mp ⟨failure, failed⟩
    have positive := (hasErrors_iff_count report).mp wrong
    rw [outcome_of_hasErrors wrong, Except.error.injEq] at failed
    subst failed
    have same :
        Failure.errorCount ⟨report.diagnostics, report.skippedGroups⟩ = report.count .error := rfl
    have told : report.diagnostics ≠ [] ∨ 0 < report.skippedGroups := by
      rcases Nat.eq_zero_or_pos report.skippedGroups with complete | unchecked
      · left
        intro empty
        rw [count, empty, complete] at positive
        exact absurd positive (Nat.lt_irrefl 0)
      · exact .inr unchecked
    refine ⟨rfl, rfl, same, ?_, Failure.text_eq_intercalate _, Failure.text_ne_empty _ told⟩
    intro none
    rw [same] at none
    show 0 < report.skippedGroups
    omega
  · intro diagnostics passed
    obtain ⟨right, same⟩ := (outcome_eq_ok_iff report diagnostics).mp passed
    rw [same]
    exact ⟨rfl, ((hasErrors_eq_false_iff report).mp right).2⟩

/-- A warning fails a report if a group was left unchecked, and else does not. -/
theorem outcome_counted_warning :
    let warning := Diagnostic.warning .arcEffectUnknown "w" ⟨0, 1⟩
    let unchecked : Report := ⟨[warning, warning], 1⟩
    let checked : Report := ⟨[warning, warning], 0⟩
    let failure : Failure := ⟨[warning, warning], 1⟩
    unchecked.outcome = .error failure ∧ failure.errorCount = 0 ∧ 0 < failure.skippedGroups ∧
      failure.text = "warning[ArcEffectUnknown]: w (+1 more); " ++
        "1 timing group(s) nested past the depth limit were not checked" ∧
      checked.outcome = .ok [warning, warning] ∧
      ∀ diagnostic ∈ [warning, warning], diagnostic.severity ≠ .error := by
  intro warning unchecked checked failure
  have failed : unchecked.outcome = .error failure := rfl
  have passed : checked.outcome = .ok [warning, warning] := rfl
  have none : failure.errorCount = 0 := rfl
  obtain ⟨_, _, _, positive, written, _⟩ := (outcome_counted unchecked).2.1 failure failed
  have harmless := (outcome_counted checked).2.2 [warning, warning] passed
  refine ⟨failed, none, positive none, ?_, passed, harmless.2⟩
  rw [written]
  decide +kernel

end Report

end ChartLint
