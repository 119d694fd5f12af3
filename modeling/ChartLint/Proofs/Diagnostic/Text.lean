import ChartLint.Diagnostic.Basic

/-!
Findings told from what is written of them. Nothing in a severity or a code is a bracket, so the
first bracket of a kind ends it, whatever the message goes on with; nothing in a number is a dot. A
finding is known by its text together with the text of its place.
-/

namespace ChartLint

/-- A mark that is not in a text ends it, and anything may follow. -/
theorem eq_and_eq_of_mark {mark : Char} {first second rest others : List Char}
    (apart : mark ∉ first) (clear : mark ∉ second)
    (same : first ++ mark :: rest = second ++ mark :: others) : first = second ∧ rest = others := by
  induction first generalizing second with
  | nil =>
    cases second with
    | nil => exact ⟨rfl, (List.cons.inj same).2⟩
    | cons character more =>
      have here : mark = character := (List.cons.inj same).1
      rw [here] at clear
      exact absurd List.mem_cons_self clear
  | cons character more ih =>
    cases second with
    | nil =>
      have here : character = mark := (List.cons.inj same).1
      rw [here] at apart
      exact absurd List.mem_cons_self apart
    | cons other before =>
      obtain ⟨here, later⟩ := List.cons.inj same
      obtain ⟨texts, follows⟩ :=
        ih (List.not_mem_of_not_mem_cons apart) (List.not_mem_of_not_mem_cons clear) later
      rw [here, texts]
      exact ⟨rfl, follows⟩

namespace Severity

theorem ofText?_text (severity : Severity) : ofText? severity.text = some severity := by
  cases severity <;> decide

theorem text_injective {first second : Severity} (same : first.text = second.text) :
    first = second := by
  have read := ofText?_text first
  rw [same, ofText?_text] at read
  exact (Option.some.inj read).symm

theorem bracket_not_mem_text (severity : Severity) : '[' ∉ severity.text.toList := by
  cases severity <;> decide

end Severity

theorem Code.bracket_not_mem_identifier (code : Code) : ']' ∉ code.identifier.toList := by
  cases code <;> decide

theorem toDigits_injective {first second : Nat}
    (same : Nat.toDigits 10 first = Nat.toDigits 10 second) : first = second := by
  have read := congrArg (Nat.ofDigitChars 10 · 0) same
  simpa only [Nat.ofDigitChars_ten_toDigits] using read

theorem dot_not_mem_toDigits (number : Nat) : '.' ∉ Nat.toDigits 10 number := by
  intro inside
  have digit := Nat.isDigit_of_mem_toDigits (by decide) (by decide) inside
  exact absurd digit (by decide)

namespace Span

theorem toList_text (span : Span) :
    span.text.toList = Nat.toDigits 10 span.start ++ '.' :: '.' :: Nat.toDigits 10 span.stop := by
  simp only [text, String.toList_append, Nat.toString_eq_ofList_toDigits, String.toList_ofList,
    List.append_assoc]
  rfl

theorem text_injective {first second : Span} (same : first.text = second.text) :
    first = second := by
  have spelled := congrArg String.toList same
  rw [toList_text, toList_text] at spelled
  obtain ⟨starts, later⟩ :=
    eq_and_eq_of_mark (dot_not_mem_toDigits _) (dot_not_mem_toDigits _) spelled
  have stops := (List.cons.inj later).2
  rw [Span.mk.injEq]
  exact ⟨toDigits_injective starts, toDigits_injective stops⟩

end Span

namespace Diagnostic

theorem toList_text (diagnostic : Diagnostic) :
    diagnostic.text.toList =
      diagnostic.severity.text.toList ++
        '[' :: (diagnostic.code.identifier.toList ++
          ']' :: ':' :: ' ' :: diagnostic.message.toList) := by
  simp only [text, String.toList_append, List.append_assoc]
  rfl

theorem text_eq_iff (first second : Diagnostic) :
    first.text = second.text ↔
      first.severity = second.severity ∧ first.code = second.code ∧
        first.message = second.message := by
  constructor
  · intro same
    have spelled := congrArg String.toList same
    rw [toList_text, toList_text] at spelled
    obtain ⟨severities, later⟩ := eq_and_eq_of_mark first.severity.bracket_not_mem_text
      second.severity.bracket_not_mem_text spelled
    obtain ⟨codes, last⟩ := eq_and_eq_of_mark first.code.bracket_not_mem_identifier
      second.code.bracket_not_mem_identifier later
    have messages := (List.cons.inj (List.cons.inj last).2).2
    refine ⟨?_, ?_, ?_⟩
    · exact Severity.text_injective (String.toList_inj.mp severities)
    · exact Code.identifier_injective (String.toList_inj.mp codes)
    · exact String.toList_inj.mp messages
  · rintro ⟨severities, codes, messages⟩
    rw [text, text, severities, codes, messages]

/-- Findings that are written alike, in the same place, are the same. Nothing in a message can make
up for a difference elsewhere, and a place that ends before it starts is told like any other. -/
theorem eq_iff_texts_eq (first second : Diagnostic) :
    first = second ↔ first.text = second.text ∧ first.span.text = second.span.text := by
  constructor
  · intro same
    rw [same]
    exact ⟨rfl, rfl⟩
  · rintro ⟨written, placed⟩
    obtain ⟨severities, codes, messages⟩ := (text_eq_iff first second).mp written
    have places := Span.text_injective placed
    rw [Diagnostic.mk.injEq]
    exact ⟨severities, codes, messages, places⟩

end Diagnostic

end ChartLint
