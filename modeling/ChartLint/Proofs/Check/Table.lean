import ChartLint.Check.Rules

/-!
The rules as a table. A row says when it applies and what it then reports: code, severity, words
and place. An event is told the rows that apply to it, in the order of the table; for an arc, a
second table is read once for every arctap. The findings of every event are those of the table.
-/

namespace ChartLint

structure Rule (α : Type) where
  applies : α → Prop
  [decidable : DecidablePred applies]
  code : Code
  severity : Severity
  message : α → String
  place : α → Span

attribute [instance] Rule.decidable

namespace Rule

variable {α : Type}

def finding (rule : Rule α) (subject : α) : Diagnostic :=
  ⟨rule.severity, rule.code, rule.message subject, rule.place subject⟩

def read (table : List (Rule α)) (subject : α) : List Diagnostic :=
  (table.filter fun rule => rule.applies subject).map fun rule => rule.finding subject

@[simp] theorem read_nil (subject : α) : read [] subject = [] := rfl

@[simp] theorem read_cons (rule : Rule α) (rest : List (Rule α)) (subject : α) :
    read (rule :: rest) subject =
      findingIf (decide (rule.applies subject)) (rule.finding subject) ++ read rest subject := by
  by_cases applies : rule.applies subject
  · simp only [read, findingIf, List.filter_cons, applies, decide_true, ↓reduceIte, List.map_cons,
      List.singleton_append]
  · simp only [read, findingIf, List.filter_cons, applies, decide_false, Bool.false_eq_true,
      ↓reduceIte, List.nil_append]

theorem read_append (first second : List (Rule α)) (subject : α) :
    read (first ++ second) subject = read first subject ++ read second subject := by
  simp only [read, List.filter_append, List.map_append]

def time (field : α → Spanned Int) : Rule α where
  applies subject := (field subject).value < 0
  code := .timestampNonNegative
  severity := .error
  message _ := "Timestamp should not be negative"
  place subject := (field subject).span

@[simp] theorem finding_time (field : α → Spanned Int) (subject : α) :
    findingIf (decide ((time field).applies subject)) ((time field).finding subject) =
      (field subject).negativeTime := rfl

end Rule

namespace Timing

def table : List (Rule Timing) :=
  [ .time (·.time),
    { applies := fun timing =>
        (timing.bpm.value == Binary64.zero) = false ∧ timing.measure.value = 0
      code := .nonZeroBpmNonZeroBeats
      severity := .error
      message := fun _ => "Timing event with non-zero bpm should not have zero beats per segment"
      place := (·.measure.span) },
    { applies := fun timing =>
        (timing.bpm.value == Binary64.zero) = true ∧ timing.measure.value ≠ 0
      code := .zeroBpmZeroBeats
      severity := .info
      message := fun _ => "Timing event with zero bpm should have zero beats per segment"
      place := (·.measure.span) } ]

theorem findings_eq_read (timing : Timing) : timing.findings = Rule.read table timing := by
  simp only [table, Rule.read_cons, Rule.read_nil, Rule.finding_time, List.append_nil]
  simp only [findings, Rule.finding, Diagnostic.error, Diagnostic.info, Bool.decide_and, decide_not,
    Bool.decide_eq_true, Bool.decide_eq_false, List.append_assoc,
    Bool.beq_eq_decide_eq]

end Timing

namespace Tap

def table : List (Rule Tap) := [.time (·.time)]

theorem findings_eq_read (tap : Tap) : tap.findings = Rule.read table tap := by
  simp only [findings, table, Rule.read_cons, Rule.read_nil, Rule.finding_time, List.append_nil]

end Tap

namespace Hold

def table : List (Rule (Spanned Hold)) :=
  [ .time (·.value.start),
    .time (·.value.stop),
    { applies := fun hold => hold.value.start.value ≥ hold.value.stop.value
      code := .holdPositiveDuration
      severity := .error
      message := fun _ => "Hold event should have a positive time length"
      place := (·.span) } ]

theorem findings_eq_read (hold : Hold) (span : Span) :
    hold.findings span = Rule.read table ⟨hold, span⟩ := by
  simp only [table, Rule.read_cons, Rule.read_nil, Rule.finding_time, List.append_nil]
  simp only [findings, Rule.finding, Diagnostic.error, List.append_assoc]

end Hold

namespace Arc

/-- The rows about an arc with no length in time. They stand apart from each other, so an arc may be
told any of them with or without the others. -/
def instantTable : List (Rule (Spanned Arc)) :=
  [ { applies := fun arc => arc.value.start.value = arc.value.stop.value ∧
        ((arc.value.xStart.value == arc.value.xStop.value) = true ∧
          (arc.value.yStart.value == arc.value.yStop.value) = true)
      code := .arcZeroDurationDifferentPoints
      severity := .error
      message := fun _ =>
        "Arc event with zero time length should have different start point and end point"
      place := (·.span) },
    { applies := fun arc =>
        arc.value.start.value = arc.value.stop.value ∧ arc.value.kind.value ≠ 's'
      code := .arcZeroDurationStraight
      severity := .info
      message := fun _ => "Arc event with zero time length should be \"s\" type"
      place := (·.value.kind.span) },
    { applies := fun arc =>
        arc.value.start.value = arc.value.stop.value ∧ arc.value.arctaps.isSome = true
      code := .arcZeroDurationNoArctap
      severity := .error
      message := fun _ => "Arc event with zero time length should not have arctap events on it"
      place := fun arc => arc.value.arctaps.elim Span.origin (·.span) } ]

def solidTable : List (Rule (Spanned Arc)) :=
  [ { applies := fun arc => arc.value.isLine.value = false ∧ arc.value.arctaps.isSome = true
      code := .arcArctapNotSolid
      severity := .warning
      message := fun _ => "Arc event with arctap events on it will be treated as not solid even it is specified as solid"
      place := (·.value.isLine.span) },
    { applies := fun arc => arc.value.isLine.value = false ∧
        (arc.value.arctaps.isSome = false ∧ arc.value.color.value = 3)
      code := .arcSolidColor
      severity := .error
      message := fun _ => "Solid arc event should not use the color 3"
      place := (·.value.color.span) } ]

def table : List (Rule (Spanned Arc)) :=
  [ .time (·.value.start),
    .time (·.value.stop),
    { applies := fun arc => arc.value.start.value > arc.value.stop.value
      code := .arcNonNegativeDuration
      severity := .error
      message := fun _ => "Arc event should have a non-negative time length"
      place := (·.span) } ]
  ++ instantTable
  ++ [ { applies := fun arc =>
          arc.value.effect.value ≠ "none" ∧ ¬ "_wav".toList <:+ arc.value.effect.value.toList
         code := .arcEffectUnknown
         severity := .warning
         message := fun arc =>
          "Arc event with effect \"" ++ arc.value.effect.value ++ "\"  is not known by us"
         place := (·.value.effect.span) } ]
  ++ solidTable

def arctapTable : List (Rule (Arc × Spanned Arctap)) :=
  [ { applies := fun pair => ¬ (pair.1.start.value ≤ pair.2.value.time.value ∧
        pair.2.value.time.value ≤ pair.1.stop.value)
      code := .arcArctapInTimeRange
      severity := .error
      message := fun _ => "Arctap event should happens in the time range of parent arc event"
      place := (·.2.span) } ]

theorem instantFindings_eq_read (arc : Arc) (span : Span) :
    (if arc.isInstant then arc.instantFindings span else []) =
      Rule.read instantTable ⟨arc, span⟩ := by
  have instant : arc.isInstant = decide (arc.start.value = arc.stop.value) := by
    rw [isInstant, Spanned.beq_iff, Bool.beq_eq_decide_eq]
  simp only [instantTable, Rule.read_cons, Rule.read_nil, Rule.finding, List.append_nil,
    Bool.decide_and, Bool.decide_eq_true, decide_not, ← instant]
  cases arc.isInstant with
  | false => rfl
  | true =>
    have curved : (arc.kind.value != 's') = !decide (arc.kind.value = 's') := by
      rw [bne, Bool.beq_eq_decide_eq]
    rw [if_pos rfl, instantFindings, isStill, curved, List.append_assoc]
    cases arc.arctaps with
    | none => rfl
    | some arctaps => rfl

theorem solidFindings_eq_read (arc : Arc) (span : Span) :
    arc.solidFindings = Rule.read solidTable ⟨arc, span⟩ := by
  simp only [solidTable, Rule.read_cons, Rule.read_nil, Rule.finding, List.append_nil,
    Bool.decide_and, Bool.decide_eq_true, Bool.decide_eq_false]
  rw [solidFindings, hasArctaps]
  cases arc.isLine.value with
  | true => rfl
  | false =>
    cases arc.arctaps with
    | none => rw [Bool.beq_eq_decide_eq]; rfl
    | some arctaps => rfl

theorem effectKnown_eq (effect : String) :
    effectKnown effect = decide (effect = "none" ∨ "_wav".toList <:+ effect.toList) := by
  rw [Bool.eq_iff_iff, decide_eq_true_iff]
  simp only [effectKnown, Bool.or_eq_true, beq_iff_eq, List.isSuffixOf_iff_suffix]
  rfl

theorem arctapFindings_eq_read (arc : Arc) (arctap : Spanned Arctap) :
    arc.arctapFindings arctap = Rule.read arctapTable (arc, arctap) := by
  simp only [arctapTable, Rule.read_cons, Rule.read_nil, List.append_nil]
  simp only [arctapFindings, Rule.finding, Diagnostic.error, Decidable.not_and_iff_not_or_not,
    Int.not_le, Bool.decide_or]

theorem arctapList_eq (arc : Arc) : arc.arctapList = arc.arctaps.elim [] (·.value) := by
  unfold arctapList
  cases arc.arctaps with
  | none => rfl
  | some listed => rfl

theorem findings_eq_read (arc : Arc) (span : Span) :
    arc.findings span = Rule.read table ⟨arc, span⟩
      ++ (arc.arctaps.elim [] (·.value)).flatMap fun arctap =>
        Rule.read arctapTable (arc, arctap) := by
  have arctaps : arc.arctapFindings = fun arctap => Rule.read arctapTable (arc, arctap) :=
    funext arc.arctapFindings_eq_read
  rw [findings, instantFindings_eq_read, solidFindings_eq_read arc span, effectKnown_eq, arctaps,
    arctapList_eq]
  simp only [table, Rule.read_append, Rule.read_cons, Rule.read_nil, Rule.finding_time,
    List.append_nil]
  simp only [Rule.finding, Diagnostic.error, Diagnostic.warning, Bool.decide_and, decide_not,
    ne_eq, Bool.not_or, Bool.decide_or, List.append_assoc]

end Arc

namespace Camera

def table : List (Rule Camera) :=
  [ { applies := fun camera => camera.duration.value < 0
      code := .cameraNonNegativeDuration
      severity := .error
      message := fun _ => "Camera event should have non negative duration"
      place := (·.duration.span) } ]

theorem findings_eq_read (camera : Camera) : camera.findings = Rule.read table camera := by
  simp only [table, Rule.read_cons, Rule.read_nil, List.append_nil]
  rfl

end Camera

namespace Event

def findings : Event → Span → List Diagnostic
  | .timing fields, _ => fields.findings
  | .tap fields, _ => fields.findings
  | .hold fields, span => fields.findings span
  | .arc fields, span => fields.findings span
  | .camera fields, _ => fields.findings

def listed : Event → Span → List Diagnostic
  | .timing fields, _ => Rule.read Timing.table fields
  | .tap fields, _ => Rule.read Tap.table fields
  | .hold fields, span => Rule.read Hold.table ⟨fields, span⟩
  | .arc fields, span => Rule.read Arc.table ⟨fields, span⟩
      ++ (fields.arctaps.elim [] (·.value)).flatMap fun arctap =>
        Rule.read Arc.arctapTable (fields, arctap)
  | .camera fields, _ => Rule.read Camera.table fields

theorem findings_eq_listed (event : Event) (span : Span) :
    event.findings span = event.listed span := by
  cases event with
  | timing fields => exact fields.findings_eq_read
  | tap fields => exact fields.findings_eq_read
  | hold fields => exact fields.findings_eq_read span
  | arc fields => exact fields.findings_eq_read span
  | camera fields => exact fields.findings_eq_read

end Event

end ChartLint
