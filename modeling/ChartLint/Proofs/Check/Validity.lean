import ChartLint.Proofs.Check.Passing

/-!
Which charts pass by default: those in which every event is valid, at whatever depth it stands. What
makes an event valid is said here field by field. Warnings and remarks refuse nothing, and an
event with a negative time is never valid: an arctap is compared with its arc alone, but an arctap
below zero is only in the time of an arc that starts below zero.
-/

namespace ChartLint

structure Timing.Valid (timing : Timing) : Prop where
  time : 0 ≤ timing.time.value
  /-- A tempo that is not a number is not stopped, and so it needs beats. -/
  beats : timing.measure.value ≠ 0 ∨ (timing.bpm.value == Binary64.zero) = true

def Tap.Valid (tap : Tap) : Prop := 0 ≤ tap.time.value

structure Hold.Valid (hold : Hold) : Prop where
  start : 0 ≤ hold.start.value
  order : hold.start.value < hold.stop.value

theorem Hold.Valid.stop_nonneg {hold : Hold} (valid : hold.Valid) : 0 ≤ hold.stop.value :=
  Int.le_of_lt (Int.lt_of_le_of_lt valid.start valid.order)

structure Arc.Valid (arc : Arc) : Prop where
  start : 0 ≤ arc.start.value
  order : arc.start.value ≤ arc.stop.value
  arctaps : ∀ listed ∈ arc.arctaps, ∀ arctap ∈ listed.value,
    arc.start.value ≤ arctap.value.time.value ∧ arctap.value.time.value ≤ arc.stop.value
  /-- With no length in time, an arc has no list of arctaps and does not end where it starts. -/
  instant : arc.start.value = arc.stop.value → arc.arctaps = none ∧
    ¬ ((arc.xStart.value == arc.xStop.value) = true ∧ (arc.yStart.value == arc.yStop.value) = true)
  solid : arc.isLine.value = false → arc.arctaps = none → arc.color.value ≠ 3

theorem Arc.Valid.stop_nonneg {arc : Arc} (valid : arc.Valid) : 0 ≤ arc.stop.value :=
  Int.le_trans valid.start valid.order

def Camera.Valid (camera : Camera) : Prop := 0 ≤ camera.duration.value

namespace Event

def Valid : Event → Prop
  | .timing fields => fields.Valid
  | .tap fields => fields.Valid
  | .hold fields => fields.Valid
  | .arc fields => fields.Valid
  | .camera fields => fields.Valid

/-- Every time and every length of time that an event is written with. -/
def times : Event → List Int
  | .timing fields => [fields.time.value]
  | .tap fields => [fields.time.value]
  | .hold fields => [fields.start.value, fields.stop.value]
  | .arc fields =>
    fields.start.value :: fields.stop.value ::
      fields.arctaps.elim [] fun listed => listed.value.map (·.value.time.value)
  | .camera fields => [fields.duration.value]

end Event

def Harmless (diagnostics : List Diagnostic) : Prop :=
  ∀ diagnostic ∈ diagnostics, diagnostic.severity ≠ .error

theorem harmless_append (first second : List Diagnostic) :
    Harmless (first ++ second) ↔ Harmless first ∧ Harmless second :=
  List.forall_mem_append

theorem harmless_flatMap {α : Type} (subjects : List α) (found : α → List Diagnostic) :
    Harmless (subjects.flatMap found) ↔ ∀ subject ∈ subjects, Harmless (found subject) :=
  List.forall_mem_flatMap

namespace Rule

variable {α : Type}

def Spares (rule : Rule α) (subject : α) : Prop := rule.applies subject → rule.severity ≠ .error

@[simp] theorem harmless_read_nil (subject : α) : Harmless (read [] subject) :=
  fun _ member => nomatch member

@[simp] theorem harmless_read_cons (rule : Rule α) (rest : List (Rule α)) (subject : α) :
    Harmless (read (rule :: rest) subject) ↔ rule.Spares subject ∧ Harmless (read rest subject) := by
  rw [read_cons, harmless_append]
  apply and_congr_left
  intro _
  by_cases applies : rule.applies subject
  · simp only [findingIf, applies, decide_true, ↓reduceIte, Harmless, List.forall_mem_singleton,
      Spares, forall_const, finding]
  · simp only [findingIf, applies, decide_false, Bool.false_eq_true, ↓reduceIte, Harmless,
      List.not_mem_nil, false_implies, implies_true, Spares]

theorem harmless_read_append (first second : List (Rule α)) (subject : α) :
    Harmless (read (first ++ second) subject) ↔
      Harmless (read first subject) ∧ Harmless (read second subject) := by
  rw [read_append, harmless_append]

theorem spares_time_iff (field : α → Spanned Int) (subject : α) :
    (time field).Spares subject ↔ 0 ≤ (field subject).value := by
  constructor
  · intro spared
    apply Int.not_lt.mp
    intro early
    exact spared early rfl
  · intro late early
    exact absurd early (Int.not_lt.mpr late)

theorem spares_iff_of_error {rule : Rule α} (severe : rule.severity = .error) (subject : α) :
    rule.Spares subject ↔ ¬ rule.applies subject := by
  constructor
  · intro spared applies
    exact spared applies severe
  · intro other applies
    exact absurd applies other

end Rule

theorem Timing.harmless_iff (timing : Timing) :
    Harmless (Rule.read table timing) ↔ timing.Valid := by
  simp only [table, Rule.harmless_read_cons, Rule.harmless_read_nil, Rule.spares_time_iff]
  simp only [Rule.Spares, ne_eq, not_true_eq_false, reduceCtorEq, not_false_eq_true, implies_true,
    and_true, imp_false]
  constructor
  · intro spared
    obtain ⟨time, beats⟩ := spared
    refine ⟨time, ?_⟩
    cases stopped : timing.bpm.value == Binary64.zero with
    | true => exact .inr rfl
    | false => exact .inl fun beatless => beats ⟨stopped, beatless⟩
  · intro valid
    refine ⟨valid.time, ?_⟩
    intro fault
    obtain ⟨moving, beatless⟩ := fault
    cases valid.beats with
    | inl some => exact some beatless
    | inr stopped => exact absurd stopped (Bool.eq_false_iff.mp moving)

theorem Tap.harmless_iff (tap : Tap) : Harmless (Rule.read table tap) ↔ tap.Valid := by
  simp only [table, Rule.harmless_read_cons, Rule.harmless_read_nil, Rule.spares_time_iff, and_true]
  rfl

theorem Hold.harmless_iff (hold : Hold) (span : Span) :
    Harmless (Rule.read table ⟨hold, span⟩) ↔ hold.Valid := by
  simp only [table, Rule.harmless_read_cons, Rule.harmless_read_nil, Rule.spares_time_iff, and_true]
  rw [Rule.spares_iff_of_error rfl]
  constructor
  · intro spared
    obtain ⟨start, -, order⟩ := spared
    exact ⟨start, Int.not_le.mp order⟩
  · intro valid
    exact ⟨valid.start, valid.stop_nonneg, Int.not_le.mpr valid.order⟩

theorem Camera.harmless_iff (camera : Camera) :
    Harmless (Rule.read table camera) ↔ camera.Valid := by
  simp only [table, Rule.harmless_read_cons, Rule.harmless_read_nil, and_true]
  rw [Rule.spares_iff_of_error rfl]
  exact Int.not_lt

namespace Arc

theorem harmless_arctap_iff (arc : Arc) (arctap : Spanned Arctap) :
    Harmless (Rule.read arctapTable (arc, arctap)) ↔
      arc.start.value ≤ arctap.value.time.value ∧ arctap.value.time.value ≤ arc.stop.value := by
  simp only [arctapTable, Rule.harmless_read_cons, Rule.harmless_read_nil, and_true]
  rw [Rule.spares_iff_of_error rfl]
  exact Decidable.not_not

theorem harmless_arctaps_iff (arc : Arc) :
    (∀ arctap ∈ arc.arctaps.elim [] (·.value), Harmless (Rule.read arctapTable (arc, arctap))) ↔
      ∀ listed ∈ arc.arctaps, ∀ arctap ∈ listed.value,
        arc.start.value ≤ arctap.value.time.value ∧ arctap.value.time.value ≤ arc.stop.value := by
  simp only [harmless_arctap_iff]
  cases arc.arctaps with
  | none =>
    simp only [Option.elim_none, List.not_mem_nil, Option.not_mem_none, false_implies, implies_true]
  | some listed => simp only [Option.elim_some, Option.mem_some_iff, forall_eq']

theorem harmless_iff (arc : Arc) (span : Span) :
    Harmless (Event.listed (.arc arc) span) ↔ arc.Valid := by
  rw [Event.listed, harmless_append, harmless_flatMap, harmless_arctaps_iff]
  -- What is left are the rows that are errors; the rows for warnings and remarks fall away.
  simp only [table, instantTable, solidTable, Rule.harmless_read_append, Rule.harmless_read_cons,
    Rule.harmless_read_nil, Rule.spares_time_iff, and_true]
  simp only [Rule.Spares, ne_eq, not_true_eq_false, reduceCtorEq, not_false_eq_true, implies_true,
    true_and, imp_false, and_assoc]
  constructor
  · intro spared
    obtain ⟨start, -, order, moves, bare, solid, arctaps⟩ := spared
    refine ⟨start, Int.not_lt.mp order, arctaps, ?_, ?_⟩
    · intro same
      constructor
      · exact Option.not_isSome_iff_eq_none.mp fun listed => bare ⟨same, listed⟩
      · exact fun still => moves ⟨same, still⟩
    · intro broad absent reserved
      have without := Option.isSome_eq_false_iff.mpr (Option.isNone_iff_eq_none.mpr absent)
      exact solid ⟨broad, without, reserved⟩
  · intro valid
    refine ⟨valid.start, valid.stop_nonneg, Int.not_lt.mpr valid.order, ?_, ?_, ?_, valid.arctaps⟩
    · intro fault
      obtain ⟨same, still⟩ := fault
      exact (valid.instant same).2 still
    · intro fault
      obtain ⟨same, listed⟩ := fault
      rw [(valid.instant same).1] at listed
      cases listed
    · intro fault
      obtain ⟨broad, without, reserved⟩ := fault
      have absent := Option.isNone_iff_eq_none.mp (Option.isSome_eq_false_iff.mp without)
      exact valid.solid broad absent reserved

end Arc

namespace Event

theorem harmless_iff (event : Event) (span : Span) :
    Harmless (event.findings span) ↔ event.Valid := by
  rw [findings_eq_listed]
  cases event with
  | timing fields => exact fields.harmless_iff
  | tap fields => exact fields.harmless_iff
  | hold fields => exact fields.harmless_iff span
  | arc fields => exact fields.harmless_iff span
  | camera fields => exact fields.harmless_iff

theorem Valid.times_nonneg {event : Event} (valid : event.Valid) :
    ∀ time ∈ event.times, 0 ≤ time := by
  cases event with
  | timing fields =>
    simp only [times, List.forall_mem_singleton]
    exact valid.time
  | tap fields =>
    simp only [times, List.forall_mem_singleton]
    exact valid
  | hold fields =>
    simp only [times, List.forall_mem_cons, List.not_mem_nil, false_implies, implies_true, and_true]
    exact ⟨valid.start, Hold.Valid.stop_nonneg valid⟩
  | arc fields =>
    simp only [times, List.forall_mem_cons]
    refine ⟨valid.start, Arc.Valid.stop_nonneg valid, ?_⟩
    cases carried : fields.arctaps with
    | none => simp only [Option.elim_none, List.not_mem_nil, false_implies, implies_true]
    | some listed =>
      simp only [Option.elim_some, List.forall_mem_map]
      -- No row is about the time of an arctap alone, so its bound goes through the start of the arc.
      intro arctap member
      have after := (valid.arctaps listed carried arctap member).1
      exact Int.le_trans valid.start after
  | camera fields =>
    simp only [times, List.forall_mem_singleton]
    exact valid

end Event

theorem passes_default_iff (chart : Chart) :
    Config.Passes .default chart ↔ Harmless (check chart []) := by
  constructor
  · intro passes diagnostic member severe
    exact absurd (passes.excused diagnostic member severe) List.not_mem_nil
  · intro harmless
    constructor
    · intro limit limited
      cases limited
    · intro diagnostic member severe
      exact absurd severe (harmless diagnostic member)

theorem lint_default_hasErrors_iff (chart : Chart) :
    (lint .default chart).report.hasErrors = false ↔
      ∀ leaf ∈ chart.items.leaves, leaf.1.Valid := by
  rw [lint_hasErrors_eq_false_iff, passes_default_iff, check_eq_findings, List.nil_append,
    Chart.findings, harmless_flatMap]
  simp only [Event.harmless_iff]

/-- By default, a chart passes exactly if every event in it is valid, at whatever depth. So a chart
with a negative time anywhere fails. -/
theorem lint_default_outcome_iff (chart : Chart) :
    ((∃ diagnostics, (lint .default chart).report.outcome = .ok diagnostics) ↔
      ∀ leaf ∈ chart.items.leaves, leaf.1.Valid) ∧
    ((∃ leaf ∈ chart.items.leaves, ∃ time ∈ leaf.1.times, time < 0) →
      ∃ failure, (lint .default chart).report.outcome = .error failure) := by
  constructor
  · rw [← lint_default_hasErrors_iff]
    simp only [Report.outcome_eq_ok_iff, exists_and_left, exists_eq, and_true]
  · intro early
    obtain ⟨leaf, member, time, listed, negative⟩ := early
    rw [Report.outcome_eq_error_iff, ← Bool.not_eq_false, lint_default_hasErrors_iff]
    intro valid
    have late := (valid leaf member).times_nonneg time listed
    exact absurd negative (Int.not_lt.mpr late)

def Arc.early : Arc where
  start := .unplaced (-10)
  stop := .unplaced 10
  xStart := .unplaced .zero
  xStop := .unplaced .zero
  yStart := .unplaced .zero
  yStop := .unplaced .zero
  kind := .unplaced 's'
  effect := .unplaced "none"
  isLine := .unplaced true
  color := .unplaced 0
  arctaps := some (.unplaced [.unplaced ⟨.unplaced (-4)⟩])

/-- Inside of a group, an arctap below zero is within the time of its arc, and the chart fails. -/
theorem lint_default_outcome_early :
    let chart : Chart := ⟨.group (.leaf (.arc .early) .origin .nil) .origin .origin .nil⟩
    (∃ leaf ∈ chart.items.leaves, ∃ time ∈ leaf.1.times, time < 0) ∧
      ∃ failure, (lint .default chart).report.outcome = .error failure := by
  intro chart
  have early : ∃ leaf ∈ chart.items.leaves, ∃ time ∈ leaf.1.times, time < 0 :=
    ⟨(.arc .early, .origin), List.mem_singleton_self _, -4, by decide, by decide⟩
  exact ⟨early, (lint_default_outcome_iff chart).2 early⟩

end ChartLint
