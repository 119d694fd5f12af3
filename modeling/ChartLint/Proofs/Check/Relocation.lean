import ChartLint.Proofs.Chart.Relocation
import ChartLint.Proofs.Check.Findings

/-!
The places of findings are copied from the chart. When a chart is relocated its findings move along,
and nothing else about them changes; so rules never look at places. And the place of a finding is one
that its event is written with, so that in a chart whose places nest every finding lies within an
item at the top.
-/

namespace ChartLint

namespace Diagnostic

def relocate (move : Span → Span) (diagnostic : Diagnostic) : Diagnostic :=
  { diagnostic with span := move diagnostic.span }

theorem map_relocate_findingIf (move : Span → Span) (condition : Bool) (diagnostic : Diagnostic) :
    (findingIf condition diagnostic).map (relocate move) =
      findingIf condition (diagnostic.relocate move) := by
  cases condition <;> rfl

end Diagnostic

section Moving

variable (move : Span → Span)

theorem Spanned.negativeTime_relocate (time : Spanned Int) :
    (time.relocate move).negativeTime = time.negativeTime.map (Diagnostic.relocate move) := by
  rw [negativeTime, negativeTime, Diagnostic.map_relocate_findingIf]
  rfl

theorem Timing.findings_relocate (timing : Timing) :
    (timing.relocate move).findings = timing.findings.map (Diagnostic.relocate move) := by
  simp only [findings, relocate, List.map_append, Diagnostic.map_relocate_findingIf,
    Spanned.negativeTime_relocate]
  rfl

theorem Hold.findings_relocate (hold : Hold) (span : Span) :
    (hold.relocate move).findings (move span) =
      (hold.findings span).map (Diagnostic.relocate move) := by
  simp only [findings, relocate, List.map_append, Diagnostic.map_relocate_findingIf,
    Spanned.negativeTime_relocate]
  rfl

theorem Camera.findings_relocate (camera : Camera) :
    (camera.relocate move).findings = camera.findings.map (Diagnostic.relocate move) := by
  simp only [findings, relocate, Diagnostic.map_relocate_findingIf]
  rfl

namespace Arc

theorem instantFindings_relocate (arc : Arc) (span : Span) :
    (arc.relocate move).instantFindings (move span) =
      (arc.instantFindings span).map (Diagnostic.relocate move) := by
  simp only [instantFindings, List.map_append, Diagnostic.map_relocate_findingIf]
  cases listed : arc.arctaps with
  | none => simp only [relocate, listed]; rfl
  | some arctaps => simp only [relocate, listed]; rfl

theorem solidFindings_relocate (arc : Arc) :
    (arc.relocate move).solidFindings = arc.solidFindings.map (Diagnostic.relocate move) := by
  have present : (arc.relocate move).hasArctaps = arc.hasArctaps := Option.isSome_map
  have solid : (arc.relocate move).isLine.value = arc.isLine.value := rfl
  rw [solidFindings, solidFindings, present, solid]
  cases arc.isLine.value with
  | true => rfl
  | false =>
    cases arc.hasArctaps with
    | true => rfl
    | false =>
      simp only [Bool.false_eq_true, ↓reduceIte, Diagnostic.map_relocate_findingIf]
      rfl

theorem arctapList_relocate (arc : Arc) :
    (arc.relocate move).arctapList =
      arc.arctapList.map fun arctap => ⟨arctap.value.relocate move, move arctap.span⟩ := by
  unfold arctapList
  cases listed : arc.arctaps with
  | none => simp only [relocate, listed]; rfl
  | some arctaps => simp only [relocate, listed]; rfl

theorem arctapFindings_relocate (arc : Arc) (arctap : Spanned Arctap) :
    (arc.relocate move).arctapFindings ⟨arctap.value.relocate move, move arctap.span⟩ =
      (arc.arctapFindings arctap).map (Diagnostic.relocate move) := by
  rw [arctapFindings, arctapFindings, Diagnostic.map_relocate_findingIf]
  rfl

theorem findings_relocate (arc : Arc) (span : Span) :
    (arc.relocate move).findings (move span) =
      (arc.findings span).map (Diagnostic.relocate move) := by
  have instant : (if (arc.relocate move).isInstant then
        (arc.relocate move).instantFindings (move span) else []) =
      (if arc.isInstant then arc.instantFindings span else []).map (Diagnostic.relocate move) := by
    have same : (arc.relocate move).isInstant = arc.isInstant := rfl
    rw [same, instantFindings_relocate]
    cases arc.isInstant <;> rfl
  simp only [findings, instant, solidFindings_relocate, arctapList_relocate, List.map_append,
    List.flatMap_map, List.map_flatMap, arctapFindings_relocate, Diagnostic.map_relocate_findingIf]
  simp only [relocate, Spanned.negativeTime_relocate]
  rfl

end Arc

theorem Event.findings_relocate (event : Event) (span : Span) :
    (event.relocate move).findings (move span) =
      (event.findings span).map (Diagnostic.relocate move) := by
  cases event with
  | timing fields => exact fields.findings_relocate move
  | tap fields => exact fields.time.negativeTime_relocate move
  | hold fields => exact fields.findings_relocate move span
  | arc fields => exact fields.findings_relocate move span
  | camera fields => exact fields.findings_relocate move

namespace Record

def relocate : Record → Record
  | found diagnostic => .found (diagnostic.relocate move)
  | groupSkipped depth items span => .groupSkipped depth items (move span)
  | other => other

theorem findings_map_relocate (records : List Record) :
    findings (records.map (relocate move)) =
      (findings records).map (Diagnostic.relocate move) := by
  apply findings_map
  intro record
  cases record <;> rfl

theorem warnings_map_relocate (records : List Record) :
    warnings (records.map (relocate move)) = warnings records := by
  apply warnings_map
  intro record
  cases record <;> rfl

end Record

theorem Items.trail_relocate (items : Items) (limit : Option Nat) (around : Nat) :
    (items.relocate move).trail limit around =
      (items.trail limit around).map (Record.relocate move) := by
  induction items generalizing around with
  | nil => rfl
  | leaf event span rest ih =>
    have told : ((event.relocate move).findings (move span)).map Record.found =
        ((event.findings span).map Record.found).map (Record.relocate move) := by
      rw [event.findings_relocate, List.map_map, List.map_map]
      rfl
    rw [relocate, trail, trail, List.map_append, told, ih]
  | group items body span rest inner ih =>
    cases limit with
    | none => simp only [relocate, trail, List.map_append, inner, ih]
    | some bound =>
      by_cases room : around < bound
      · simp only [relocate, trail, if_pos room, List.map_append, inner, ih]
      · simp only [relocate, trail, if_neg room, List.map_cons, Record.relocate, length_relocate, ih]

theorem Chart.findings_trail_relocate (chart : Chart) (limit : Option Nat) :
    Record.findings ((chart.relocate move).items.trail limit 0) =
      (Record.findings (chart.items.trail limit 0)).map (Diagnostic.relocate move) := by
  rw [relocate, Items.trail_relocate, Record.findings_map_relocate]

theorem Chart.warnings_trail_relocate (chart : Chart) (limit : Option Nat) :
    Record.warnings ((chart.relocate move).items.trail limit 0) =
      Record.warnings (chart.items.trail limit 0) := by
  rw [relocate, Items.trail_relocate, Record.warnings_map_relocate]

end Moving

section Copied

theorem Rule.forall_mem_read_iff {α : Type} {table : List (Rule α)} {subject : α}
    {holds : Diagnostic → Prop} :
    (∀ diagnostic ∈ read table subject, holds diagnostic) ↔
      ∀ rule ∈ table, rule.applies subject → holds (rule.finding subject) := by
  simp only [read, List.forall_mem_map, List.mem_filter, decide_eq_true_eq, and_imp]

namespace Event

def places (event : Event) (span : Span) : List Span :=
  span :: (event.fieldPlaces ++
    event.arctaps?.toList.flatMap fun listed => listed.value.map Spanned.span)

theorem mem_places_of_mem_arc (arc : Arc) (span : Span) :
    ∀ diagnostic ∈ (Event.arc arc).listed span, diagnostic.span ∈ (Event.arc arc).places span := by
  obtain ⟨start, stop, xStart, xStop, yStart, yStop, kind, effect, isLine, color, arctaps⟩ := arc
  rw [listed, List.forall_mem_append, Rule.forall_mem_read_iff, List.forall_mem_flatMap]
  simp only [Rule.forall_mem_read_iff]
  -- The place of a list of arctaps is only asked for where there is one.
  cases arctaps with
  | none =>
    constructor
    · simp [Arc.table, Arc.instantTable, Arc.solidTable, Rule.time, Rule.finding, places,
        fieldPlaces]
    · exact List.forall_mem_nil _
  | some arctaps =>
    constructor
    · simp [Arc.table, Arc.instantTable, Arc.solidTable, Rule.time, Rule.finding, places,
        fieldPlaces]
    · intro arctap member rule row _
      obtain rfl := List.mem_singleton.mp row
      apply List.mem_cons_of_mem
      apply List.mem_append_right
      exact List.mem_flatMap.mpr
        ⟨arctaps, List.mem_singleton.mpr rfl, List.mem_map_of_mem member⟩

/-- A finding is placed where something of its event is written. -/
theorem mem_places_of_mem_findings (event : Event) (span : Span) :
    ∀ diagnostic ∈ event.findings span, diagnostic.span ∈ event.places span := by
  rw [findings_eq_listed]
  cases event with
  | timing fields =>
    rw [listed, Rule.forall_mem_read_iff]
    simp [Timing.table, Rule.time, Rule.finding, places, fieldPlaces]
  | tap fields =>
    rw [listed, Rule.forall_mem_read_iff]
    simp [Tap.table, Rule.time, Rule.finding, places, fieldPlaces]
  | hold fields =>
    rw [listed, Rule.forall_mem_read_iff]
    simp [Hold.table, Rule.time, Rule.finding, places, fieldPlaces]
  | arc fields => exact mem_places_of_mem_arc fields span
  | camera fields =>
    rw [listed, Rule.forall_mem_read_iff]
    simp [Camera.table, Rule.finding, places, fieldPlaces]

theorem Nested.covers {event : Event} {span : Span} (nested : event.Nested span) :
    ∀ place ∈ event.places span, span.Covers place := by
  intro place member
  rcases List.mem_cons.mp member with rfl | inside
  · exact place.covers_refl
  · rcases List.mem_append.mp inside with field | arctap
    · exact nested.fields place field
    · obtain ⟨arctaps, carried, among⟩ := List.mem_flatMap.mp arctap
      obtain ⟨tap, present, rfl⟩ := List.mem_map.mp among
      have own := Option.mem_toList.mp carried
      have outer : span.Covers arctaps.span := nested.fields _ (mem_fieldPlaces_of_mem_arctaps? own)
      exact outer.trans (nested.arctaps arctaps own tap present)

end Event

/-- In a chart whose places nest, a finding lies within an item at the top. -/
theorem Chart.covers_of_mem_findings {chart : Chart} (nested : chart.items.Nested) :
    ∀ diagnostic ∈ chart.findings,
      ∃ item ∈ chart.items.toList, item.span.Covers diagnostic.span := by
  intro diagnostic member
  obtain ⟨leaf, present, told⟩ := List.mem_flatMap.mp member
  have copied := leaf.1.mem_places_of_mem_findings leaf.2 diagnostic told
  have inner := (nested.event leaf present).covers diagnostic.span copied
  obtain ⟨item, among, outer⟩ := nested.covers_leaf leaf present
  exact ⟨item, among, outer.trans inner⟩

theorem Chart.findings_prune_subset (limit : Nat) (chart : Chart) :
    (chart.prune limit).findings ⊆ chart.findings := by
  intro diagnostic member
  obtain ⟨leaf, present, told⟩ := List.mem_flatMap.mp member
  have kept := (chart.items.leaves_prune_sublist limit 0).subset present
  exact List.mem_flatMap.mpr ⟨leaf, kept, told⟩

end Copied

/-- When a chart is relocated, a check adds the same findings, each moved along, and passes over as
many groups. When the places of a chart nest, what a check finds lies within an item at the top. -/
theorem check_relocate (chart : Chart) (earlier : List Diagnostic) :
    (∀ move, ∃ added, check chart earlier = earlier ++ added ∧
        check (chart.relocate move) earlier = earlier ++ added.map (Diagnostic.relocate move)) ∧
      (∀ move limit, ∃ added skipped, checkBounded limit chart earlier = (earlier ++ added, skipped) ∧
        checkBounded limit (chart.relocate move) earlier =
          (earlier ++ added.map (Diagnostic.relocate move), skipped)) ∧
      (chart.items.Nested → ∀ diagnostic ∈ check chart [],
        ∃ item ∈ chart.items.toList, item.span.Covers diagnostic.span) ∧
      (chart.items.Nested → ∀ limit, ∀ diagnostic ∈ (checkBounded limit chart []).1,
        ∃ item ∈ chart.items.toList, item.span.Covers diagnostic.span) := by
  refine ⟨?_, ?_, ?_, ?_⟩
  · intro move
    refine ⟨Record.findings (chart.items.trail none 0), Walk.run_diagnostics .., ?_⟩
    rw [← chart.findings_trail_relocate]
    exact Walk.run_diagnostics ..
  · intro move limit
    refine ⟨Record.findings (chart.items.trail (some limit) 0),
      Record.warnings (chart.items.trail (some limit) 0), ?_, ?_⟩
    · exact Prod.ext (Walk.run_diagnostics ..) (Walk.run_skippedGroups ..)
    · rw [← chart.findings_trail_relocate, ← chart.warnings_trail_relocate move]
      exact Prod.ext (Walk.run_diagnostics ..) (Walk.run_skippedGroups ..)
  · intro nested
    rw [check_eq_findings, List.nil_append]
    exact Chart.covers_of_mem_findings nested
  · intro nested limit diagnostic member
    rw [checkBounded_fst, List.nil_append] at member
    exact Chart.covers_of_mem_findings nested diagnostic (chart.findings_prune_subset limit member)

def Chart.late : Chart :=
  let arctap : Spanned Arctap := ⟨⟨⟨300, ⟨75, 78⟩⟩⟩, ⟨68, 79⟩⟩
  let arc : Arc :=
    { start := ⟨100, ⟨24, 27⟩⟩
      stop := ⟨200, ⟨28, 31⟩⟩
      xStart := ⟨.zero, ⟨32, 36⟩⟩
      xStop := ⟨.zero, ⟨37, 41⟩⟩
      yStart := ⟨.zero, ⟨44, 48⟩⟩
      yStop := ⟨.zero, ⟨49, 53⟩⟩
      kind := ⟨'s', ⟨42, 43⟩⟩
      effect := ⟨"none", ⟨54, 58⟩⟩
      isLine := ⟨true, ⟨59, 63⟩⟩
      color := ⟨0, ⟨64, 65⟩⟩
      arctaps := some ⟨[arctap], ⟨67, 80⟩⟩ }
  ⟨.group (.leaf (.arc arc) ⟨20, 81⟩ .nil) ⟨14, 83⟩ ⟨0, 84⟩ .nil⟩

/-- The finding is at the arctap, three levels below the group that it lies within. -/
theorem check_relocate_late :
    Chart.late.items.Nested ∧
      (check Chart.late []).map Diagnostic.span = [⟨68, 79⟩] ∧
      ∀ diagnostic ∈ check Chart.late [],
        ∃ item ∈ Chart.late.items.toList, item.span.Covers diagnostic.span := by
  have nested : Chart.late.items.Nested := by
    refine ⟨?_, ⟨⟨?_, ?_⟩, trivial⟩, trivial⟩
    · exact List.forall_mem_singleton.mpr (by decide)
    · decide
    · intro listed carried
      obtain rfl := Option.some.inj carried
      exact List.forall_mem_singleton.mpr (by decide)
  obtain ⟨-, -, within, -⟩ := check_relocate Chart.late []
  exact ⟨nested, by decide, within nested⟩

end ChartLint
