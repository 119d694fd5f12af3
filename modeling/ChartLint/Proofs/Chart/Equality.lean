import ChartLint.Chart.Basic
import ChartLint.Check.Rules

/-!
What equality of charts says. Equal charts have the same shape and, at each place of it, equal
events; equal events agree in every field but for where it stands, where two numbers agree that are
equal as numbers.
-/

namespace ChartLint

namespace Timing

structure Alike (first second : Timing) : Prop where
  time : first.time.value = second.time.value
  bpm : (first.bpm.value == second.bpm.value) = true
  measure : first.measure.value = second.measure.value

theorem beq_iff_alike (first second : Timing) : (first == second) = true ↔ first.Alike second := by
  have fields : (first == second) =
      (first.time == second.time && (first.bpm == second.bpm && first.measure == second.measure)) :=
    rfl
  simp only [fields, Spanned.beq_iff, Bool.and_eq_true, beq_iff_eq]
  constructor
  · intro equal
    obtain ⟨time, bpm, measure⟩ := equal
    exact ⟨time, bpm, measure⟩
  · intro alike
    exact ⟨alike.time, alike.bpm, alike.measure⟩

end Timing

theorem Tap.beq_iff (first second : Tap) :
    (first == second) = true ↔ first.time.value = second.time.value := by
  have fields : (first == second) = (first.time == second.time) := rfl
  rw [fields, Spanned.beq_iff, beq_iff_eq]

theorem Hold.beq_iff (first second : Hold) :
    (first == second) = true ↔
      first.start.value = second.start.value ∧ first.stop.value = second.stop.value := by
  have fields : (first == second) = (first.start == second.start && first.stop == second.stop) :=
    rfl
  simp only [fields, Spanned.beq_iff, Bool.and_eq_true, beq_iff_eq]

theorem Arctap.beq_iff (first second : Arctap) :
    (first == second) = true ↔ first.time.value = second.time.value := by
  have fields : (first == second) = (first.time == second.time) := rfl
  rw [fields, Spanned.beq_iff, beq_iff_eq]

theorem Camera.beq_iff (first second : Camera) :
    (first == second) = true ↔ first.duration.value = second.duration.value := by
  have fields : (first == second) = (first.duration == second.duration) := rfl
  rw [fields, Spanned.beq_iff, beq_iff_eq]

namespace Arc

structure Alike (first second : Arc) : Prop where
  start : first.start.value = second.start.value
  stop : first.stop.value = second.stop.value
  xStart : (first.xStart.value == second.xStart.value) = true
  xStop : (first.xStop.value == second.xStop.value) = true
  yStart : (first.yStart.value == second.yStart.value) = true
  yStop : (first.yStop.value == second.yStop.value) = true
  kind : first.kind.value = second.kind.value
  effect : first.effect.value = second.effect.value
  isLine : first.isLine.value = second.isLine.value
  color : first.color.value = second.color.value
  arctaps : (first.arctaps == second.arctaps) = true

theorem beq_iff_alike (first second : Arc) : (first == second) = true ↔ first.Alike second := by
  have fields : (first == second) =
      (first.start == second.start && (first.stop == second.stop &&
        (first.xStart == second.xStart && (first.xStop == second.xStop &&
          (first.yStart == second.yStart && (first.yStop == second.yStop &&
            (first.kind == second.kind && (first.effect == second.effect &&
              (first.isLine == second.isLine && (first.color == second.color &&
                first.arctaps == second.arctaps)))))))))) := rfl
  simp only [fields, Spanned.beq_iff, Bool.and_eq_true, beq_iff_eq]
  constructor
  · intro equal
    obtain ⟨start, stop, xStart, xStop, yStart, yStop, kind, effect, isLine, color, arctaps⟩ := equal
    exact ⟨start, stop, xStart, xStop, yStart, yStop, kind, effect, isLine, color, arctaps⟩
  · intro alike
    exact ⟨alike.start, alike.stop, alike.xStart, alike.xStop, alike.yStart, alike.yStop,
      alike.kind, alike.effect, alike.isLine, alike.color, alike.arctaps⟩

namespace Alike

variable {first second : Arc}

/-- A list without arctaps differs from no list, so equal arcs both have one or both have none. -/
theorem arctaps_cases (alike : first.Alike second) :
    (first.arctaps = none ∧ second.arctaps = none) ∨
      ∃ listed others, first.arctaps = some listed ∧ second.arctaps = some others ∧
        (listed.value == others.value) = true := by
  have same := alike.arctaps
  cases own : first.arctaps with
  | none =>
    cases other : second.arctaps with
    | none => exact .inl ⟨rfl, rfl⟩
    | some others =>
      rw [own, other] at same
      cases same
  | some listed =>
    cases other : second.arctaps with
    | none =>
      rw [own, other] at same
      cases same
    | some others =>
      rw [own, other] at same
      exact .inr ⟨listed, others, rfl, rfl, same⟩

theorem isSome_arctaps (alike : first.Alike second) :
    first.arctaps.isSome = second.arctaps.isSome := by
  obtain ⟨own, other⟩ | ⟨listed, others, own, other, -⟩ := alike.arctaps_cases
  · rw [own, other]
  · rw [own, other]
    rfl

theorem elim_arctaps (alike : first.Alike second) :
    (first.arctaps.elim [] (·.value) == second.arctaps.elim [] (·.value)) = true := by
  obtain ⟨own, other⟩ | ⟨listed, others, own, other, same⟩ := alike.arctaps_cases
  · rw [own, other]
    rfl
  · rw [own, other]
    exact same

end Alike

end Arc

inductive Items.Alike : Items → Items → Prop where
  | nil : Alike .nil .nil
  | leaf {first second : Event} {span place : Span} {rest more : Items}
      (event : (first == second) = true) (after : Alike rest more) :
      Alike (.leaf first span rest) (.leaf second place more)
  | group {first second : Items} {body span braces place : Span} {rest more : Items}
      (inside : Alike first second) (after : Alike rest more) :
      Alike (.group first body span rest) (.group second braces place more)

namespace Items

theorem same_iff_alike (first second : Items) : first.same second = true ↔ first.Alike second := by
  constructor
  · intro same
    induction first generalizing second with
    | nil =>
      cases second with
      | nil => exact .nil
      | leaf _ _ _ => cases same
      | group _ _ _ _ => cases same
    | leaf event span rest ih =>
      cases second with
      | nil => cases same
      | leaf other place more =>
        obtain ⟨equal, after⟩ := Bool.and_eq_true_iff.mp same
        exact .leaf equal (ih more after)
      | group _ _ _ _ => cases same
    | group items body span rest inner ih =>
      cases second with
      | nil => cases same
      | leaf _ _ _ => cases same
      | group others braces place more =>
        obtain ⟨inside, after⟩ := Bool.and_eq_true_iff.mp same
        exact .group (inner others inside) (ih more after)
  · intro alike
    induction alike with
    | nil => rfl
    | leaf event after ih => exact Bool.and_eq_true_iff.mpr ⟨event, ih⟩
    | group inside after inner ih => exact Bool.and_eq_true_iff.mpr ⟨inner, ih⟩

theorem Alike.length_eq {first second : Items} (alike : first.Alike second) :
    first.length = second.length := by
  induction alike with
  | nil => rfl
  | leaf event after ih => rw [length, length, ih]
  | group inside after inner ih => rw [length, length, ih]

end Items

theorem Chart.beq_iff_alike (first second : Chart) :
    (first == second) = true ↔ first.items.Alike second.items :=
  first.items.same_iff_alike second.items

end ChartLint
