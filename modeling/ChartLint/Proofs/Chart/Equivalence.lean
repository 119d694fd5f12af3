import ChartLint.Proofs.Chart.Equality
import ChartLint.Proofs.Chart.Relocation

/-!
The laws of equality of charts. It is symmetric and transitive, and a chart equals itself exactly if
none of its numbers is not-a-number. Where things are written never counts, and equal charts have the
same outline.
-/

namespace ChartLint

def Arc.tapTimes (listed : Spanned (List (Spanned Arctap))) : List Int :=
  listed.value.map (·.value.time.value)

theorem Arctap.list_beq_iff : ∀ first second : List (Spanned Arctap),
    (first == second) = true ↔
      first.map (·.value.time.value) = second.map (·.value.time.value)
  | [], [] => iff_of_true rfl rfl
  | [], _ :: _ => iff_of_false nofun nofun
  | _ :: _, [] => iff_of_false nofun nofun
  | tap :: taps, other :: others => by
    have parts : (tap :: taps == other :: others) = (tap.value == other.value && taps == others) :=
      rfl
    rw [parts, Bool.and_eq_true, beq_iff, list_beq_iff taps others, List.map_cons, List.map_cons,
      List.cons.injEq]

theorem Arc.arctaps_beq_iff (first second : Option (Spanned (List (Spanned Arctap)))) :
    (first == second) = true ↔ first.map tapTimes = second.map tapTimes := by
  cases first with
  | none =>
    cases second with
    | none => exact iff_of_true rfl rfl
    | some others => exact iff_of_false nofun nofun
  | some listed =>
    cases second with
    | none => exact iff_of_false nofun nofun
    | some others =>
      rw [Option.map_some, Option.map_some, Option.some.injEq]
      exact Arctap.list_beq_iff listed.value others.value

namespace Timing.Alike

theorem symm {first second : Timing} (alike : first.Alike second) : second.Alike first :=
  ⟨alike.time.symm, Binary64.beq_symm alike.bpm, alike.measure.symm⟩

theorem trans {first second third : Timing} (left : first.Alike second)
    (right : second.Alike third) : first.Alike third :=
  ⟨left.time.trans right.time, Binary64.beq_trans left.bpm right.bpm,
    left.measure.trans right.measure⟩

end Timing.Alike

namespace Arc.Alike

theorem symm {first second : Arc} (alike : first.Alike second) : second.Alike first where
  start := alike.start.symm
  stop := alike.stop.symm
  xStart := Binary64.beq_symm alike.xStart
  xStop := Binary64.beq_symm alike.xStop
  yStart := Binary64.beq_symm alike.yStart
  yStop := Binary64.beq_symm alike.yStop
  kind := alike.kind.symm
  effect := alike.effect.symm
  isLine := alike.isLine.symm
  color := alike.color.symm
  arctaps := (arctaps_beq_iff ..).mpr ((arctaps_beq_iff ..).mp alike.arctaps).symm

theorem trans {first second third : Arc} (left : first.Alike second)
    (right : second.Alike third) : first.Alike third where
  start := left.start.trans right.start
  stop := left.stop.trans right.stop
  xStart := Binary64.beq_trans left.xStart right.xStart
  xStop := Binary64.beq_trans left.xStop right.xStop
  yStart := Binary64.beq_trans left.yStart right.yStart
  yStop := Binary64.beq_trans left.yStop right.yStop
  kind := left.kind.trans right.kind
  effect := left.effect.trans right.effect
  isLine := left.isLine.trans right.isLine
  color := left.color.trans right.color
  arctaps := (arctaps_beq_iff ..).mpr
    (((arctaps_beq_iff ..).mp left.arctaps).trans ((arctaps_beq_iff ..).mp right.arctaps))

end Arc.Alike

inductive Event.Alike : Event → Event → Prop where
  | timing {first second : Timing} (fields : first.Alike second) :
      Alike (.timing first) (.timing second)
  | tap {first second : Tap} (time : first.time.value = second.time.value) :
      Alike (.tap first) (.tap second)
  | hold {first second : Hold} (start : first.start.value = second.start.value)
      (stop : first.stop.value = second.stop.value) : Alike (.hold first) (.hold second)
  | arc {first second : Arc} (fields : first.Alike second) : Alike (.arc first) (.arc second)
  | camera {first second : Camera} (duration : first.duration.value = second.duration.value) :
      Alike (.camera first) (.camera second)

namespace Event

theorem beq_iff_alike (first second : Event) : (first == second) = true ↔ first.Alike second := by
  constructor
  · intro same
    cases first with
    | timing fields =>
      cases second with
      | timing others => exact .timing ((Timing.beq_iff_alike ..).mp same)
      | _ => cases same
    | tap fields =>
      cases second with
      | tap others => exact .tap ((Tap.beq_iff ..).mp same)
      | _ => cases same
    | hold fields =>
      cases second with
      | hold others =>
        obtain ⟨start, stop⟩ := (Hold.beq_iff ..).mp same
        exact .hold start stop
      | _ => cases same
    | arc fields =>
      cases second with
      | arc others => exact .arc ((Arc.beq_iff_alike ..).mp same)
      | _ => cases same
    | camera fields =>
      cases second with
      | camera others => exact .camera ((Camera.beq_iff ..).mp same)
      | _ => cases same
  · intro alike
    cases alike with
    | timing fields => exact (Timing.beq_iff_alike ..).mpr fields
    | tap time => exact (Tap.beq_iff ..).mpr time
    | hold start stop => exact (Hold.beq_iff ..).mpr ⟨start, stop⟩
    | arc fields => exact (Arc.beq_iff_alike ..).mpr fields
    | camera duration => exact (Camera.beq_iff ..).mpr duration

theorem Alike.symm {first second : Event} (alike : first.Alike second) : second.Alike first := by
  cases alike with
  | timing fields => exact .timing fields.symm
  | tap time => exact .tap time.symm
  | hold start stop => exact .hold start.symm stop.symm
  | arc fields => exact .arc fields.symm
  | camera duration => exact .camera duration.symm

theorem Alike.trans {first second third : Event} (left : first.Alike second)
    (right : second.Alike third) : first.Alike third := by
  cases left with
  | timing fields =>
    cases right with
    | timing others => exact .timing (fields.trans others)
  | tap time =>
    cases right with
    | tap other => exact .tap (time.trans other)
  | hold start stop =>
    cases right with
    | hold other last => exact .hold (start.trans other) (stop.trans last)
  | arc fields =>
    cases right with
    | arc others => exact .arc (fields.trans others)
  | camera duration =>
    cases right with
    | camera other => exact .camera (duration.trans other)

theorem Alike.keyword {first second : Event} (alike : first.Alike second) :
    first.keyword = second.keyword := by
  cases alike <;> rfl

def numbers : Event → List Binary64
  | .timing fields => [fields.bpm.value]
  | .arc fields =>
    [fields.xStart.value, fields.xStop.value, fields.yStart.value, fields.yStop.value]
  | _ => []

theorem alike_self_iff (event : Event) :
    event.Alike event ↔ ∀ number ∈ event.numbers, number.isNaN = false := by
  have same (number : Binary64) : (number == number) = true ↔ number.isNaN = false := by
    rw [Binary64.beq_self, Bool.not_eq_true']
  cases event with
  | timing fields =>
    rw [numbers, List.forall_mem_singleton, ← same]
    constructor
    · intro alike
      cases alike with
      | timing own => exact own.bpm
    · intro bpm
      exact .timing ⟨rfl, bpm, rfl⟩
  | arc fields =>
    simp only [numbers, List.forall_mem_cons, List.not_mem_nil, false_implies, implies_true,
      and_true, ← same]
    constructor
    · intro alike
      cases alike with
      | arc own => exact ⟨own.xStart, own.xStop, own.yStart, own.yStop⟩
    · intro numbers
      obtain ⟨xStart, xStop, yStart, yStop⟩ := numbers
      have arctaps := (Arc.arctaps_beq_iff fields.arctaps fields.arctaps).mpr rfl
      exact .arc ⟨rfl, rfl, xStart, xStop, yStart, yStop, rfl, rfl, rfl, rfl, arctaps⟩
  | tap fields => exact iff_of_true (.tap rfl) (List.forall_mem_nil _)
  | hold fields => exact iff_of_true (.hold rfl rfl) (List.forall_mem_nil _)
  | camera fields => exact iff_of_true (.camera rfl) (List.forall_mem_nil _)

end Event

namespace Items

theorem Alike.symm {first second : Items} (alike : first.Alike second) : second.Alike first := by
  induction alike with
  | nil => exact .nil
  | leaf event after ih =>
    have turned := ((Event.beq_iff_alike ..).mp event).symm
    exact .leaf ((Event.beq_iff_alike ..).mpr turned) ih
  | group inside after inner ih => exact .group inner ih

theorem Alike.trans {first second third : Items} (left : first.Alike second)
    (right : second.Alike third) : first.Alike third := by
  induction left generalizing third with
  | nil => exact right
  | leaf event after ih =>
    cases right with
    | leaf other more =>
      have joined := ((Event.beq_iff_alike ..).mp event).trans ((Event.beq_iff_alike ..).mp other)
      exact .leaf ((Event.beq_iff_alike ..).mpr joined) (ih more)
  | group inside after inner ih =>
    cases right with
    | group other more => exact .group (inner other) (ih more)

theorem alike_self_iff (items : Items) :
    items.Alike items ↔ ∀ leaf ∈ items.leaves, leaf.1.Alike leaf.1 := by
  induction items with
  | nil => exact iff_of_true .nil (List.forall_mem_nil _)
  | leaf event span rest ih =>
    rw [leaves, List.forall_mem_cons, ← ih, ← Event.beq_iff_alike]
    constructor
    · intro alike
      cases alike with
      | leaf here later => exact ⟨here, later⟩
    · intro parts
      obtain ⟨here, later⟩ := parts
      exact .leaf here later
  | group items body span rest inner ih =>
    rw [leaves, List.forall_mem_append, ← inner, ← ih]
    constructor
    · intro alike
      cases alike with
      | group inside later => exact ⟨inside, later⟩
    · intro parts
      obtain ⟨inside, later⟩ := parts
      exact .group inside later

def outline (depth : Nat) (items : Items) : List (Nat × String) :=
  (items.preorder depth).map fun entry => (entry.1, entry.2.keyword)

theorem Alike.outline_eq {first second : Items} (alike : first.Alike second) (depth : Nat) :
    first.outline depth = second.outline depth := by
  induction alike generalizing depth with
  | nil => rfl
  | leaf event after ih =>
    have word := ((Event.beq_iff_alike ..).mp event).keyword
    have later := ih depth
    simp only [outline, preorder, List.map_cons, Item.keyword, word] at later ⊢
    rw [later]
  | group inside after inner ih =>
    have within := inner (depth + 1)
    have later := ih depth
    simp only [outline, preorder, List.map_cons, List.map_append, Item.keyword] at within later ⊢
    rw [within, later]

theorem length_outline (items : Items) (depth : Nat) :
    (items.outline depth).length = items.total := by
  rw [outline, List.length_map, length_preorder]

theorem Alike.total_eq {first second : Items} (alike : first.Alike second) :
    first.total = second.total := by
  rw [← first.length_outline 0, alike.outline_eq 0, second.length_outline]

end Items

section Layout

variable (move : Span → Span)

theorem Arc.tapTimes_relocate (listed : Spanned (List (Spanned Arctap))) :
    tapTimes (relocateArctaps move listed) = tapTimes listed :=
  List.map_map

theorem Arc.relocate_alike_iff (first second : Arc) :
    (first.relocate move).Alike second ↔ first.Alike second := by
  have arctaps : ((first.relocate move).arctaps == second.arctaps) = true ↔
      (first.arctaps == second.arctaps) = true := by
    have times : tapTimes ∘ relocateArctaps move = tapTimes := funext (tapTimes_relocate move)
    rw [arctaps_beq_iff, arctaps_beq_iff, relocate, Option.map_map, times]
  constructor
  · intro alike
    exact { alike with arctaps := arctaps.mp alike.arctaps }
  · intro alike
    exact { alike with arctaps := arctaps.mpr alike.arctaps }

theorem Event.relocate_alike_iff (first second : Event) :
    (first.relocate move).Alike second ↔ first.Alike second := by
  rw [← beq_iff_alike, ← beq_iff_alike]
  cases first with
  | arc fields =>
    cases second with
    | arc others =>
      have alike := fields.relocate_alike_iff move others
      rw [← Arc.beq_iff_alike, ← Arc.beq_iff_alike] at alike
      exact alike
    | _ => exact .rfl
  | _ =>
    -- Where no field holds a list, the comparison leaves places out as it is written.
    cases second <;> exact .rfl

theorem Items.same_relocate (first second : Items) :
    (first.relocate move).same second = first.same second := by
  induction first generalizing second with
  | nil => rfl
  | leaf event span rest ih =>
    cases second with
    | leaf other place more =>
      have events : (event.relocate move == other) = (event == other) := by
        rw [Bool.eq_iff_iff, Event.beq_iff_alike, Event.beq_iff_alike, Event.relocate_alike_iff]
      rw [relocate, same, same, events, ih]
    | _ => rfl
  | group items body span rest inner ih =>
    cases second with
    | group others braces place more => rw [relocate, same, same, inner, ih]
    | _ => rfl

end Layout

namespace Chart

theorem beq_symm {first second : Chart} (same : (first == second) = true) :
    (second == first) = true := by
  rw [beq_iff_alike] at same ⊢
  exact same.symm

theorem beq_trans {first second third : Chart} (left : (first == second) = true)
    (right : (second == third) = true) : (first == third) = true := by
  rw [beq_iff_alike] at left right ⊢
  exact left.trans right

theorem beq_comm (first second : Chart) : (first == second) = (second == first) := by
  rw [Bool.eq_iff_iff]
  exact ⟨beq_symm, beq_symm⟩

theorem unplaced_beq (first second : Chart) : (first.unplaced == second) = (first == second) :=
  Items.same_relocate _ first.items second.items

theorem beq_of_unplaced {first second : Chart} (layout : first.unplaced = second.unplaced)
    (other : Chart) : (first == other) = (second == other) := by
  rw [← first.unplaced_beq, layout, second.unplaced_beq]

theorem beq_self_iff (chart : Chart) :
    (chart == chart) = true ↔
      ∀ leaf ∈ chart.items.leaves, ∀ number ∈ leaf.1.numbers, number.isNaN = false := by
  rw [beq_iff_alike, Items.alike_self_iff]
  simp only [Event.alike_self_iff]

/-- Equality of charts is symmetric and transitive, and reflexive exactly off not-a-number. It does
not change when either chart is written otherwise, and equal charts have the same outline. -/
theorem beq_partial_equivalence (first second third : Chart) :
    ((first == second) = true → (second == first) = true) ∧
      ((first == second) = true → (second == third) = true → (first == third) = true) ∧
      ((first == first) = true ↔
        ∀ leaf ∈ first.items.leaves, ∀ number ∈ leaf.1.numbers, number.isNaN = false) ∧
      (∀ one other : Chart, one.unplaced = first.unplaced → other.unplaced = second.unplaced →
        (one == other) = (first == second)) ∧
      ((first == second) = true → first.length = second.length ∧
        first.totalItems = second.totalItems ∧ first.items.outline 0 = second.items.outline 0) := by
  refine ⟨beq_symm, beq_trans, first.beq_self_iff, ?_, ?_⟩
  · intro one other left right
    calc (one == other)
      _ = (first == other) := beq_of_unplaced left other
      _ = (other == first) := beq_comm ..
      _ = (second == first) := beq_of_unplaced right first
      _ = (first == second) := beq_comm ..
  · intro same
    have alike := (beq_iff_alike first second).mp same
    exact ⟨alike.length_eq, alike.total_eq, alike.outline_eq 0⟩

def tempo (bpm : Binary64) (span : Span) : Chart :=
  ⟨.group (.leaf (.timing ⟨⟨0, span⟩, ⟨bpm, span⟩, ⟨4, span⟩⟩) span .nil) span span .nil⟩

/-- The two zeros are equal wherever they are written, and not-a-number is not equal to itself. -/
theorem beq_partial_equivalence_zeros :
    let plus := tempo ⟨0⟩ ⟨0, 9⟩
    let minus := tempo ⟨0x8000000000000000⟩ ⟨30, 12⟩
    let nan := tempo ⟨0x7FF8000000000000⟩ ⟨0, 9⟩
    (plus == minus) = true ∧ (minus == plus) = true ∧ (plus == plus) = true ∧
      plus.items.outline 0 = minus.items.outline 0 ∧
      (tempo ⟨0⟩ ⟨5, 5⟩ == tempo ⟨0x8000000000000000⟩ ⟨6, 2⟩) = true ∧ ¬ (nan == nan) = true := by
  intro plus minus nan
  have same : (plus == minus) = true := by decide
  obtain ⟨turn, join, -, written, told⟩ := beq_partial_equivalence plus minus plus
  obtain ⟨-, -, reflexive, -⟩ := beq_partial_equivalence nan nan nan
  refine ⟨same, turn same, join same (turn same), (told same).2.2, ?_, ?_⟩
  · exact (written (tempo ⟨0⟩ ⟨5, 5⟩) (tempo ⟨0x8000000000000000⟩ ⟨6, 2⟩) rfl rfl).trans same
  · rw [reflexive]
    intro numbers
    have finite := numbers _ List.mem_cons_self _ List.mem_cons_self
    revert finite
    decide

end Chart

end ChartLint
