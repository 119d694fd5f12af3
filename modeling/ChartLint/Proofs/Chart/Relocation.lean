import ChartLint.Chart.Basic

/-!
Charts that differ in layout. Relocating a chart changes every place that it is written with, and
nothing else; `unplaced` gives all of them up. In a chart whose places nest, what belongs to an event
or to a group is written inside of it.
-/

namespace ChartLint

def Spanned.relocate {α : Type} (move : Span → Span) (item : Spanned α) : Spanned α :=
  ⟨item.value, move item.span⟩

section

variable (move : Span → Span)

def Timing.relocate (timing : Timing) : Timing where
  time := timing.time.relocate move
  bpm := timing.bpm.relocate move
  measure := timing.measure.relocate move

def Tap.relocate (tap : Tap) : Tap where
  time := tap.time.relocate move

def Hold.relocate (hold : Hold) : Hold where
  start := hold.start.relocate move
  stop := hold.stop.relocate move

def Arctap.relocate (arctap : Arctap) : Arctap where
  time := arctap.time.relocate move

def Arc.relocateArctaps (listed : Spanned (List (Spanned Arctap))) :
    Spanned (List (Spanned Arctap)) :=
  ⟨listed.value.map fun arctap => ⟨arctap.value.relocate move, move arctap.span⟩, move listed.span⟩

def Arc.relocate (arc : Arc) : Arc where
  start := arc.start.relocate move
  stop := arc.stop.relocate move
  xStart := arc.xStart.relocate move
  xStop := arc.xStop.relocate move
  yStart := arc.yStart.relocate move
  yStop := arc.yStop.relocate move
  kind := arc.kind.relocate move
  effect := arc.effect.relocate move
  isLine := arc.isLine.relocate move
  color := arc.color.relocate move
  arctaps := arc.arctaps.map (relocateArctaps move)

def Camera.relocate (camera : Camera) : Camera where
  duration := camera.duration.relocate move

def Event.relocate : Event → Event
  | .timing fields => .timing (fields.relocate move)
  | .tap fields => .tap (fields.relocate move)
  | .hold fields => .hold (fields.relocate move)
  | .arc fields => .arc (fields.relocate move)
  | .camera fields => .camera (fields.relocate move)

def Items.relocate : Items → Items
  | .nil => .nil
  | .leaf event span rest => .leaf (event.relocate move) (move span) rest.relocate
  | .group items body span rest => .group items.relocate (move body) (move span) rest.relocate

def Chart.relocate (chart : Chart) : Chart := ⟨chart.items.relocate move⟩

theorem Items.length_relocate (items : Items) : (items.relocate move).length = items.length := by
  induction items with
  | nil => rfl
  | leaf _ _ rest ih => rw [relocate, length, length, ih]
  | group _ _ _ rest _ ih => rw [relocate, length, length, ih]

end

def Chart.unplaced (chart : Chart) : Chart := chart.relocate fun _ => .origin

namespace Event

/-- The places of the fields of an event, those of the arctaps in an arc's list left out. -/
def fieldPlaces : Event → List Span
  | .timing fields => [fields.time.span, fields.bpm.span, fields.measure.span]
  | .tap fields => [fields.time.span]
  | .hold fields => [fields.start.span, fields.stop.span]
  | .arc fields =>
    [fields.start.span, fields.stop.span, fields.xStart.span, fields.xStop.span,
      fields.yStart.span, fields.yStop.span, fields.kind.span, fields.effect.span,
      fields.isLine.span, fields.color.span] ++ (fields.arctaps.map (·.span)).toList
  | .camera fields => [fields.duration.span]

def arctaps? : Event → Option (Spanned (List (Spanned Arctap)))
  | .arc fields => fields.arctaps
  | _ => none

theorem mem_fieldPlaces_of_mem_arctaps? {event : Event} {listed : Spanned (List (Spanned Arctap))}
    (carried : listed ∈ event.arctaps?) : listed.span ∈ event.fieldPlaces := by
  cases event with
  | arc fields =>
    apply List.mem_append_right
    rw [Option.mem_toList]
    exact Option.mem_map_of_mem _ carried
  | _ => cases carried

/-- Fields are written inside of their event, and arctaps inside of their list. -/
structure Nested (event : Event) (span : Span) : Prop where
  fields : ∀ place ∈ event.fieldPlaces, span.Covers place
  arctaps : ∀ listed ∈ event.arctaps?, ∀ arctap ∈ listed.value, listed.span.Covers arctap.span

end Event

namespace Items

/-- At every depth, events nest and a group is written around its items. -/
def Nested : Items → Prop
  | .nil => True
  | .leaf event span rest => event.Nested span ∧ rest.Nested
  | .group items _ span rest =>
    (∀ item ∈ items.toList, span.Covers item.span) ∧ items.Nested ∧ rest.Nested

theorem Nested.event {items : Items} (nested : items.Nested) :
    ∀ leaf ∈ items.leaves, leaf.1.Nested leaf.2 := by
  induction items with
  | nil => exact List.forall_mem_nil _
  | leaf event span rest ih =>
    obtain ⟨here, later⟩ := nested
    exact List.forall_mem_cons.mpr ⟨here, ih later⟩
  | group items body span rest inner ih =>
    obtain ⟨-, inside, later⟩ := nested
    exact List.forall_mem_append.mpr ⟨inner inside, ih later⟩

/-- An event at any depth is written inside of an item of the run itself. -/
theorem Nested.covers_leaf {items : Items} (nested : items.Nested) :
    ∀ leaf ∈ items.leaves, ∃ item ∈ items.toList, item.span.Covers leaf.2 := by
  induction items with
  | nil => exact List.forall_mem_nil _
  | leaf event span rest ih =>
    intro leaf member
    rcases List.mem_cons.mp member with rfl | later
    · exact ⟨.leaf event span, List.mem_cons_self, span.covers_refl⟩
    · obtain ⟨item, among, covers⟩ := ih nested.2 leaf later
      exact ⟨item, List.mem_cons_of_mem _ among, covers⟩
  | group items body span rest inner ih =>
    obtain ⟨around, inside, after⟩ := nested
    intro leaf member
    rcases List.mem_append.mp member with within | later
    · obtain ⟨item, among, covers⟩ := inner inside leaf within
      exact ⟨.group items body span, List.mem_cons_self, (around item among).trans covers⟩
    · obtain ⟨item, among, covers⟩ := ih after leaf later
      exact ⟨item, List.mem_cons_of_mem _ among, covers⟩

end Items

end ChartLint
