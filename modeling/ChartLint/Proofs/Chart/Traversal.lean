import ChartLint.Chart.Visitor

/-!
What a walk comes to. With hooks for events alone, a walk is a left fold over the events at every
depth, as if there were no groups. A visitor that notes groups and does not go into them folds over
the items of the chart itself; one that notes every item in place of its hooks folds over the items
at every depth, a group before what is in it.
-/

namespace ChartLint

structure EventHooks (σ : Type) where
  timing : Timing → Span → σ → σ
  tap : Tap → Span → σ → σ
  hold : Hold → Span → σ → σ
  arc : Arc → Span → σ → σ
  camera : Camera → Span → σ → σ

variable {σ : Type}

namespace EventHooks

def step (hooks : EventHooks σ) (state : σ) : Event × Span → σ
  | (.timing fields, span) => hooks.timing fields span state
  | (.tap fields, span) => hooks.tap fields span state
  | (.hold fields, span) => hooks.hold fields span state
  | (.arc fields, span) => hooks.arc fields span state
  | (.camera fields, span) => hooks.camera fields span state

def stepItem (hooks : EventHooks σ) (note : Items → Span → Span → σ → σ) (state : σ) : Item → σ
  | .leaf event span => hooks.step state (event, span)
  | .group items body span => note items body span state

def visitor (hooks : EventHooks σ) : Visitor σ where
  timing := hooks.timing
  tap := hooks.tap
  hold := hooks.hold
  arc := hooks.arc
  camera := hooks.camera

theorem visitor_event (hooks : EventHooks σ) (event : Event) (span : Span) (state : σ) :
    hooks.visitor.event event span state = hooks.step state (event, span) := by
  cases event <;> rfl

end EventHooks

namespace Visitor

def notingGroups (visitor : Visitor σ) (note : Items → Span → Span → σ → σ) : Visitor σ :=
  { visitor with enterGroup := fun items body span state => .passOver (note items body span state) }

def notingItems (visitor : Visitor σ) (note : Item → σ → σ) : Visitor σ :=
  { visitor with
    item := note
    event := fun _ _ state => state }

end Visitor

def Item.event? : Item → Option (Event × Span)
  | .leaf event span => some (event, span)
  | .group .. => none

theorem Items.leaves_eq_preorder (items : Items) (depth : Nat) :
    items.leaves = (items.preorder depth).filterMap fun entry => entry.2.event? := by
  induction items generalizing depth with
  | nil => rfl
  | leaf event span rest ih =>
    rw [leaves, preorder, List.filterMap_cons, ih depth]
    rfl
  | group items body span rest inner ih =>
    rw [leaves, preorder, List.filterMap_cons, List.filterMap_append, inner (depth + 1), ih depth]
    rfl

namespace EventHooks

variable (hooks : EventHooks σ)

theorem visitItems_eq_foldl (items : Items) (state : σ) :
    hooks.visitor.visitItems items state = items.leaves.foldl hooks.step state := by
  induction items generalizing state with
  | nil => rfl
  | leaf event span rest ih =>
    calc hooks.visitor.visitItems (.leaf event span rest) state
      _ = hooks.visitor.visitItems rest (hooks.visitor.event event span state) := rfl
      _ = hooks.visitor.visitItems rest (hooks.step state (event, span)) := by
        rw [hooks.visitor_event]
      _ = rest.leaves.foldl hooks.step (hooks.step state (event, span)) := ih _
  | group items body span rest inner ih =>
    -- The hooks around groups keep the state, so the two folds meet where the group ends.
    calc hooks.visitor.visitItems (.group items body span rest) state
      _ = hooks.visitor.visitItems rest (hooks.visitor.visitItems items state) := rfl
      _ = rest.leaves.foldl hooks.step (items.leaves.foldl hooks.step state) := by
        rw [inner, ih]
      _ = (items.leaves ++ rest.leaves).foldl hooks.step state := List.foldl_append.symm

theorem visitItems_notingGroups (note : Items → Span → Span → σ → σ) (items : Items) (state : σ) :
    (hooks.visitor.notingGroups note).visitItems items state =
      items.toList.foldl (hooks.stepItem note) state := by
  induction items generalizing state with
  | nil => rfl
  | leaf event span rest ih =>
    have same : (hooks.visitor.notingGroups note).event event span state =
        hooks.step state (event, span) := hooks.visitor_event event span state
    rw [Items.toList, List.foldl_cons, stepItem, ← same, ← ih]
    rfl
  | group items body span rest _ ih =>
    rw [Items.toList, List.foldl_cons, stepItem, ← ih]
    rfl

theorem visitItems_notingItems (note : Item → σ → σ) (items : Items) (depth : Nat) (state : σ) :
    (hooks.visitor.notingItems note).visitItems items state =
      (items.preorder depth).foldl (fun seen entry => note entry.2 seen) state := by
  induction items generalizing depth state with
  | nil => rfl
  | leaf event span rest ih =>
    rw [Items.preorder, List.foldl_cons, ← ih]
    rfl
  | group items body span rest inner ih =>
    rw [Items.preorder, List.foldl_cons, List.foldl_append, ← inner, ← ih]
    rfl

/-- The three ways to walk over a chart as folds: over the events, over the items of the chart
itself, and over the items at every depth, of which there are as many as the chart counts. -/
theorem visit_eq_folds (chart : Chart) (noteGroup : Items → Span → Span → σ → σ)
    (note : Item → σ → σ) (state : σ) :
    hooks.visitor.visit chart state = chart.items.leaves.foldl hooks.step state ∧
      chart.items.leaves = (chart.items.preorder 0).filterMap (fun entry => entry.2.event?) ∧
      (hooks.visitor.notingGroups noteGroup).visit chart state =
        chart.items.toList.foldl (hooks.stepItem noteGroup) state ∧
      (hooks.visitor.notingItems note).visit chart state =
        (chart.items.preorder 0).foldl (fun seen entry => note entry.2 seen) state ∧
      (chart.items.preorder 0).length = chart.totalItems := by
  refine ⟨?_, ?_, ?_, ?_, ?_⟩
  · exact hooks.visitItems_eq_foldl chart.items state
  · exact chart.items.leaves_eq_preorder 0
  · exact hooks.visitItems_notingGroups noteGroup chart.items state
  · exact hooks.visitItems_notingItems note chart.items 0 state
  · exact chart.items.length_preorder 0

end EventHooks

end ChartLint
