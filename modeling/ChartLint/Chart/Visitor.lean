import ChartLint.Chart.Basic

/-!
Walks over a chart. A visitor holds a hook for each kind of event, one that chooses among them, one
that sees every item before that, and two around groups; a walk threads a state through the hooks
in source order, depth first. By default an event goes to the hook of its kind, groups are gone
through, and every other hook keeps the state.
-/

namespace ChartLint

inductive Entrance (σ : Type) where
  | enter (state : σ)
  | passOver (state : σ)

structure Visitor (σ : Type) where
  timing : Timing → Span → σ → σ := fun _ _ state => state
  tap : Tap → Span → σ → σ := fun _ _ state => state
  hold : Hold → Span → σ → σ := fun _ _ state => state
  arc : Arc → Span → σ → σ := fun _ _ state => state
  camera : Camera → Span → σ → σ := fun _ _ state => state
  /-- Called for every event. A visitor that replaces it decides by itself whether the hook of the
  kind is called. -/
  event : Event → Span → σ → σ := fun
    | .timing fields => timing fields
    | .tap fields => tap fields
    | .hold fields => hold fields
    | .arc fields => arc fields
    | .camera fields => camera fields
  /-- Called for every item, before what belongs to its kind. -/
  item : Item → σ → σ := fun _ state => state
  enterGroup : Items → Span → Span → σ → Entrance σ := fun _ _ _ state => .enter state
  leaveGroup : Items → Span → Span → σ → σ := fun _ _ _ state => state

namespace Visitor

variable {σ : Type}

def visitItems (visitor : Visitor σ) : Items → σ → σ
  | .nil, state => state
  | .leaf event span rest, state =>
    visitor.visitItems rest (visitor.event event span (visitor.item (.leaf event span) state))
  | .group items body span rest, state =>
    match visitor.enterGroup items body span (visitor.item (.group items body span) state) with
    | .passOver after => visitor.visitItems rest after
    | .enter inside =>
      visitor.visitItems rest
        (visitor.leaveGroup items body span (visitor.visitItems items inside))

def visit (visitor : Visitor σ) (chart : Chart) (state : σ) : σ :=
  visitor.visitItems chart.items state

theorem visitItems_append (visitor : Visitor σ) (before after : Items) (state : σ) :
    visitor.visitItems (before ++ after) state =
      visitor.visitItems after (visitor.visitItems before state) := by
  show visitor.visitItems (before.append after) state = _
  induction before generalizing state with
  | nil => rfl
  | leaf event span rest ih => exact ih _
  | group items body span rest _ ih =>
    simp only [Items.append, visitItems]
    split
    · exact ih _
    · exact ih _

end Visitor

end ChartLint
