import ChartLint.Chart.Visitor

/-!
The calls of a walk. A visitor that is watched does what it did before and lists the calls of its
hooks, each with the item that it is made for and the state that the hook is given. A walk adds to the
list without looking at it, so the calls of a walk can be told run by run.
-/

namespace ChartLint

inductive Hook where
  | item
  /-- The hook for events of the item's kind, or for groups if it is one. -/
  | kind
  | leave
deriving DecidableEq

structure Call (σ : Type) where
  hook : Hook
  item : Item
  state : σ

namespace Visitor

variable {σ : Type} (visitor : Visitor σ)

def watched : Visitor (σ × List (Call σ)) where
  event event span state :=
    (visitor.event event span state.1, state.2 ++ [⟨.kind, .leaf event span, state.1⟩])
  item item state := (visitor.item item state.1, state.2 ++ [⟨.item, item, state.1⟩])
  enterGroup items body span state :=
    let calls := state.2 ++ [⟨.kind, .group items body span, state.1⟩]
    match visitor.enterGroup items body span state.1 with
    | .enter inside => .enter (inside, calls)
    | .passOver after => .passOver (after, calls)
  leaveGroup items body span state :=
    (visitor.leaveGroup items body span state.1,
      state.2 ++ [⟨.leave, .group items body span, state.1⟩])

def calls : Items → σ → List (Call σ)
  | .nil, _ => []
  | .leaf event span rest, state =>
    let met := visitor.item (.leaf event span) state
    ⟨.item, .leaf event span, state⟩ :: ⟨.kind, .leaf event span, met⟩ ::
      calls rest (visitor.event event span met)
  | .group items body span rest, state =>
    let met := visitor.item (.group items body span) state
    ⟨.item, .group items body span, state⟩ :: ⟨.kind, .group items body span, met⟩ ::
      match visitor.enterGroup items body span met with
      | .passOver after => calls rest after
      | .enter inside =>
        let done := visitor.visitItems items inside
        calls items inside ++ ⟨.leave, .group items body span, done⟩ ::
          calls rest (visitor.leaveGroup items body span done)

/-- To be watched changes nothing in a walk, and the calls are listed after those made before. -/
theorem watched_visitItems (items : Items) (state : σ) (earlier : List (Call σ)) :
    visitor.watched.visitItems items (state, earlier) =
      (visitor.visitItems items state, earlier ++ visitor.calls items state) := by
  induction items generalizing state earlier with
  | nil => rw [calls, List.append_nil]; rfl
  | leaf event span rest ih =>
    simp only [visitItems, watched, calls] at ih ⊢
    rw [ih, List.append_assoc, List.append_assoc]
    rfl
  | group items body span rest inner ih =>
    simp only [visitItems, watched, calls] at inner ih ⊢
    cases visitor.enterGroup items body span (visitor.item (.group items body span) state) with
    | passOver after =>
      simp only
      rw [ih, List.append_assoc, List.append_assoc]
      rfl
    | enter inside =>
      simp only
      rw [inner, ih]
      simp only [List.append_assoc]
      rfl

def visitItem (item : Item) (state : σ) : σ := visitor.visitItems (.ofList [item]) state

theorem visitItems_cons (item : Item) (rest : Items) (state : σ) :
    visitor.visitItems (.cons item rest) state =
      visitor.visitItems rest (visitor.visitItem item state) := by
  have split : Items.cons item rest = Items.ofList [item] ++ rest := by cases item <;> rfl
  rw [split, visitItems_append]
  rfl

theorem visitItems_eq_foldl_visitItem (items : Items) (state : σ) :
    visitor.visitItems items state =
      items.toList.foldl (fun state item => visitor.visitItem item state) state := by
  induction items generalizing state with
  | nil => rfl
  | leaf event span rest ih =>
    rw [Items.toList, List.foldl_cons, ← ih]
    exact visitor.visitItems_cons (.leaf event span) rest state
  | group items body span rest _ ih =>
    rw [Items.toList, List.foldl_cons, ← ih]
    exact visitor.visitItems_cons (.group items body span) rest state

end Visitor

end ChartLint
