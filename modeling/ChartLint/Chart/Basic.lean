import ChartLint.Chart.Event

/-!
Charts. A chart is a run of items in source order, and a group of items holds a run of its own,
to any depth. Runs are one inductive type, so every walk over a chart is one structural recursion
with a case for the end, one for an event and one for a group. `leaves` lists the events with
the groups taken away, `preorder` the items with their depth.
-/

namespace ChartLint

inductive Items where
  | nil
  | leaf (event : Event) (span : Span) (rest : Items)
  /-- A group that scopes a run of items; `body` is the span of its braces. -/
  | group (items : Items) (body span : Span) (rest : Items)

inductive Item where
  | leaf (event : Event) (span : Span)
  | group (items : Items) (body span : Span)

namespace Item

def span : Item → Span
  | .leaf _ span => span
  | .group _ _ span => span

def keyword : Item → String
  | .leaf event _ => event.keyword
  | .group .. => "timinggroup"

end Item

namespace Items

def cons : Item → Items → Items
  | .leaf event span, rest => .leaf event span rest
  | .group items body span, rest => .group items body span rest

def ofList (items : List Item) : Items := items.foldr cons .nil

def toList : Items → List Item
  | .nil => []
  | .leaf event span rest => .leaf event span :: rest.toList
  | .group items body span rest => .group items body span :: rest.toList

def append : Items → Items → Items
  | .nil, after => after
  | .leaf event span rest, after => .leaf event span (rest.append after)
  | .group items body span rest, after => .group items body span (rest.append after)

instance : Append Items := ⟨append⟩

def length : Items → Nat
  | .nil => 0
  | .leaf _ _ rest => rest.length + 1
  | .group _ _ _ rest => rest.length + 1

def isEmpty : Items → Bool
  | .nil => true
  | _ => false

def total : Items → Nat
  | .nil => 0
  | .leaf _ _ rest => rest.total + 1
  | .group items _ _ rest => items.total + rest.total + 1

def leaves : Items → List (Event × Span)
  | .nil => []
  | .leaf event span rest => (event, span) :: rest.leaves
  | .group items _ _ rest => items.leaves ++ rest.leaves

def preorder (depth : Nat) : Items → List (Nat × Item)
  | .nil => []
  | .leaf event span rest => (depth, .leaf event span) :: rest.preorder depth
  | .group items body span rest =>
    (depth, .group items body span) :: (items.preorder (depth + 1) ++ rest.preorder depth)

def same : Items → Items → Bool
  | .nil, .nil => true
  | .leaf first _ rest, .leaf second _ more => first == second && rest.same more
  | .group first _ _ rest, .group second _ _ more => first.same second && rest.same more
  | _, _ => false

instance : BEq Items := ⟨same⟩

theorem length_preorder (items : Items) (depth : Nat) :
    (items.preorder depth).length = items.total := by
  induction items generalizing depth with
  | nil => rfl
  | leaf _ _ rest ih => simp only [preorder, total, List.length_cons, ih]
  | group items _ _ rest inner ih =>
    simp only [preorder, total, List.length_cons, List.length_append, inner, ih]

end Items

namespace Item

def same : Item → Item → Bool
  | .leaf first _, .leaf second _ => first == second
  | .group first _ _, .group second _ _ => first.same second
  | _, _ => false

instance : BEq Item := ⟨same⟩

end Item

structure Chart where
  items : Items
deriving BEq

namespace Chart

def empty : Chart := ⟨.nil⟩

def ofList (items : List Item) : Chart := ⟨.ofList items⟩

def length (chart : Chart) : Nat := chart.items.length

def isEmpty (chart : Chart) : Bool := chart.items.isEmpty

def totalItems (chart : Chart) : Nat := chart.items.total

def append (first second : Chart) : Chart := ⟨first.items ++ second.items⟩

instance : Append Chart := ⟨append⟩

end Chart

end ChartLint
