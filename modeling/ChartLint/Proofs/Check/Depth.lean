import ChartLint.Proofs.Chart.Calls
import ChartLint.Proofs.Check.Trail

/-!
Where a walk takes itself to be. Every hook is called with the depth that its item has in the chart,
and for the items that the limit lets the walk come to, in their order. What is visited in between
leaves depth and limit as they were, so a walk counts up and down between none and the depth of the
deepest group, and a counter that can hold that depth is enough.
-/

namespace ChartLint

namespace Items

def reached (limit : Option Nat) (around : Nat) (items : Items) : List (Nat × Item) :=
  (items.preorder around).filter fun entry => limit.all (entry.1 ≤ ·)

theorem le_of_mem_preorder {items : Items} {around : Nat} {entry : Nat × Item}
    (member : entry ∈ items.preorder around) : around ≤ entry.1 := by
  induction items generalizing around with
  | nil => cases member
  | leaf event span rest ih =>
    rcases List.mem_cons.mp member with same | after
    · exact Nat.le_of_eq (congrArg Prod.fst same).symm
    · exact ih after
  | group items body span rest inner ih =>
    rw [preorder, List.mem_cons, List.mem_append] at member
    rcases member with same | inside | after
    · exact Nat.le_of_eq (congrArg Prod.fst same).symm
    · exact Nat.le_of_succ_le (inner inside)
    · exact ih after

theorem reached_eq_nil (items : Items) {limit around : Nat} (past : limit < around) :
    items.reached (some limit) around = [] := by
  rw [reached, List.filter_eq_nil_iff]
  intro entry member
  have deeper := le_of_mem_preorder member
  rw [Option.all_some, decide_eq_true_eq]
  omega

section

variable {limit : Option Nat} {around : Nat} (within : ∀ bound ∈ limit, around ≤ bound)

include within

theorem all_of_within : limit.all (around ≤ ·) = true := by
  cases limit with
  | none => rfl
  | some bound => exact decide_eq_true (within bound rfl)

theorem reached_leaf (event : Event) (span : Span) (rest : Items) :
    (leaf event span rest).reached limit around =
      (around, .leaf event span) :: rest.reached limit around := by
  have allowed : limit.all (around ≤ ·) = true := all_of_within within
  exact List.filter_cons_of_pos allowed

theorem reached_group (items : Items) (body span : Span) (rest : Items) :
    (group items body span rest).reached limit around =
      (around, .group items body span) ::
        (items.reached limit (around + 1) ++ rest.reached limit around) := by
  have allowed : limit.all (around ≤ ·) = true := all_of_within within
  rw [reached, reached, reached, ← List.filter_append]
  exact List.filter_cons_of_pos allowed

end

end Items

namespace Walk

/-- What one part of a walk leaves for the next: the same depth and limit, and of what was counted
and found no less than before. -/
structure Continues (before after : Walk) : Prop where
  depth : after.depth = before.depth
  limit : after.limit = before.limit
  skippedGroups : before.skippedGroups ≤ after.skippedGroups
  diagnostics : before.diagnostics.toList <+: after.diagnostics.toList

theorem extend_continues (walk : Walk) (records : List Record) :
    walk.Continues (walk.extend records) where
  depth := rfl
  limit := rfl
  skippedGroups := Nat.le_add_right ..
  diagnostics := by
    rw [extend, Array.toList_append]
    exact List.prefix_append ..

theorem Within.continues {walk : Walk} (within : walk.Within) (items : Items) :
    walk.Continues (visitor.visitItems items walk) := by
  rw [visitItems_eq_extend items walk within]
  exact walk.extend_continues _

theorem calls_leaf (event : Event) (span : Span) (rest : Items) (walk : Walk) :
    visitor.calls (.leaf event span rest) walk =
      ⟨.item, .leaf event span, walk⟩ :: ⟨.kind, .leaf event span, walk⟩ ::
        visitor.calls rest (walk.extend ((event.findings span).map .found)) := by
  rw [← visitor_event]
  rfl

theorem calls_group_inside (items : Items) (body span : Span) (rest : Items) {walk : Walk}
    (inside : ∀ bound ∈ walk.limit, walk.depth < bound) :
    visitor.calls (.group items body span rest) walk =
      ⟨.item, .group items body span, walk⟩ :: ⟨.kind, .group items body span, walk⟩ ::
        (visitor.calls items { walk with depth := walk.depth + 1 } ++
          ⟨.leave, .group items body span,
              visitor.visitItems items { walk with depth := walk.depth + 1 }⟩ ::
            visitor.calls rest (walk.extend (items.trail walk.limit (walk.depth + 1)))) := by
  have allowed : walk.allows (walk.depth + 1) = true := (allows_iff ..).mpr inside
  rw [← leaveGroup_visitItems items inside]
  simp only [Visitor.calls, visitor_item, visitor_enterGroup_allowed _ _ _ allowed]
  rfl

theorem calls_group_last (items : Items) (body span : Span) (rest : Items) {walk : Walk}
    (last : ¬ ∀ bound ∈ walk.limit, walk.depth < bound) :
    visitor.calls (.group items body span rest) walk =
      ⟨.item, .group items body span, walk⟩ :: ⟨.kind, .group items body span, walk⟩ ::
        visitor.calls rest
          (walk.extend [.groupSkipped (walk.depth + 1) items.length span]) := by
  have past : ¬ walk.allows (walk.depth + 1) = true := by
    rw [allows_iff]
    exact last
  simp only [Visitor.calls, visitor_item, visitor_enterGroup_past _ _ _ past]

def entries (hook : Hook) (calls : List (Call Walk)) : List (Nat × Item) :=
  (calls.filter (·.hook == hook)).map fun call => (call.state.depth, call.item)

theorem entries_append (hook : Hook) (first second : List (Call Walk)) :
    entries hook (first ++ second) = entries hook first ++ entries hook second := by
  simp only [entries, List.filter_append, List.map_append]

section

variable {hook : Hook} (visiting : hook ≠ .leave)

include visiting

theorem entries_visit (item : Item) (walk : Walk) (rest : List (Call Walk)) :
    entries hook (⟨.item, item, walk⟩ :: ⟨.kind, item, walk⟩ :: rest) =
      (walk.depth, item) :: entries hook rest := by
  cases hook with
  | item => rfl
  | kind => rfl
  | leave => exact absurd rfl visiting

theorem entries_leave (item : Item) (walk : Walk) (rest : List (Call Walk)) :
    entries hook (⟨.leave, item, walk⟩ :: rest) = entries hook rest := by
  cases hook with
  | item => rfl
  | kind => rfl
  | leave => exact absurd rfl visiting

/-- A hook is called for the items in reach, with the depths that they have. -/
theorem entries_calls (items : Items) (walk : Walk) (within : walk.Within) :
    entries hook (visitor.calls items walk) = items.reached walk.limit walk.depth := by
  induction items generalizing walk with
  | nil => rfl
  | leaf event span rest ih =>
    rw [calls_leaf, entries_visit visiting, ih _ (within.extend _), Items.reached_leaf within]
    rfl
  | group items body span rest inner ih =>
    rw [Items.reached_group within]
    by_cases inside : ∀ bound ∈ walk.limit, walk.depth < bound
    · rw [calls_group_inside _ _ _ _ inside, entries_visit visiting, entries_append,
        entries_leave visiting, inner _ (Within.enter inside), ih _ (within.extend _)]
      rfl
    · have last := within.limit_eq inside
      have beyond : items.reached walk.limit (walk.depth + 1) = [] := by
        rw [last]
        exact items.reached_eq_nil (Nat.lt_succ_self _)
      rw [calls_group_last _ _ _ _ inside, entries_visit visiting, ih _ (within.extend _), beyond]
      rfl

end

/-- What is right with a call in a walk under a limit over a run with so many groups around it and
none deeper than a bound. -/
structure Orderly (limit : Option Nat) (around deepest : Nat) (call : Call Walk) : Prop where
  limit : call.state.limit = limit
  within : call.state.Within
  /-- There is room for the depth of a group that is called for. -/
  below : call.hook = .kind → call.item.isGroup = true → call.state.depth < deepest
  /-- A group that is left was entered before. -/
  above : call.hook = .leave → around < call.state.depth

theorem Orderly.mono {limit : Option Nat} {around outer deepest deeper : Nat} {call : Call Walk}
    (orderly : Orderly limit around deepest call) (further : outer ≤ around)
    (more : deepest ≤ deeper) : Orderly limit outer deeper call where
  limit := orderly.limit
  within := orderly.within
  below called group := Nat.lt_of_lt_of_le (orderly.below called group) more
  above called := Nat.lt_of_le_of_lt further (orderly.above called)

theorem Within.orderly_item {walk : Walk} (within : walk.Within) (item : Item) (deepest : Nat) :
    Orderly walk.limit walk.depth deepest ⟨.item, item, walk⟩ where
  limit := rfl
  within := within
  below called := by cases called
  above called := by cases called

theorem Within.orderly_kind {walk : Walk} (within : walk.Within) (item : Item) {deepest : Nat}
    (room : item.isGroup = true → walk.depth < deepest) :
    Orderly walk.limit walk.depth deepest ⟨.kind, item, walk⟩ where
  limit := rfl
  within := within
  below _ := room
  above called := by cases called

theorem orderly_leave {walk : Walk} (inside : ∀ bound ∈ walk.limit, walk.depth < bound)
    (items : Items) (item : Item) (deepest : Nat) :
    Orderly walk.limit walk.depth deepest
      ⟨.leave, item, visitor.visitItems items { walk with depth := walk.depth + 1 }⟩ := by
  have entered := Within.enter inside
  rw [visitItems_eq_extend items _ entered]
  refine ⟨rfl, entered.extend _, ?_, ?_⟩
  · intro called
    cases called
  · intro _
    exact Nat.lt_succ_self walk.depth

/-- Every call of a walk is in order. What holds inside of a group is weakened to the run around it,
which begins one less deep and has a group deeper by one. -/
theorem orderly_calls (items : Items) (walk : Walk) (within : walk.Within) :
    ∀ call ∈ visitor.calls items walk,
      Orderly walk.limit walk.depth (walk.depth + items.nesting) call := by
  induction items generalizing walk with
  | nil => exact List.forall_mem_nil _
  | leaf event span rest ih =>
    rw [calls_leaf, List.forall_mem_cons, List.forall_mem_cons]
    refine ⟨within.orderly_item _ _, within.orderly_kind _ ?_, ih _ (within.extend _)⟩
    intro group
    cases group
  | group items body span rest inner ih =>
    have nesting : (Items.group items body span rest).nesting =
      max (items.nesting + 1) rest.nesting := rfl
    have after (records : List Record) : ∀ call ∈ visitor.calls rest (walk.extend records),
        Orderly walk.limit walk.depth
          (walk.depth + (Items.group items body span rest).nesting) call := by
      intro call member
      apply (ih _ (within.extend records) call member).mono (Nat.le_refl _)
      rw [nesting, extend_depth]
      omega
    have own : Orderly walk.limit walk.depth
        (walk.depth + (Items.group items body span rest).nesting)
        ⟨.kind, .group items body span, walk⟩ := by
      apply within.orderly_kind
      intro _
      rw [nesting]
      omega
    by_cases inside : ∀ bound ∈ walk.limit, walk.depth < bound
    · rw [calls_group_inside _ _ _ _ inside, List.forall_mem_cons, List.forall_mem_cons,
        List.forall_mem_append, List.forall_mem_cons]
      refine ⟨within.orderly_item _ _, own, ?_, orderly_leave inside _ _ _, after _⟩
      intro call member
      apply (inner _ (Within.enter inside) call member).mono (Nat.le_succ _)
      show walk.depth + 1 + items.nesting ≤ _
      rw [nesting]
      omega
    · rw [calls_group_last _ _ _ _ inside, List.forall_mem_cons, List.forall_mem_cons]
      exact ⟨within.orderly_item _ _, own, after _⟩

def runWatched (limit : Option Nat) (chart : Chart) (earlier : List Diagnostic) :
    Walk × List (Call Walk) :=
  visitor.watched.visit chart (start limit earlier, [])

theorem runWatched_eq (limit : Option Nat) (chart : Chart) (earlier : List Diagnostic) :
    runWatched limit chart earlier =
      (run limit chart earlier, visitor.calls chart.items (start limit earlier)) :=
  visitor.watched_visitItems chart.items (start limit earlier) []

/-- The hooks that a walk calls for items are called for those in reach of the limit, in their order,
with the depth that each has in the chart. No call is made at a depth past the limit. If 64 bits hold
the depth of the deepest group, they hold one more than the depth at every group, and wherever a group
is left there is one to count back. From any such state, to visit an item or a run of them, which are
visited one after another, changes neither depth nor limit, and keeps what was counted and found. -/
theorem runWatched_depths (limit : Option Nat) (chart : Chart) (earlier : List Diagnostic)
    (countable : chart.nesting < UInt64.size) :
    let calls := (runWatched limit chart earlier).2
    (runWatched limit chart earlier).1 = run limit chart earlier ∧
      (∀ hook, hook ≠ .leave →
        entries hook calls =
          (chart.items.preorder 0).filter fun entry => limit.all (entry.1 ≤ ·)) ∧
      (∀ call ∈ calls,
        call.state.limit = limit ∧ (∀ bound ∈ limit, call.state.depth ≤ bound) ∧
          (call.hook = .kind → call.item.isGroup = true →
            call.state.depth + 1 < UInt64.size) ∧
          (call.hook = .leave → 0 < call.state.depth)) ∧
      ∀ walk : Walk, (∀ bound ∈ walk.limit, walk.depth ≤ bound) →
        (∀ item, walk.Continues (visitor.visitItem item walk)) ∧
          ∀ items, walk.Continues (visitor.visitItems items walk) ∧
            visitor.visitItems items walk =
              items.toList.foldl (fun walk item => visitor.visitItem item walk) walk := by
  intro calls
  have listed : calls = visitor.calls chart.items (start limit earlier) :=
    congrArg Prod.snd (runWatched_eq limit chart earlier)
  have begins := start_within limit earlier
  refine ⟨?_, ?_, ?_, ?_⟩
  · rw [runWatched_eq]
  · intro hook visiting
    rw [listed]
    exact entries_calls visiting chart.items _ begins
  · intro call member
    rw [listed] at member
    obtain ⟨same, within, below, above⟩ := orderly_calls chart.items _ begins call member
    have limited : call.state.limit = limit := same
    refine ⟨limited, ?_, ?_, above⟩
    · rw [← limited]
      exact within
    · intro called group
      have room : call.state.depth < 0 + chart.nesting := below called group
      omega
  · intro walk within
    refine ⟨?_, ?_⟩
    · intro item
      exact Within.continues within _
    · intro items
      exact ⟨Within.continues within items, visitor.visitItems_eq_foldl_visitItem items walk⟩

/-- A group that is passed over does not unsettle the count for what comes after it. -/
theorem runWatched_depths_nested :
    let tap (rest : Items) : Items := .leaf (.tap ⟨.unplaced (-1)⟩) .origin rest
    let group (items rest : Items) : Items := .group items .origin .origin rest
    let chart : Chart := ⟨group (tap (group (tap .nil) (tap .nil))) (tap .nil)⟩
    let calls := (runWatched (some 1) chart []).2
    let inside : Walk := { start (some 1) [] with depth := 1 }
    chart.nesting < UInt64.size ∧ (entries .kind calls).map Prod.fst = [0, 1, 1, 1, 0] ∧
      (∀ call ∈ calls, call.hook = .leave → 0 < call.state.depth) ∧
      inside.depth ≤ 1 ∧ inside.Continues (visitor.visitItems chart.items inside) := by
  intro tap group chart calls inside
  have countable : chart.nesting < UInt64.size := by decide
  have within : ∀ bound ∈ inside.limit, inside.depth ≤ bound := by decide
  obtain ⟨-, met, orderly, kept⟩ := runWatched_depths (some 1) chart [] countable
  have depths : (entries .kind calls).map Prod.fst = [0, 1, 1, 1, 0] := by
    rw [met .kind (by decide)]
    rfl
  refine ⟨countable, depths, ?_, within 1 rfl, ((kept inside within).2 chart.items).1⟩
  intro call member
  exact (orderly call member).2.2.2

end Walk

end ChartLint
