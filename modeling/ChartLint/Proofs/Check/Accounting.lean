import ChartLint.Proofs.Chart.CutOff
import ChartLint.Proofs.Check.Log

/-!
What becomes of every item under a limit on depth. A walk that counts the items it is called for
counts those of the chart with the groups past the limit emptied; the others were inside of such
groups. The warnings speak of what lies right inside of these, which is all there is to speak of
exactly if none of it is a group with items.
-/

namespace ChartLint

namespace Record

def leftOut : Record → Nat
  | groupSkipped _ items _ => items
  | _ => 0

def warnedItems (records : List Record) : Nat :=
  ((records.filter (·.level == .warn)).map leftOut).sum

theorem warnedItems_append (first second : List Record) :
    warnedItems (first ++ second) = warnedItems first + warnedItems second := by
  simp only [warnedItems, List.filter_append, List.map_append, List.sum_append]

theorem warnedItems_found (diagnostics : List Diagnostic) :
    warnedItems (diagnostics.map .found) = 0 := by
  have quiet : (diagnostics.map Record.found).filter (·.level == .warn) = [] := by
    rw [List.filter_eq_nil_iff, List.forall_mem_map]
    intro diagnostic _ warned
    cases warned
  rw [warnedItems, quiet]
  rfl

theorem warnedItems_groupSkipped (depth items : Nat) (span : Span) (rest : List Record) :
    warnedItems (.groupSkipped depth items span :: rest) = items + warnedItems rest := rfl

end Record

/-- The warnings of a walk speak of what lies right inside of the groups that are cut off. -/
theorem Items.warnedItems_trail (items : Items) {limit around : Nat} (inside : around ≤ limit) :
    Record.warnedItems (items.trail (some limit) around) =
      ((items.cutOff limit around).map length).sum := by
  induction items generalizing around with
  | nil => rfl
  | leaf event span rest ih =>
    rw [trail, Record.warnedItems_append, Record.warnedItems_found, ih inside, cutOff_leaf,
      Nat.zero_add]
  | group items body span rest inner ih =>
    rcases Nat.lt_or_eq_of_le inside with above | last
    · rw [trail, if_pos above, Record.warnedItems_append, inner above, ih inside,
        cutOff_group_of_ne (Nat.ne_of_lt above), List.map_append, List.sum_append]
    · subst last
      rw [trail_group_last, Record.warnedItems_groupSkipped, ih inside, cutOff_group_last,
        List.map_cons, List.sum_cons]

namespace Visitor

variable {σ : Type}

def counted (visitor : Visitor σ) : Visitor (σ × Nat) where
  event event span state := (visitor.event event span state.1, state.2)
  item item state := (visitor.item item state.1, state.2 + 1)
  enterGroup items body span state :=
    match visitor.enterGroup items body span state.1 with
    | .enter inside => .enter (inside, state.2)
    | .passOver after => .passOver (after, state.2)
  leaveGroup items body span state := (visitor.leaveGroup items body span state.1, state.2)

theorem counted_fst (visitor : Visitor σ) (items : Items) (state : σ) (count : Nat) :
    (visitor.counted.visitItems items (state, count)).1 = visitor.visitItems items state := by
  induction items generalizing state count with
  | nil => rfl
  | leaf event span rest ih => exact ih _ _
  | group items body span rest inner ih =>
    simp only [visitItems, counted] at inner ih ⊢
    cases visitor.enterGroup items body span (visitor.item (.group items body span) state) with
    | passOver after => exact ih _ _
    | enter inside =>
      simp only
      rw [ih, inner]

end Visitor

namespace Walk

def runCounted (limit : Option Nat) (chart : Chart) (earlier : List Diagnostic) : Walk × Nat :=
  visitor.counted.visit chart (start limit earlier, 0)

theorem counted_leaf (event : Event) (span : Span) (rest : Items) (walk : Walk) (count : Nat) :
    visitor.counted.visitItems (.leaf event span rest) (walk, count) =
      visitor.counted.visitItems rest
        (walk.extend ((event.findings span).map .found), count + 1) := by
  rw [← visitor_event]
  rfl

theorem counted_group_allowed (items : Items) (body span : Span) (rest : Items) (walk : Walk)
    (count : Nat) (allowed : walk.allows (walk.depth + 1) = true) :
    visitor.counted.visitItems (.group items body span rest) (walk, count) =
      visitor.counted.visitItems rest
        ((visitor.visitItems items { walk with depth := walk.depth + 1 }).leaveGroup,
          (visitor.counted.visitItems items
            ({ walk with depth := walk.depth + 1 }, count + 1)).2) := by
  rw [← visitor.counted_fst items _ (count + 1)]
  simp only [Visitor.visitItems, Visitor.counted, visitor_item,
    visitor_enterGroup_allowed _ _ _ allowed]
  rfl

theorem counted_group_past (items : Items) (body span : Span) (rest : Items) (walk : Walk)
    (count : Nat) (past : ¬ walk.allows (walk.depth + 1) = true) :
    visitor.counted.visitItems (.group items body span rest) (walk, count) =
      visitor.counted.visitItems rest
        (walk.extend [.groupSkipped (walk.depth + 1) items.length span], count + 1) := by
  simp only [Visitor.visitItems, Visitor.counted, visitor_item, visitor_enterGroup_past _ _ _ past]

theorem allows_next_iff {walk : Walk} {limit : Nat} (limited : walk.limit = some limit) :
    walk.allows (walk.depth + 1) = true ↔ walk.depth < limit := by
  rw [allows_iff, limited]
  simp only [Option.mem_some_iff, forall_eq', Nat.succ_le_iff]

/-- A walk meets the items that are left when the groups past its limit are emptied. -/
theorem counted_snd (items : Items) {limit : Nat} (walk : Walk) (count : Nat)
    (limited : walk.limit = some limit) (within : walk.Within) :
    (visitor.counted.visitItems items (walk, count)).2 =
      count + (items.emptied limit walk.depth).total := by
  induction items generalizing walk count with
  | nil => rfl
  | leaf event span rest ih =>
    have later := ih (walk.extend ((event.findings span).map .found)) (count + 1) limited
      (within.extend _)
    rw [counted_leaf, later, extend_depth, Items.emptied, Items.total]
    omega
  | group items body span rest inner ih =>
    -- Whatever becomes of the group, the walk goes on from where it was, with more records.
    have later (records : List Record) (met : Nat) :
        (visitor.counted.visitItems rest (walk.extend records, met)).2 =
          met + (rest.emptied limit walk.depth).total :=
      ih (walk.extend records) met limited (within.extend records)
    by_cases above : walk.depth < limit
    · have allowed := (allows_next_iff limited).mpr above
      have inside := (allows_iff walk (walk.depth + 1)).mp allowed
      have met : (visitor.counted.visitItems items
          ({ walk with depth := walk.depth + 1 }, count + 1)).2 =
          count + 1 + (items.emptied limit (walk.depth + 1)).total :=
        inner { walk with depth := walk.depth + 1 } (count + 1) limited (Within.enter inside)
      rw [counted_group_allowed _ _ _ _ _ _ allowed, met, leaveGroup_visitItems items inside, later,
        Items.emptied, if_pos above, Items.total]
      omega
    · have past := mt (allows_next_iff limited).mp above
      rw [counted_group_past _ _ _ _ _ _ past, later, Items.emptied, if_neg above, Items.total,
        Items.total]
      omega

theorem runCounted_eq (limit : Nat) (chart : Chart) (earlier : List Diagnostic) :
    runCounted (some limit) chart earlier =
      (run (some limit) chart earlier, (chart.emptied limit).totalItems) := by
  have met := counted_snd chart.items (start (some limit) earlier) 0 rfl (start_within _ earlier)
  rw [Nat.zero_add] at met
  exact Prod.ext (visitor.counted_fst chart.items _ 0) met

end Walk

theorem warnedItems_lint_log (suppress : List Code) (limit : Nat) (chart : Chart) :
    Record.warnedItems (lint ⟨suppress, some limit⟩ chart).log =
      ((chart.cutOff limit).map Items.length).sum := by
  rw [lint_log, ← List.singleton_append, Record.warnedItems_append, Record.warnedItems_append,
    Items.warnedItems_trail _ (Nat.zero_le limit)]
  exact Nat.zero_add _

/-- No item is lost on account of a limit: the items of a chart are those that the walk meets, a
group that it passes over counting as one, and all that is inside of such groups. The warnings speak
of no more than the latter, and of all of it exactly if such groups hold no groups with items. -/
theorem lint_items_accounted (suppress : List Code) (limit : Nat) (chart : Chart)
    (earlier : List Diagnostic) :
    chart.totalItems =
        (chart.emptied limit).totalItems + ((chart.cutOff limit).map Items.total).sum ∧
      Walk.runCounted (some limit) chart earlier =
        (Walk.run (some limit) chart earlier, (chart.emptied limit).totalItems) ∧
      Record.warnedItems (lint ⟨suppress, some limit⟩ chart).log ≤
        chart.totalItems - (Walk.runCounted (some limit) chart earlier).2 ∧
      (Record.warnedItems (lint ⟨suppress, some limit⟩ chart).log =
          chart.totalItems - (Walk.runCounted (some limit) chart earlier).2 ↔
        ∀ items ∈ chart.cutOff limit, items.Bare) := by
  have parts : chart.totalItems =
      (chart.emptied limit).totalItems + ((chart.cutOff limit).map Items.total).sum :=
    Items.total_eq_emptied_add_cutOff chart.items (Nat.zero_le limit)
  have met : Walk.runCounted (some limit) chart earlier =
      (Walk.run (some limit) chart earlier, (chart.emptied limit).totalItems) :=
    Walk.runCounted_eq limit chart earlier
  have unmet : chart.totalItems - (Walk.runCounted (some limit) chart earlier).2 =
      ((chart.cutOff limit).map Items.total).sum := by
    rw [met, parts]
    exact Nat.add_sub_cancel_left ..
  rw [warnedItems_lint_log, unmet]
  refine ⟨parts, met, ?_, ?_⟩
  · exact Items.sum_length_le (chart.cutOff limit)
  · exact Items.sum_length_eq_iff (chart.cutOff limit)

end ChartLint
