import ChartLint.Chart.Basic
import Mathlib.Algebra.Order.BigOperators.Group.List
import Mathlib.Algebra.Order.Ring.Nat

/-!
What a limit on depth takes out of a chart. The groups one deeper than the limit are cut off: each
stays where it is, `emptied`, and `cutOff` lists what was in them. No item is in neither, and a run
that was cut off has more items than the eye meets only if one of its groups holds some.
-/

namespace ChartLint

def Item.group? : Item → Option Items
  | .leaf .. => none
  | .group items .. => some items

namespace Items

def groups (around : Nat) (items : Items) : List (Nat × Items) :=
  (items.preorder around).filterMap fun entry => entry.2.group?.map (entry.1 + 1, ·)

/-- What is in each of the groups one deeper than the limit. -/
def cutOff (limit around : Nat) (items : Items) : List Items :=
  (items.groups around).filterMap fun group => if group.1 = limit + 1 then some group.2 else none

/-- Keeps the groups one deeper than the limit and takes out what is in them. -/
def emptied (limit around : Nat) : Items → Items
  | .nil => .nil
  | .leaf event span rest => .leaf event span (rest.emptied limit around)
  | .group items body span rest =>
    if around < limit then
      .group (items.emptied limit (around + 1)) body span (rest.emptied limit around)
    else .group .nil body span (rest.emptied limit around)

def Bare (items : Items) : Prop := ∀ group ∈ items.groups 0, group.2 = .nil

theorem groups_leaf (around : Nat) (event : Event) (span : Span) (rest : Items) :
    (leaf event span rest).groups around = rest.groups around := rfl

theorem groups_group (around : Nat) (items : Items) (body span : Span) (rest : Items) :
    (group items body span rest).groups around =
      (around + 1, items) :: (items.groups (around + 1) ++ rest.groups around) := by
  simp only [groups, preorder, List.filterMap_cons, List.filterMap_append, Item.group?,
    Option.map_some]

theorem cutOff_leaf (limit around : Nat) (event : Event) (span : Span) (rest : Items) :
    (leaf event span rest).cutOff limit around = rest.cutOff limit around := rfl

theorem cutOff_group_of_ne {limit around : Nat} (other : around ≠ limit) (items : Items)
    (body span : Span) (rest : Items) :
    (group items body span rest).cutOff limit around =
      items.cutOff limit (around + 1) ++ rest.cutOff limit around := by
  have apart : ¬ around + 1 = limit + 1 := by omega
  simp only [cutOff, groups_group, List.filterMap_cons, List.filterMap_append, if_neg apart]

theorem lt_of_mem_groups {items : Items} {around : Nat} {group : Nat × Items}
    (member : group ∈ items.groups around) : around < group.1 := by
  induction items generalizing around with
  | nil => cases member
  | leaf event span rest ih => exact ih member
  | group items body span rest inner ih =>
    rw [groups_group, List.mem_cons, List.mem_append] at member
    rcases member with same | inside | after
    · rw [same]
      omega
    · have deeper := inner inside
      omega
    · exact ih after

/-- Groups further down lie inside of one that was cut off. -/
theorem cutOff_eq_nil (items : Items) {limit around : Nat} (past : limit < around) :
    items.cutOff limit around = [] := by
  rw [cutOff, List.filterMap_eq_nil_iff]
  intro group member
  have deeper := lt_of_mem_groups member
  exact if_neg (by omega)

theorem cutOff_group_last (limit : Nat) (items : Items) (body span : Span) (rest : Items) :
    (group items body span rest).cutOff limit limit = items :: rest.cutOff limit limit := by
  have below := cutOff_eq_nil items (Nat.lt_succ_self limit)
  rw [cutOff] at below
  simp only [cutOff, groups_group, List.filterMap_cons, List.filterMap_append, if_true]
  rw [below, List.nil_append]

/-- Every item is kept or was in a group that is cut off. -/
theorem total_eq_emptied_add_cutOff (items : Items) {limit around : Nat} (inside : around ≤ limit) :
    items.total =
      (items.emptied limit around).total + ((items.cutOff limit around).map total).sum := by
  induction items generalizing around with
  | nil => rfl
  | leaf event span rest ih =>
    rw [cutOff_leaf, emptied, total, total, ih inside]
    omega
  | group items body span rest inner ih =>
    rcases Nat.lt_or_eq_of_le inside with above | last
    · have deeper : around + 1 ≤ limit := above
      rw [cutOff_group_of_ne (Nat.ne_of_lt above), emptied, if_pos above, total, total,
        List.map_append, List.sum_append, inner deeper, ih inside]
      omega
    · subst last
      rw [cutOff_group_last, emptied, if_neg (Nat.lt_irrefl _), total, total, total, List.map_cons,
        List.sum_cons, ih inside]
      omega

theorem length_le_total (items : Items) : items.length ≤ items.total := by
  induction items with
  | nil => exact Nat.le_refl 0
  | leaf event span rest ih =>
    rw [length, total]
    omega
  | group items body span rest _ ih =>
    rw [length, total]
    omega

theorem total_eq_zero_iff (items : Items) : items.total = 0 ↔ items = .nil := by
  cases items with
  | nil => exact iff_of_true rfl rfl
  | leaf event span rest =>
    simp only [total, Nat.add_eq_zero_iff, Nat.one_ne_zero, and_false, reduceCtorEq]
  | group items body span rest =>
    simp only [total, Nat.add_eq_zero_iff, Nat.one_ne_zero, and_false, reduceCtorEq]

/-- A run has no more items than its own exactly if its groups are empty. -/
theorem length_eq_total_iff (items : Items) (around : Nat) :
    items.length = items.total ↔ ∀ group ∈ items.groups around, group.2 = .nil := by
  induction items with
  | nil => exact iff_of_true rfl (List.forall_mem_nil _)
  | leaf event span rest ih => rw [groups_leaf, ← ih, length, total, Nat.add_right_cancel_iff]
  | group items body span rest _ ih =>
    have own := length_le_total rest
    rw [groups_group, List.forall_mem_cons, List.forall_mem_append, length, total, ← ih]
    constructor
    · intro same
      have bare : items = .nil := (total_eq_zero_iff items).mp (by omega)
      refine ⟨bare, ?_, by omega⟩
      rw [bare]
      exact List.forall_mem_nil _
    · rintro ⟨bare, -, same⟩
      have none_inside : items.total = 0 := (total_eq_zero_iff items).mpr bare
      omega

theorem sum_length_le (runs : List Items) : (runs.map length).sum ≤ (runs.map total).sum :=
  List.sum_le_sum fun run _ => length_le_total run

theorem sum_length_eq_iff (runs : List Items) :
    (runs.map length).sum = (runs.map total).sum ↔ ∀ run ∈ runs, run.Bare := by
  constructor
  · intro same run member
    apply (length_eq_total_iff run 0).mp
    by_contra different
    have short : run.length < run.total := Nat.lt_of_le_of_ne (length_le_total run) different
    have less : (runs.map length).sum < (runs.map total).sum :=
      List.sum_lt_sum length total (fun run _ => length_le_total run) ⟨run, member, short⟩
    omega
  · intro bare
    have same : ∀ run ∈ runs, run.length = run.total := by
      intro run member
      exact (length_eq_total_iff run 0).mpr (bare run member)
    rw [List.map_congr_left same]

end Items

namespace Chart

def emptied (limit : Nat) (chart : Chart) : Chart := ⟨chart.items.emptied limit 0⟩

def cutOff (limit : Nat) (chart : Chart) : List Items := chart.items.cutOff limit 0

end Chart

end ChartLint
