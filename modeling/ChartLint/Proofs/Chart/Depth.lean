import ChartLint.Chart.Basic

/-!
How deep the groups of a chart lie. A group at the top has depth one, a group in it depth two.
`nesting` is the depth of the deepest group, `groupsAt` counts the groups of one depth, and `prune`
takes out the groups past a limit with all that is in them. A run is looked at together with the
number of groups around it, so that each of these is one recursion over runs.
-/

namespace ChartLint

def Item.isGroup : Item → Bool
  | .leaf .. => false
  | .group .. => true

namespace Items

def nesting : Items → Nat
  | .nil => 0
  | .leaf _ _ rest => rest.nesting
  | .group items _ _ rest => max (items.nesting + 1) rest.nesting

/-- Takes out every group deeper than the limit, from a run with so many groups around it. -/
def prune (limit around : Nat) : Items → Items
  | .nil => .nil
  | .leaf event span rest => .leaf event span (rest.prune limit around)
  | .group items body span rest =>
    if limit < around + 1 then rest.prune limit around
    else .group (items.prune limit (around + 1)) body span (rest.prune limit around)

def groupsAt (depth around : Nat) (items : Items) : Nat :=
  (items.preorder around).countP fun entry => entry.2.isGroup && entry.1 + 1 == depth

theorem prune_group_of_lt {limit around : Nat} (inside : around < limit) (items : Items)
    (body span : Span) (rest : Items) :
    (Items.group items body span rest).prune limit around =
      .group (items.prune limit (around + 1)) body span (rest.prune limit around) := by
  rw [prune, if_neg (Nat.not_lt_of_le inside)]

theorem prune_group_of_le {limit around : Nat} (past : limit ≤ around) (items : Items)
    (body span : Span) (rest : Items) :
    (Items.group items body span rest).prune limit around = rest.prune limit around := by
  rw [prune, if_pos (Nat.lt_succ_of_le past)]

theorem prune_eq_self (items : Items) {limit around : Nat}
    (shallow : around + items.nesting ≤ limit) : items.prune limit around = items := by
  induction items generalizing around with
  | nil => rfl
  | leaf event span rest ih => rw [prune, ih shallow]
  | group items body span rest inner ih =>
    rw [nesting] at shallow
    rw [prune_group_of_lt (by omega), inner (by omega), ih (by omega)]

/-- Of two limits, the nearer one decides. -/
theorem prune_prune (items : Items) {lower upper around : Nat} (nearer : lower ≤ upper) :
    (items.prune upper around).prune lower around = items.prune lower around := by
  induction items generalizing around with
  | nil => rfl
  | leaf event span rest ih => simp only [prune, ih]
  | group items body span rest inner ih =>
    by_cases inside : around < upper
    · rw [prune_group_of_lt inside]
      by_cases above : around < lower
      · rw [prune_group_of_lt above, prune_group_of_lt above, inner, ih]
      · have past : lower ≤ around := Nat.le_of_not_lt above
        rw [prune_group_of_le past, prune_group_of_le past, ih]
    · have past : upper ≤ around := Nat.le_of_not_lt inside
      rw [prune_group_of_le past, prune_group_of_le (Nat.le_trans nearer past), ih]

theorem leaves_prune_sublist (items : Items) (limit around : Nat) :
    (items.prune limit around).leaves.Sublist items.leaves := by
  induction items generalizing around with
  | nil => exact List.Sublist.slnil
  | leaf event span rest ih =>
    simp only [prune, leaves]
    exact (ih around).cons_cons _
  | group items body span rest inner ih =>
    by_cases inside : around < limit
    · rw [prune_group_of_lt inside, leaves, leaves]
      exact (inner (around + 1)).append (ih around)
    · rw [prune_group_of_le (Nat.le_of_not_lt inside), leaves]
      exact (ih around).trans (List.sublist_append_right items.leaves rest.leaves)

@[simp] theorem groupsAt_nil (depth around : Nat) : nil.groupsAt depth around = 0 := rfl

@[simp] theorem groupsAt_leaf (depth around : Nat) (event : Event) (span : Span) (rest : Items) :
    (leaf event span rest).groupsAt depth around = rest.groupsAt depth around := by
  simp only [groupsAt, preorder, List.countP_cons, Item.isGroup, Bool.false_and,
    Bool.false_eq_true, ↓reduceIte, Nat.add_zero]

@[simp] theorem groupsAt_group (depth around : Nat) (items : Items) (body span : Span)
    (rest : Items) :
    (group items body span rest).groupsAt depth around =
      (if around + 1 = depth then 1 else 0) + items.groupsAt depth (around + 1)
        + rest.groupsAt depth around := by
  simp only [groupsAt, preorder, List.countP_cons, List.countP_append, Item.isGroup, Bool.true_and,
    beq_iff_eq]
  omega

theorem groupsAt_eq_zero_of_le (items : Items) {depth around : Nat} (shallow : depth ≤ around) :
    items.groupsAt depth around = 0 := by
  induction items generalizing around with
  | nil => rfl
  | leaf event span rest ih => rw [groupsAt_leaf, ih shallow]
  | group items body span rest inner ih =>
    have other : around + 1 ≠ depth := by omega
    rw [groupsAt_group, if_neg other, inner (by omega), ih shallow]

/-- A chart nests past a limit exactly if some group is one deeper than the limit. -/
theorem groupsAt_eq_zero_iff (items : Items) {limit around : Nat} (inside : around ≤ limit) :
    items.groupsAt (limit + 1) around = 0 ↔ around + items.nesting ≤ limit := by
  induction items generalizing around with
  | nil => simpa only [groupsAt_nil, nesting, Nat.add_zero, true_iff] using inside
  | leaf event span rest ih => rw [groupsAt_leaf, nesting, ih inside]
  | group items body span rest inner ih =>
    rw [groupsAt_group, nesting, Nat.add_eq_zero_iff, Nat.add_eq_zero_iff, ih inside]
    by_cases last : around = limit
    · subst last
      simp only [↓reduceIte, Nat.one_ne_zero, false_and, false_iff]
      omega
    · have other : around + 1 ≠ limit + 1 := by omega
      rw [inner (by omega), if_neg other]
      omega

end Items

namespace Chart

def nesting (chart : Chart) : Nat := chart.items.nesting

def prune (limit : Nat) (chart : Chart) : Chart := ⟨chart.items.prune limit 0⟩

def groupsAt (depth : Nat) (chart : Chart) : Nat := chart.items.groupsAt depth 0

end Chart

end ChartLint
