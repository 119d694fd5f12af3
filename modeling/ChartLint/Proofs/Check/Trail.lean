import ChartLint.Check.Walk
import ChartLint.Proofs.Chart.Depth
import ChartLint.Proofs.Check.Table

/-!
What a walk leaves behind. The records of a walk over a run are one list, the trail of the run, and
everything else that the walk does follows from it: the findings kept are those on the trail, the
groups counted are its warnings, and depth and limit are as they were. Without a limit the findings
on a trail are those of the events in order; with one they are those of the pruned run, and there is
a warning for every group one deeper than the limit.
-/

namespace ChartLint

namespace Record

def finding? : Record → Option Diagnostic
  | found diagnostic => some diagnostic
  | _ => none

def findings (records : List Record) : List Diagnostic := records.filterMap finding?

def warnings (records : List Record) : Nat := records.countP (·.level == .warn)

@[simp] theorem findings_nil : findings [] = [] := rfl

@[simp] theorem findings_append (first second : List Record) :
    findings (first ++ second) = findings first ++ findings second :=
  List.filterMap_append

@[simp] theorem findings_found (diagnostics : List Diagnostic) :
    findings (diagnostics.map .found) = diagnostics := by
  rw [findings, List.filterMap_map]
  exact List.filterMap_some

@[simp] theorem findings_groupSkipped (depth items : Nat) (span : Span) (rest : List Record) :
    findings (.groupSkipped depth items span :: rest) = findings rest := rfl

@[simp] theorem warnings_nil : warnings [] = 0 := rfl

@[simp] theorem warnings_append (first second : List Record) :
    warnings (first ++ second) = warnings first + warnings second :=
  List.countP_append

@[simp] theorem warnings_found (diagnostics : List Diagnostic) :
    warnings (diagnostics.map .found) = 0 := by
  rw [warnings, List.countP_map, List.countP_eq_zero]
  intro diagnostic _ warned
  cases warned

@[simp] theorem warnings_groupSkipped (depth items : Nat) (span : Span) (rest : List Record) :
    warnings (.groupSkipped depth items span :: rest) = warnings rest + 1 :=
  List.countP_cons_of_pos rfl

/-- A change of records that goes along with a change of findings. -/
theorem findings_map {change : Record → Record} {told : Diagnostic → Diagnostic}
    (along : ∀ record, (change record).finding? = record.finding?.map told)
    (records : List Record) :
    findings (records.map change) = (findings records).map told := by
  have same : finding? ∘ change = fun record => record.finding?.map told := funext along
  rw [findings, List.filterMap_map, same, findings, List.map_filterMap]

/-- A change of records that keeps them as loud as they are. -/
theorem warnings_map {change : Record → Record}
    (loud : ∀ record, (change record).level = record.level) (records : List Record) :
    warnings (records.map change) = warnings records := by
  have same : (fun record => (change record).level == .warn) = (·.level == .warn) := by
    funext record
    rw [loud]
  rw [warnings, List.countP_map]
  exact congrArg (List.countP · records) same

end Record

namespace Items

/-- The records of a walk over a run with so many groups around it: the findings of every event, the
records of every group that is gone into in its place, and one warning for a group past the limit. -/
def trail (limit : Option Nat) (around : Nat) : Items → List Record
  | .nil => []
  | .leaf event span rest => (event.findings span).map .found ++ rest.trail limit around
  | .group items _ span rest =>
    match limit with
    | none => items.trail none (around + 1) ++ rest.trail none around
    | some bound =>
      if around < bound then items.trail limit (around + 1) ++ rest.trail limit around
      else .groupSkipped (bound + 1) items.length span :: rest.trail limit around

theorem trail_group_of_lt {limit : Option Nat} {around : Nat}
    (inside : ∀ bound ∈ limit, around < bound) (items : Items) (body span : Span) (rest : Items) :
    (group items body span rest).trail limit around =
      items.trail limit (around + 1) ++ rest.trail limit around := by
  cases limit with
  | none => rfl
  | some bound => rw [trail, if_pos (inside bound rfl)]

theorem trail_group_last (limit : Nat) (items : Items) (body span : Span) (rest : Items) :
    (group items body span rest).trail (some limit) limit =
      .groupSkipped (limit + 1) items.length span :: rest.trail (some limit) limit := by
  rw [trail, if_neg (Nat.lt_irrefl limit)]

end Items

namespace Walk

/-- The state after so many more records: they are kept, and the findings and warnings among them. -/
def extend (walk : Walk) (records : List Record) : Walk :=
  { walk with
    skippedGroups := walk.skippedGroups + Record.warnings records
    diagnostics := walk.diagnostics ++ (Record.findings records).toArray
    records := walk.records ++ records.toArray }

@[simp] theorem extend_depth (walk : Walk) (records : List Record) :
    (walk.extend records).depth = walk.depth := rfl

@[simp] theorem extend_limit (walk : Walk) (records : List Record) :
    (walk.extend records).limit = walk.limit := rfl

@[simp] theorem extend_nil (walk : Walk) : walk.extend [] = walk := by
  simp only [extend, Record.warnings_nil, Record.findings_nil, Nat.add_zero, Array.append_empty]

theorem extend_append (walk : Walk) (first second : List Record) :
    walk.extend (first ++ second) = (walk.extend first).extend second := by
  simp only [extend, Record.warnings_append, Record.findings_append, Nat.add_assoc,
    ← List.append_toArray, Array.append_assoc]

theorem extend_cons (walk : Walk) (first : Record) (rest : List Record) :
    walk.extend (first :: rest) = (walk.extend [first]).extend rest := by
  rw [← extend_append, List.singleton_append]

theorem reportAll_eq_extend (walk : Walk) (found : List Diagnostic) :
    walk.reportAll found = walk.extend (found.map .found) := by
  induction found generalizing walk with
  | nil => exact walk.extend_nil.symm
  | cons first rest ih =>
    rw [reportAll_cons, ih, List.map_cons, extend_cons]
    rfl

theorem skip_eq_extend (walk : Walk) (depth items : Nat) (span : Span) :
    walk.skip depth items span = walk.extend [.groupSkipped depth items span] := by
  simp only [skip, extend, Record.warnings_groupSkipped, Record.findings_groupSkipped,
    Record.warnings_nil, Record.findings_nil, Array.append_empty, Nat.zero_add]
  rfl

theorem visitor_item (item : Item) (walk : Walk) : visitor.item item walk = walk := rfl

theorem visitor_event (event : Event) (span : Span) (walk : Walk) :
    visitor.event event span walk = walk.extend ((event.findings span).map .found) := by
  rw [← reportAll_eq_extend]
  cases event <;> rfl

/-- A walk is never inside of more groups than its limit. -/
def Within (walk : Walk) : Prop := ∀ bound ∈ walk.limit, walk.depth ≤ bound

theorem start_within (limit : Option Nat) (earlier : List Diagnostic) :
    (start limit earlier).Within :=
  fun _ _ => Nat.zero_le _

theorem Within.extend {walk : Walk} (within : walk.Within) (records : List Record) :
    (walk.extend records).Within := within

theorem Within.enter {walk : Walk} (inside : ∀ bound ∈ walk.limit, walk.depth < bound) :
    Within { walk with depth := walk.depth + 1 } := inside

theorem visit_leaf (event : Event) (span : Span) (rest : Items) (walk : Walk) :
    visitor.visitItems (.leaf event span rest) walk =
      visitor.visitItems rest (walk.extend ((event.findings span).map .found)) := by
  rw [← visitor_event]
  rfl

section

variable (items : Items) (body span : Span) {walk : Walk}

/-- The hook of a group goes into one that is allowed, and counts and logs any other. -/
theorem visitor_enterGroup_allowed (allowed : walk.allows (walk.depth + 1) = true) :
    visitor.enterGroup items body span walk = .enter { walk with depth := walk.depth + 1 } :=
  if_pos allowed

theorem visitor_enterGroup_past (past : ¬ walk.allows (walk.depth + 1) = true) :
    visitor.enterGroup items body span walk =
      .passOver (walk.extend [.groupSkipped (walk.depth + 1) items.length span]) := by
  rw [← skip_eq_extend]
  exact if_neg past

end

theorem visit_group_allowed (items : Items) (body span : Span) (rest : Items) (walk : Walk)
    (allowed : walk.allows (walk.depth + 1) = true) :
    visitor.visitItems (.group items body span rest) walk =
      visitor.visitItems rest
        (visitor.visitItems items { walk with depth := walk.depth + 1 }).leaveGroup := by
  simp only [Visitor.visitItems, visitor_item, visitor_enterGroup_allowed _ _ _ allowed]
  rfl

theorem visit_group_past (items : Items) (body span : Span) (rest : Items) (walk : Walk)
    (past : ¬ walk.allows (walk.depth + 1) = true) :
    visitor.visitItems (.group items body span rest) walk =
      visitor.visitItems rest
        (walk.extend [.groupSkipped (walk.depth + 1) items.length span]) := by
  simp only [Visitor.visitItems, visitor_item, visitor_enterGroup_past _ _ _ past]

theorem allows_iff (walk : Walk) (depth : Nat) :
    walk.allows depth = true ↔ ∀ bound ∈ walk.limit, depth ≤ bound := by
  rw [allows]
  cases walk.limit with
  | none => simp only [Option.not_mem_none, false_implies, implies_true]
  | some limit => simp only [decide_eq_true_eq, Option.mem_some_iff, forall_eq']

/-- A walk that cannot go into a group is inside of as many groups as its limit allows. -/
theorem Within.limit_eq {walk : Walk} (within : walk.Within)
    (last : ¬ ∀ bound ∈ walk.limit, walk.depth < bound) : walk.limit = some walk.depth := by
  cases limited : walk.limit with
  | none => exact absurd (fun bound member => by rw [limited] at member; cases member) last
  | some limit =>
    have upper : walk.depth ≤ limit := within limit limited
    have lower : ¬ walk.depth < limit := by
      intro inside
      apply last
      intro bound member
      rw [limited] at member
      cases member
      exact inside
    rw [Nat.le_antisymm upper (Nat.le_of_not_lt lower)]

/-- A walk over a run keeps the records of its trail. After a group the walk is back at the depth it
had before, so the same holds of what follows. -/
theorem visitItems_eq_extend (items : Items) (walk : Walk) (within : walk.Within) :
    visitor.visitItems items walk = walk.extend (items.trail walk.limit walk.depth) := by
  induction items generalizing walk with
  | nil => exact walk.extend_nil.symm
  | leaf event span rest ih =>
    rw [visit_leaf, ih _ (within.extend _), Items.trail, extend_append]
    rfl
  | group items body span rest inner ih =>
    by_cases inside : ∀ bound ∈ walk.limit, walk.depth < bound
    · have allowed : walk.allows (walk.depth + 1) = true := (allows_iff ..).mpr inside
      have gone : (visitor.visitItems items { walk with depth := walk.depth + 1 }).leaveGroup =
          walk.extend (items.trail walk.limit (walk.depth + 1)) := by
        rw [inner _ (Within.enter inside)]
        rfl
      rw [visit_group_allowed _ _ _ _ _ allowed, gone, ih _ (within.extend _),
        Items.trail_group_of_lt inside, extend_append]
      rfl
    · have last := within.limit_eq inside
      have past : ¬ walk.allows (walk.depth + 1) = true := by
        rw [allows_iff]
        exact inside
      rw [visit_group_past _ _ _ _ _ past, ih _ (within.extend _), extend_limit, extend_depth, last,
        Items.trail_group_last]
      exact (extend_cons ..).symm

/-- A walk that went through a group is where it was before, with the records of the group. -/
theorem leaveGroup_visitItems (items : Items) {walk : Walk}
    (inside : ∀ bound ∈ walk.limit, walk.depth < bound) :
    (visitor.visitItems items { walk with depth := walk.depth + 1 }).leaveGroup =
      walk.extend (items.trail walk.limit (walk.depth + 1)) := by
  rw [visitItems_eq_extend _ _ (Within.enter inside)]
  rfl

theorem run_eq_extend (limit : Option Nat) (chart : Chart) (earlier : List Diagnostic) :
    run limit chart earlier = (start limit earlier).extend (chart.items.trail limit 0) :=
  visitItems_eq_extend chart.items (start limit earlier) (start_within limit earlier)

theorem run_records (limit : Option Nat) (chart : Chart) (earlier : List Diagnostic) :
    (run limit chart earlier).records.toList = chart.items.trail limit 0 := by
  rw [run_eq_extend]
  simp only [extend, start, Array.toList_append, List.nil_append]

theorem run_diagnostics (limit : Option Nat) (chart : Chart) (earlier : List Diagnostic) :
    (run limit chart earlier).diagnostics.toList =
      earlier ++ Record.findings (chart.items.trail limit 0) := by
  rw [run_eq_extend]
  simp only [extend, start, Array.toList_append]

theorem run_skippedGroups (limit : Option Nat) (chart : Chart) (earlier : List Diagnostic) :
    (run limit chart earlier).skippedGroups = Record.warnings (chart.items.trail limit 0) := by
  rw [run_eq_extend]
  exact Nat.zero_add _

end Walk

namespace Items

/-- Without a limit, a trail holds the findings of the events in order. -/
theorem findings_trail_none (items : Items) (around : Nat) :
    Record.findings (items.trail none around) =
      items.leaves.flatMap fun leaf => leaf.1.findings leaf.2 := by
  induction items generalizing around with
  | nil => rfl
  | leaf event span rest ih =>
    rw [trail, Record.findings_append, Record.findings_found, ih, leaves, List.flatMap_cons]
  | group items body span rest inner ih =>
    rw [trail, Record.findings_append, inner, ih, leaves, List.flatMap_append]

theorem warnings_trail_none (items : Items) (around : Nat) :
    Record.warnings (items.trail none around) = 0 := by
  induction items generalizing around with
  | nil => rfl
  | leaf event span rest ih => rw [trail, Record.warnings_append, Record.warnings_found, ih]
  | group items body span rest inner ih => rw [trail, Record.warnings_append, inner, ih]

/-- The findings of a run under a limit are those of its pruned form. -/
theorem findings_trail_some (items : Items) {limit around : Nat} (inside : around ≤ limit) :
    Record.findings (items.trail (some limit) around) =
      (items.prune limit around).leaves.flatMap fun leaf => leaf.1.findings leaf.2 := by
  induction items generalizing around with
  | nil => rfl
  | leaf event span rest ih =>
    rw [trail, Record.findings_append, Record.findings_found, ih inside, prune, leaves,
      List.flatMap_cons]
  | group items body span rest inner ih =>
    rcases Nat.lt_or_eq_of_le inside with above | last
    · rw [trail, if_pos above, Record.findings_append, inner above, ih inside,
        prune_group_of_lt above, leaves, List.flatMap_append]
    · subst last
      rw [trail_group_last, Record.findings_groupSkipped, ih inside,
        prune_group_of_le (Nat.le_refl _)]

/-- A walk warns of the groups that are one deeper than its limit. Those further down lie inside of
one of them, so they are never met. -/
theorem warnings_trail_some (items : Items) {limit around : Nat} (inside : around ≤ limit) :
    Record.warnings (items.trail (some limit) around) = items.groupsAt (limit + 1) around := by
  induction items generalizing around with
  | nil => rfl
  | leaf event span rest ih =>
    rw [trail, Record.warnings_append, Record.warnings_found, ih inside, groupsAt_leaf, Nat.zero_add]
  | group items body span rest inner ih =>
    rw [groupsAt_group]
    rcases Nat.lt_or_eq_of_le inside with above | last
    · have other : around + 1 ≠ limit + 1 := by omega
      rw [trail, if_pos above, Record.warnings_append, inner above, ih inside, if_neg other,
        Nat.zero_add]
    · subst last
      have below := groupsAt_eq_zero_of_le items (Nat.le_refl (around + 1))
      rw [trail_group_last, Record.warnings_groupSkipped, ih inside, if_pos rfl, below]
      omega

end Items

end ChartLint
