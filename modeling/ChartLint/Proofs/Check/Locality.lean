import ChartLint.Proofs.Check.Passing

/-!
Edits are local. A run with a hole in it has records of its own before and after whatever fills the
hole, and what fills it leaves the records that it would leave alone under what remains of the limit.
If the hole lies past the limit, what fills it is never looked at.
-/

namespace ChartLint

inductive Context where
  | here (before after : Items)
  | inside (before : Items) (hole : Context) (body span : Span) (after : Items)

namespace Context

def fill : Context → Items → Items
  | .here before after, items => before ++ items ++ after
  | .inside before hole body span after, items =>
    before ++ Items.group (hole.fill items) body span after

def depth : Context → Nat
  | .here _ _ => 0
  | .inside _ hole _ _ _ => hole.depth + 1

def trailBefore (limit : Option Nat) (around : Nat) : Context → List Record
  | .here before _ => before.trail limit around
  | .inside before hole _ _ _ => before.trail limit around ++ hole.trailBefore limit (around + 1)

def trailAfter (limit : Option Nat) (around : Nat) : Context → List Record
  | .here _ after => after.trail limit around
  | .inside _ hole _ _ after => hole.trailAfter limit (around + 1) ++ after.trail limit around

end Context

theorem Items.trail_append (limit : Option Nat) (around : Nat) (before after : Items) :
    (before ++ after).trail limit around =
      before.trail limit around ++ after.trail limit around := by
  show (before.append after).trail limit around = _
  induction before with
  | nil => rfl
  | leaf event span rest ih => rw [append, trail, ih, trail, List.append_assoc]
  | group items body span rest _ ih =>
    cases limit with
    | none => rw [append, trail, ih, trail, List.append_assoc]
    | some bound =>
      by_cases inside : around < bound
      · rw [append, trail, if_pos inside, ih, trail, if_pos inside, List.append_assoc]
      · rw [append, trail, if_neg inside, ih, trail, if_neg inside, List.cons_append]

namespace Record

def renumber (depth items : Nat → Nat) : Record → Record
  | groupSkipped around count span => .groupSkipped (depth around) (items count) span
  | other => other

theorem findings_map_renumber (depth items : Nat → Nat) (records : List Record) :
    findings (records.map (renumber depth items)) = findings records := by
  have along : ∀ record, (renumber depth items record).finding? = record.finding?.map id := by
    intro record
    cases record <;> rfl
  rw [findings_map along, List.map_id]

theorem warnings_map_renumber (depth items : Nat → Nat) (records : List Record) :
    warnings (records.map (renumber depth items)) = warnings records := by
  apply warnings_map
  intro record
  cases record <;> rfl

end Record

namespace Report

theorem ofTrail_map_renumber (suppress : List Code) (depth items : Nat → Nat)
    (records : List Record) :
    ofTrail suppress (records.map (Record.renumber depth items)) = ofTrail suppress records := by
  unfold ofTrail
  rw [Record.findings_map_renumber, Record.warnings_map_renumber]

theorem ofTrail_append (suppress : List Code) (first second : List Record) :
    ofTrail suppress (first ++ second) =
      { diagnostics := (ofTrail suppress first).diagnostics ++ (ofTrail suppress second).diagnostics
        skippedGroups :=
          (ofTrail suppress first).skippedGroups + (ofTrail suppress second).skippedGroups } := by
  simp only [ofTrail, Record.findings_append, Record.warnings_append, List.filter_append]

end Report

/-- Limit and depth only count against each other: deeper down under a limit as much higher, a walk
leaves the same records but for the depth written in them. -/
theorem Items.trail_shift (items : Items) (limit : Option Nat) (around depth : Nat) :
    items.trail (limit.map (· + depth)) (around + depth) =
      (items.trail limit around).map (Record.renumber (· + depth) id) := by
  induction items generalizing around with
  | nil => rfl
  | leaf event span rest ih =>
    rw [trail, trail, ih, List.map_append, List.map_map]
    rfl
  | group items body span rest inner ih =>
    have deeper : around + depth + 1 = around + 1 + depth := Nat.add_right_comm around depth 1
    cases limit with
    | none =>
      have inside := inner (around + 1)
      have after := ih around
      simp only [Option.map_none] at inside after ⊢
      rw [trail, trail, deeper, inside, after, List.map_append]
    | some bound =>
      have inside := inner (around + 1)
      have after := ih around
      simp only [Option.map_some] at inside after ⊢
      by_cases room : around < bound
      · rw [trail, trail, if_pos room, if_pos (Nat.add_lt_add_right room depth), deeper, inside,
          after, List.map_append]
      · have past : ¬ around + depth < bound + depth := by omega
        have number : bound + depth + 1 = bound + 1 + depth := Nat.add_right_comm bound depth 1
        rw [trail, trail, if_neg room, if_neg past, after, number]
        rfl

namespace Context

theorem trail_fill (context : Context) (items : Items) (limit : Option Nat) (around : Nat)
    (room : ∀ bound ∈ limit, around + context.depth ≤ bound) :
    (context.fill items).trail limit around =
      context.trailBefore limit around ++ items.trail limit (around + context.depth)
        ++ context.trailAfter limit around := by
  induction context generalizing around with
  | here before after =>
    rw [fill, Items.trail_append, Items.trail_append]
    rfl
  | inside before hole body span after ih =>
    have inside : ∀ bound ∈ limit, around < bound := by
      intro bound member
      have enough := room bound member
      rw [depth] at enough
      omega
    have deeper : around + (hole.depth + 1) = around + 1 + hole.depth := by omega
    rw [depth, deeper] at room
    rw [fill, Items.trail_append, Items.trail_group_of_lt inside, ih (around + 1) room, trailBefore,
      trailAfter, depth, deeper]
    simp only [List.append_assoc]

theorem trail_fill_past (context : Context) (items others : Items) {bound around : Nat}
    (inside : around ≤ bound) (past : bound < around + context.depth) :
    ((context.fill items).trail (some bound) around).map (Record.renumber id fun _ => 0) =
      ((context.fill others).trail (some bound) around).map (Record.renumber id fun _ => 0) := by
  induction context generalizing around with
  | here before after =>
    rw [depth] at past
    omega
  | inside before hole body span after ih =>
    rw [depth] at past
    simp only [fill, Items.trail_append, List.map_append]
    by_cases room : around < bound
    · have enter : ∀ limit ∈ some bound, around < limit := by
        intro limit limited
        cases limited
        exact room
      have same := ih room (by omega)
      simp only [Items.trail_group_of_lt enter, List.map_append, same]
    · -- The group is passed over. What fills the hole only shows in the number of its items.
      have last : around = bound := by omega
      subst last
      simp only [Items.trail_group_last, List.map_cons, Record.renumber]

end Context

/-- The settings as they are inside of so many groups: the limit is nearer by so much. -/
def Config.within (config : Config) (depth : Nat) : Config :=
  { config with maxGroupDepth := config.maxGroupDepth.map (· - depth) }

/-- What a walk finds in a run inside of so many groups is the report of the run alone. -/
theorem ofTrail_within (config : Config) (depth : Nat)
    (reached : ∀ limit ∈ config.maxGroupDepth, depth ≤ limit) (items : Items) :
    Report.ofTrail config.suppress (items.trail config.maxGroupDepth depth) =
      (lint (config.within depth) ⟨items⟩).report := by
  -- No limit is nearer than the hole, so what was taken off it can be put back.
  have restored : (config.within depth).maxGroupDepth.map (· + depth) = config.maxGroupDepth := by
    unfold Config.within
    cases limited : config.maxGroupDepth with
    | none => rfl
    | some limit => exact congrArg some (Nat.sub_add_cancel (reached limit limited))
  have shifted := items.trail_shift (config.within depth).maxGroupDepth 0 depth
  rw [restored, Nat.zero_add] at shifted
  rw [shifted, Report.ofTrail_map_renumber, lint_report_eq_ofTrail]
  rfl

/-- Within the limit, what fills a hole is found in it as it would be alone, and changes nothing of
what is found around it. Past the limit, what fills a hole makes no difference. -/
theorem lint_fill (context : Context) (config : Config) :
    ((∀ limit ∈ config.maxGroupDepth, context.depth ≤ limit) →
      ∃ before after skipped, ∀ items,
        let alone := (lint (config.within context.depth) ⟨items⟩).report
        (lint config ⟨context.fill items⟩).report =
          { diagnostics := before ++ alone.diagnostics ++ after
            skippedGroups := skipped + alone.skippedGroups }) ∧
    ((∃ limit ∈ config.maxGroupDepth, limit < context.depth) →
      ∀ items others, (lint config ⟨context.fill items⟩).report =
        (lint config ⟨context.fill others⟩).report) := by
  constructor
  · intro reached
    have room : ∀ bound ∈ config.maxGroupDepth, 0 + context.depth ≤ bound := by
      simpa only [Nat.zero_add] using reached
    let before := Report.ofTrail config.suppress (context.trailBefore config.maxGroupDepth 0)
    let after := Report.ofTrail config.suppress (context.trailAfter config.maxGroupDepth 0)
    refine ⟨before.diagnostics, after.diagnostics, before.skippedGroups + after.skippedGroups, ?_⟩
    intro items alone
    have found : Report.ofTrail config.suppress
        (items.trail config.maxGroupDepth (0 + context.depth)) = alone := by
      rw [Nat.zero_add]
      exact ofTrail_within config context.depth reached items
    rw [lint_report_eq_ofTrail, context.trail_fill items config.maxGroupDepth 0 room,
      Report.ofTrail_append, Report.ofTrail_append, found]
    have counted : before.skippedGroups + alone.skippedGroups + after.skippedGroups =
        before.skippedGroups + after.skippedGroups + alone.skippedGroups := Nat.add_right_comm ..
    exact congrArg (Report.mk _) counted
  · intro past items others
    obtain ⟨limit, limited, nearer⟩ := past
    have beyond : limit < 0 + context.depth := by rwa [Nat.zero_add]
    have same := congrArg (Report.ofTrail config.suppress)
      (context.trail_fill_past items others (Nat.zero_le limit) beyond)
    rw [Report.ofTrail_map_renumber, Report.ofTrail_map_renumber] at same
    rw [lint_report_eq_ofTrail, lint_report_eq_ofTrail, limited]
    exact same

def Context.inGroup : Context :=
  let tap : Event := .tap ⟨.unplaced (-1)⟩
  .inside (.leaf tap .origin .nil) (.here .nil (.leaf tap .origin .nil)) .origin .origin .nil

/-- Under a limit of one, what fills a hole inside of a group is looked at, and under a limit of zero
it is not. -/
theorem lint_fill_inGroup :
    let near : Config := { suppress := [.holdPositiveDuration], maxGroupDepth := some 1 }
    let nearer : Config := { suppress := [], maxGroupDepth := some 0 }
    ((∀ limit ∈ near.maxGroupDepth, Context.inGroup.depth ≤ limit) ∧
      ∃ before after skipped, ∀ items,
        let alone := (lint (near.within Context.inGroup.depth) ⟨items⟩).report
        (lint near ⟨Context.inGroup.fill items⟩).report =
          { diagnostics := before ++ alone.diagnostics ++ after
            skippedGroups := skipped + alone.skippedGroups }) ∧
      (∃ limit ∈ nearer.maxGroupDepth, limit < Context.inGroup.depth) ∧
        ∀ items others, (lint nearer ⟨Context.inGroup.fill items⟩).report =
          (lint nearer ⟨Context.inGroup.fill others⟩).report := by
  intro near nearer
  have reached : ∀ limit ∈ near.maxGroupDepth, Context.inGroup.depth ≤ limit := by
    intro limit limited
    cases limited
    decide
  have past : ∃ limit ∈ nearer.maxGroupDepth, limit < Context.inGroup.depth :=
    ⟨0, rfl, by decide⟩
  exact ⟨⟨reached, (lint_fill .inGroup near).1 reached⟩, past, (lint_fill .inGroup nearer).2 past⟩

end ChartLint
