import ChartLint.Proofs.Chart.Equality
import ChartLint.Proofs.Check.Passing

/-!
Places do not decide anything. Every row of the tables is blind: it cannot tell equal subjects
apart, so it applies to both or to neither and says the same of both. A walk over equal charts
therefore leaves the same trail but for places, and the reports of equal charts differ in places
alone.
-/

namespace ChartLint

namespace Diagnostic

def unplaced (diagnostic : Diagnostic) : Diagnostic := { diagnostic with span := .origin }

def gist (diagnostic : Diagnostic) : Code × Severity × String :=
  (diagnostic.code, diagnostic.severity, diagnostic.message)

theorem map_unplaced_findingIf (condition : Bool) (diagnostic : Diagnostic) :
    (findingIf condition diagnostic).map unplaced = findingIf condition diagnostic.unplaced := by
  cases condition <;> rfl

end Diagnostic

namespace Rule

variable {α : Type} [BEq α]

/-- A row that cannot tell equal subjects apart. -/
def Blind (rule : Rule α) : Prop :=
  ∀ first second, (first == second) = true →
    (rule.applies first ↔ rule.applies second) ∧ rule.message first = rule.message second

theorem map_unplaced_read {table : List (Rule α)} (blind : ∀ rule ∈ table, rule.Blind)
    {first second : α} (same : (first == second) = true) :
    (read table first).map Diagnostic.unplaced = (read table second).map Diagnostic.unplaced := by
  induction table with
  | nil => rfl
  | cons rule rest ih =>
    obtain ⟨applies, message⟩ := blind rule List.mem_cons_self first second same
    have finding : (rule.finding first).unplaced = (rule.finding second).unplaced := by
      simp only [Rule.finding, Diagnostic.unplaced, message]
    have after := ih fun other member => blind other (List.mem_cons_of_mem rule member)
    simp only [read_cons, List.map_append, Diagnostic.map_unplaced_findingIf, finding, after,
      decide_eq_decide.mpr applies]

theorem time_blind {field : α → Spanned Int}
    (agree : ∀ first second, (first == second) = true → (field first).value = (field second).value) :
    (time field).Blind := by
  intro first second same
  refine ⟨?_, rfl⟩
  show (field first).value < 0 ↔ (field second).value < 0
  rw [agree first second same]

end Rule

theorem Timing.table_blind : ∀ rule ∈ Timing.table, rule.Blind := by
  have alike (first second : Timing) (same : (first == second) = true) : first.Alike second :=
    (beq_iff_alike first second).mp same
  have stopped (first second : Timing) (same : (first == second) = true) :
      (first.bpm.value == Binary64.zero) = (second.bpm.value == Binary64.zero) :=
    Binary64.beq_congr (alike first second same).bpm (by decide)
  simp only [table, List.forall_mem_cons, List.not_mem_nil, false_implies, implies_true, and_true]
  refine ⟨?_, ?_, ?_⟩
  · exact Rule.time_blind fun first second same => (alike first second same).time
  · intro first second same
    simp only [stopped first second same, (alike first second same).measure, and_self]
  · intro first second same
    simp only [stopped first second same, (alike first second same).measure, and_self]

theorem Tap.table_blind : ∀ rule ∈ Tap.table, rule.Blind := by
  simp only [table, List.forall_mem_singleton]
  exact Rule.time_blind fun first second same => (beq_iff first second).mp same

theorem Hold.table_blind : ∀ rule ∈ Hold.table, rule.Blind := by
  have times (first second : Spanned Hold) (same : (first == second) = true) :=
    (beq_iff first.value second.value).mp same
  simp only [table, List.forall_mem_cons, List.not_mem_nil, false_implies, implies_true, and_true]
  refine ⟨?_, ?_, ?_⟩
  · exact Rule.time_blind fun first second same => (times first second same).1
  · exact Rule.time_blind fun first second same => (times first second same).2
  · intro first second same
    simp only [(times first second same).1, (times first second same).2, and_self]

theorem Camera.table_blind : ∀ rule ∈ Camera.table, rule.Blind := by
  simp only [table, List.forall_mem_singleton]
  intro first second same
  simp only [(beq_iff first second).mp same, and_self]

namespace Arc

theorem alike_of_beq {first second : Spanned Arc} (same : (first == second) = true) :
    first.value.Alike second.value :=
  (beq_iff_alike ..).mp same

theorem instantTable_blind : ∀ rule ∈ instantTable, rule.Blind := by
  simp only [instantTable, List.forall_mem_cons, List.not_mem_nil, false_implies, implies_true,
    and_true]
  refine ⟨?_, ?_, ?_⟩
  · intro first second same
    have alike := alike_of_beq same
    have across := Binary64.beq_congr alike.xStart alike.xStop
    have upwards := Binary64.beq_congr alike.yStart alike.yStop
    simp only [alike.start, alike.stop, across, upwards, and_self]
  · intro first second same
    have alike := alike_of_beq same
    simp only [alike.start, alike.stop, alike.kind, and_self]
  · intro first second same
    have alike := alike_of_beq same
    simp only [alike.start, alike.stop, alike.isSome_arctaps, and_self]

theorem solidTable_blind : ∀ rule ∈ solidTable, rule.Blind := by
  simp only [solidTable, List.forall_mem_cons, List.not_mem_nil, false_implies, implies_true,
    and_true]
  refine ⟨?_, ?_⟩
  · intro first second same
    have alike := alike_of_beq same
    simp only [alike.isLine, alike.isSome_arctaps, and_self]
  · intro first second same
    have alike := alike_of_beq same
    simp only [alike.isLine, alike.isSome_arctaps, alike.color, and_self]

theorem table_blind : ∀ rule ∈ table, rule.Blind := by
  simp only [table, List.forall_mem_append, List.forall_mem_cons, List.not_mem_nil, false_implies,
    implies_true, and_true]
  refine ⟨⟨⟨⟨?_, ?_, ?_⟩, instantTable_blind⟩, ?_⟩, solidTable_blind⟩
  · exact Rule.time_blind fun first second same => (alike_of_beq same).start
  · exact Rule.time_blind fun first second same => (alike_of_beq same).stop
  · intro first second same
    have alike := alike_of_beq same
    simp only [alike.start, alike.stop, and_self]
  · intro first second same
    have alike := alike_of_beq same
    simp only [alike.effect, and_self]

theorem arctapTable_blind : ∀ rule ∈ arctapTable, rule.Blind := by
  simp only [arctapTable, List.forall_mem_singleton]
  intro first second same
  -- The subjects are pairs, and pairs are equal if both of their parts are.
  obtain ⟨arcs, arctaps⟩ := Bool.and_eq_true_iff.mp same
  have alike := (beq_iff_alike ..).mp arcs
  have time := (Arctap.beq_iff ..).mp arctaps
  simp only [alike.start, alike.stop, time, and_self]

theorem map_unplaced_arctaps {first second : Arc} (same : (first == second) = true) :
    ∀ {taps others : List (Spanned Arctap)}, (taps == others) = true →
      (taps.flatMap fun arctap => Rule.read arctapTable (first, arctap)).map Diagnostic.unplaced =
        (others.flatMap fun arctap => Rule.read arctapTable (second, arctap)).map
          Diagnostic.unplaced
  | [], [], _ => rfl
  | tap :: taps, other :: others, equal => by
    obtain ⟨head, tail⟩ := Bool.and_eq_true_iff.mp equal
    have pair : ((first, tap) == (second, other)) = true := Bool.and_eq_true_iff.mpr ⟨same, head⟩
    have here := Rule.map_unplaced_read arctapTable_blind pair
    have later := map_unplaced_arctaps same tail
    rw [List.flatMap_cons, List.flatMap_cons, List.map_append, List.map_append, here, later]

end Arc

theorem Event.map_unplaced_findings {first second : Event} (same : (first == second) = true)
    (span place : Span) :
    (first.findings span).map Diagnostic.unplaced =
      (second.findings place).map Diagnostic.unplaced := by
  rw [findings_eq_listed, findings_eq_listed]
  -- Events of different kinds are never equal, so only the pairs of one kind are left.
  cases first with
  | timing fields =>
    cases second with
    | timing others => exact Rule.map_unplaced_read Timing.table_blind same
    | _ => cases same
  | tap fields =>
    cases second with
    | tap others => exact Rule.map_unplaced_read Tap.table_blind same
    | _ => cases same
  | hold fields =>
    cases second with
    | hold others =>
      have spanned : ((⟨fields, span⟩ : Spanned Hold) == ⟨others, place⟩) = true := same
      exact Rule.map_unplaced_read Hold.table_blind spanned
    | _ => cases same
  | arc fields =>
    cases second with
    | arc others =>
      have spanned : ((⟨fields, span⟩ : Spanned Arc) == ⟨others, place⟩) = true := same
      have own := Rule.map_unplaced_read Arc.table_blind spanned
      have arctaps := Arc.map_unplaced_arctaps same (Arc.alike_of_beq spanned).elim_arctaps
      rw [listed, listed, List.map_append, List.map_append, own, arctaps]
    | _ => cases same
  | camera fields =>
    cases second with
    | camera others => exact Rule.map_unplaced_read Camera.table_blind same
    | _ => cases same

namespace Record

def unplaced : Record → Record
  | found diagnostic => .found diagnostic.unplaced
  | groupSkipped depth items _ => .groupSkipped depth items .origin
  | other => other

theorem map_unplaced_found (diagnostics : List Diagnostic) :
    (diagnostics.map found).map unplaced = (diagnostics.map Diagnostic.unplaced).map found := by
  rw [List.map_map, List.map_map]
  rfl

theorem findings_map_unplaced (records : List Record) :
    findings (records.map unplaced) = (findings records).map Diagnostic.unplaced := by
  apply findings_map
  intro record
  cases record <;> rfl

theorem warnings_map_unplaced (records : List Record) :
    warnings (records.map unplaced) = warnings records := by
  apply warnings_map
  intro record
  cases record <;> rfl

end Record

/-- A walk over equal runs finds the same, and goes into and passes over the same groups. -/
theorem Items.Alike.map_unplaced_trail {first second : Items} (alike : first.Alike second)
    (limit : Option Nat) (around : Nat) :
    (first.trail limit around).map Record.unplaced =
      (second.trail limit around).map Record.unplaced := by
  induction alike generalizing around with
  | nil => rfl
  | @leaf first second span place rest more event after ih =>
    have told := Event.map_unplaced_findings event span place
    rw [trail, trail, List.map_append, List.map_append, Record.map_unplaced_found,
      Record.map_unplaced_found, told, ih]
  | @group first second body span braces place rest more inside after inner ih =>
    cases limit with
    | none => simp only [trail, List.map_append, inner, ih]
    | some bound =>
      by_cases room : around < bound
      · simp only [trail, if_pos room, List.map_append, inner, ih]
      · -- The record of a group passed over counts its items, and equal groups hold as many.
        simp only [trail, if_neg room, List.map_cons, Record.unplaced, inside.length_eq, ih]

namespace Failure

theorem findingsText_unplaced (diagnostics : List Diagnostic) :
    findingsText (diagnostics.map Diagnostic.unplaced) = findingsText diagnostics := by
  cases diagnostics with
  | nil => rfl
  | cons first others =>
    cases others with
    | nil => rfl
    | cons second others =>
      simp only [List.map_cons, findingsText, Diagnostic.text, Diagnostic.unplaced,
        List.length_cons, List.length_map]

theorem text_unplaced (diagnostics : List Diagnostic) (skippedGroups : Nat) :
    text ⟨diagnostics.map Diagnostic.unplaced, skippedGroups⟩ =
      text ⟨diagnostics, skippedGroups⟩ := by
  simp only [text, findingsText_unplaced, List.isEmpty_map]

end Failure

namespace Report

def unplaced (report : Report) : Report :=
  { report with diagnostics := report.diagnostics.map Diagnostic.unplaced }

/-- What a caller is told who does not look at places: the text of a failure, or else the findings. -/
def verdict (report : Report) : Except String (List (Code × Severity × String)) :=
  (report.outcome.mapError Failure.text).map (List.map Diagnostic.gist)

theorem length_unplaced (report : Report) : report.unplaced.length = report.length :=
  List.length_map ..

theorem gist_unplaced (report : Report) :
    report.unplaced.diagnostics.map Diagnostic.gist = report.diagnostics.map Diagnostic.gist := by
  rw [unplaced, List.map_map]
  rfl

theorem hasErrors_unplaced (report : Report) : report.unplaced.hasErrors = report.hasErrors := by
  simp only [hasErrors, isComplete, unplaced, List.any_map]
  rfl

theorem verdict_unplaced (report : Report) : report.unplaced.verdict = report.verdict := by
  unfold verdict outcome
  rw [hasErrors_unplaced]
  cases report.hasErrors with
  | true => exact congrArg Except.error (Failure.text_unplaced ..)
  | false => exact congrArg Except.ok (gist_unplaced report)

theorem ofTrail_map_unplaced (suppress : List Code) (records : List Record) :
    ofTrail suppress (records.map Record.unplaced) = (ofTrail suppress records).unplaced := by
  unfold ofTrail
  -- Codes are left out by what a finding is about, so it does not matter when places are wiped.
  rw [Record.findings_map_unplaced, Record.warnings_map_unplaced, List.filter_map]
  rfl

end Report

theorem lint_report_unplaced (config : Config) {first second : Chart}
    (same : (first == second) = true) :
    (lint config first).report.unplaced = (lint config second).report.unplaced := by
  have alike := (Chart.beq_iff_alike first second).mp same
  have trails := alike.map_unplaced_trail config.maxGroupDepth 0
  calc (lint config first).report.unplaced
    _ = Report.ofTrail config.suppress
        ((first.items.trail config.maxGroupDepth 0).map Record.unplaced) := by
      rw [lint_report_eq_ofTrail, Report.ofTrail_map_unplaced]
    _ = Report.ofTrail config.suppress
        ((second.items.trail config.maxGroupDepth 0).map Record.unplaced) := by rw [trails]
    _ = (lint config second).report.unplaced := by
      rw [lint_report_eq_ofTrail, Report.ofTrail_map_unplaced]

/-- Equal charts have reports of the same length, with the same findings in the same order but for
their places, and with the same groups passed over; and they pass, or fail with the same text. -/
theorem lint_same (config : Config) {first second : Chart} (same : (first == second) = true) :
    let report := (lint config first).report
    let other := (lint config second).report
    report.unplaced = other.unplaced ∧
      report.length = other.length ∧
      report.diagnostics.map Diagnostic.gist = other.diagnostics.map Diagnostic.gist ∧
      report.skippedGroups = other.skippedGroups ∧
      report.verdict = other.verdict := by
  intro report other
  have unplaced : report.unplaced = other.unplaced := lint_report_unplaced config same
  have skipped : report.unplaced.skippedGroups = other.unplaced.skippedGroups := by rw [unplaced]
  refine ⟨unplaced, ?_, ?_, skipped, ?_⟩
  · rw [← report.length_unplaced, unplaced, other.length_unplaced]
  · rw [← report.gist_unplaced, unplaced, other.gist_unplaced]
  · rw [← report.verdict_unplaced, unplaced, other.verdict_unplaced]

def Chart.stopped (zero : Binary64) (span : Span) : Chart :=
  let timing : Timing := ⟨⟨0, span⟩, ⟨zero, span⟩, ⟨4, span⟩⟩
  let tap : Tap := ⟨⟨-1, span⟩⟩
  ⟨.group (.leaf (.timing timing) span (.leaf (.tap tap) span .nil)) span span .nil⟩

/-- Neither the sign of a zero nor the layout of the text makes a difference. -/
theorem lint_same_stopped :
    let first := Chart.stopped ⟨0⟩ ⟨0, 12⟩
    let second := Chart.stopped ⟨0x8000000000000000⟩ ⟨31, 58⟩
    (first == second) = true ∧
      (lint .default first).report.verdict = (lint .default second).report.verdict := by
  intro first second
  have same : (first == second) = true := by decide
  obtain ⟨-, -, -, -, verdict⟩ := lint_same .default same
  exact ⟨same, verdict⟩

end ChartLint
