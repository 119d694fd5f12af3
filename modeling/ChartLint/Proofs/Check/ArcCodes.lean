import ChartLint.Proofs.Check.Findings

/-!
What one arc is told together. The codes come in the order in which codes are listed, and apart from
the two times of the arc and its arctaps no code comes twice. Some codes shut others out: an arc that
ends before it starts is not one with no length in time, and a list of arctaps, be it empty, decides
which rule about solid arcs there is to break.
-/

namespace ChartLint

theorem flatMap_findingIf {α : Type} (condition : α → Bool) (diagnostic : α → Diagnostic)
    (subjects : List α) :
    (subjects.flatMap fun subject => findingIf (condition subject) (diagnostic subject)) =
      (subjects.filter condition).map diagnostic := by
  induction subjects with
  | nil => rfl
  | cons subject rest ih =>
    rw [List.flatMap_cons, ih, List.filter_cons]
    cases condition subject with
    | false => rfl
    | true => rfl

namespace Rule

variable {α : Type}

theorem codes_read (table : List (Rule α)) (subject : α) :
    (read table subject).map Diagnostic.code =
      (table.filter fun rule => rule.applies subject).map Rule.code := by
  rw [read, List.map_map]
  rfl

/-- A subject is told codes of the table in the order of the table, each no more often than there
are rows for it. -/
theorem codes_read_sublist (table : List (Rule α)) (subject : α) :
    ((read table subject).map Diagnostic.code).Sublist (table.map Rule.code) := by
  rw [codes_read]
  exact List.filter_sublist.map Rule.code

theorem mem_codes_read (table : List (Rule α)) (subject : α) (code : Code) :
    code ∈ (read table subject).map Diagnostic.code ↔
      ∃ rule ∈ table, rule.applies subject ∧ rule.code = code := by
  simp only [codes_read, List.mem_map, List.mem_filter, decide_eq_true_eq, and_assoc]

end Rule

namespace Arc

def outside (arc : Arc) : List (Spanned Arctap) :=
  (arc.arctaps.elim [] (·.value)).filter fun arctap =>
    ¬ (arc.start.value ≤ arctap.value.time.value ∧ arctap.value.time.value ≤ arc.stop.value)

theorem outside_of_lt {arc : Arc} (inverted : arc.stop.value < arc.start.value) :
    arc.outside = arc.arctaps.elim [] (·.value) := by
  apply List.filter_eq_self.mpr
  intro arctap _
  rw [decide_eq_true_iff]
  omega

theorem ne_of_mem_outside {arc : Arc} (order : arc.start.value ≤ arc.stop.value)
    {arctap : Spanned Arctap} (member : arctap ∈ arc.outside) :
    arctap.value.time.value ≠ arc.start.value ∧ arctap.value.time.value ≠ arc.stop.value := by
  have early := (List.mem_filter.mp member).2
  rw [decide_eq_true_iff] at early
  omega

def arctapFinding (arctap : Spanned Arctap) : Diagnostic :=
  .error .arcArctapInTimeRange
    "Arctap event should happens in the time range of parent arc event" arctap.span

theorem flatMap_arctapTable (arc : Arc) :
    ((arc.arctaps.elim [] (·.value)).flatMap fun arctap => Rule.read arctapTable (arc, arctap)) =
      arc.outside.map arctapFinding := by
  simp only [arctapTable, Rule.read_cons, Rule.read_nil, List.append_nil]
  exact flatMap_findingIf _ arctapFinding _

theorem findings_eq_outside (arc : Arc) (span : Span) :
    arc.findings span = Rule.read table ⟨arc, span⟩ ++ arc.outside.map arctapFinding := by
  rw [findings_eq_read, flatMap_arctapTable]

theorem codes_findings (arc : Arc) (span : Span) :
    (arc.findings span).map Diagnostic.code =
      (Rule.read table ⟨arc, span⟩).map Diagnostic.code ++
        List.replicate arc.outside.length .arcArctapInTimeRange := by
  have arctaps : (arc.outside.map arctapFinding).map Diagnostic.code =
      List.replicate arc.outside.length .arcArctapInTimeRange := by
    rw [List.map_map]
    exact List.map_const' ..
  rw [findings_eq_outside, List.map_append, arctaps]

theorem table_ordered :
    (table.map Rule.code).Pairwise fun first later =>
      Code.all.idxOf first ≤ Code.all.idxOf later := by
  decide

theorem table_idxOf_le : ∀ code ∈ table.map Rule.code,
    Code.all.idxOf code ≤ Code.all.idxOf .arcArctapInTimeRange := by
  decide

theorem codes_ordered (arc : Arc) (span : Span) :
    ((arc.findings span).map Diagnostic.code).Pairwise fun first later =>
      Code.all.idxOf first ≤ Code.all.idxOf later := by
  have told := Rule.codes_read_sublist table ⟨arc, span⟩
  rw [codes_findings, List.pairwise_append]
  refine ⟨table_ordered.sublist told, ?_, ?_⟩
  · exact List.pairwise_replicate.mpr (.inr (Nat.le_refl _))
  · intro first before later after
    rw [List.eq_of_mem_replicate after]
    exact table_idxOf_le first (told.subset before)

theorem count_codes_le (arc : Arc) (span : Span) {code : Code}
    (other : code ≠ .arcArctapInTimeRange) :
    ((arc.findings span).map Diagnostic.code).count code ≤ (table.map Rule.code).count code := by
  have elsewhere : ¬ (Code.arcArctapInTimeRange == code) = true :=
    fun same => other (eq_of_beq same).symm
  rw [codes_findings, List.count_append, List.count_replicate, if_neg elsewhere]
  exact (Rule.codes_read_sublist table ⟨arc, span⟩).count_le code

theorem mem_codes_iff (arc : Arc) (span : Span) {code : Code}
    (other : code ≠ .arcArctapInTimeRange) :
    code ∈ (arc.findings span).map Diagnostic.code ↔
      ∃ rule ∈ table, rule.applies ⟨arc, span⟩ ∧ rule.code = code := by
  rw [codes_findings, List.mem_append, Rule.mem_codes_read]
  apply or_iff_left
  intro arctap
  exact other (List.eq_of_mem_replicate arctap)

theorem count_codes_le_one (arc : Arc) (span : Span) {code : Code}
    (notTime : code ≠ .timestampNonNegative) (notArctap : code ≠ .arcArctapInTimeRange) :
    ((arc.findings span).map Diagnostic.code).count code ≤ 1 := by
  apply Nat.le_trans (count_codes_le arc span notArctap)
  -- The table has two rows for the times and at most one for any other code.
  cases code with
  | timestampNonNegative => exact absurd rfl notTime
  | _ => decide

def Breaks (arc : Arc) : Code → Prop
  | .timestampNonNegative => arc.start.value < 0 ∨ arc.stop.value < 0
  | .arcNonNegativeDuration => arc.stop.value < arc.start.value
  | .arcZeroDurationDifferentPoints => arc.start.value = arc.stop.value ∧ arc.isStill = true
  | .arcZeroDurationStraight => arc.start.value = arc.stop.value ∧ arc.kind.value ≠ 's'
  | .arcZeroDurationNoArctap => arc.start.value = arc.stop.value ∧ arc.hasArctaps = true
  | .arcEffectUnknown =>
    arc.effect.value ≠ "none" ∧ ¬ "_wav".toList <:+ arc.effect.value.toList
  | .arcArctapNotSolid => arc.isLine.value = false ∧ arc.hasArctaps = true
  | .arcSolidColor =>
    arc.isLine.value = false ∧ arc.hasArctaps = false ∧ arc.color.value = 3
  | .arcArctapInTimeRange => arc.outside ≠ []
  | .nonZeroBpmNonZeroBeats => False
  | .zeroBpmZeroBeats => False
  | .holdPositiveDuration => False
  | .cameraNonNegativeDuration => False

theorem mem_codes_iff_breaks (arc : Arc) (span : Span) (code : Code) :
    code ∈ (arc.findings span).map Diagnostic.code ↔ arc.Breaks code := by
  cases code with
  | arcArctapInTimeRange =>
    -- The one code that is not told by the table of the arc itself.
    have elsewhere : Code.arcArctapInTimeRange ∉ table.map Rule.code := by decide
    have own : Code.arcArctapInTimeRange ∉ (Rule.read table ⟨arc, span⟩).map Diagnostic.code :=
      fun told => elsewhere ((Rule.codes_read_sublist table ⟨arc, span⟩).subset told)
    rw [codes_findings, List.mem_append, or_iff_right own, List.mem_replicate, and_iff_left rfl,
      Breaks, ne_eq, ne_eq, List.length_eq_zero_iff]
  | _ =>
    rw [mem_codes_iff arc span (by decide)]
    simp only [table, instantTable, solidTable, Rule.time, List.cons_append, List.nil_append,
      List.mem_cons, List.not_mem_nil, or_false, or_and_right, exists_or, exists_eq_left,
      reduceCtorEq, and_false, and_true, or_self, false_or, Breaks, isStill, hasArctaps,
      Bool.and_eq_true, gt_iff_lt, Spanned.beq_iff]

theorem start_eq_stop_of_breaks {arc : Arc} {code : Code}
    (instant : code ∈ [Code.arcZeroDurationDifferentPoints, .arcZeroDurationStraight,
      .arcZeroDurationNoArctap])
    (breaks : arc.Breaks code) : arc.start.value = arc.stop.value := by
  simp only [List.mem_cons, List.not_mem_nil, or_false] at instant
  rcases instant with rfl | rfl | rfl
  · exact breaks.1
  · exact breaks.1
  · exact breaks.1

theorem filter_code_findings (arc : Arc) (span : Span) :
    (arc.findings span).filter (·.code == .arcArctapInTimeRange) =
      arc.outside.map arctapFinding := by
  have own : ∀ diagnostic ∈ Rule.read table ⟨arc, span⟩,
      ¬ (diagnostic.code == .arcArctapInTimeRange) = true := by
    have elsewhere : Code.arcArctapInTimeRange ∉ table.map Rule.code := by decide
    intro diagnostic member same
    have told := (Rule.codes_read_sublist table ⟨arc, span⟩).subset (List.mem_map_of_mem member)
    exact elsewhere (eq_of_beq same ▸ told)
  have arctaps : ∀ diagnostic ∈ arc.outside.map arctapFinding,
      (diagnostic.code == .arcArctapInTimeRange) = true := by
    intro diagnostic member
    obtain ⟨arctap, -, rfl⟩ := List.mem_map.mp member
    rfl
  rw [findings_eq_outside, List.filter_append, List.filter_eq_nil_iff.mpr own,
    List.filter_eq_self.mpr arctaps, List.nil_append]

end Arc

theorem check_arc_eq_findings (arc : Arc) (span : Span) :
    check (.ofList [.leaf (.arc arc) span]) [] = arc.findings span := by
  rw [check_eq_findings, List.nil_append]
  exact List.append_nil _

/-- The codes that an arc is told come in the order in which codes are listed, and none comes twice
but for the two times and the arctaps. An arc that ends before it starts is told nothing about arcs
with no length in time, and no arc is told of both solid rules. The rules about a list of arctaps
look at whether there is one, not at what is in it. The arctaps told of are those outside the time
of the arc: all of them if it ends before it starts, and otherwise none at its start or its end. -/
theorem check_arc (arc : Arc) (span : Span) :
    let found := check (.ofList [.leaf (.arc arc) span]) []
    let codes := found.map Diagnostic.code
    (codes.Pairwise fun first later => Code.all.idxOf first ≤ Code.all.idxOf later) ∧
      codes.count .timestampNonNegative ≤ 2 ∧
      (∀ code, code ≠ .timestampNonNegative → code ≠ .arcArctapInTimeRange →
        codes.count code ≤ 1) ∧
      (∀ code ∈ [Code.arcZeroDurationDifferentPoints, .arcZeroDurationStraight,
        .arcZeroDurationNoArctap], ¬ (.arcNonNegativeDuration ∈ codes ∧ code ∈ codes)) ∧
      ¬ (.arcArctapNotSolid ∈ codes ∧ .arcSolidColor ∈ codes) ∧
      (.arcZeroDurationNoArctap ∈ codes ↔
        arc.start.value = arc.stop.value ∧ ∃ listed, arc.arctaps = some listed) ∧
      (.arcArctapNotSolid ∈ codes ↔
        arc.isLine.value = false ∧ ∃ listed, arc.arctaps = some listed) ∧
      (found.filter (·.code == .arcArctapInTimeRange)).map Diagnostic.span =
        arc.outside.map Spanned.span ∧
      (arc.stop.value < arc.start.value → arc.outside = arc.arctaps.elim [] (·.value)) ∧
      (arc.start.value ≤ arc.stop.value → ∀ arctap ∈ arc.outside,
        arctap.value.time.value ≠ arc.start.value ∧
          arctap.value.time.value ≠ arc.stop.value) := by
  intro found codes
  have own : found = arc.findings span := check_arc_eq_findings arc span
  have breaks (code : Code) : code ∈ codes ↔ arc.Breaks code := by
    rw [← arc.mem_codes_iff_breaks span, ← own]
  have listed : arc.hasArctaps = true ↔ ∃ listed, arc.arctaps = some listed :=
    Option.isSome_iff_exists
  have counted (code : Code) :
      codes.count code = ((arc.findings span).map Diagnostic.code).count code := by
    rw [← own]
  refine ⟨?_, ?_, ?_, ?_, ?_, ?_, ?_, ?_, ?_, ?_⟩
  · have ordered := arc.codes_ordered span
    rwa [← own] at ordered
  · rw [counted]
    exact arc.count_codes_le span (by decide)
  · intro code notTime notArctap
    rw [counted]
    exact arc.count_codes_le_one span notTime notArctap
  · intro code instant
    rw [breaks, breaks]
    intro both
    obtain ⟨inverted, zero⟩ := both
    exact Int.ne_of_gt inverted (Arc.start_eq_stop_of_breaks instant zero)
  · rw [breaks, breaks]
    intro both
    obtain ⟨⟨-, present⟩, -, absent, -⟩ := both
    rw [present] at absent
    cases absent
  · rw [breaks, Arc.Breaks, listed]
  · rw [breaks, Arc.Breaks, listed]
  · rw [own, arc.filter_code_findings, List.map_map]
    rfl
  · exact Arc.outside_of_lt
  · intro order arctap member
    exact Arc.ne_of_mem_outside order member

def Arc.tapped (start stop : Int) : Arc where
  start := .unplaced start
  stop := .unplaced stop
  xStart := .unplaced .zero
  xStop := .unplaced .zero
  yStart := .unplaced .zero
  yStop := .unplaced .zero
  kind := .unplaced 's'
  effect := .unplaced "none"
  isLine := .unplaced false
  color := .unplaced 3
  arctaps := some (.unplaced
    [⟨⟨.unplaced (-5)⟩, ⟨1, 2⟩⟩, ⟨⟨.unplaced 100⟩, ⟨3, 4⟩⟩, ⟨⟨.unplaced 101⟩, ⟨5, 6⟩⟩])

/-- The same two times in either order: all arctaps are told of, or only the last. -/
theorem check_arc_tapped :
    let crossed := Arc.tapped 100 (-5)
    let ordered := Arc.tapped (-5) 100
    let places (arc : Arc) : List Span :=
      ((check (.ofList [.leaf (.arc arc) ⟨0, 9⟩]) []).filter
        (·.code == .arcArctapInTimeRange)).map Diagnostic.span
    crossed.stop.value < crossed.start.value ∧ places crossed = [⟨1, 2⟩, ⟨3, 4⟩, ⟨5, 6⟩] ∧
      ordered.start.value ≤ ordered.stop.value ∧ places ordered = [⟨5, 6⟩] ∧
      ∀ arctap ∈ ordered.outside, arctap.value.time.value ≠ -5 ∧ arctap.value.time.value ≠ 100 := by
  intro crossed ordered places
  obtain ⟨-, -, -, -, -, -, -, all, whole, -⟩ := check_arc crossed ⟨0, 9⟩
  obtain ⟨-, -, -, -, -, -, -, last, -, apart⟩ := check_arc ordered ⟨0, 9⟩
  have inverted : crossed.stop.value < crossed.start.value := by decide
  have order : ordered.start.value ≤ ordered.stop.value := by decide
  refine ⟨inverted, ?_, order, last, apart order⟩
  show ((check _ []).filter _).map Diagnostic.span = _
  rw [all, whole inverted]
  rfl

end ChartLint
