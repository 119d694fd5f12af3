import ChartLint.Source.Span

/-!
The span of a run of spans. A span covers a union exactly if it covers both parts, so of everything
that covers a run, the union of the run is covered by all. That settles what the union is, whatever
the order of the run and the brackets in it; spans that end before they start make no difference.
-/

namespace ChartLint

namespace Span

theorem Covers.antisymm {first second : Span} (covers : first.Covers second)
    (covered : second.Covers first) : first = second := by
  have start : first.start = second.start := Nat.le_antisymm covers.1 covered.1
  have stop : first.stop = second.stop := Nat.le_antisymm covered.2 covers.2
  rw [Span.mk.injEq]
  exact ⟨start, stop⟩

theorem covers_union_iff (outer first second : Span) :
    outer.Covers (first.union second) ↔ outer.Covers first ∧ outer.Covers second := by
  unfold Covers union
  rw [Nat.le_min, Nat.max_le]
  exact and_and_and_comm

theorem covers_foldl_union_iff (outer first : Span) (others : List Span) :
    outer.Covers (others.foldl union first) ↔ ∀ member ∈ first :: others, outer.Covers member := by
  induction others generalizing first with
  | nil => simp only [List.foldl_nil, List.mem_singleton, forall_eq]
  | cons second rest ih =>
    rw [List.foldl_cons, ih, List.forall_mem_cons, covers_union_iff, and_assoc,
      ← List.forall_mem_cons, ← List.forall_mem_cons]

theorem Covers.length_le {outer inner : Span} (covers : outer.Covers inner) :
    inner.length ≤ outer.length := by
  obtain ⟨starts, stops⟩ := covers
  unfold length
  omega

/-- Some spans, at least one, in an order and with brackets that say which unions are formed. -/
inductive Bracketing where
  | single (span : Span)
  | joined (first second : Bracketing)

namespace Bracketing

def spans : Bracketing → List Span
  | .single span => [span]
  | .joined first second => first.spans ++ second.spans

def union : Bracketing → Span
  | .single span => span
  | .joined first second => first.union.union second.union

theorem covers_union_iff (outer : Span) (bracketing : Bracketing) :
    outer.Covers bracketing.union ↔ ∀ member ∈ bracketing.spans, outer.Covers member := by
  induction bracketing with
  | single span => simp only [union, spans, List.mem_singleton, forall_eq]
  | joined first second left right =>
    rw [union, Span.covers_union_iff, left, right, spans, List.forall_mem_append]

/-- What covers some spans does not depend on how they are arranged. -/
theorem union_eq_foldl {bracketing : Bracketing} {first : Span} {others : List Span}
    (arranged : bracketing.spans.Perm (first :: others)) :
    bracketing.union = others.foldl Span.union first := by
  have alike (outer : Span) :
      outer.Covers bracketing.union ↔ outer.Covers (others.foldl Span.union first) := by
    rw [covers_union_iff, covers_foldl_union_iff]
    simp only [arranged.mem_iff]
  apply Covers.antisymm
  · exact (alike _).mp (covers_refl _)
  · exact (alike _).mpr (covers_refl _)

/-- However some spans are ordered and bracketed, their union is the same. It covers each of them and
is no shorter than any, and every span that covers them all covers it. A span is empty exactly if its
length is zero; the length is the way from start to end, and zero if the end lies before the start. -/
theorem union_least (bracketing : Bracketing) (first : Span) (others : List Span)
    (arranged : bracketing.spans.Perm (first :: others)) :
    bracketing.union = others.foldl Span.union first ∧
      (∀ member ∈ first :: others,
        bracketing.union.Covers member ∧ member.length ≤ bracketing.union.length) ∧
      (∀ outer : Span,
        (∀ member ∈ first :: others, outer.Covers member) → outer.Covers bracketing.union) ∧
      ∀ span : Span,
        (span.isEmpty = true ↔ span.length = 0) ∧
          (span.start ≤ span.stop → span.start + span.length = span.stop) ∧
          (span.stop < span.start → span.length = 0) := by
  have least (outer : Span) : outer.Covers bracketing.union ↔
      ∀ member ∈ first :: others, outer.Covers member := by
    rw [union_eq_foldl arranged, covers_foldl_union_iff]
  refine ⟨union_eq_foldl arranged, ?_, ?_, ?_⟩
  · intro member inside
    have covers := (least _).mp (covers_refl _) member inside
    exact ⟨covers, covers.length_le⟩
  · intro outer
    exact (least outer).mpr
  · intro span
    refine ⟨span.isEmpty_iff_length, ?_, ?_⟩
    · intro forward
      exact Nat.add_sub_cancel' forward
    · intro inverted
      exact Nat.sub_eq_zero_of_le (Nat.le_of_lt inverted)

/-- A span that ends before it starts and an empty one take part like any other. -/
theorem union_least_inverted :
    let bracketing : Bracketing :=
      .joined (.single ⟨12, 20⟩) (.joined (.single ⟨9, 2⟩) (.single ⟨5, 5⟩))
    bracketing.spans.Perm [⟨9, 2⟩, ⟨5, 5⟩, ⟨12, 20⟩] ∧
      bracketing.union = [⟨5, 5⟩, ⟨12, 20⟩].foldl Span.union ⟨9, 2⟩ ∧
      bracketing.union = ⟨5, 20⟩ ∧ bracketing.union.Covers ⟨9, 2⟩ ∧
      Span.Covers ⟨4, 21⟩ bracketing.union := by
  intro bracketing
  have arranged : bracketing.spans.Perm [⟨9, 2⟩, ⟨5, 5⟩, ⟨12, 20⟩] := by decide
  obtain ⟨same, covers, least, _⟩ := union_least bracketing ⟨9, 2⟩ [⟨5, 5⟩, ⟨12, 20⟩] arranged
  have around : ∀ member ∈ [⟨9, 2⟩, ⟨5, 5⟩, ⟨12, 20⟩], Span.Covers ⟨4, 21⟩ member := by decide
  exact ⟨arranged, same, by decide, (covers _ List.mem_cons_self).1, least _ around⟩

end Bracketing

end Span

end ChartLint
