/-!
Places in the text of a chart. A span is a pair of byte offsets; `union` gives the least span
that covers two others, in whatever order a run of spans is combined.
-/

namespace ChartLint

/-- A half-open range of byte offsets. The end may lie before the start: such a span is kept as
it is. -/
structure Span where
  start : Nat
  stop : Nat
deriving DecidableEq, Repr, Inhabited

namespace Span

def origin : Span := ⟨0, 0⟩

def length (span : Span) : Nat := span.stop - span.start

def isEmpty (span : Span) : Bool := decide (span.stop ≤ span.start)

def union (first second : Span) : Span :=
  ⟨min first.start second.start, max first.stop second.stop⟩

def text (span : Span) : String := toString span.start ++ ".." ++ toString span.stop

def Covers (outer inner : Span) : Prop := outer.start ≤ inner.start ∧ inner.stop ≤ outer.stop

instance (outer inner : Span) : Decidable (outer.Covers inner) :=
  inferInstanceAs (Decidable (_ ∧ _))

theorem covers_refl (span : Span) : span.Covers span :=
  ⟨Nat.le_refl _, Nat.le_refl _⟩

theorem Covers.trans {outer between inner : Span} (first : outer.Covers between)
    (second : between.Covers inner) : outer.Covers inner :=
  ⟨Nat.le_trans first.1 second.1, Nat.le_trans second.2 first.2⟩

theorem isEmpty_iff_length (span : Span) : span.isEmpty = true ↔ span.length = 0 := by
  simp only [isEmpty, length, decide_eq_true_eq]
  omega

end Span

end ChartLint
