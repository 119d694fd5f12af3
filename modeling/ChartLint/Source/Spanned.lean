import ChartLint.Source.Span

/-!
Values together with the place they were read from. Equality looks at the value alone, so two
charts that differ only in layout are equal.
-/

namespace ChartLint

structure Spanned (α : Type) where
  value : α
  span : Span
deriving Repr

namespace Spanned

variable {α β : Type}

/-- Places never take part in equality. -/
instance [BEq α] : BEq (Spanned α) where
  beq first second := first.value == second.value

def unplaced (value : α) : Spanned α := ⟨value, Span.origin⟩

def map (change : α → β) (item : Spanned α) : Spanned β := ⟨change item.value, item.span⟩

@[simp] theorem beq_iff [BEq α] (first second : Spanned α) :
    (first == second) = (first.value == second.value) := rfl

end Spanned

end ChartLint
