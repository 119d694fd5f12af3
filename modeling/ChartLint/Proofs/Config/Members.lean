import ChartLint.Config.Members
import ChartLint.Keyed
import Mathlib.Algebra.Group.Int.Defs
import Mathlib.Algebra.Group.Nat.Defs
import Mathlib.Data.List.Forall2

/-!
When a configuration is read from members. No format is named here: whatever the values are, every
name must be one of the two that a configuration has, and each place holds what the value under its
name reads as, or its default where the name is missing. So the order of the members does not count.
-/

namespace ChartLint

section

variable {α β ε : Type}

theorem bind_eq_ok_iff (first : Except ε α) (next : α → Except ε β) (result : β) :
    (first >>= next) = .ok result ↔ ∃ value, first = .ok value ∧ next value = .ok result := by
  cases first with
  | error fault => simp only [bind, Except.bind, reduceCtorEq, false_and, exists_false]
  | ok value => simp only [bind, Except.bind, Except.ok.injEq, exists_eq_left']

theorem map_eq_ok_iff (change : α → β) (first : Except ε α) (result : β) :
    change <$> first = .ok result ↔ ∃ value, first = .ok value ∧ change value = result := by
  cases first with
  | error fault => simp only [Functor.map, Except.map, reduceCtorEq, false_and, exists_false]
  | ok value => simp only [Functor.map, Except.map, Except.ok.injEq, exists_eq_left']

theorem eq_error_iff (result : Except ε α) :
    (∃ fault, result = .error fault) ↔ ∀ value, ¬ result = .ok value := by
  cases result with
  | error fault =>
    simp only [Except.error.injEq, exists_eq', reduceCtorEq, not_false_eq_true, implies_true]
  | ok value => simp only [reduceCtorEq, exists_false, Except.ok.injEq, forall_eq']

theorem mapM_eq_ok_iff (read : α → Except ε β) (elements : List α) (results : List β) :
    elements.mapM read = .ok results ↔
      List.Forall₂ (fun element result => read element = .ok result) elements results := by
  induction elements generalizing results with
  | nil =>
    simp only [List.mapM_nil, pure, Except.pure, Except.ok.injEq, List.forall₂_nil_left_iff]
    exact eq_comm
  | cons element rest ih =>
    simp only [List.mapM_cons, bind_eq_ok_iff, List.forall₂_cons_left_iff, ih, pure, Except.pure,
      Except.ok.injEq]
    constructor
    · intro ⟨first, here, others, later, same⟩
      exact ⟨first, others, here, later, same.symm⟩
    · intro ⟨first, others, here, later, same⟩
      exact ⟨first, here, others, later, same.symm⟩

end

theorem Code.named_eq_ok_iff (name : String) (code : Code) :
    Code.named name = .ok code ↔ name = code.identifier := by
  rw [← Code.ofName?_eq_some_iff, Code.named]
  cases Code.ofName? name with
  | none => simp only [reduceCtorEq]
  | some known => simp only [Except.ok.injEq, Option.some.injEq]

theorem Config.depthOf_eq_ok_iff (number : Int) (depth : Nat) :
    depthOf number = .ok depth ↔ number = depth ∧ depth < 2 ^ 64 := by
  have width : Int.pow 2 64 = 2 ^ 64 := rfl
  unfold depthOf
  split
  · simp only [reduceCtorEq, false_iff]
    omega
  · split
    · simp only [Except.ok.injEq]
      omega
    · simp only [reduceCtorEq, false_iff]
      omega

theorem Config.some_depthOf_eq_ok_iff (number : Int) (depth : Option Nat) :
    some <$> depthOf number = .ok depth ↔
      ∃ size < 2 ^ 64, number = (size : Nat) ∧ depth = some size := by
  simp only [map_eq_ok_iff, depthOf_eq_ok_iff]
  constructor
  · intro ⟨size, ⟨same, small⟩, wrapped⟩
    exact ⟨size, small, same, wrapped.symm⟩
  · intro ⟨size, small, same, wrapped⟩
    exact ⟨size, ⟨same, small⟩, wrapped.symm⟩

namespace MemberReader

variable {α ε : Type}

/-- A place holds what is read for it, and its default if there is nothing to read. -/
def Holds {β : Type} (read : α → Except ε β) (default : β) : Option α → β → Prop
  | none, held => held = default
  | some value, held => read value = .ok held

theorem set_suppress (reader : MemberReader α ε) (value : α) (start config : Config) :
    reader.set "suppress" value start = .ok config ↔
      ∃ codes, reader.suppress value = .ok codes ∧ { start with suppress := codes } = config := by
  rw [set, if_pos rfl, bind_eq_ok_iff]
  simp only [Except.ok.injEq]

theorem set_maxGroupDepth (reader : MemberReader α ε) (value : α) (start config : Config) :
    reader.set "max_group_depth" value start = .ok config ↔
      ∃ depth, reader.maxGroupDepth value = .ok depth ∧
        { start with maxGroupDepth := depth } = config := by
  rw [set, if_neg (by decide), if_pos rfl, bind_eq_ok_iff]
  simp only [Except.ok.injEq]

theorem set_unknown (reader : MemberReader α ε) {name : String} (value : α) (start : Config)
    (unknown : ¬ (name = "suppress" ∨ name = "max_group_depth")) :
    reader.set name value start = .error (reader.unknown name) := by
  rw [not_or] at unknown
  rw [set, if_neg unknown.1, if_neg unknown.2]

/-- Members are read exactly if every name is known and both places are read. -/
theorem read_eq_ok_iff (reader : MemberReader α ε) {members : List (String × α)}
    (distinct : (members.map Prod.fst).Nodup) (start config : Config) :
    reader.read members start = .ok config ↔
      (∀ member ∈ members, member.1 = "suppress" ∨ member.1 = "max_group_depth") ∧
        Holds reader.suppress start.suppress (members.lookup "suppress") config.suppress ∧
        Holds reader.maxGroupDepth start.maxGroupDepth (members.lookup "max_group_depth")
          config.maxGroupDepth := by
  induction members generalizing start with
  | nil =>
    obtain ⟨suppress, depth⟩ := config
    simp only [read, Except.ok.injEq, List.lookup_nil, Holds, List.not_mem_nil, false_implies,
      implies_true, true_and]
    constructor
    · intro same
      rw [same]
      exact ⟨rfl, rfl⟩
    · intro ⟨codes, limit⟩
      rw [codes, limit]
  | cons member rest ih =>
    obtain ⟨name, value⟩ := member
    obtain ⟨absent, apart⟩ := List.nodup_cons.mp distinct
    rw [read, bind_eq_ok_iff, List.forall_mem_cons]
    by_cases known : name = "suppress" ∨ name = "max_group_depth"
    · -- The name stands here and not further on, so the value under it stays as it is read here.
      rcases known with rfl | rfl
      · rw [List.lookup_cons_self, Keyed.lookup_cons_of_ne (by decide)]
        simp only [set_suppress, ih apart, Keyed.lookup_eq_none absent, Holds, true_or, true_and]
        constructor
        · rintro ⟨between, ⟨codes, here, rfl⟩, others, same, later⟩
          exact ⟨others, same ▸ here, later⟩
        · rintro ⟨others, here, later⟩
          exact ⟨_, ⟨_, here, rfl⟩, others, rfl, later⟩
      · rw [List.lookup_cons_self, Keyed.lookup_cons_of_ne (by decide)]
        simp only [set_maxGroupDepth, ih apart, Keyed.lookup_eq_none absent, Holds, or_true,
          true_and]
        constructor
        · rintro ⟨between, ⟨depth, here, rfl⟩, others, later, same⟩
          exact ⟨others, later, same ▸ here⟩
        · rintro ⟨others, later, here⟩
          exact ⟨_, ⟨_, here, rfl⟩, others, later, rfl⟩
    · simp only [reader.set_unknown value start known, reduceCtorEq, false_and, exists_false, known]

end MemberReader

end ChartLint
