import ChartLint.Config.OfJson
import ChartLint.Proofs.Config.Members

/-!
Which JSON values are configurations. A value is one if it is an object with no other names than the
two of a configuration, or a list of at most two elements in their place, and if what stands there
is a list of codes and a depth. A depth may be null and codes may not; either may be missing. The two
forms of the same parts say the same, and every other value is refused.
-/

namespace ChartLint

/-- No name stands twice in an object. -/
def Json.Value.Distinct : Json.Value → Prop
  | .object members => (members.map Prod.fst).Nodup
  | _ => True

theorem Json.Value.ofMembers_distinct (members : List (String × Json.Value)) :
    (Json.Value.ofMembers members).Distinct :=
  (Keyed.ofList_ordered members).nodup

namespace Code

/-- A value that stands for a code: its name, or its name with nothing under it. -/
def InJson (value : Json.Value) (code : Code) : Prop :=
  value = .string code.identifier ∨ value = .object [(code.identifier, .null)]

theorem ofJson_eq_ok_iff (value : Json.Value) (code : Code) :
    Code.ofJson value = .ok code ↔ InJson value code := by
  unfold InJson
  cases value with
  | string name =>
    simp only [ofJson, named_eq_ok_iff, Json.Value.string.injEq, reduceCtorEq, or_false]
  | object members =>
    simp only [reduceCtorEq, false_or, Json.Value.object.injEq]
    match members with
    | [] => simp only [ofJson, reduceCtorEq]
    | [(name, payload)] =>
      simp only [ofJson, bind_eq_ok_iff, named_eq_ok_iff, List.cons.injEq, Prod.mk.injEq, and_true]
      cases payload with
      | null =>
        simp only [Except.ok.injEq, exists_eq_right, and_true]
      | _ => simp only [reduceCtorEq, and_false, exists_false]
    | _ :: _ :: _ => simp only [ofJson, reduceCtorEq, List.cons.injEq, and_false]
  | _ => simp only [ofJson, reduceCtorEq, or_self]

end Code

namespace Config

def CodesIn : Option Json.Value → List Code → Prop
  | none, codes => codes = []
  | some value, codes =>
    ∃ elements, value = .list elements ∧ List.Forall₂ Code.InJson elements codes

def DepthIn : Option Json.Value → Option Nat → Prop
  | none, depth => depth = none
  | some value, depth =>
    (value = .null ∧ depth = none) ∨
      ∃ number < 2 ^ 64, value = .integer (number : Nat) ∧ depth = some number

def InJson : Json.Value → Config → Prop
  | .object members, config =>
    (∀ member ∈ members, member.1 = "suppress" ∨ member.1 = "max_group_depth") ∧
      CodesIn (members.lookup "suppress") config.suppress ∧
      DepthIn (members.lookup "max_group_depth") config.maxGroupDepth
  | .list elements, config =>
    elements.length ≤ 2 ∧ CodesIn elements[0]? config.suppress ∧
      DepthIn elements[1]? config.maxGroupDepth
  | _, _ => False

theorem suppressOfJson_eq_ok_iff (value : Json.Value) (codes : List Code) :
    suppressOfJson value = .ok codes ↔ CodesIn (some value) codes := by
  unfold CodesIn
  cases value with
  | list elements =>
    simp only [suppressOfJson, mapM_eq_ok_iff, Code.ofJson_eq_ok_iff, Json.Value.list.injEq,
      exists_eq_left']
  | _ => simp only [suppressOfJson, reduceCtorEq, false_and, exists_false]

theorem depthOfJson_eq_ok_iff (value : Json.Value) (depth : Option Nat) :
    depthOfJson value = .ok depth ↔ DepthIn (some value) depth := by
  unfold DepthIn
  cases value with
  | null =>
    simp only [depthOfJson, Except.ok.injEq, true_and, reduceCtorEq, false_and, and_false,
      exists_false, or_false]
    exact eq_comm
  | integer number =>
    simp only [depthOfJson, some_depthOf_eq_ok_iff, reduceCtorEq, false_and, false_or,
      Json.Value.integer.injEq]
  | _ => simp only [depthOfJson, reduceCtorEq, false_and, and_false, exists_false, or_self]

theorem holds_suppress_iff (part : Option Json.Value) (codes : List Code) :
    MemberReader.Holds suppressOfJson [] part codes ↔ CodesIn part codes := by
  cases part with
  | none => rfl
  | some value => exact suppressOfJson_eq_ok_iff value codes

theorem holds_depth_iff (part : Option Json.Value) (depth : Option Nat) :
    MemberReader.Holds depthOfJson none part depth ↔ DepthIn part depth := by
  cases part with
  | none => rfl
  | some value => exact depthOfJson_eq_ok_iff value depth

theorem ofElements_eq_ok_iff (elements : List Json.Value) (config : Config) :
    ofElements elements = .ok config ↔ InJson (.list elements) config := by
  obtain ⟨codes, limit⟩ := config
  unfold InJson
  match elements with
  | [] =>
    have short : ([] : List Json.Value).length ≤ 2 := Nat.zero_le 2
    simp only [ofElements, Except.ok.injEq, Config.mk.injEq, short, List.getElem?_nil, CodesIn,
      DepthIn, true_and, eq_comm]
  | [suppress] =>
    have short : [suppress].length ≤ 2 := Nat.le_succ 1
    simp only [ofElements, bind_eq_ok_iff, suppressOfJson_eq_ok_iff, Except.ok.injEq,
      Config.mk.injEq, short, List.getElem?_cons_zero, List.getElem?_cons_succ, List.getElem?_nil,
      DepthIn, true_and]
    constructor
    · rintro ⟨read, listed, rfl, rfl⟩
      exact ⟨listed, rfl⟩
    · rintro ⟨listed, rfl⟩
      exact ⟨codes, listed, rfl, rfl⟩
  | [suppress, depth] =>
    have short : [suppress, depth].length ≤ 2 := Nat.le_refl 2
    simp only [ofElements, bind_eq_ok_iff, suppressOfJson_eq_ok_iff, depthOfJson_eq_ok_iff,
      Except.ok.injEq, Config.mk.injEq, short, List.getElem?_cons_zero, List.getElem?_cons_succ,
      true_and]
    constructor
    · rintro ⟨read, listed, given, bounded, rfl, rfl⟩
      exact ⟨listed, bounded⟩
    · rintro ⟨listed, bounded⟩
      exact ⟨codes, listed, limit, bounded, rfl, rfl⟩
  | suppress :: depth :: third :: more =>
    have long : ¬ (suppress :: depth :: third :: more).length ≤ 2 := by
      simp only [List.length_cons]
      omega
    -- The parts are read before the list is found to be too long; it fails either way.
    simp only [ofElements, bind_eq_ok_iff, reduceCtorEq, and_false, exists_false, long, false_and]

theorem ofJson_eq_ok_iff (value : Json.Value) (distinct : value.Distinct) (config : Config) :
    ofJson value = .ok config ↔ InJson value config := by
  cases value with
  | object members =>
    rw [ofJson, jsonMembers.read_eq_ok_iff distinct]
    apply and_congr_right
    intro _
    exact and_congr (holds_suppress_iff ..) (holds_depth_iff ..)
  | list elements => exact ofElements_eq_ok_iff elements config
  | _ => simp only [ofJson, reduceCtorEq, InJson]

theorem ofJson_eq_error_iff (value : Json.Value) (distinct : value.Distinct) :
    (∃ mismatch, ofJson value = .error mismatch) ↔ ∀ config, ¬ InJson value config := by
  simp only [eq_error_iff, ofJson_eq_ok_iff value distinct]

def named (elements : List Json.Value) : Json.Value :=
  .ofMembers (["suppress", "max_group_depth"].zip elements)

/-- Under its name a part is what stands in its place. -/
theorem named_eq_object {elements : List Json.Value} (short : elements.length ≤ 2) :
    ∃ members, named elements = .object members ∧
      (∀ member ∈ members, member.1 = "suppress" ∨ member.1 = "max_group_depth") ∧
      members.lookup "suppress" = elements[0]? ∧
      members.lookup "max_group_depth" = elements[1]? := by
  match elements with
  | [] => exact ⟨[], rfl, List.forall_mem_nil _, rfl, rfl⟩
  | [suppress] =>
    refine ⟨[("suppress", suppress)], rfl, ?_, List.lookup_cons_self, ?_⟩
    · exact List.forall_mem_singleton.mpr (.inl rfl)
    · rw [Keyed.lookup_cons_of_ne (by decide)]
      rfl
  | [suppress, depth] =>
    have before : "max_group_depth" < "suppress" := by decide
    have ordered : Keyed.Ordered [("max_group_depth", depth), ("suppress", suppress)] :=
      List.pairwise_pair.mpr before
    refine ⟨_, congrArg Json.Value.object (Keyed.ofList_eq ordered (.swap _ _ [])), ?_, ?_, ?_⟩
    · simp only [List.forall_mem_cons, or_true, true_or, List.not_mem_nil, false_implies,
        implies_true, and_self]
    · rw [Keyed.lookup_cons_of_ne (by decide), List.lookup_cons_self]
      rfl
    · rw [List.lookup_cons_self]
      rfl
  | _ :: _ :: _ :: more =>
    simp only [List.length_cons] at short
    omega

theorem ofJson_named {elements : List Json.Value} (short : elements.length ≤ 2) (config : Config) :
    ofJson (named elements) = .ok config ↔ ofJson (.list elements) = .ok config := by
  obtain ⟨members, object, known, suppress, depth⟩ := named_eq_object short
  have distinct : (named elements).Distinct := Json.Value.ofMembers_distinct _
  rw [ofJson_eq_ok_iff (named elements) distinct, ofJson_eq_ok_iff (.list elements) trivial, object,
    InJson, InJson, suppress, depth]
  simp only [short, true_and, and_iff_right known]

/-- A JSON value is read as a configuration exactly if it stands for it, and every value that stands
for none is refused. Parts by name say what the same parts say by their order. -/
theorem ofJson_exact (value : Json.Value) (distinct : value.Distinct) :
    (∀ config, ofJson value = .ok config ↔ InJson value config) ∧
      ((∃ mismatch, ofJson value = .error mismatch) ↔ ∀ config, ¬ InJson value config) ∧
      ∀ elements, elements.length ≤ 2 → ∀ config,
        ofJson (named elements) = .ok config ↔ ofJson (.list elements) = .ok config := by
  refine ⟨?_, ?_, ?_⟩
  · exact ofJson_eq_ok_iff value distinct
  · exact ofJson_eq_error_iff value distinct
  · intro elements short
    exact ofJson_named short

/-- Both ways to write a code, and the greatest depth. -/
theorem ofJson_exact_deepest :
    let codes : Json.Value :=
      .list [.string "ArcSolidColor3", .object [("TimestampNonNegative", .null)]]
    let depth : Json.Value := .integer 18446744073709551615
    let value : Json.Value := .object [("max_group_depth", depth), ("suppress", codes)]
    let config : Config :=
      ⟨[.arcSolidColor, .timestampNonNegative], some 18446744073709551615⟩
    value.Distinct ∧ ofJson value = .ok config ∧ [codes, depth].length ≤ 2 ∧
      (ofJson (named [codes, depth]) = .ok config ↔ ofJson (.list [codes, depth]) = .ok config) := by
  intro codes depth value config
  have distinct : value.Distinct := by
    show ["max_group_depth", "suppress"].Nodup
    decide
  obtain ⟨exact, -, forms⟩ := ofJson_exact value distinct
  have listed : CodesIn (some codes) config.suppress :=
    ⟨_, rfl, .cons (.inl rfl) (.cons (.inr rfl) .nil)⟩
  have bounded : DepthIn (some depth) config.maxGroupDepth :=
    .inr ⟨18446744073709551615, by decide, rfl, rfl⟩
  have stands : InJson value config := by
    refine ⟨?_, listed, bounded⟩
    simp only [List.forall_mem_cons, or_true, true_or, List.not_mem_nil, false_implies,
      implies_true, and_self]
  have short : [codes, depth].length ≤ 2 := Nat.le_refl 2
  exact ⟨distinct, (exact config).mpr stands, short, forms [codes, depth] short config⟩

end Config

end ChartLint
