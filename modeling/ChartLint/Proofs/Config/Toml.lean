import ChartLint.Config.OfToml
import ChartLint.Proofs.Config.Members

/-!
What the values in the two places of a configuration stand for when it is read from TOML: a list of
codes, each by its name, and a depth of 64 bits.
-/

namespace ChartLint

theorem ConfigError.ofMismatch_eq_ok_iff {α : Type} (result : Except Mismatch α) (value : α) :
    ofMismatch result = .ok value ↔ result = .ok value := by
  cases result with
  | error cause => simp only [ofMismatch, reduceCtorEq]
  | ok read => simp only [ofMismatch, Except.ok.injEq]

/-- A value that stands for a code: its name, or a table with its name alone and an empty array or
table under it. -/
def Code.InToml (value : Toml.Value) (code : Code) : Prop :=
  value = .string code.identifier ∨
    ∃ origin payload, value = .table origin [(code.identifier, payload)] ∧
      ((∃ byHeaders, payload = .array byHeaders []) ∨ ∃ inner, payload = .table inner [])

theorem Toml.Value.isNothing_iff (payload : Toml.Value) :
    payload.isNothing = true ↔
      (∃ byHeaders, payload = .array byHeaders []) ∨ ∃ inner, payload = .table inner [] := by
  cases payload with
  | array byHeaders elements =>
    simp only [isNothing, List.isEmpty_iff, array.injEq, exists_eq_left', reduceCtorEq,
      exists_false, or_false]
  | table inner fields =>
    simp only [isNothing, List.isEmpty_iff, table.injEq, exists_eq_left', reduceCtorEq,
      exists_false, false_or]
  | _ => simp only [isNothing, Bool.false_eq_true, reduceCtorEq, exists_false, or_self]

theorem Code.ofToml_eq_ok_iff (value : Toml.Value) (code : Code) :
    Code.ofToml value = .ok code ↔ InToml value code := by
  unfold InToml
  simp only [← Toml.Value.isNothing_iff]
  cases value with
  | string name =>
    simp only [ofToml, ConfigError.ofMismatch_eq_ok_iff, named_eq_ok_iff, Toml.Value.string.injEq,
      reduceCtorEq, false_and, exists_false, or_false]
  | table origin fields =>
    simp only [reduceCtorEq, false_or, Toml.Value.table.injEq]
    match fields with
    | [] => simp only [ofToml, reduceCtorEq, and_false, false_and, exists_false]
    | [(name, payload)] =>
      simp only [ofToml, bind_eq_ok_iff, ConfigError.ofMismatch_eq_ok_iff, named_eq_ok_iff,
        List.cons.injEq, Prod.mk.injEq, and_true]
      constructor
      · rintro ⟨known, rfl, empty⟩
        by_cases nothing : payload.isNothing = true
        · rw [if_pos nothing] at empty
          rw [Except.ok.inj empty]
          exact ⟨origin, payload, ⟨rfl, rfl, rfl⟩, nothing⟩
        · rw [if_neg nothing] at empty
          cases empty
      · rintro ⟨_, _, ⟨rfl, rfl, rfl⟩, nothing⟩
        exact ⟨code, rfl, if_pos nothing⟩
    | _ :: _ :: _ =>
      simp only [ofToml, reduceCtorEq, List.cons.injEq, and_false, false_and, exists_false]
  | _ => simp only [ofToml, reduceCtorEq, false_and, exists_false, or_self]

namespace Config

theorem suppressOfToml_eq_ok_iff (value : Toml.Value) (codes : List Code) :
    suppressOfToml value = .ok codes ↔
      ∃ byHeaders elements, value = .array byHeaders elements ∧
        List.Forall₂ Code.InToml elements codes := by
  cases value with
  | array byHeaders elements =>
    simp only [suppressOfToml, mapM_eq_ok_iff, Code.ofToml_eq_ok_iff, Toml.Value.array.injEq]
    constructor
    · intro read
      exact ⟨byHeaders, elements, ⟨rfl, rfl⟩, read⟩
    · rintro ⟨_, _, ⟨rfl, rfl⟩, read⟩
      exact read
  | _ => simp only [suppressOfToml, reduceCtorEq, false_and, exists_false]

theorem depthOfToml_eq_ok_iff (value : Toml.Value) (depth : Option Nat) :
    depthOfToml value = .ok depth ↔
      ∃ number < 2 ^ 64, value = .integer (number : Nat) ∧ depth = some number := by
  cases value with
  | integer number =>
    have signed : Int.pow 2 63 = 2 ^ 63 := rfl
    have width : Int.pow 2 64 = 2 ^ 64 := rfl
    simp only [depthOfToml, Toml.Value.integer.injEq]
    split
    · rw [ConfigError.ofMismatch_eq_ok_iff]
      exact some_depthOf_eq_ok_iff number depth
    · simp only [reduceCtorEq, false_iff]
      rintro ⟨size, small, same, -⟩
      omega
  | _ => simp only [depthOfToml, reduceCtorEq, false_and, and_false, exists_false]

end Config

end ChartLint
