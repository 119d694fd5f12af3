import ChartLint.Proofs.Config.Json

/-!
Codes by name in JSON. A code is read from its name and from nothing like it: a name in other case,
with blanks in it, cut short or drawn out is as unknown as any other, and the fault says which name
it was. What people see of a code, what is written of it and what it is read from are one name.
-/

namespace ChartLint

namespace Code

/-- Names that are one when case or blanks are left out, or one of which begins with the other. -/
def Resembles (name other : String) : Prop :=
  name.toList.map Char.toLower = other.toList.map Char.toLower ∨
    name.toList.filter (· ≠ ' ') = other.toList.filter (· ≠ ' ') ∨
    name.toList <+: other.toList ∨ other.toList <+: name.toList

instance (name other : String) : Decidable (Resembles name other) :=
  inferInstanceAs (Decidable (_ ∨ _ ∨ _ ∨ _))

theorem eq_of_resembles {first second : Code}
    (alike : Resembles first.identifier second.identifier) : first = second := by
  have apart : ∀ one ∈ all, ∀ other ∈ all,
      Resembles one.identifier other.identifier → one = other := by
    decide +kernel
  exact apart first (mem_all first) second (mem_all second) alike

theorem named_unknown {name : String} (unknown : ∀ code : Code, name ≠ code.identifier) :
    named name = .error (.unknownCode name) := by
  unfold named
  cases found : ofName? name with
  | none => rfl
  | some code => exact absurd (ofName?_eq_some_iff.mp found) (unknown code)

theorem unknown_of_resembles {name : String} {code : Code}
    (alike : Resembles name code.identifier) (different : name ≠ code.identifier) (other : Code) :
    name ≠ other.identifier := by
  intro same
  rw [same] at alike different
  exact different (congrArg identifier (eq_of_resembles alike))

theorem codeNames_eq :
    Mismatch.codeNames = ", ".intercalate (all.map fun code => "`" ++ code.identifier ++ "`") := by
  simp only [Mismatch.codeNames, declaredName_eq]

theorem text_unknownCode (name : String) :
    (Mismatch.unknownCode name).text =
      "unknown variant `" ++ name ++ "`, expected one of " ++
        ", ".intercalate (all.map fun code => "`" ++ code.identifier ++ "`") := by
  rw [← codeNames_eq]
  rfl

theorem eq_of_inJson {value : Json.Value} {first second : Code} (one : InJson value first)
    (other : InJson value second) : first = second := by
  apply identifier_injective
  rcases one with rfl | rfl
  · rcases other with same | same
    · exact Json.Value.string.inj same
    · cases same
  · rcases other with same | same
    · cases same
    · have members := Json.Value.object.inj same
      exact congrArg Prod.fst (List.cons.inj members).1

/-- A code is read from its name, alone or with nothing under it, and from no other value. Whatever
is no name of a code is refused as itself, before what is under it is looked at; so is all that only
resembles a name. No value stands for two codes, and a code is read back from what people see of it
and from what is written of it. -/
theorem ofJson_names :
    (∀ value code, ofJson value = .ok code ↔ InJson value code) ∧
      (∀ name, (∀ code : Code, name ≠ code.identifier) →
        ofJson (.string name) = .error (.unknownCode name) ∧
          ∀ payload, ofJson (.object [(name, payload)]) = .error (.unknownCode name)) ∧
      (∀ name, (Mismatch.unknownCode name).text =
        "unknown variant `" ++ name ++ "`, expected one of " ++
          ", ".intercalate (all.map fun code => "`" ++ code.identifier ++ "`")) ∧
      (∀ name (code : Code), Resembles name code.identifier → name ≠ code.identifier →
        ofJson (.string name) = .error (.unknownCode name)) ∧
      (∀ value first second, InJson value first → InJson value second → first = second) ∧
      ∀ code : Code,
        ofJson (.string code.identifier) = .ok code ∧ ofJson code.toJson = .ok code := by
  refine ⟨ofJson_eq_ok_iff, ?_, text_unknownCode, ?_, ?_, ?_⟩
  · intro name unknown
    have refused := named_unknown unknown
    refine ⟨refused, ?_⟩
    intro payload
    rw [ofJson, refused]
    rfl
  · intro name code alike different
    exact named_unknown (unknown_of_resembles alike different)
  · intro value first second one other
    exact eq_of_inJson one other
  · intro code
    have read : ofJson (.string code.identifier) = .ok code :=
      (ofJson_eq_ok_iff _ code).mpr (.inl rfl)
    rw [toJson, declaredName_eq]
    exact ⟨read, read⟩

/-- A name in the wrong case, alone and with a list under it. -/
theorem ofJson_names_lowercase :
    let name := "arcSolidColor3"
    let right : Json.Value := .object [("ArcSolidColor3", .null)]
    (∀ code : Code, name ≠ code.identifier) ∧ Resembles name arcSolidColor.identifier ∧
      ofJson (.string name) = .error (.unknownCode name) ∧
      ofJson (.object [(name, .list [])]) = .error (.unknownCode name) ∧
      InJson right arcSolidColor ∧ ∀ code, InJson right code → code = arcSolidColor := by
  intro name right
  have unknown : ∀ code : Code, name ≠ code.identifier := by
    intro code
    cases code <;> decide
  have alike : Resembles name arcSolidColor.identifier := by decide +kernel
  have stands : InJson right arcSolidColor := .inr rfl
  obtain ⟨_, refused, _, misspelled, unique, _⟩ := ofJson_names
  refine ⟨unknown, alike, ?_, (refused name unknown).2 (.list []), stands, ?_⟩
  · exact misspelled name arcSolidColor alike (unknown arcSolidColor)
  · intro code other
    exact unique right code arcSolidColor other stands

end Code

end ChartLint
