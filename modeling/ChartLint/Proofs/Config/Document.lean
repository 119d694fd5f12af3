import ChartLint.Proofs.Config.Toml
import ChartLint.Proofs.Toml.Document

/-!
Which texts are configurations. A text is one if it is a document with no other names in its table
than the two of a configuration, and if what stands under them is an array of codes and a depth of
64 bits, where either may be missing. Every other text is refused, so that no name and no code is
passed over, and the order in which the names are written does not count.
-/

namespace ChartLint

namespace Config

open Toml

def CodesInToml : Option Toml.Value → List Code → Prop
  | none, codes => codes = []
  | some value, codes =>
    ∃ byHeaders elements, value = .array byHeaders elements ∧
      List.Forall₂ Code.InToml elements codes

def DepthInToml : Option Toml.Value → Option Nat → Prop
  | none, depth => depth = none
  | some value, depth => ∃ number < 2 ^ 64, value = .integer (number : Nat) ∧ depth = some number

/-- A table that stands for a configuration: its names are known, and so is what is under them. -/
def InToml (fields : Fields) (config : Config) : Prop :=
  (∀ field ∈ fields, field.1 = "suppress" ∨ field.1 = "max_group_depth") ∧
    CodesInToml (fields.lookup "suppress") config.suppress ∧
    DepthInToml (fields.lookup "max_group_depth") config.maxGroupDepth

theorem holds_codesInToml_iff (part : Option Toml.Value) (codes : List Code) :
    MemberReader.Holds suppressOfToml [] part codes ↔ CodesInToml part codes := by
  cases part with
  | none => rfl
  | some value => exact suppressOfToml_eq_ok_iff value codes

theorem holds_depthInToml_iff (part : Option Toml.Value) (depth : Option Nat) :
    MemberReader.Holds depthOfToml none part depth ↔ DepthInToml part depth := by
  cases part with
  | none => rfl
  | some value => exact depthOfToml_eq_ok_iff value depth

theorem ofToml_eq_ok_iff_of_parse? {text : String} {fields : Fields}
    (parsed : parse? text = some fields) (config : Config) :
    ofToml text = .ok config ↔ InToml fields config := by
  rw [ofToml, parsed]
  simp only [ofTomlTable]
  -- No name stands twice in the table, so what is read last under a name is all that is under it.
  rw [tomlMembers.read_eq_ok_iff (parse?_ordered parsed).nodup]
  apply and_congr_right
  intro _
  exact and_congr (holds_codesInToml_iff ..) (holds_depthInToml_iff ..)

theorem ofToml_eq_ok_iff (text : String) (config : Config) :
    ofToml text = .ok config ↔ ∃ fields, parse? text = some fields ∧ InToml fields config := by
  cases parsed : parse? text with
  | none => simp only [ofToml, parsed, reduceCtorEq, false_and, exists_false]
  | some fields =>
    simp only [ofToml_eq_ok_iff_of_parse? parsed, Option.some.injEq, exists_eq_left']

theorem ofToml_eq_error_iff (text : String) :
    (∃ error, ofToml text = .error error) ↔
      ∀ fields, parse? text = some fields → ∀ config, ¬ InToml fields config := by
  simp only [eq_error_iff, ofToml_eq_ok_iff, not_exists, not_and]
  constructor
  · intro none_read fields parsed config
    exact none_read config fields parsed
  · intro none_stands config fields parsed
    exact none_stands fields parsed config

theorem not_inToml_of_unknown {fields : Fields} {field : String × Toml.Value}
    (inside : field ∈ fields) (unknown : ¬ (field.1 = "suppress" ∨ field.1 = "max_group_depth"))
    (config : Config) : ¬ InToml fields config :=
  fun stands => unknown (stands.1 field inside)

theorem not_inToml_of_no_code {fields : Fields} {byHeaders : Bool} {elements : List Toml.Value}
    (listed : fields.lookup "suppress" = some (.array byHeaders elements)) {element : Toml.Value}
    (inside : element ∈ elements) (unknown : ∀ code, ¬ Code.InToml element code)
    (config : Config) : ¬ InToml fields config := by
  intro stands
  have codes := stands.2.1
  rw [listed] at codes
  obtain ⟨_, others, same, read⟩ := codes
  obtain ⟨-, rfl⟩ := Toml.Value.array.inj same
  have known : ∀ element ∈ elements, ∃ code, Code.InToml element code :=
    ((List.forall₂_and_left elements _).mp
      (read.imp fun _ code stands => ⟨⟨code, stands⟩, stands⟩)).1
  obtain ⟨code, here⟩ := known element inside
  exact unknown code here

theorem ofToml_same {text other : String} (same : SameEntries text other) :
    ofToml other = ofToml text := by
  rw [ofToml, ofToml, parse?_same same]

/-- A text is read as a configuration exactly if it is a document whose table stands for it. Every
other text is refused with a message that says so; among them is every document with an unknown name,
or with something that is no code where codes are listed. The order of the names does not count. -/
theorem ofToml_exact (text : String) :
    (∀ fields, parse? text = some fields →
        (∀ config, ofToml text = .ok config ↔ InToml fields config) ∧
          (∀ field ∈ fields, ¬ (field.1 = "suppress" ∨ field.1 = "max_group_depth") →
            ∃ error, ofToml text = .error error) ∧
          ∀ byHeaders elements, fields.lookup "suppress" = some (.array byHeaders elements) →
            ∀ element ∈ elements, (∀ code, ¬ Code.InToml element code) →
              ∃ error, ofToml text = .error error) ∧
      ((∃ error, ofToml text = .error error) ↔
        ∀ fields, parse? text = some fields → ∀ config, ¬ InToml fields config) ∧
      (∀ error, ofToml text = .error error →
        ∃ detail, error.message = "Failed to parse TOML configuration: " ++ detail) ∧
      ∀ other, SameEntries text other → ofToml other = ofToml text := by
  refine ⟨?_, ofToml_eq_error_iff text, ?_, fun _ => ofToml_same⟩
  · intro fields parsed
    have refused (none_stands : ∀ config, ¬ InToml fields config) :
        ∃ error, ofToml text = .error error := by
      rw [ofToml_eq_error_iff]
      intro _ same
      rw [parsed] at same
      exact Option.some.inj same ▸ none_stands
    refine ⟨ofToml_eq_ok_iff_of_parse? parsed, ?_, ?_⟩
    · intro field inside unknown
      exact refused (not_inToml_of_unknown inside unknown)
    · intro byHeaders elements listed element inside unknown
      exact refused (not_inToml_of_no_code listed inside unknown)
  · intro error _
    exact ⟨error.detail, rfl⟩

/-- Both ways to write a code, below a depth and above it; an unknown name further down and an
unknown code are refused. -/
theorem ofToml_exact_swapped :
    let text :=
      "suppress = [\"ArcSolidColor3\", \x7bTimestampNonNegative = []\x7d]\nmax_group_depth = 7"
    let swapped :=
      "max_group_depth = 7\nsuppress = [\"ArcSolidColor3\", \x7bTimestampNonNegative = []\x7d]"
    let config : Config := ⟨[.arcSolidColor, .timestampNonNegative], some 7⟩
    ofToml text = .ok config ∧ ofToml swapped = .ok config ∧
      (∃ error, ofToml "suppress = []\nmax_depth = 7" = .error error) ∧
      ∃ error, ofToml "suppress = [\"ArcSolidColour\"]" = .error error := by
  intro text swapped config
  let codes : Toml.Value :=
    .array false [.string "ArcSolidColor3",
      .table .inline [("TimestampNonNegative", .array false [])]]
  let depth : Toml.Value := .integer 7
  have parsed : parse? text = some [("max_group_depth", depth), ("suppress", codes)] := by
    unfold text
    rfl
  have stands : InToml [("max_group_depth", depth), ("suppress", codes)] config := by
    refine ⟨?_, ⟨false, _, rfl, .cons (.inl rfl) (.cons (.inr ?_) .nil)⟩, ?_⟩
    · simp only [List.forall_mem_cons, or_true, true_or, List.not_mem_nil, false_implies,
        implies_true, and_self]
    · exact ⟨.inline, .array false [], rfl, .inl ⟨false, rfl⟩⟩
    · exact ⟨7, by decide, rfl, rfl⟩
  obtain ⟨exact, -, -, order⟩ := ofToml_exact text
  have read := ((exact _ parsed).1 config).mpr stands
  have same : SameEntries text swapped := by
    unfold text swapped
    exact ⟨[⟨⟨[], "suppress"⟩, codes⟩, ⟨⟨[], "max_group_depth"⟩, depth⟩], [], _, [], rfl, rfl,
      .swap _ _ [], .nil⟩
  refine ⟨read, (order swapped same).trans read, ?_, ?_⟩
  · have known : parse? "suppress = []\nmax_depth = 7" =
        some [("max_depth", .integer 7), ("suppress", .array false [])] := rfl
    exact ((ofToml_exact _).1 _ known).2.1 _ List.mem_cons_self (by decide)
  · have known : parse? "suppress = [\"ArcSolidColour\"]" =
        some [("suppress", .array false [.string "ArcSolidColour"])] := rfl
    refine ((ofToml_exact _).1 _ known).2.2 _ _ rfl _ List.mem_cons_self ?_
    rintro code (same | ⟨_, _, same, -⟩)
    · have different : "ArcSolidColour" ≠ code.identifier := by
        cases code <;> decide
      exact different (Toml.Value.string.inj same)
    · cases same

end Config

end ChartLint
