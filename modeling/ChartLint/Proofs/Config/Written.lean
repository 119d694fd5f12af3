import ChartLint.Config.Written
import ChartLint.Proofs.Config.Toml
import ChartLint.Proofs.Toml.Lines

/-!
A configuration comes back from the lines that were written for it, whatever their order, as long as
its depth is one of 64 bits. A greater depth has a line as well, and reading it fails.
-/

namespace ChartLint

open Toml

theorem Code.identifier_plain (code : Code) :
    code.identifier.toList ≠ [] ∧
      ∀ character ∈ code.identifier.toList, Quoted.isPlain character = true := by
  have plain : code.identifier.toList ≠ [] ∧ code.identifier.toList.all Quoted.isPlain = true := by
    cases code <;> decide
  exact ⟨plain.1, List.all_eq_true.mp plain.2⟩

namespace Config

namespace Setting

def value : Setting → Toml.Value
  | suppress codes => .array false (codes.map fun code => .string code.identifier)
  | maxGroupDepth depth => .integer depth

def member (setting : Setting) : String × Toml.Value := (setting.name, setting.value)

theorem name_bare (setting : Setting) : IsBare setting.name := by
  cases setting with
  | suppress codes =>
    show "suppress".toList ≠ [] ∧ "suppress".toList.all isBareName = true
    decide
  | maxGroupDepth depth =>
    show "max_group_depth".toList ≠ [] ∧ "max_group_depth".toList.all isBareName = true
    decide

theorem takenIn_identifier (code : Code) (levels : Nat) :
    TakenIn ']' (readValue levels) ("\"" ++ code.identifier ++ "\"").toList
      (.string code.identifier) := by
  obtain ⟨written, plain⟩ := code.identifier_plain
  have spelled : ("\"" ++ code.identifier ++ "\"").toList =
      '"' :: (code.identifier.toList ++ ['"']) := by
    rw [String.toList_append, String.toList_append]
    rfl
  rw [spelled]
  refine ⟨⟨'"', _, rfl, by decide, by decide⟩, ?_⟩
  intro rest
  have reads := readPlain_quoted written plain rest
  rw [String.ofList_toList] at reads
  rw [List.cons_append, List.append_assoc, readValue_of_plain levels _ (by decide) (by decide)]
  exact reads

theorem suppress_written (codes : List Code) :
    (suppress codes).written.toList =
      '[' :: ([',', ' '].intercalate
        (codes.map fun code => ("\"" ++ code.identifier ++ "\"").toList) ++ [']']) := by
  simp only [written]
  rw [String.toList_append, String.toList_append, String.toList_intercalate, List.map_map]
  rfl

theorem maxGroupDepth_written (depth : Nat) :
    (maxGroupDepth depth).written.toList = Nat.toDigits 10 depth := by
  rw [written, Nat.toString_eq_ofList_toDigits, String.toList_ofList]

theorem isLine (setting : Setting) : IsLine setting.line.toList setting.member := by
  apply isLine_of_readValue setting.name_bare
  · cases setting with
    | suppress codes => exact ⟨'[', _, suppress_written codes, by decide⟩
    | maxGroupDepth depth =>
      obtain ⟨first, tail, same, isDigit⟩ := Number.toDigits_eq_cons depth
      rw [maxGroupDepth_written, same]
      exact ⟨first, tail, rfl, isBlank_digit isDigit⟩
  · intro rest ends
    cases setting with
    | suppress codes =>
      rw [suppress_written, List.cons_append, List.append_assoc]
      exact readValue_array (fun code _ => takenIn_identifier code _) rest
    | maxGroupDepth depth =>
      rw [maxGroupDepth_written]
      exact readValue_toDigits nestingLimit depth ends

end Setting

theorem settings_ordered (listed : Bool) (config : Config) :
    Keyed.Ordered ((config.settings listed).map Setting.member) := by
  have before : "max_group_depth" < "suppress" := by decide
  unfold settings codesSettings
  cases config.maxGroupDepth with
  | none =>
    split
    · exact List.pairwise_singleton ..
    · exact List.Pairwise.nil
  | some depth =>
    split
    · exact List.pairwise_pair.mpr before
    · exact List.pairwise_singleton ..

/-- Whatever the order of the lines, the table is the same. -/
theorem parse?_document {config : Config} {listed : Bool} {settings : List Setting}
    (order : settings.Perm (config.settings listed)) {ending : String}
    (ends : ending = "" ∨ ending = "\n") :
    parse? (document settings ending) = some ((config.settings listed).map Setting.member) := by
  have ordered := settings_ordered listed config
  have same := order.map Setting.member
  have distinct := (same.map Prod.fst).nodup_iff.mpr ordered.nodup
  unfold document
  rw [parse?_lines (fun setting _ => setting.isLine) distinct ends]
  exact congrArg some (Keyed.ofList_eq ordered same)

theorem suppressOfToml_value (codes : List Code) :
    suppressOfToml (Setting.suppress codes).value = .ok codes := by
  rw [suppressOfToml_eq_ok_iff]
  refine ⟨false, _, rfl, ?_⟩
  rw [List.forall₂_map_left_iff, List.forall₂_same]
  exact fun code _ => .inl rfl

theorem read_codes (listed : Bool) (codes : List Code) (depth : Option Nat) :
    tomlMembers.read ((codesSettings listed codes).map Setting.member) { maxGroupDepth := depth } =
      .ok ⟨codes, depth⟩ := by
  unfold codesSettings
  split
  · have read := (tomlMembers.set_suppress (Setting.suppress codes).value
      { maxGroupDepth := depth } _).mpr ⟨_, suppressOfToml_value codes, rfl⟩
    simp only [List.map_singleton, Setting.member, Setting.name, MemberReader.read, read]
    rfl
  · next unlisted =>
    simp only [Bool.or_eq_true, Bool.not_eq_true', not_or, Bool.not_eq_false,
      List.isEmpty_iff] at unlisted
    rw [unlisted.2]
    rfl

theorem set_depth (depth : Nat) :
    tomlMembers.set "max_group_depth" (.integer depth) {} =
      if depth < 2 ^ 64 then .ok { maxGroupDepth := some depth }
      else .error (.unwanted (.integer depth) .depth) := by
  have reader : tomlMembers.maxGroupDepth = depthOfToml := rfl
  by_cases small : depth < 2 ^ 64
  · rw [if_pos small, MemberReader.set_maxGroupDepth, reader]
    refine ⟨some depth, ?_, rfl⟩
    rw [depthOfToml_eq_ok_iff]
    exact ⟨depth, small, rfl, rfl⟩
  · have width : Int.pow 2 64 = 2 ^ 64 := rfl
    have past : ¬ (-Int.pow 2 63 ≤ (depth : Int) ∧ (depth : Int) < Int.pow 2 64) := by omega
    rw [if_neg small, MemberReader.set, if_neg (by decide), if_pos rfl, reader]
    simp only [depthOfToml, if_neg past]
    rfl

/-- The lines of a configuration are read as that configuration, in any order and with the line of
the codes left out where there are none. A depth past 64 bits is refused. -/
theorem ofToml_document (config : Config) (listed : Bool) {settings : List Setting}
    (order : settings.Perm (config.settings listed)) {ending : String}
    (ends : ending = "" ∨ ending = "\n") :
    ((∀ depth ∈ config.maxGroupDepth, depth < 2 ^ 64) →
        ofToml (document settings ending) = .ok config) ∧
      ∀ depth ∈ config.maxGroupDepth, 2 ^ 64 ≤ depth →
        ofToml (document settings ending) = .error (.unwanted (.integer depth) .depth) := by
  rw [ofToml, parse?_document order ends]
  simp only [ofTomlTable, Config.settings]
  obtain ⟨codes, limit⟩ := config
  cases limit with
  | none =>
    refine ⟨fun _ => read_codes listed codes none, ?_⟩
    intro depth nothing
    exact absurd nothing (Option.not_mem_none _)
  | some depth =>
    -- The name of the depth comes first, so a fault of it is found before the codes are read.
    have first : tomlMembers.read
        (((Option.map Setting.maxGroupDepth (some depth)).toList ++ codesSettings listed codes).map
          Setting.member) {} =
        tomlMembers.set "max_group_depth" (.integer depth) {} >>=
          tomlMembers.read ((codesSettings listed codes).map Setting.member) := rfl
    rw [first, set_depth]
    constructor
    · intro fits
      rw [if_pos (fits depth rfl)]
      exact read_codes listed codes (some depth)
    · intro depth same great
      obtain rfl := Option.some.inj same
      rw [if_neg (Nat.not_lt.mpr great)]
      rfl

/-- The greatest depth is read and the next is refused, here below a line with one code twice. -/
theorem ofToml_document_deepest :
    let codes := [Code.arcSolidColor, Code.arcSolidColor]
    let settings (depth : Nat) : List Setting := [.suppress codes, .maxGroupDepth depth]
    document (settings 18446744073709551615) "" =
        "suppress = [\"ArcSolidColor3\", \"ArcSolidColor3\"]\n" ++
          "max_group_depth = 18446744073709551615" ∧
      ofToml (document (settings 18446744073709551615) "") =
        .ok ⟨codes, some 18446744073709551615⟩ ∧
      ofToml (document (settings 18446744073709551616) "\n") =
        .error (.mismatch (.wrongType (.wideInteger 18446744073709551616) .depth)) := by
  intro codes settings
  have order (depth : Nat) : (settings depth).Perm (Config.settings false ⟨codes, some depth⟩) :=
    .swap _ _ []
  refine ⟨by decide, ?_, ?_⟩
  · apply (ofToml_document ⟨codes, some 18446744073709551615⟩ false (order _) (.inl rfl)).1
    intro depth same
    rw [← Option.some.inj same]
    decide
  · have refused := (ofToml_document ⟨codes, some 18446744073709551616⟩ false (order _)
      (.inr rfl)).2 18446744073709551616 rfl (by decide)
    have named : ConfigError.unwanted (.integer (18446744073709551616 : Nat)) .depth =
        .mismatch (.wrongType (.wideInteger 18446744073709551616) .depth) := by decide
    rw [refused, named]

end Config

end ChartLint
