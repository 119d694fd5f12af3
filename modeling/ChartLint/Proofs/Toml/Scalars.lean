import ChartLint.Toml.Document
import Mathlib.Data.List.DropRight

/-!
Reading back a value that was written without brackets: a natural number in decimal digits, which
must end where a line does, and text between double quotes, which may be followed by anything.
-/

namespace ChartLint.Toml

section Kinds

variable {kind : Char → Bool} {character : Char} (here : kind character = true)

include here

theorem ne_of_kind {other : Char} (stranger : kind other = false) : character ≠ other := by
  intro same
  rw [same, stranger] at here
  exact Bool.noConfusion here

theorem not_mem_of_kind {marks : List Char} (strangers : marks.all (!kind ·) = true) :
    character ∉ marks := by
  intro inside
  have stranger := List.all_eq_true.mp strangers character inside
  rw [here] at stranger
  exact Bool.noConfusion stranger

theorem isBlank_of_kind (strangers : [' ', '\t'].all (!kind ·) = true) :
    isBlank character = false := by
  have apart := not_mem_of_kind here strangers
  simp only [List.mem_cons, List.not_mem_nil, or_false, not_or] at apart
  rw [isBlank, Bool.or_eq_false_iff, beq_eq_false_iff_ne, beq_eq_false_iff_ne]
  exact apart

end Kinds

section Digits

variable {text : List Char} (digits : ∀ digit ∈ text, digit.isDigit = true)

include digits

theorem not_mem_of_digits {other : Char} (stranger : other.isDigit = false) : other ∉ text :=
  fun inside => ne_of_kind (digits other inside) stranger rfl

theorem ne_cons_of_digits {first : Char} (stranger : first.isDigit = false) (rest : List Char) :
    text ≠ first :: rest := by
  intro same
  exact not_mem_of_digits digits stranger (same ▸ List.mem_cons_self)

namespace Number

theorem ungroup?_digits (written : text ≠ []) : ungroup? Char.isDigit text = some text := by
  induction text with
  | nil => exact absurd rfl written
  | cons digit rest ih =>
    obtain ⟨here, later⟩ := List.forall_mem_cons.mp digits
    match rest with
    | [] => rw [ungroup?, if_pos here]
    | next :: more =>
      rw [ungroup?, if_pos here, ih later (List.cons_ne_nil next more), Option.map_some]
      · exact List.cons_ne_nil next more
      · exact fun tail => ne_cons_of_digits later (by decide) tail

theorem splitSign_digits : splitSign text = (.absent, text) := by
  unfold splitSign
  split
  · exact absurd rfl (ne_cons_of_digits digits (by decide) _)
  · exact absurd rfl (ne_cons_of_digits digits (by decide) _)
  · rfl

theorem whole?_digits (written : text ≠ []) (canonical : text.head? = some '0' → text.length = 1) :
    whole? text = some (Nat.ofDigitChars 10 text 0) := by
  unfold whole?
  split
  · simp only [List.head?_cons, List.length_cons, forall_const] at canonical
    omega
  · rw [digits?, ungroup?_digits digits written]
    rfl

theorem read?_digits (written : text ≠ []) (canonical : text.head? = some '0' → text.length = 1) :
    read? text = some (.integer (Nat.ofDigitChars 10 text 0)) := by
  have whole : (text.any fun digit => digit == '.' || isExponentMark digit) = false := by
    rw [List.any_eq_false]
    intro digit inside
    have isDigit := digits digit inside
    simp only [isExponentMark, Bool.or_eq_true, beq_iff_eq, not_or]
    exact ⟨ne_of_kind isDigit (by decide), ne_of_kind isDigit (by decide),
      ne_of_kind isDigit (by decide)⟩
  have unmarked (mark : Char) (rest : List Char) (stranger : mark.isDigit = false) :
      text ≠ '0' :: mark :: rest := by
    intro same
    rw [same] at digits
    exact not_mem_of_digits digits stranger (List.mem_cons_of_mem _ List.mem_cons_self)
  unfold read?
  split
  · exact absurd rfl (unmarked 'x' _ (by decide))
  · exact absurd rfl (unmarked 'o' _ (by decide))
  · exact absurd rfl (unmarked 'b' _ (by decide))
  · rw [splitSign_digits digits]
    split
    · next same => exact absurd (Prod.mk.inj same).2 (ne_cons_of_digits digits (by decide) _)
    · next same => exact absurd (Prod.mk.inj same).2 (ne_cons_of_digits digits (by decide) _)
    · next same =>
      obtain ⟨rfl, rfl⟩ := Prod.mk.inj same
      rw [whole, if_neg Bool.false_ne_true, integer?, whole?_digits digits written canonical]
      rfl

end Number

end Digits

namespace Number

/-- Only zero is written with a zero in front. -/
theorem eq_zero_of_head?_toDigits {number : Nat} (zero : (Nat.toDigits 10 number).head? = some '0') :
    number = 0 := by
  induction number using Nat.strongRecOn with
  | ind number ih =>
    by_cases single : number < 10
    · rw [Nat.toDigits_of_lt_base single, List.head?_singleton, Option.some.injEq] at zero
      exact Nat.digitChar_eq_zero.mp zero
    · rw [Nat.toDigits_of_base_le (by decide) (by omega),
        List.head?_append_of_ne_nil _ Nat.toDigits_ne_nil] at zero
      have none_before := ih (number / 10) (by omega) zero
      omega

theorem isDigit_of_mem_toDigits (number : Nat) :
    ∀ digit ∈ Nat.toDigits 10 number, digit.isDigit = true :=
  fun _ inside => Nat.isDigit_of_mem_toDigits (by decide) (by decide) inside

theorem toDigits_eq_cons (number : Nat) :
    ∃ first tail, Nat.toDigits 10 number = first :: tail ∧ first.isDigit = true := by
  have digits := isDigit_of_mem_toDigits number
  cases same : Nat.toDigits 10 number with
  | nil => exact absurd same Nat.toDigits_ne_nil
  | cons first tail =>
    rw [same] at digits
    exact ⟨first, tail, rfl, digits first List.mem_cons_self⟩

theorem read?_toDigits (number : Nat) :
    read? (Nat.toDigits 10 number) = some (.integer number) := by
  have canonical (zero : (Nat.toDigits 10 number).head? = some '0') :
      (Nat.toDigits 10 number).length = 1 := by
    rw [eq_zero_of_head?_toDigits zero]
    rfl
  rw [read?_digits (isDigit_of_mem_toDigits number) Nat.toDigits_ne_nil canonical,
    Nat.ofDigitChars_ten_toDigits]

end Number

/-- A value that has no closing mark of its own ends here. -/
def EndsHere (rest : List Char) : Prop := ∀ next ∈ rest.head?, endsScalar next = true

theorem hasSecondValue_of_no_blank {text : List Char}
    (joined : ∀ character ∈ text, isBlank character = false) : hasSecondValue text = false := by
  induction text with
  | nil => rfl
  | cons first rest ih =>
    obtain ⟨here, later⟩ := List.forall_mem_cons.mp joined
    match rest with
    | [] => rfl
    | next :: more => rw [hasSecondValue, here, Bool.false_and, Bool.false_or, ih later]

theorem trimEnd_of_no_blank {text : List Char}
    (joined : ∀ character ∈ text, isBlank character = false) : trimEnd text = text := by
  apply List.rdropWhile_eq_self_iff.mpr
  intro written
  rw [joined _ (List.getLast_mem written)]
  exact Bool.false_ne_true

theorem isBlank_digit {digit : Char} (isDigit : digit.isDigit = true) : isBlank digit = false :=
  isBlank_of_kind isDigit (by decide)

theorem endsScalar_digit {digit : Char} (isDigit : digit.isDigit = true) :
    endsScalar digit = false := by
  have apart : digit ∉ ['\n', '\r', '#', ',', '=', '[', ']', '\x7b', '\x7d'] :=
    not_mem_of_kind isDigit (by decide)
  rw [Bool.eq_false_iff]
  exact fun ends => apart (List.contains_iff_mem.mp ends)

theorem takeWhile_of_endsHere {rest : List Char} (ends : EndsHere rest) :
    rest.takeWhile (!endsScalar ·) = [] ∧ rest.dropWhile (!endsScalar ·) = rest := by
  cases rest with
  | nil => exact ⟨rfl, rfl⟩
  | cons next more =>
    have here : endsScalar next = true := ends next rfl
    rw [List.takeWhile_cons, List.dropWhile_cons, here]
    exact ⟨rfl, rfl⟩

theorem readScalar_toDigits (number : Nat) {rest : List Char} (ends : EndsHere rest) :
    readScalar (Nat.toDigits 10 number ++ rest) = some (.integer number, rest) := by
  have digits := Number.isDigit_of_mem_toDigits number
  have joined : ∀ digit ∈ Nat.toDigits 10 number, isBlank digit = false :=
    fun digit inside => isBlank_digit (digits digit inside)
  have inner : ∀ digit ∈ Nat.toDigits 10 number, (!endsScalar digit) = true := by
    intro digit inside
    rw [endsScalar_digit (digits digit inside), Bool.not_false]
  obtain ⟨front, back⟩ := takeWhile_of_endsHere ends
  simp only [readScalar]
  rw [List.takeWhile_append_of_pos inner, List.dropWhile_append_of_pos inner, front, back,
    List.append_nil, hasSecondValue_of_no_blank joined, trimEnd_of_no_blank joined, scalar?,
    if_neg (ne_cons_of_digits digits (by decide) _), if_neg (ne_cons_of_digits digits (by decide) _),
    Number.read?_toDigits]
  rfl

namespace Quoted

def isPlain (character : Char) : Bool :=
  !isControl character && character != '"' && character != '\\'

theorem basicExtent_plain {text : List Char} (plain : ∀ character ∈ text, isPlain character = true)
    (rest : List Char) : basicExtent (text ++ '"' :: rest) = some (text, rest) := by
  induction text with
  | nil => rfl
  | cons first others ih =>
    obtain ⟨here, later⟩ := List.forall_mem_cons.mp plain
    simp only [isPlain, Bool.and_eq_true, Bool.not_eq_true', bne_iff_ne] at here
    obtain ⟨⟨visible, unquoted⟩, unescaped⟩ := here
    rw [List.cons_append, basicExtent, visible, if_neg Bool.false_ne_true, ih later]
    · rfl
    · exact unquoted
    · exact fun _ _ same => absurd same unescaped

theorem unescape_plain {text : List Char}
    (plain : ∀ character ∈ text, isPlain character = true) : unescape false text = some text := by
  induction text with
  | nil => rfl
  | cons first others ih =>
    obtain ⟨here, later⟩ := List.forall_mem_cons.mp plain
    simp only [isPlain, Bool.and_eq_true, Bool.not_eq_true', bne_iff_ne] at here
    have unescaped : first ≠ '\\' := here.2
    rw [unescape, Bool.false_and, if_neg Bool.false_ne_true, beq_eq_false_iff_ne.mpr unescaped,
      if_neg Bool.false_ne_true, ih later]
    · rfl
    all_goals
      intros
      contradiction

end Quoted

theorem readPlain_quoted {text : List Char} (written : text ≠ [])
    (plain : ∀ character ∈ text, Quoted.isPlain character = true) (rest : List Char) :
    readPlain ('"' :: (text ++ '"' :: rest)) = some (.string (String.ofList text), rest) := by
  rw [readPlain, Quoted.read?, Quoted.readShort?, Quoted.basicExtent_plain plain]
  · simp only [Quoted.escaped, Option.bind_eq_bind, Option.bind_some, Quoted.unescape_plain plain,
      Option.map_some]
  · -- Three quotes in a row would open a text of several lines.
    cases text with
    | nil => exact absurd rfl written
    | cons first others =>
      intro tail same
      have quote : first = '"' := (List.cons.inj (List.cons.inj same).2).1
      rw [quote] at plain
      exact absurd (plain '"' List.mem_cons_self) (by decide)
  · intro tail same
    exact absurd (List.cons.inj same).1 (by decide)

theorem readValue_of_plain (levels : Nat) {first : Char} (rest : List Char) (array : first ≠ '[')
    (table : first ≠ '\x7b') : readValue levels (first :: rest) = readPlain (first :: rest) := by
  rw [readValue]
  · intro tail _ same
    exact array (List.cons.inj same).1
  · intro tail _ same
    exact table (List.cons.inj same).1
  · intro _ tail _ same
    exact array (List.cons.inj same).1
  · intro _ tail _ same
    exact table (List.cons.inj same).1

theorem readValue_toDigits (levels number : Nat) {rest : List Char} (ends : EndsHere rest) :
    readValue levels (Nat.toDigits 10 number ++ rest) = some (.integer number, rest) := by
  have reads := readScalar_toDigits number ends
  obtain ⟨first, tail, same, isDigit⟩ := Number.toDigits_eq_cons number
  rw [same, List.cons_append] at reads ⊢
  rw [readValue_of_plain levels _ (ne_of_kind isDigit (by decide))
    (ne_of_kind isDigit (by decide)), readPlain, reads]
  · exact fun _ same => ne_of_kind isDigit (by decide) (List.cons.inj same).1
  · exact fun _ same => ne_of_kind isDigit (by decide) (List.cons.inj same).1

end ChartLint.Toml
