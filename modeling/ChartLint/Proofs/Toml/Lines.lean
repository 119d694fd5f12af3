import ChartLint.Proofs.Toml.Scalars

/-!
Reading back a document that was written line by line, each line a bare name, an equals sign and a
value. Where a line ends is seen from the next character only, so every step is stated for any text
that may follow.
-/

namespace ChartLint.Toml

section Arrays

def isFiller (character : Char) : Bool :=
  isBlank character || character == '\n' || character == '\r' || character == '#'

theorem skipFiller_cons {first : Char} (mark : isFiller first = false) (rest : List Char) :
    skipFiller false (first :: rest) = first :: rest := by
  simp only [isFiller, Bool.or_eq_false_iff, beq_eq_false_iff_ne] at mark
  obtain ⟨⟨⟨blank, newline⟩, carriage⟩, comment⟩ := mark
  rw [skipFiller, if_neg Bool.false_ne_true, blank, if_neg Bool.false_ne_true,
    beq_eq_false_iff_ne.mpr comment, if_neg Bool.false_ne_true]
  · exact newline
  · exact fun _ same => absurd same carriage

variable {α β : Type} {close : Char} {element : Reader α} {written : β → List Char} {value : β → α}

/-- A text that the reader takes whole, and that does not begin like the end of an array. -/
def TakenIn (close : Char) (element : Reader α) (text : List Char) (value : α) : Prop :=
  (∃ first tail, text = first :: tail ∧ isFiller first = false ∧ first ≠ close) ∧
    ∀ rest, element (text ++ rest) = some (value, rest)

theorem readUntil_blank (rounds : Nat) (text : List Char) :
    readUntil close element rounds (' ' :: text) = readUntil close element rounds text := by
  cases rounds with
  | zero => rfl
  | succ rounds => rfl

theorem readUntil_last (mark : isFiller close = false) (apart : close ≠ ',') {text : List Char}
    {item : α} (taken : TakenIn close element text item) (rounds : Nat) (rest : List Char) :
    readUntil close element (rounds + 1) (text ++ close :: rest) = some ([item], rest) := by
  obtain ⟨⟨first, tail, rfl, visible, inner⟩, reads⟩ := taken
  have reads := reads (close :: rest)
  rw [List.cons_append] at reads ⊢
  rw [readUntil, skipFiller_cons visible]
  simp only [if_neg inner, reads, Option.bind_eq_bind, Option.bind_some, skipFiller_cons mark,
    if_true]

theorem readUntil_comma {text : List Char} {item : α} (taken : TakenIn close element text item)
    {rounds : Nat} {more rest : List Char} {others : List α}
    (later : readUntil close element rounds more = some (others, rest)) :
    readUntil close element (rounds + 1) (text ++ ',' :: more) = some (item :: others, rest) := by
  obtain ⟨⟨first, tail, rfl, visible, inner⟩, reads⟩ := taken
  have reads := reads (',' :: more)
  have comma : isFiller ',' = false := by decide
  rw [List.cons_append] at reads ⊢
  rw [readUntil, skipFiller_cons visible]
  simp only [if_neg inner, reads, Option.bind_eq_bind, Option.bind_some, skipFiller_cons comma, later]

theorem readUntil_joined (mark : isFiller close = false) (apart : close ≠ ',') {items : List β}
    (taken : ∀ item ∈ items, TakenIn close element (written item) (value item)) {rounds : Nat}
    (enough : items.length < rounds) (rest : List Char) :
    readUntil close element rounds ([',', ' '].intercalate (items.map written) ++ close :: rest) =
      some (items.map value, rest) := by
  induction items generalizing rounds with
  | nil =>
    cases rounds with
    | zero => exact absurd enough (Nat.not_lt_zero _)
    | succ fewer =>
      simp only [List.map_nil, List.intercalate_nil, List.nil_append, readUntil,
        skipFiller_cons mark, if_pos]
  | cons item others ih =>
    obtain ⟨here, later⟩ := List.forall_mem_cons.mp taken
    cases rounds with
    | zero => exact absurd enough (Nat.not_lt_zero _)
    | succ fewer =>
      have fewer_enough : others.length < fewer := Nat.lt_of_succ_lt_succ enough
      cases others with
      | nil =>
        rw [List.map_singleton, List.intercalate_singleton]
        exact readUntil_last mark apart here fewer rest
      | cons next more =>
        have joined := ih later fewer_enough
        rw [← readUntil_blank] at joined
        have whole := readUntil_comma here joined
        simp only [List.map_cons, List.intercalate_cons_cons, List.append_assoc, List.cons_append,
          List.nil_append] at whole ⊢
        exact whole

theorem length_le_intercalate (texts : List (List Char)) :
    texts.length ≤ ([',', ' '].intercalate texts).length + 1 := by
  induction texts with
  | nil => exact Nat.zero_le _
  | cons text others ih =>
    cases others with
    | nil =>
      rw [List.length_singleton]
      omega
    | cons next more =>
      simp only [List.intercalate_cons_cons, List.length_append, List.length_cons,
        List.length_nil] at ih ⊢
      omega

theorem readValue_array {levels : Nat} {items : List β} {value : β → Value}
    (taken : ∀ item ∈ items, TakenIn ']' (readValue levels) (written item) (value item))
    (rest : List Char) :
    readValue (levels + 1) ('[' :: ([',', ' '].intercalate (items.map written) ++ ']' :: rest)) =
      some (.array false (items.map value), rest) := by
  have enough : items.length <
      ([',', ' '].intercalate (items.map written) ++ ']' :: rest).length + 1 := by
    have rounds := length_le_intercalate (items.map written)
    rw [List.length_map] at rounds
    rw [List.length_append, List.length_cons]
    omega
  rw [readValue, readUntil_joined (by decide) (by decide) taken enough rest]
  rfl

end Arrays

section Entries

theorem isBlank_bare {character : Char} (bare : isBareName character = true) :
    isBlank character = false :=
  isBlank_of_kind bare (by decide)

theorem skipBlanks_cons {first : Char} (visible : isBlank first = false) (rest : List Char) :
    skipBlanks (first :: rest) = first :: rest := by
  rw [skipBlanks, List.dropWhile_cons, visible]
  rfl

def IsBare (name : String) : Prop :=
  name.toList ≠ [] ∧ name.toList.all isBareName = true

theorem IsBare.begins {name : String} (bare : IsBare name) :
    ∃ first tail, name.toList = first :: tail ∧ isBareName first = true := by
  obtain ⟨written, inner⟩ := bare
  cases same : name.toList with
  | nil => exact absurd same written
  | cons first tail =>
    rw [same] at inner
    exact ⟨first, tail, rfl, List.all_eq_true.mp inner first List.mem_cons_self⟩

theorem readName_bare {name : String} (bare : IsBare name) (rest : List Char) :
    readName (name.toList ++ ' ' :: rest) = some (name, ' ' :: rest) := by
  have inner := List.all_eq_true.mp bare.2
  have front : (name.toList ++ ' ' :: rest).takeWhile isBareName = name.toList := by
    rw [List.takeWhile_append_of_pos inner]
    exact List.append_nil _
  have back : (name.toList ++ ' ' :: rest).dropWhile isBareName = ' ' :: rest := by
    rw [List.dropWhile_append_of_pos inner]
    rfl
  obtain ⟨first, tail, same, here⟩ := bare.begins
  have spelled : String.ofList (first :: tail) = name := by rw [← same, String.ofList_toList]
  rw [same, List.cons_append] at front back ⊢
  rw [readName, front, back]
  · simp only [spelled]
  · exact fun _ same => ne_of_kind here (by decide) (List.cons.inj same).1
  · exact fun _ same => ne_of_kind here (by decide) (List.cons.inj same).1

theorem readPath_bare {name : String} (bare : IsBare name) (names : Nat) (rest : List Char) :
    readPath (names + 1) (name.toList ++ ' ' :: '=' :: rest) = some (⟨[], name⟩, '=' :: rest) := by
  obtain ⟨first, tail, same, here⟩ := bare.begins
  have visible := isBlank_bare here
  have unblanked : skipBlanks (name.toList ++ ' ' :: '=' :: rest) =
      name.toList ++ ' ' :: '=' :: rest := by
    rw [same]
    exact skipBlanks_cons visible _
  rw [readPath, unblanked, readName_bare bare]
  rfl

def Entry.plain (member : String × Value) : Entry := ⟨⟨[], member.1⟩, member.2⟩

theorem readStatement_plain {name : String} (bare : IsBare name) {text rest : List Char}
    {value : Value} (begins : skipBlanks (text ++ rest) = text ++ rest)
    (reads : readValue nestingLimit (text ++ rest) = some (value, rest)) :
    readStatement (name.toList ++ ' ' :: '=' :: ' ' :: (text ++ rest)) =
      some (.entry (.plain (name, value)), rest) := by
  have blank : skipBlanks (' ' :: (text ++ rest)) = text ++ rest := begins
  have sign : skipBlanks ('=' :: ' ' :: (text ++ rest)) = '=' :: ' ' :: (text ++ rest) := rfl
  have entry : readEntry skipBlanks (readValue nestingLimit)
      (name.toList ++ ' ' :: '=' :: ' ' :: (text ++ rest)) = some (.plain (name, value), rest) := by
    simp only [readEntry, nestingLimit, readPath_bare bare, Option.bind_eq_bind, Option.bind_some,
      sign, blank]
    rw [← nestingLimit, reads]
    rfl
  obtain ⟨first, tail, same, here⟩ := bare.begins
  rw [same, List.cons_append] at entry ⊢
  rw [readStatement, entry]
  · rfl
  · exact fun _ same => ne_of_kind here (by decide) (List.cons.inj same).1

end Entries

section Lines

def IsLine (line : List Char) (member : String × Value) : Prop :=
  (∃ first tail, line = first :: tail ∧ isBareName first = true) ∧
    ∀ rest, EndsHere rest → readStatement (line ++ rest) = some (.entry (.plain member), rest)

theorem isLine_of_readValue {name text : String} {value : Value} (bare : IsBare name)
    (begins : ∃ first tail, text.toList = first :: tail ∧ isBlank first = false)
    (reads : ∀ rest, EndsHere rest →
      readValue nestingLimit (text.toList ++ rest) = some (value, rest)) :
    IsLine (name ++ " = " ++ text).toList (name, value) := by
  have spelled : (name ++ " = " ++ text).toList =
      name.toList ++ ' ' :: '=' :: ' ' :: text.toList := by
    rw [String.toList_append, String.toList_append, List.append_assoc]
    rfl
  rw [spelled]
  constructor
  · obtain ⟨first, tail, same, here⟩ := bare.begins
    rw [same]
    exact ⟨first, _, rfl, here⟩
  · intro rest ends
    have unblanked : skipBlanks (text.toList ++ rest) = text.toList ++ rest := by
      obtain ⟨first, tail, same, visible⟩ := begins
      rw [same]
      exact skipBlanks_cons visible _
    rw [List.append_assoc]
    exact readStatement_plain bare unblanked (reads rest ends)

theorem afterLine?_bare {first : Char} (bare : isBareName first = true) (rest : List Char) :
    afterLine? (first :: rest) = none := by
  have visible := isBlank_bare bare
  simp only [afterLine?]
  rw [skipBlanks_cons visible]
  split
  · next same =>
    split at same
    · next comment =>
      exact absurd (List.cons.inj comment).1 (ne_of_kind bare (by decide))
    · exact absurd same (List.cons_ne_nil _ _)
  · split
    · next comment =>
      exact absurd (List.cons.inj comment).1 (ne_of_kind bare (by decide))
    · rw [afterNewline?]
      · exact fun _ same => ne_of_kind bare (by decide) (List.cons.inj same).1
      · exact fun _ same => ne_of_kind bare (by decide) (List.cons.inj same).1

theorem readStatements_line {line rest next : List Char} {member : String × Value}
    (isLine : IsLine line member) (ends : EndsHere rest) (ended : afterLine? rest = some next)
    {rounds : Nat} {others : List Statement} (later : readStatements rounds next = some others) :
    readStatements (rounds + 1) (line ++ rest) = some (.entry (.plain member) :: others) := by
  obtain ⟨⟨first, tail, rfl, bare⟩, reads⟩ := isLine
  have visible := isBlank_bare bare
  have reads := reads rest ends
  rw [List.cons_append] at reads ⊢
  rw [readStatements, afterLine?_bare bare, skipBlanks_cons visible, reads]
  · simp only [Option.bind_eq_bind, Option.bind_some, ended, later]
  · exact List.cons_ne_nil _ _

variable {β : Type} {items : List β} {written : β → List Char} {member : β → String × Value}

theorem readStatements_lines (lines : ∀ item ∈ items, IsLine (written item) (member item))
    {ending : List Char} (ends : ending = [] ∨ ending = ['\n']) {rounds : Nat}
    (enough : (['\n'].intercalate (items.map written) ++ ending).length < rounds) :
    readStatements rounds (['\n'].intercalate (items.map written) ++ ending) =
      some ((items.map member).map fun member => .entry (.plain member)) := by
  have ended : EndsHere ending ∧ afterLine? ending = some [] := by
    rcases ends with rfl | rfl
    · exact ⟨fun _ nothing => absurd nothing (Option.not_mem_none _), rfl⟩
    · refine ⟨?_, rfl⟩
      intro next same
      rw [← Option.some.inj same]
      rfl
  induction items generalizing rounds with
  | nil =>
    cases rounds with
    | zero => exact absurd enough (Nat.not_lt_zero _)
    | succ fewer =>
      rcases ends with rfl | rfl
      · rfl
      · cases fewer with
        | zero => exact absurd enough (Nat.lt_irrefl 1)
        | succ fewest => rfl
  | cons item others ih =>
    obtain ⟨here, later⟩ := List.forall_mem_cons.mp lines
    have long : 0 < (written item).length := by
      obtain ⟨⟨first, tail, same, -⟩, -⟩ := here
      rw [same]
      exact Nat.zero_lt_succ _
    cases rounds with
    | zero => exact absurd enough (Nat.not_lt_zero _)
    | succ fewer =>
      cases others with
      | nil =>
        rw [List.map_singleton, List.intercalate_singleton, List.length_append] at enough
        simp only [List.map_cons, List.map_nil, List.intercalate_singleton]
        refine readStatements_line here ended.1 ended.2 ?_
        obtain ⟨fewest, rfl⟩ : ∃ fewest, fewer = fewest + 1 := ⟨fewer - 1, by omega⟩
        rfl
      | cons next more =>
        simp only [List.map_cons, List.intercalate_cons_cons, List.append_assoc, List.cons_append,
          List.nil_append, List.length_append, List.length_cons] at enough ih ⊢
        refine readStatements_line here ?_ rfl (ih later ?_)
        · intro newline same
          rw [← Option.some.inj same]
          rfl
        · omega

theorem sections_plain (members : List (String × Value)) :
    sections (members.map fun member => .entry (.plain member)) = (members.map .plain, []) := by
  induction members with
  | nil => rfl
  | cons member others ih =>
    rw [List.map_cons, sections, ih]
    rfl

theorem putEntry_plain {member : String × Value} {fields : Fields}
    (fresh : member.1 ∉ fields.map Prod.fst) :
    putEntry (.plain member) .header fields = some (Keyed.put member.1 member.2 fields) := by
  have root : ((Origin.header == Origin.dotted) == ([] : List String).isEmpty) = false := by decide
  simp only [putEntry, Entry.plain, root, Keyed.lookup_eq_none fresh, Option.isSome_none,
    Bool.false_eq_true, if_false]

theorem addEntries_plain (members : List (String × Value)) (fields : Fields)
    (distinct : (members.map Prod.fst).Nodup)
    (fresh : ∀ member ∈ members, member.1 ∉ fields.map Prod.fst) :
    addEntries .header (members.map .plain) fields =
      some (members.foldl (fun ordered member => Keyed.put member.1 member.2 ordered) fields) := by
  induction members generalizing fields with
  | nil => rfl
  | cons member others ih =>
    obtain ⟨here, later⟩ := List.forall_mem_cons.mp fresh
    obtain ⟨apart, distinct⟩ := List.nodup_cons.mp distinct
    have untouched : ∀ other ∈ others,
        other.1 ∉ (Keyed.put member.1 member.2 fields).map Prod.fst := by
      intro other inside taken
      obtain ⟨known, among, same⟩ := List.mem_map.mp taken
      rcases Keyed.eq_or_mem_of_mem_put among with rfl | old
      · exact apart (same ▸ List.mem_map_of_mem inside)
      · exact later other inside (same ▸ List.mem_map_of_mem old)
    have rest := ih (Keyed.put member.1 member.2 fields) distinct untouched
    calc addEntries .header ((member :: others).map .plain) fields
      _ = (putEntry (.plain member) .header fields).bind
            (addEntries .header (others.map .plain)) := List.foldlM_cons ..
      _ = addEntries .header (others.map .plain) (Keyed.put member.1 member.2 fields) := by
          rw [putEntry_plain here, Option.bind_some]
      _ = some _ := rest

theorem dropMark_lines (lines : ∀ item ∈ items, IsLine (written item) (member item))
    {ending : List Char} (ends : ending = [] ∨ ending = ['\n']) :
    dropMark (['\n'].intercalate (items.map written) ++ ending) =
      ['\n'].intercalate (items.map written) ++ ending := by
  have unmarked (first : Char) (rest : List Char) (different : first ≠ '\ufeff') :
      dropMark (first :: rest) = first :: rest := by
    rw [dropMark]
    exact fun _ same => different (List.cons.inj same).1
  cases items with
  | nil =>
    rcases ends with rfl | rfl
    · rfl
    · exact unmarked '\n' [] (by decide)
  | cons item others =>
    obtain ⟨⟨first, tail, same, bare⟩, -⟩ := lines item List.mem_cons_self
    have different : first ≠ '\ufeff' := ne_of_kind bare (by decide)
    cases others with
    | nil =>
      rw [List.map_singleton, List.intercalate_singleton, same]
      exact unmarked first _ different
    | cons next more =>
      rw [List.map_cons, List.map_cons, List.intercalate_cons_cons, same]
      exact unmarked first _ different

/-- Lines with one entry each are a document, and its table has the entries in order of their
names. -/
theorem parse?_lines {line : β → String}
    (lines : ∀ item ∈ items, IsLine (line item).toList (member item))
    (distinct : ((items.map member).map Prod.fst).Nodup) {ending : String}
    (ends : ending = "" ∨ ending = "\n") :
    parse? ("\n".intercalate (items.map line) ++ ending) =
      some (Keyed.ofList (items.map member)) := by
  have endings : ending.toList = [] ∨ ending.toList = ['\n'] := by
    rcases ends with rfl | rfl
    · exact .inl rfl
    · exact .inr rfl
  have text : ("\n".intercalate (items.map line) ++ ending).toList =
      ['\n'].intercalate (items.map fun item => (line item).toList) ++ ending.toList := by
    rw [String.toList_append, String.toList_intercalate, List.map_map]
    rfl
  have statements := readStatements_lines lines endings (Nat.lt_succ_self _)
  have table := addEntries_plain (items.map member) [] distinct (fun _ _ => List.not_mem_nil)
  simp only [parse?, text, dropMark_lines lines endings, Option.bind_eq_bind]
  rw [statements, Option.bind_some, sections_plain]
  simp only [assemble, table, Option.bind_eq_bind, Option.bind_some, List.foldlM_nil]
  rfl

end Lines

end ChartLint.Toml
