import ChartLint.Proofs.Toml.Table
import ChartLint.Toml.Document

/-!
What every document has, whatever is written in it: the names in its table are in order, and the
values in its entries are complete, as only headers and dotted keys make something that can grow. So
the order of the entries below one header does not count.
-/

namespace ChartLint.Toml

namespace Number

theorem based?_complete {base : Nat} {text : List Char} {value : Value}
    (read : based? base text = some value) : value.Complete := by
  unfold based? at read
  split at read
  · obtain rfl := Option.some.inj read
    trivial
  · obtain ⟨number, -, rfl⟩ := Option.map_eq_some_iff.mp read
    trivial

theorem decimal?_complete {sign : Sign} {text : List Char} {value : Value}
    (read : decimal? sign text = some value) : value.Complete := by
  simp only [decimal?, Option.bind_eq_bind, Option.bind_eq_some_iff, Option.some.injEq] at read
  obtain ⟨-, -, -, -, -, -, rfl⟩ := read
  trivial

theorem integer?_complete {sign : Sign} {text : List Char} {value : Value}
    (read : integer? sign text = some value) : value.Complete := by
  unfold integer? at read
  split at read
  · obtain rfl := Option.some.inj read
    trivial
  · split at read
    · obtain rfl := Option.some.inj read
      trivial
    · cases read

theorem read?_complete {text : List Char} {value : Value} (read : read? text = some value) :
    value.Complete := by
  unfold read? at read
  split at read
  · exact based?_complete read
  · exact based?_complete read
  · exact based?_complete read
  · split at read
    · obtain rfl := Option.some.inj read
      trivial
    · obtain rfl := Option.some.inj read
      trivial
    · split at read
      · exact decimal?_complete read
      · exact integer?_complete read

end Number

theorem scalar?_complete {text : List Char} {value : Value} (read : scalar? text = some value) :
    value.Complete := by
  unfold scalar? at read
  split at read
  · obtain rfl := Option.some.inj read
    trivial
  · split at read
    · obtain rfl := Option.some.inj read
      trivial
    · split at read
      · next number =>
        obtain rfl := Option.some.inj read
        exact Number.read?_complete number
      · split at read
        · obtain rfl := Option.some.inj read
          trivial
        · cases read

theorem readPlain_complete {text rest : List Char} {value : Value}
    (read : readPlain text = some (value, rest)) : value.Complete := by
  unfold readPlain at read
  split at read
  · obtain ⟨parts, -, same⟩ := Option.map_eq_some_iff.mp read
    obtain ⟨rfl, -⟩ := Prod.mk.inj same
    trivial
  · obtain ⟨parts, -, same⟩ := Option.map_eq_some_iff.mp read
    obtain ⟨rfl, -⟩ := Prod.mk.inj same
    trivial
  · simp only [readScalar] at read
    split at read
    · cases read
    · obtain ⟨found, known, same⟩ := Option.map_eq_some_iff.mp read
      obtain ⟨rfl, -⟩ := Prod.mk.inj same
      exact scalar?_complete known

/-- What is written between brackets is complete as well, though an array and a table can grow. -/
theorem readValue_complete {levels : Nat} {text rest : List Char} {value : Value}
    (read : readValue levels text = some (value, rest)) : value.Complete := by
  unfold readValue at read
  split at read
  · cases read
  · cases read
  · simp only [Option.bind_eq_bind, Option.bind_eq_some_iff, Option.some.injEq,
      Prod.mk.injEq] at read
    obtain ⟨-, -, rfl, -⟩ := read
    rfl
  · simp only [Option.bind_eq_bind, Option.bind_eq_some_iff, Option.some.injEq,
      Prod.mk.injEq] at read
    obtain ⟨-, -, -, -, rfl, -⟩ := read
    rfl
  · exact readPlain_complete read

/-- A statement to which a later one adds nothing, unless it opens a table. -/
def Statement.Complete : Statement → Prop
  | .entry written => written.value.Complete
  | .header _ => True

theorem readStatement_complete {text rest : List Char} {statement : Statement}
    (read : readStatement text = some (statement, rest)) : statement.Complete := by
  unfold readStatement at read
  split at read
  · simp only [Option.bind_eq_bind, Option.bind_eq_some_iff, Option.some.injEq,
      Prod.mk.injEq] at read
    obtain ⟨-, -, rfl, -⟩ := read
    trivial
  · simp only [Option.bind_eq_bind, Option.bind_eq_some_iff, Option.some.injEq, Prod.mk.injEq,
      readEntry] at read
    obtain ⟨⟨entry, after⟩, ⟨named, -, valued⟩, rfl, -⟩ := read
    split at valued
    · simp only [Option.bind_eq_some_iff, Option.some.injEq, Prod.mk.injEq] at valued
      obtain ⟨⟨content, left⟩, known, rfl, -⟩ := valued
      exact readValue_complete known
    · cases valued

theorem readStatements_complete {rounds : Nat} {text : List Char} {statements : List Statement}
    (read : readStatements rounds text = some statements) :
    ∀ statement ∈ statements, statement.Complete := by
  induction rounds generalizing text statements with
  | zero => cases read
  | succ rounds ih =>
    unfold readStatements at read
    split at read
    · obtain rfl := Option.some.inj read
      exact List.forall_mem_nil _
    · split at read
      · exact ih read
      · simp only [Option.bind_eq_bind, Option.bind_eq_some_iff, Option.some.injEq] at read
        obtain ⟨⟨statement, after⟩, here, left, -, others, later, rfl⟩ := read
        exact List.forall_mem_cons.mpr ⟨readStatement_complete here, ih later⟩

theorem sections_complete {statements : List Statement}
    (complete : ∀ statement ∈ statements, statement.Complete) :
    (∀ entry ∈ (sections statements).1, entry.value.Complete) ∧
      ∀ part ∈ (sections statements).2, ∀ entry ∈ part.entries, entry.value.Complete := by
  induction statements with
  | nil => exact ⟨List.forall_mem_nil _, List.forall_mem_nil _⟩
  | cons statement rest ih =>
    obtain ⟨here, later⟩ := List.forall_mem_cons.mp complete
    obtain ⟨above, below⟩ := ih later
    cases statement with
    | entry entry => exact ⟨List.forall_mem_cons.mpr ⟨here, above⟩, below⟩
    | header header => exact ⟨List.forall_mem_nil _, List.forall_mem_cons.mpr ⟨above, below⟩⟩

def written? (text : String) : Option (List Entry × List Section) :=
  let characters := dropMark text.toList
  (readStatements (characters.length + 1) characters).map sections

theorem parse?_eq (text : String) :
    parse? text = (written? text).bind fun parts => assemble parts.1 parts.2 := by
  simp only [written?, parse?, Option.bind_eq_bind, Option.bind_map]
  rfl

theorem written?_complete {text : String} {entries : List Entry} {parts : List Section}
    (written : written? text = some (entries, parts)) :
    (∀ entry ∈ entries, entry.value.Complete) ∧
      ∀ part ∈ parts, ∀ entry ∈ part.entries, entry.value.Complete := by
  obtain ⟨statements, read, same⟩ := Option.map_eq_some_iff.mp written
  have complete := sections_complete (readStatements_complete read)
  rw [same] at complete
  exact complete

theorem parse?_ordered {text : String} {fields : Fields} (parsed : parse? text = some fields) :
    Keyed.Ordered fields := by
  rw [parse?_eq] at parsed
  obtain ⟨_, -, assembled⟩ := Option.bind_eq_some_iff.mp parsed
  exact assemble_ordered assembled

/-- Two documents with the same headers in the same order, and below each the same entries in any
order. -/
def SameEntries (text other : String) : Prop :=
  ∃ entries parts others parts', written? text = some (entries, parts) ∧
    written? other = some (others, parts') ∧ entries.Perm others ∧
    List.Forall₂ Section.Same parts parts'

theorem parse?_same {text other : String} (same : SameEntries text other) :
    parse? text = parse? other := by
  obtain ⟨entries, parts, others, parts', written, written', above, below⟩ := same
  obtain ⟨complete, completed⟩ := written?_complete written
  rw [parse?_eq, parse?_eq, written, written']
  exact assemble_same above complete below completed

end ChartLint.Toml
