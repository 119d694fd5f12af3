import ChartLint.Toml.Table
import Mathlib.Data.List.Forall2

/-!
The table of a document. Whatever is added to it goes to the place of its name, so the names in a
table are in order and none stands twice. Entries may be added in any order: two of them change the
table in the same way whichever is first, or cannot both be added.
-/

namespace ChartLint.Toml

def alterName (name : String) (change : Option Value → Option Value) (fields : Fields) :
    Option Fields :=
  (change (fields.lookup name)).map fun value => Keyed.put name value fields

theorem alterName_ordered {name : String} {change : Option Value → Option Value}
    {fields changed : Fields} (ordered : Keyed.Ordered fields)
    (done : alterName name change fields = some changed) : Keyed.Ordered changed := by
  obtain ⟨value, -, rfl⟩ := Option.map_eq_some_iff.mp done
  exact Keyed.put_ordered name value ordered

theorem alterName_comm_of_ne {name other : String} (different : name ≠ other)
    (change change' : Option Value → Option Value) (fields : Fields) :
    (alterName name change fields).bind (alterName other change') =
      (alterName other change' fields).bind (alterName name change) := by
  unfold alterName
  cases here : change (fields.lookup name) with
  | none =>
    cases change' (fields.lookup other) with
    | none => rfl
    | some kept =>
      simp only [Option.map_none, Option.map_some, Option.bind_none, Option.bind_some,
        Keyed.lookup_put_of_ne different, here]
  | some value =>
    cases there : change' (fields.lookup other) with
    | none =>
      simp only [Option.map_none, Option.map_some, Option.bind_none, Option.bind_some,
        Keyed.lookup_put_of_ne different.symm, there]
    | some kept =>
      simp only [Option.map_some, Option.bind_some, Keyed.lookup_put_of_ne different,
        Keyed.lookup_put_of_ne different.symm, here, there, Keyed.put_comm different]

/-- One change after another of the same name is a change of it. -/
theorem alterName_bind (name : String) (change change' : Option Value → Option Value)
    (fields : Fields) :
    (alterName name change fields).bind (alterName name change') =
      alterName name (fun value => (change value).bind fun changed => change' (some changed))
        fields := by
  unfold alterName
  cases here : change (fields.lookup name) with
  | none => simp only [Option.map_none, Option.bind_none, here]
  | some value =>
    simp only [Option.map_some, Option.bind_some, Keyed.lookup_put_self, Keyed.put_put, here]

/-- What a name on the way of a path stands for after a change further on. -/
def altered (dotted : Bool) (change : Origin → Fields → Option Fields) (way : List String) :
    Option Value → Option Value
  | none => (alterAt dotted change way (onTheWay dotted) []).map (.table (onTheWay dotted))
  | some (.table origin inner) =>
    if origin = .inline ∨ (dotted = true ∧ origin = .header) then none
    else (alterAt dotted change way (origin.passed dotted) inner).map
      (.table (origin.passed dotted))
  | some (.array true elements) =>
    match elements.getLast? with
    | some (.table origin inner) =>
      (alterAt dotted change way origin inner).map fun changed =>
        .array true (elements.dropLast ++ [.table origin changed])
    | _ => none
  | some _ => none

theorem alterAt_cons (dotted : Bool) (change : Origin → Fields → Option Fields) (name : String)
    (way : List String) (origin : Origin) :
    alterAt dotted change (name :: way) origin = alterName name (altered dotted change way) := by
  funext fields
  rw [alterAt, alterName]
  cases fields.lookup name with
  | none =>
    simp only [altered]
    cases alterAt dotted change way (onTheWay dotted) [] <;> rfl
  | some value =>
    cases value with
    | table origin inner =>
      simp only [altered]
      split
      · rfl
      · cases alterAt dotted change way (origin.passed dotted) inner <;> rfl
    | array byHeaders elements =>
      cases byHeaders with
      | false => rfl
      | true =>
        simp only [altered]
        cases elements.getLast? with
        | none => rfl
        | some last =>
          cases last with
          | table origin inner =>
            simp only
            cases alterAt dotted change way origin inner <;> rfl
          | _ => rfl
    | _ => rfl

theorem alterAt_ordered {dotted : Bool} {change : Origin → Fields → Option Fields}
    {way : List String} {origin : Origin} {fields changed : Fields}
    (keeps : way = [] → change origin fields = some changed → Keyed.Ordered changed)
    (ordered : Keyed.Ordered fields)
    (done : alterAt dotted change way origin fields = some changed) : Keyed.Ordered changed := by
  cases way with
  | nil => exact keeps rfl done
  | cons name way =>
    rw [alterAt_cons] at done
    exact alterName_ordered ordered done

def entered (entry : Entry) (origin : Origin) : Option Value → Option Value
  | none => if (origin == .dotted) == entry.path.tables.isEmpty then none else some entry.value
  | some _ => none

theorem putEntry_eq (entry : Entry) (origin : Origin) :
    putEntry entry origin = alterName entry.path.name (entered entry origin) := by
  funext fields
  unfold putEntry alterName
  cases fields.lookup entry.path.name with
  | none =>
    simp only [entered, Option.isSome_none, Bool.false_eq_true, if_false]
    split
    · rfl
    · rfl
  | some value => simp only [entered, Option.isSome_some, if_true, ite_self, Option.map_none]

theorem putEntry_ordered {entry : Entry} {origin : Origin} {fields changed : Fields}
    (ordered : Keyed.Ordered fields) (done : putEntry entry origin fields = some changed) :
    Keyed.Ordered changed := by
  rw [putEntry_eq] at done
  exact alterName_ordered ordered done

theorem addEntries_cons (origin : Origin) (entry : Entry) (rest : List Entry) (fields : Fields) :
    addEntries origin (entry :: rest) fields =
      (alterAt true (putEntry entry) entry.path.tables origin fields).bind
        (addEntries origin rest) :=
  List.foldlM_cons ..

theorem addEntries_ordered {origin : Origin} {entries : List Entry} {fields changed : Fields}
    (ordered : Keyed.Ordered fields) (done : addEntries origin entries fields = some changed) :
    Keyed.Ordered changed := by
  induction entries generalizing fields with
  | nil =>
    obtain rfl := Option.some.inj done
    exact ordered
  | cons entry rest ih =>
    rw [addEntries_cons] at done
    obtain ⟨between, first, later⟩ := Option.bind_eq_some_iff.mp done
    exact ih (alterAt_ordered (fun _ => putEntry_ordered ordered) ordered first) later

theorem ordered_of_put {name : String} {value : Fields → Value} {added : Option Fields}
    {fields changed : Fields} (ordered : Keyed.Ordered fields)
    (done : (added.bind fun filled => some (Keyed.put name (value filled) fields)) = some changed) :
    Keyed.Ordered changed := by
  obtain ⟨filled, -, same⟩ := Option.bind_eq_some_iff.mp done
  rw [← Option.some.inj same]
  exact Keyed.put_ordered name _ ordered

theorem openTable_ordered {name : String} {entries : List Entry} {fields changed : Fields}
    (ordered : Keyed.Ordered fields) (done : openTable name entries fields = some changed) :
    Keyed.Ordered changed := by
  simp only [openTable, Option.bind_eq_bind, Option.bind_some] at done
  split at done
  · exact ordered_of_put ordered done
  · exact ordered_of_put ordered done
  · cases done

theorem openElement_ordered {name : String} {entries : List Entry} {fields changed : Fields}
    (ordered : Keyed.Ordered fields) (done : openElement name entries fields = some changed) :
    Keyed.Ordered changed := by
  simp only [openElement, Option.bind_eq_bind, Option.bind_some] at done
  split at done
  · exact ordered_of_put ordered done
  · exact ordered_of_put ordered done
  · cases done

theorem addSection_ordered {part : Section} {fields changed : Fields}
    (ordered : Keyed.Ordered fields) (done : addSection fields part = some changed) :
    Keyed.Ordered changed := by
  apply alterAt_ordered _ ordered done
  intro _ opened
  split at opened
  · exact openElement_ordered ordered opened
  · exact openTable_ordered ordered opened

/-- In the table of a document names are in order, so that none stands twice. -/
theorem assemble_ordered {entries : List Entry} {parts : List Section} {fields : Fields}
    (done : assemble entries parts = some fields) : Keyed.Ordered fields := by
  obtain ⟨root, first, later⟩ := Option.bind_eq_some_iff.mp done
  have start : Keyed.Ordered root := addEntries_ordered List.Pairwise.nil first
  clear first done
  induction parts generalizing root with
  | nil =>
    obtain rfl := Option.some.inj later
    exact start
  | cons part rest ih =>
    obtain ⟨between, opened, after⟩ := Option.bind_eq_some_iff.mp later
    exact ih between after (addSection_ordered start opened)

/-- Nothing can be added to the value: it is no table or array that headers or dotted keys made. -/
def Value.Complete : Value → Prop
  | .array byHeaders _ => byHeaders = false
  | .table origin _ => origin = .inline
  | _ => True

section Order

variable {change other : Origin → Fields → Option Fields} {way path : List String}

theorem altered_complete {value : Value} (complete : value.Complete) (dotted : Bool) :
    altered dotted change way (some value) = none := by
  cases value with
  | array byHeaders elements =>
    obtain rfl : byHeaders = false := complete
    rfl
  | table origin fields =>
    obtain rfl : origin = .inline := complete
    rfl
  | _ => rfl

/-- A dotted key goes through a table only if it counts as made by dotted keys from then on. -/
theorem altered_table {origin : Origin} (opened : ¬ (origin = .inline ∨ origin = .header))
    (inner : Fields) :
    altered true change way (some (.table origin inner)) =
      (alterAt true change way .dotted inner).map (.table .dotted) := by
  rw [not_or] at opened
  cases origin with
  | inline => exact absurd rfl opened.1
  | header => exact absurd rfl opened.2
  | implied => rfl
  | dotted => rfl

theorem altered_table_closed {origin : Origin} (closed : origin = .inline ∨ origin = .header)
    (inner : Fields) : altered true change way (some (.table origin inner)) = none := by
  rcases closed with rfl | rfl
  · rfl
  · rfl

theorem altered_array (elements : List Value) (origin : Origin) (inner : Fields) :
    altered true change way (some (.array true (elements ++ [.table origin inner]))) =
      (alterAt true change way origin inner).map fun changed =>
        .array true (elements ++ [.table origin changed]) := by
  simp only [altered, List.getLast?_concat, List.dropLast_concat]

/-- A step of a value is a step of what it was made from, if the making takes the one to the other. -/
theorem map_bind_eq {α β : Type} {make : α → β} {outer : β → Option β} {inner : α → Option α}
    (same : ∀ part, outer (make part) = (inner part).map make) (part : Option α) :
    (part.map make).bind outer = (part.bind inner).map make := by
  cases part with
  | none => rfl
  | some part => exact same part

theorem altered_comm
    (below : ∀ origin fields,
      (alterAt true change way origin fields).bind (alterAt true other path origin) =
        (alterAt true other path origin fields).bind (alterAt true change way origin))
    (value : Option Value) :
    (altered true change way value).bind (fun changed => altered true other path (some changed)) =
      (altered true other path value).bind
        fun changed => altered true change way (some changed) := by
  have opened : ¬ (Origin.dotted = .inline ∨ Origin.dotted = .header) := by decide
  have table (inner : Fields) :
      ((alterAt true change way .dotted inner).map (.table .dotted)).bind
          (fun changed => altered true other path (some changed)) =
        ((alterAt true other path .dotted inner).map (.table .dotted)).bind
          fun changed => altered true change way (some changed) := by
    rw [map_bind_eq (altered_table opened), map_bind_eq (altered_table opened), below]
  cases value with
  | none => exact table []
  | some value =>
    cases value with
    | table origin inner =>
      by_cases closed : origin = .inline ∨ origin = .header
      · rw [altered_table_closed closed, altered_table_closed closed]
        rfl
      · rw [altered_table closed, altered_table closed]
        exact table inner
    | array byHeaders elements =>
      cases byHeaders with
      | false => rfl
      | true =>
        -- Only the last element can be changed, and only if it is a table.
        rcases List.eq_nil_or_concat elements with rfl | ⟨front, last, rfl⟩
        · rfl
        · rw [List.concat_eq_append]
          cases last with
          | table origin inner =>
            rw [altered_array, altered_array, map_bind_eq (altered_array front origin),
              map_bind_eq (altered_array front origin), below]
          | _ => simp only [altered, List.getLast?_concat, Option.bind_none]
    | _ => rfl

/-- An entry commutes with a change that cannot be one of its value. -/
theorem putEntry_comm {entry : Entry} {change : Option Value → Option Value}
    (closed : change (some entry.value) = none) (name : String) (origin : Origin)
    (fields : Fields) :
    (putEntry entry origin fields).bind (alterName name change) =
      (alterName name change fields).bind (putEntry entry origin) := by
  rw [putEntry_eq]
  by_cases same : entry.path.name = name
  · rw [same, alterName_bind, alterName_bind]
    congr 1
    funext value
    -- The name is taken for the one that comes later, whichever it is.
    have taken : (change value).bind (fun changed => entered entry origin (some changed)) = none := by
      cases change value with
      | none => rfl
      | some changed => rfl
    rw [taken]
    cases value with
    | none =>
      simp only [entered]
      split
      · rfl
      · exact closed
    | some value => rfl
  · exact alterName_comm_of_ne same _ _ fields

theorem alterAt_putEntry_comm {first second : Entry} (complete : first.value.Complete)
    (complete' : second.value.Complete) (way path : List String) (origin : Origin)
    (fields : Fields) :
    (alterAt true (putEntry first) way origin fields).bind
        (alterAt true (putEntry second) path origin) =
      (alterAt true (putEntry second) path origin fields).bind
        (alterAt true (putEntry first) way origin) := by
  -- The induction is on the names that the two paths share. Where one ends, its value is complete,
  -- and the other cannot go on through it.
  induction way generalizing path origin fields with
  | nil =>
    simp only [alterAt]
    cases path with
    | nil =>
      simp only [alterAt]
      rw [putEntry_eq second]
      exact putEntry_comm rfl _ origin fields
    | cons name path =>
      rw [alterAt_cons]
      exact putEntry_comm (altered_complete complete true) name origin fields
  | cons name way ih =>
    rw [alterAt_cons]
    cases path with
    | nil => exact (putEntry_comm (altered_complete complete' true) name origin fields).symm
    | cons other path =>
      rw [alterAt_cons]
      by_cases same : name = other
      · subst same
        rw [alterName_bind, alterName_bind]
        congr 1
        funext value
        exact altered_comm (fun origin fields => ih path origin fields) value
      · exact alterName_comm_of_ne same _ _ fields

end Order

theorem addEntries_perm {entries others : List Entry} (same : entries.Perm others)
    (complete : ∀ entry ∈ entries, entry.value.Complete) (origin : Origin) :
    addEntries origin entries = addEntries origin others := by
  induction same with
  | nil => rfl
  | cons entry _ ih =>
    funext fields
    rw [addEntries_cons, addEntries_cons,
      ih fun other inside => complete other (List.mem_cons_of_mem _ inside)]
  | swap first second rest =>
    funext fields
    obtain ⟨here, later⟩ := List.forall_mem_cons.mp complete
    have swapped := alterAt_putEntry_comm here (later first List.mem_cons_self)
      second.path.tables first.path.tables origin fields
    have two (entry next : Entry) : addEntries origin (entry :: next :: rest) fields =
        ((alterAt true (putEntry entry) entry.path.tables origin fields).bind
          (alterAt true (putEntry next) next.path.tables origin)).bind (addEntries origin rest) := by
      rw [addEntries_cons, Option.bind_assoc]
      rfl
    rw [two, two, swapped]
  | trans before _ ih ih' =>
    exact (ih complete).trans (ih' fun entry inside => complete entry (before.mem_iff.mpr inside))

def Section.Same (part other : Section) : Prop :=
  part.header = other.header ∧ part.entries.Perm other.entries

theorem addSection_same {part other : Section} (same : part.Same other)
    (complete : ∀ entry ∈ part.entries, entry.value.Complete) (fields : Fields) :
    addSection fields part = addSection fields other := by
  obtain ⟨header, entries⟩ := same
  have opened (ofArray : Bool) (name : String) :
      (if ofArray then openElement else openTable) name part.entries =
        (if ofArray then openElement else openTable) name other.entries := by
    funext fields
    split
    · simp only [openElement, addEntries_perm entries complete]
    · simp only [openTable, addEntries_perm entries complete]
  simp only [addSection, header, opened]

/-- The table of a document does not depend on the order of the entries below one header, or above
all of them. -/
theorem assemble_same {entries others : List Entry} (same : entries.Perm others)
    (complete : ∀ entry ∈ entries, entry.value.Complete) {parts parts' : List Section}
    (below : List.Forall₂ Section.Same parts parts')
    (completed : ∀ part ∈ parts, ∀ entry ∈ part.entries, entry.value.Complete) :
    assemble entries parts = assemble others parts' := by
  have added (root : Fields) : parts.foldlM addSection root = parts'.foldlM addSection root := by
    induction below generalizing root with
    | nil => rfl
    | cons here _ ih =>
      obtain ⟨first, later⟩ := List.forall_mem_cons.mp completed
      simp only [List.foldlM_cons, addSection_same here first, ih later]
  simp only [assemble, addEntries_perm same complete, added]

end ChartLint.Toml
