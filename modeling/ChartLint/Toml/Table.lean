import ChartLint.Toml.Value

/-!
Putting a TOML table together from its entries and headers. No table is defined twice, nothing is
added to a value that is complete as it stands, and a dotted key adds only to tables that dotted
keys made, or that headers had no more than implied.
-/

namespace ChartLint.Toml

structure Path where
  tables : List String
  name : String
deriving DecidableEq, Repr

structure Entry where
  path : Path
  value : Value

structure Header where
  path : Path
  ofArray : Bool
deriving DecidableEq, Repr

structure Section where
  header : Header
  entries : List Entry

def onTheWay (dotted : Bool) : Origin := if dotted then .dotted else .implied

/-- What a table on the way of a path is from then on. One that was only implied counts as made by
the first dotted key through it, and no header can define it any more. -/
def Origin.passed (dotted : Bool) : Origin → Origin
  | .implied => onTheWay dotted
  | other => other

/-- Changes the table at the end of a way through tables. Those that are not there yet are made;
an array of tables is entered at its last. -/
def alterAt (dotted : Bool) (change : Origin → Fields → Option Fields) :
    List String → Origin → Fields → Option Fields
  | [], origin, fields => change origin fields
  | name :: way, _, fields =>
    match fields.lookup name with
    | none => do
      let made ← alterAt dotted change way (onTheWay dotted) []
      some (Keyed.put name (.table (onTheWay dotted) made) fields)
    | some (.table origin inner) =>
      if origin = .inline ∨ (dotted = true ∧ origin = .header) then none
      else do
        let changed ← alterAt dotted change way (origin.passed dotted) inner
        some (Keyed.put name (.table (origin.passed dotted) changed) fields)
    | some (.array true elements) =>
      match elements.getLast? with
      | some (.table origin inner) => do
        let changed ← alterAt dotted change way origin inner
        some (Keyed.put name (.array true (elements.dropLast ++ [.table origin changed])) fields)
      | _ => none
    | some _ => none

/-- Puts the value of an entry into its table. A way through tables must end at one that dotted
keys made, and no name is taken twice. -/
def putEntry (entry : Entry) (origin : Origin) (fields : Fields) : Option Fields :=
  if (origin == .dotted) == entry.path.tables.isEmpty then none
  else if (fields.lookup entry.path.name).isSome then none
  else some (Keyed.put entry.path.name entry.value fields)

def addEntries (origin : Origin) (entries : List Entry) (fields : Fields) : Option Fields :=
  entries.foldlM
    (fun fields entry => alterAt true (putEntry entry) entry.path.tables origin fields) fields

def openTable (name : String) (entries : List Entry) (fields : Fields) : Option Fields := do
  let known ←
    match fields.lookup name with
    | none => some []
    | some (.table .implied inner) => some inner
    | some _ => none
  let filled ← addEntries .header entries known
  some (Keyed.put name (.table .header filled) fields)

def openElement (name : String) (entries : List Entry) (fields : Fields) : Option Fields := do
  let known ←
    match fields.lookup name with
    | none => some []
    | some (.array true elements) => some elements
    | some _ => none
  let filled ← addEntries .header entries []
  some (Keyed.put name (.array true (known ++ [.table .header filled])) fields)

def addSection (fields : Fields) (part : Section) : Option Fields :=
  let path := part.header.path
  let change := if part.header.ofArray then openElement else openTable
  alterAt false (fun _ => change path.name part.entries) path.tables .header fields

def assemble (entries : List Entry) (sections : List Section) : Option Fields := do
  let root ← addEntries .header entries []
  sections.foldlM addSection root

end ChartLint.Toml
