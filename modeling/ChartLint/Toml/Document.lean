import ChartLint.Toml.Moment
import ChartLint.Toml.Number
import ChartLint.Toml.Table

/-!
The grammar of TOML documents. Readers take a value off the front of a text and give the rest;
those that read one thing after another are told how many rounds they have, which is never fewer
than the text has characters left, since every round takes one.
-/

namespace ChartLint.Toml

/-- How many names a path may have, and how deep arrays and inline tables may nest. -/
def nestingLimit : Nat := 80

abbrev Reader (α : Type) := List Char → Option (α × List Char)

def isBareName (character : Char) : Bool :=
  character.isAlphanum || character == '_' || character == '-'

def readName : Reader String
  | '"' :: rest => Quoted.readShort? ('"' :: rest)
  | '\'' :: rest => Quoted.readShort? ('\'' :: rest)
  | text =>
    match text.takeWhile isBareName with
    | [] => none
    | name => some (String.ofList name, text.dropWhile isBareName)

def readPath : Nat → Reader Path
  | 0, _ => none
  | names + 1, text => do
    let (name, rest) ← readName (skipBlanks text)
    match skipBlanks rest with
    | '.' :: more => do
      let (path, rest) ← readPath names more
      some (⟨name :: path.tables, path.name⟩, rest)
    | other => some (⟨[], name⟩, other)

def readEntry (skip : List Char → List Char) (value : Reader Value) : Reader Entry := fun text => do
  let (path, rest) ← readPath nestingLimit text
  match skip rest with
  | '=' :: more => do
    let (content, rest) ← value (skip more)
    some (⟨path, content⟩, rest)
  | _ => none

/-- Things with commas between them up to a closing bracket; a comma may stand after the last. -/
def readUntil {α : Type} (close : Char) (element : Reader α) : Nat → Reader (List α)
  | 0, _ => none
  | rounds + 1, text =>
    match skipFiller false text with
    | [] => none
    | next :: rest =>
      if next = close then some ([], rest)
      else do
        let (first, rest) ← element (next :: rest)
        match skipFiller false rest with
        | ',' :: more => do
          let (others, rest) ← readUntil close element rounds more
          some (first :: others, rest)
        | last :: more => if last = close then some ([first], more) else none
        | [] => none

def endsScalar (character : Char) : Bool :=
  ['\n', '\r', '#', ',', '=', '[', ']', '\x7b', '\x7d'].contains character

def trimEnd (text : List Char) : List Char := (text.reverse.dropWhile isBlank).reverse

/-- A quote stands after a blank, where another value would begin. -/
def hasSecondValue : List Char → Bool
  | before :: quote :: rest =>
    isBlank before && (quote == '"' || quote == '\'') || hasSecondValue (quote :: rest)
  | _ => false

def scalar? (text : List Char) : Option Value :=
  if text = ['t', 'r', 'u', 'e'] then some (.bool true)
  else if text = ['f', 'a', 'l', 's', 'e'] then some (.bool false)
  else
    match Number.read? text with
    | some number => some number
    | none => if Moment.isMoment text then some (.moment (String.ofList text)) else none

/-- A value without quotes or brackets. It may have blanks in it, as a date and a time have. -/
def readScalar : Reader Value := fun text =>
  let front := text.takeWhile (!endsScalar ·)
  if hasSecondValue front then none
  else (scalar? (trimEnd front)).map fun value => (value, text.dropWhile (!endsScalar ·))

def readPlain : Reader Value
  | '"' :: rest => (Quoted.read? ('"' :: rest)).map fun parts => (.string parts.1, parts.2)
  | '\'' :: rest => (Quoted.read? ('\'' :: rest)).map fun parts => (.string parts.1, parts.2)
  | text => readScalar text

def readValue : Nat → Reader Value
  | 0, '[' :: _ => none
  | 0, '\x7b' :: _ => none
  | levels + 1, '[' :: rest => do
    let (elements, rest) ← readUntil ']' (readValue levels) (rest.length + 1) rest
    some (.array false elements, rest)
  | levels + 1, '\x7b' :: rest => do
    let (entries, rest) ←
      readUntil '\x7d' (readEntry (skipFiller false) (readValue levels)) (rest.length + 1) rest
    let fields ← addEntries .inline entries []
    some (.table .inline fields, rest)
  | _, text => readPlain text

inductive Statement where
  | entry (entry : Entry)
  | header (header : Header)

def readHeader : Reader Header
  | '[' :: rest => do
    let (path, rest) ← readPath nestingLimit rest
    match rest with
    | ']' :: ']' :: more => some (⟨path, true⟩, more)
    | _ => none
  | rest => do
    let (path, rest) ← readPath nestingLimit rest
    match rest with
    | ']' :: more => some (⟨path, false⟩, more)
    | _ => none

def readStatement : Reader Statement
  | '[' :: rest => do
    let (header, rest) ← readHeader rest
    some (.header header, rest)
  | text => do
    let (entry, rest) ← readEntry skipBlanks (readValue nestingLimit) text
    some (.entry entry, rest)

def readStatements : Nat → List Char → Option (List Statement)
  | 0, _ => none
  | rounds + 1, text =>
    match text with
    | [] => some []
    | _ =>
      match afterLine? text with
      | some rest => readStatements rounds rest
      | none => do
        let (statement, rest) ← readStatement (skipBlanks text)
        let rest ← afterLine? rest
        let others ← readStatements rounds rest
        some (statement :: others)

def sections : List Statement → List Entry × List Section
  | [] => ([], [])
  | .entry entry :: rest =>
    let (entries, parts) := sections rest
    (entry :: entries, parts)
  | .header header :: rest =>
    -- The entries of the rest that stand above its first header stand below this one.
    let (entries, parts) := sections rest
    ([], ⟨header, entries⟩ :: parts)

/-- A mark of the byte order at the front is no part of a document. -/
def dropMark : List Char → List Char
  | '\ufeff' :: rest => rest
  | text => text

def parse? (text : String) : Option Fields := do
  let characters := dropMark text.toList
  -- Every round takes a character at least, so there are rounds enough.
  let statements ← readStatements (characters.length + 1) characters
  let (entries, parts) := sections statements
  assemble entries parts

end ChartLint.Toml
