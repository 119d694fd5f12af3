import ChartLint.Toml.Blank

/-!
Quoted text in TOML, between double or single quotes, on one line or, between three quotes, on
several. Reading finds where the text ends and then replaces the escapes, which stand between
double quotes only.
-/

namespace ChartLint.Toml.Quoted

def hexDigit? (character : Char) : Option Nat :=
  if character.isDigit then some (character.toNat - '0'.toNat)
  else if 'a' ≤ character ∧ character ≤ 'f' then some (character.toNat - 'a'.toNat + 10)
  else if 'A' ≤ character ∧ character ≤ 'F' then some (character.toNat - 'A'.toNat + 10)
  else none

def hexNumber? (digits : List Char) : Option Nat :=
  digits.foldlM (fun number digit => (hexDigit? digit).map (16 * number + ·)) 0

def ofCodePoint? (digits : List Char) : Option Char :=
  match hexNumber? digits with
  | some point => if point.isValidChar then some (Char.ofNat point) else none
  | none => none

def ofLetter? : Char → Option Char
  | 'b' => some '\x08'
  | 't' => some '\t'
  | 'n' => some '\n'
  | 'f' => some '\x0c'
  | 'r' => some '\r'
  | 'e' => some '\x1b'
  | '"' => some '"'
  | '\\' => some '\\'
  | _ => none

def prepend (character : Char) : Option (List Char) → Option (List Char) :=
  Option.map (character :: ·)

/-- Replaces the escapes. A backslash at the end of a line takes the line end and all blanks and
line ends after it away; while they are taken away `trimming` holds. -/
def unescape (trimming : Bool) : List Char → Option (List Char)
  | [] => some []
  | '\\' :: 'x' :: a :: b :: rest =>
    (ofCodePoint? [a, b]).bind fun character => prepend character (unescape false rest)
  | '\\' :: 'u' :: a :: b :: c :: d :: rest =>
    (ofCodePoint? [a, b, c, d]).bind fun character => prepend character (unescape false rest)
  | '\\' :: 'U' :: a :: b :: c :: d :: e :: f :: g :: h :: rest =>
    (ofCodePoint? [a, b, c, d, e, f, g, h]).bind fun character =>
      prepend character (unescape false rest)
  | '\\' :: letter :: rest =>
    match ofLetter? letter with
    | some character => prepend character (unescape false rest)
    | none =>
      if (afterNewline? (skipBlanks (letter :: rest))).isSome then unescape true rest else none
  | character :: rest =>
    if trimming && (isBlank character || character == '\n' || character == '\r') then
      unescape true rest
    else if character == '\\' then none
    else prepend character (unescape false rest)

def extend (character : Char) :
    Option (List Char × List Char) → Option (List Char × List Char) :=
  Option.map fun parts => (character :: parts.1, parts.2)

def basicExtent : List Char → Option (List Char × List Char)
  | [] => none
  | '"' :: rest => some ([], rest)
  | '\\' :: escaped :: rest =>
    if isControl escaped then none else extend '\\' (extend escaped (basicExtent rest))
  | character :: rest =>
    if isControl character then none else extend character (basicExtent rest)

def literalExtent : List Char → Option (List Char × List Char)
  | [] => none
  | '\'' :: rest => some ([], rest)
  | character :: rest =>
    if isControl character then none else extend character (literalExtent rest)

/-- The text up to three closing double quotes. Up to two more quotes before them belong to the
text. -/
def longBasicExtent : List Char → Option (List Char × List Char)
  | [] => none
  | '"' :: '"' :: '"' :: '"' :: '"' :: rest => some (['"', '"'], rest)
  | '"' :: '"' :: '"' :: '"' :: rest => some (['"'], rest)
  | '"' :: '"' :: '"' :: rest => some ([], rest)
  | '\\' :: escaped :: rest => extend '\\' (extend escaped (longBasicExtent rest))
  | '\n' :: rest => extend '\n' (longBasicExtent rest)
  | '\r' :: '\n' :: rest => extend '\r' (extend '\n' (longBasicExtent rest))
  | character :: rest =>
    if isControl character then none else extend character (longBasicExtent rest)

def longLiteralExtent : List Char → Option (List Char × List Char)
  | [] => none
  | '\'' :: '\'' :: '\'' :: '\'' :: '\'' :: rest => some (['\'', '\''], rest)
  | '\'' :: '\'' :: '\'' :: '\'' :: rest => some (['\''], rest)
  | '\'' :: '\'' :: '\'' :: rest => some ([], rest)
  | '\n' :: rest => extend '\n' (longLiteralExtent rest)
  | '\r' :: '\n' :: rest => extend '\r' (extend '\n' (longLiteralExtent rest))
  | character :: rest =>
    if isControl character then none else extend character (longLiteralExtent rest)

def dropFirstNewline (text : List Char) : List Char := (afterNewline? text).getD text

def escaped (extent : Option (List Char × List Char)) : Option (String × List Char) := do
  let (raw, rest) ← extent
  let characters ← unescape false raw
  some (String.ofList characters, rest)

def verbatim (extent : Option (List Char × List Char)) : Option (String × List Char) :=
  extent.map fun parts => (String.ofList parts.1, parts.2)

def readShort? : List Char → Option (String × List Char)
  | '"' :: rest => escaped (basicExtent rest)
  | '\'' :: rest => verbatim (literalExtent rest)
  | _ => none

def read? : List Char → Option (String × List Char)
  | '"' :: '"' :: '"' :: rest => escaped (longBasicExtent (dropFirstNewline rest))
  | '\'' :: '\'' :: '\'' :: rest => verbatim (longLiteralExtent (dropFirstNewline rest))
  | text => readShort? text

end ChartLint.Toml.Quoted
