/-!
What stands between the parts of a TOML document: blanks, comments and line ends. A control
character other than the tab is allowed nowhere, in comments neither, and a carriage return only
before a line feed.
-/

namespace ChartLint.Toml

def isBlank (character : Char) : Bool := character == ' ' || character == '\t'

def isControl (character : Char) : Bool :=
  (decide (character.toNat < 0x20) && character != '\t') || character == '\x7f'

def skipBlanks (text : List Char) : List Char := text.dropWhile isBlank

def afterNewline? : List Char → Option (List Char)
  | '\n' :: rest => some rest
  | '\r' :: '\n' :: rest => some rest
  | _ => none

def afterLine? (text : List Char) : Option (List Char) :=
  let rest :=
    match skipBlanks text with
    | '#' :: comment => comment.dropWhile (!isControl ·)
    | other => other
  match rest with
  | [] => some []
  | more => afterNewline? more

/-- Skips blanks, comments and line ends; stops at anything else, also inside a comment. -/
def skipFiller (inComment : Bool) : List Char → List Char
  | [] => []
  | '\n' :: rest => skipFiller false rest
  | '\r' :: '\n' :: rest => skipFiller false rest
  | character :: rest =>
    if inComment then
      if isControl character then character :: rest else skipFiller true rest
    else if isBlank character then skipFiller false rest
    else if character == '#' then skipFiller true rest
    else character :: rest

end ChartLint.Toml
