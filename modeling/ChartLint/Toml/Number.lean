import ChartLint.Toml.Quoted
import ChartLint.Toml.Value

/-!
Numbers in TOML. An underscore may stand between two digits. Decimal integers have no leading
zeros and may have a sign; those of another base follow `0x`, `0o` or `0b` and have none. An integer
is known by its first digits and its underscores alone, so that what else stands in it may make it
unreadable.
-/

namespace ChartLint.Toml.Number

def ungroup? (isDigit : Char → Bool) : List Char → Option (List Char)
  | [] => none
  | [digit] => if isDigit digit then some [digit] else none
  | digit :: '_' :: rest =>
    if isDigit digit then (ungroup? isDigit rest).map (digit :: ·) else none
  | digit :: rest => if isDigit digit then (ungroup? isDigit rest).map (digit :: ·) else none

def digits? (text : List Char) : Option (List Char × Nat) :=
  (ungroup? Char.isDigit text).map fun digits => (digits, Nat.ofDigitChars 10 digits 0)

def inBase? (base : Nat) (text : List Char) : Option Nat := do
  let below (digit : Char) : Bool :=
    match Quoted.hexDigit? digit with
    | some number => decide (number < base)
    | none => false
  let digits ← ungroup? below text
  digits.foldlM (fun number digit => (Quoted.hexDigit? digit).map (base * number + ·)) 0

/-- The integer after a mark of its base. Without any digits it is unreadable. -/
def based? (base : Nat) : List Char → Option Value
  | [] => some .unreadable
  | digits => (inBase? base digits).map fun number => .integer number

inductive Sign where
  | absent
  | plus
  | minus
deriving DecidableEq, Repr

def splitSign : List Char → Sign × List Char
  | '-' :: rest => (.minus, rest)
  | '+' :: rest => (.plus, rest)
  | text => (.absent, text)

def Sign.apply (sign : Sign) (magnitude : Nat) : Int :=
  if sign = .minus then -(magnitude : Int) else magnitude

def whole? : List Char → Option Nat
  | '0' :: _ :: _ => none
  | text => (digits? text).map Prod.snd

def isExponentMark (character : Char) : Bool := character == 'e' || character == 'E'

def exponent? : List Char → Option Int
  | [] => some 0
  | _ :: text =>
    let (sign, body) := splitSign text
    (digits? body).map fun parts => sign.apply parts.2

def places? : List Char → Option (List Char × Nat)
  | [] => some ([], 0)
  | _ :: text => digits? text

def decimal? (sign : Sign) (text : List Char) : Option Value := do
  let mantissa := text.takeWhile (!isExponentMark ·)
  let wholeText := mantissa.takeWhile (· != '.')
  let whole ← whole? wholeText
  let (places, number) ← places? (mantissa.drop wholeText.length)
  let exponent ← exponent? (text.drop mantissa.length)
  some (.decimal
    ⟨decide (sign = .minus), whole * Nat.pow 10 places.length + number, exponent - places.length⟩)

def isHexDigit (character : Char) : Bool := (Quoted.hexDigit? character).isSome

def joins (joined : Bool) : List Char → Bool
  | [] => true
  | ['_'] => false
  | '_' :: next :: rest => joined && isHexDigit next && joins true rest
  | character :: rest => joins (isHexDigit character) rest

/-- The text goes on with an underscore after its first digits, which is enough to take it for an
integer unless there is a space in it. -/
def isGrouped (text : List Char) : Bool :=
  (text.dropWhile Char.isDigit).head? == some '_' && text.head? != some '0' &&
    !text.contains ' ' && joins false text

def integer? (sign : Sign) (text : List Char) : Option Value :=
  match whole? text with
  | some number => some (.integer (sign.apply number))
  | none => if isGrouped text then some .unreadable else none

def read? (text : List Char) : Option Value :=
  match text with
  | '0' :: 'x' :: digits => based? 16 digits
  | '0' :: 'o' :: digits => based? 8 digits
  | '0' :: 'b' :: digits => based? 2 digits
  | _ =>
    match splitSign text with
    | (sign, ['i', 'n', 'f']) => some (.infinity (decide (sign = .minus)))
    | (_, ['n', 'a', 'n']) => some .nan
    | (sign, body) =>
      if body.any fun character => character == '.' || isExponentMark character then
        decimal? sign body
      else integer? sign body

end ChartLint.Toml.Number
