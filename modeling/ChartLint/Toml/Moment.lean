/-!
Dates and times of day in TOML: `2000-02-29`, `07:32`, or both with a `T` or one space between
them, and then perhaps an offset.
-/

namespace ChartLint.Toml.Moment

def number? (digits : List Char) : Option Nat :=
  if digits.all Char.isDigit then some (Nat.ofDigitChars 10 digits 0) else none

def within (least greatest : Nat) (digits : List Char) : Bool :=
  match number? digits with
  | some number => decide (least ≤ number) && decide (number ≤ greatest)
  | none => false

def isLeapYear (year : Nat) : Bool :=
  decide (year % 4 = 0) && (decide (year % 100 ≠ 0) || decide (year % 400 = 0))

def daysInMonth (year month : Nat) : Nat :=
  if month = 2 then if isLeapYear year then 29 else 28
  else if month = 4 ∨ month = 6 ∨ month = 9 ∨ month = 11 then 30
  else 31

def isDate (year month day : List Char) : Bool :=
  match number? year, number? month with
  | some year, some monthNumber =>
    within 1 12 month && within 1 (daysInMonth year monthNumber) day
  | _, _ => false

def afterDate? : List Char → Option (List Char)
  | a :: b :: c :: d :: '-' :: e :: f :: '-' :: g :: h :: rest =>
    if isDate [a, b, c, d] [e, f] [g, h] then some rest else none
  | _ => none

def afterFraction? (text : List Char) : Option (List Char) :=
  match text with
  | digit :: rest => if digit.isDigit then some (rest.dropWhile Char.isDigit) else none
  | [] => none

/-- The text after the seconds of a time, which may be left out; a minute may have a leap second. -/
def afterSeconds? : List Char → Option (List Char)
  | ':' :: a :: b :: '.' :: rest => if within 0 60 [a, b] then afterFraction? rest else none
  | ':' :: a :: b :: rest => if within 0 60 [a, b] then some rest else none
  | rest => some rest

def afterTime? : List Char → Option (List Char)
  | a :: b :: ':' :: c :: d :: rest =>
    if within 0 23 [a, b] && within 0 59 [c, d] then afterSeconds? rest else none
  | _ => none

def isOffset : List Char → Bool
  | [] => true
  | ['Z'] => true
  | ['z'] => true
  | [sign, a, b, ':', c, d] =>
    (sign == '+' || sign == '-') && within 0 23 [a, b] && within 0 59 [c, d]
  | _ => false

def isTime (dated : Bool) (text : List Char) : Bool :=
  match afterTime? text with
  | some rest => if dated then isOffset rest else rest.isEmpty
  | none => false

def isMoment (text : List Char) : Bool :=
  match afterDate? text with
  | none => isTime false text
  | some [] => true
  | some (between :: rest) =>
    (between == 'T' || between == 't' || between == ' ') && isTime true rest

end ChartLint.Toml.Moment
