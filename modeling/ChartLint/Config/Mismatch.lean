import ChartLint.Diagnostic.Code
import ChartLint.Text.Quoted

/-!
Why a value is not a configuration. A mismatch names what was found and what was wanted; the
wording of every message is here.
-/

namespace ChartLint

inductive Found where
  | null
  | bool (value : Bool)
  | integer (number : Int)
  | wideInteger (number : Int)
  | float (written : String)
  | string (text : String)
  | sequence
  | map
deriving DecidableEq, Repr

namespace Found

/-- A wide integer is named with the least type that holds it. -/
def text : Found → String
  | null => "null"
  | bool value => "boolean `" ++ (if value then "true" else "false") ++ "`"
  | integer number => "integer `" ++ toString number ++ "`"
  | wideInteger number =>
    "integer `" ++ toString number ++ "` as " ++ if number < Int.pow 2 127 then "i128" else "u128"
  | float written => "floating point `" ++ written ++ "`"
  | string text => "string " ++ Text.quote text
  | sequence => "sequence"
  | map => "map"

end Found

inductive Wanted where
  | nothing
  | code
  | singleKey
  | codes
  | depth
  | config
  | noMore
deriving DecidableEq, Repr

namespace Wanted

def text : Wanted → String
  | nothing => "unit"
  | code => "string or map"
  | singleKey => "map with a single key"
  | codes => "a sequence"
  | depth => "usize"
  | config => "struct CheckConfig"
  | noMore => "fewer elements in array"

end Wanted

inductive Mismatch where
  | unknownField (name : String)
  | unknownCode (name : String)
  | wrongType (found : Found) (wanted : Wanted)
  /-- The type is right and the value is not. -/
  | wrongValue (found : Found) (wanted : Wanted)
  | tooLong (length : Nat)
deriving DecidableEq, Repr

namespace Mismatch

def codeNames : String :=
  ", ".intercalate (Code.all.map fun code => "`" ++ code.declaredName ++ "`")

/-- Names are written as they were found, without quoting. -/
def text : Mismatch → String
  | unknownField name =>
    "unknown field `" ++ name ++ "`, expected `suppress` or `max_group_depth`"
  | unknownCode name => "unknown variant `" ++ name ++ "`, expected one of " ++ codeNames
  | wrongType found wanted => "invalid type: " ++ found.text ++ ", expected " ++ wanted.text
  | wrongValue found wanted => "invalid value: " ++ found.text ++ ", expected " ++ wanted.text
  | tooLong length => "invalid length " ++ toString length ++ ", expected " ++ Wanted.noMore.text

end Mismatch

end ChartLint
