import ChartLint.Binary64.Written
import ChartLint.Config.Members
import ChartLint.Toml.Document

/-!
Reading a configuration from TOML text. A fault of the grammar anywhere goes before a fault of a
value, and of those the first in the order of the names is reported.
-/

namespace ChartLint

inductive ConfigError where
  | notToml
  /-- No type can hold a number: it is past all of them, or its digits are none. -/
  | unreadable
  | notACode
  | mismatch (cause : Mismatch)
deriving DecidableEq, Repr

namespace ConfigError

/-- What is said about the fault itself. Only mismatches are described. -/
def detail : ConfigError → String
  | notToml => ""
  | unreadable => ""
  | notACode => ""
  | mismatch cause => cause.text

def message (error : ConfigError) : String :=
  "Failed to parse TOML configuration: " ++ error.detail

end ConfigError

namespace Toml.Value

def foundInteger (number : Int) : Option Found :=
  if -Int.pow 2 63 ≤ number ∧ number < Int.pow 2 64 then some (.integer number)
  else if -Int.pow 2 127 ≤ number ∧ number < Int.pow 2 128 then some (.wideInteger number)
  else none

def foundDecimal (decimal : Decimal) : Option Found :=
  let number := Binary64.ofDecimal decimal
  if number.isInfinite then none else some (.float (number.write .plain))

def found : Value → Option Found
  | bool value => some (.bool value)
  | integer number => foundInteger number
  | unreadable => none
  | decimal number => foundDecimal number
  | infinity negative => some (.float (if negative then "-inf" else "inf"))
  | nan => some (.float "NaN")
  | string text => some (.string text)
  | moment _ => some .map
  | array .. => some .sequence
  | table .. => some .map

def isNothing : Value → Bool
  | array _ elements => elements.isEmpty
  | table _ fields => fields.isEmpty
  | _ => false

end Toml.Value

namespace ConfigError

def unwanted (value : Toml.Value) (wanted : Wanted) : ConfigError :=
  match value.found with
  | some found => .mismatch (.wrongType found wanted)
  | none => .unreadable

def ofMismatch {α : Type} : Except Mismatch α → Except ConfigError α
  | .ok value => .ok value
  | .error cause => .error (.mismatch cause)

end ConfigError

/-- A code is its name, or a table with its name as the only field and nothing under it. The name
is looked at before the value. -/
def Code.ofToml : Toml.Value → Except ConfigError Code
  | .string name => ConfigError.ofMismatch (Code.named name)
  | .table _ [(name, payload)] => do
    let code ← ConfigError.ofMismatch (Code.named name)
    if payload.isNothing then .ok code else .error .notACode
  | _ => .error .notACode

namespace Config

def suppressOfToml : Toml.Value → Except ConfigError (List Code)
  | .array _ elements => elements.mapM Code.ofToml
  | other => .error (.unwanted other .codes)

def depthOfToml : Toml.Value → Except ConfigError (Option Nat)
  | .integer number =>
    if -Int.pow 2 63 ≤ number ∧ number < Int.pow 2 64 then
      ConfigError.ofMismatch (some <$> depthOf number)
    else .error (.unwanted (.integer number) .depth)
  | other => .error (.unwanted other .depth)

def tomlMembers : MemberReader Toml.Value ConfigError where
  suppress := suppressOfToml
  maxGroupDepth := depthOfToml
  unknown name := .mismatch (.unknownField name)

def ofTomlTable (fields : Toml.Fields) : Except ConfigError Config := tomlMembers.read fields {}

def ofToml (text : String) : Except ConfigError Config :=
  match Toml.parse? text with
  | some fields => ofTomlTable fields
  | none => .error .notToml

end Config

end ChartLint
