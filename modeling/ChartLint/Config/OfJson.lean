import ChartLint.Binary64.Written
import ChartLint.Config.Members
import ChartLint.Json.Value

/-!
Codes as JSON values, and reading codes and configurations from JSON values.
-/

namespace ChartLint

namespace Json.Value

def found : Value → Found
  | null => .null
  | bool value => .bool value
  | integer number => .integer number
  | float number => .float (number.write .compact)
  | string text => .string text
  | list _ => .sequence
  | object _ => .map

end Json.Value

def Code.toJson (code : Code) : Json.Value := .string code.declaredName

/-- A code is its name, or an object with its name as the only member and null as the value. The
name is looked at before the value. -/
def Code.ofJson : Json.Value → Except Mismatch Code
  | .string name => Code.named name
  | .object [(name, payload)] => do
    let code ← Code.named name
    match payload with
    | .null => .ok code
    | other => .error (.wrongType other.found .nothing)
  | .object _ => .error (.wrongValue .map .singleKey)
  | other => .error (.wrongType other.found .code)

namespace Config

def suppressOfJson : Json.Value → Except Mismatch (List Code)
  | .list elements => elements.mapM Code.ofJson
  | other => .error (.wrongType other.found .codes)

def depthOfJson : Json.Value → Except Mismatch (Option Nat)
  | .null => .ok none
  | .integer number => some <$> depthOf number
  | other => .error (.wrongType other.found .depth)

def jsonMembers : MemberReader Json.Value Mismatch where
  suppress := suppressOfJson
  maxGroupDepth := depthOfJson
  unknown := .unknownField

def ofElements : List Json.Value → Except Mismatch Config
  | [] => .ok {}
  | [suppress] => do
    .ok { suppress := ← suppressOfJson suppress }
  | [suppress, depth] => do
    let codes ← suppressOfJson suppress
    .ok { suppress := codes, maxGroupDepth := ← depthOfJson depth }
  | suppress :: depth :: more => do
    let _ ← suppressOfJson suppress
    let _ ← depthOfJson depth
    .error (.tooLong (more.length + 2))

def ofJson : Json.Value → Except Mismatch Config
  | .object members => jsonMembers.read members {}
  | .list elements => ofElements elements
  | other => .error (.wrongType other.found .config)

end Config

end ChartLint
