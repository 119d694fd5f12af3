import ChartLint.Config.Basic
import ChartLint.Config.Mismatch

/-!
Reading a configuration from named members. What a member's value may be depends on the format;
which names there are, and that the first fault in the order of the members is the one reported,
does not.
-/

namespace ChartLint

def Code.named (name : String) : Except Mismatch Code :=
  match Code.ofName? name with
  | some code => .ok code
  | none => .error (.unknownCode name)

def Config.depthOf (number : Int) : Except Mismatch Nat :=
  if number < 0 then .error (.wrongValue (.integer number) .depth)
  else if number < Int.pow 2 64 then .ok number.toNat
  else .error (.wrongType (.wideInteger number) .depth)

structure MemberReader (α ε : Type) where
  suppress : α → Except ε (List Code)
  maxGroupDepth : α → Except ε (Option Nat)
  unknown : String → ε

namespace MemberReader

variable {α ε : Type}

def set (reader : MemberReader α ε) (name : String) (value : α) (config : Config) :
    Except ε Config :=
  if name = "suppress" then do
    let codes ← reader.suppress value
    .ok { config with suppress := codes }
  else if name = "max_group_depth" then do
    let depth ← reader.maxGroupDepth value
    .ok { config with maxGroupDepth := depth }
  else .error (reader.unknown name)

def read (reader : MemberReader α ε) : List (String × α) → Config → Except ε Config
  | [], config => .ok config
  | (name, value) :: rest, config => do reader.read rest (← reader.set name value config)

end MemberReader

end ChartLint
