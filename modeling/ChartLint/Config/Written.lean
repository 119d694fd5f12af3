import ChartLint.Config.Basic

/-!
A configuration written as TOML, a line for each place that is set.
-/

namespace ChartLint.Config

inductive Setting where
  | suppress (codes : List Code)
  | maxGroupDepth (depth : Nat)
deriving DecidableEq, Repr

namespace Setting

def name : Setting → String
  | suppress _ => "suppress"
  | maxGroupDepth _ => "max_group_depth"

def written : Setting → String
  | suppress codes =>
    let quoted := codes.map fun code => "\"" ++ code.identifier ++ "\""
    "[" ++ ", ".intercalate quoted ++ "]"
  | maxGroupDepth depth => toString depth

def line (setting : Setting) : String := setting.name ++ " = " ++ setting.written

end Setting

/-- That no code is suppressed need not be said; `listed` says it all the same. -/
def codesSettings (listed : Bool) (codes : List Code) : List Setting :=
  if listed || !codes.isEmpty then [.suppress codes] else []

def settings (listed : Bool) (config : Config) : List Setting :=
  (config.maxGroupDepth.map .maxGroupDepth).toList ++ codesSettings listed config.suppress

def document (settings : List Setting) (ending : String) : String :=
  "\n".intercalate (settings.map Setting.line) ++ ending

end ChartLint.Config
