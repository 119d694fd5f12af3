import ChartLint.Diagnostic.Code
import ChartLint.Diagnostic.Severity
import ChartLint.Source.Span

/-!
A single finding about a chart, and its written form.
-/

namespace ChartLint

structure Diagnostic where
  severity : Severity
  code : Code
  message : String
  span : Span
deriving DecidableEq, Repr

namespace Diagnostic

def error (code : Code) (message : String) (span : Span) : Diagnostic :=
  ⟨.error, code, message, span⟩

def warning (code : Code) (message : String) (span : Span) : Diagnostic :=
  ⟨.warning, code, message, span⟩

def info (code : Code) (message : String) (span : Span) : Diagnostic :=
  ⟨.info, code, message, span⟩

def text (diagnostic : Diagnostic) : String :=
  diagnostic.severity.text ++ "[" ++ diagnostic.code.identifier ++ "]: " ++ diagnostic.message

end Diagnostic

end ChartLint
