import ChartLint.Text.Unprintable

/-!
Text in quotes, on one line and with nothing in it that cannot be seen.
-/

namespace ChartLint.Text

def quoteChar (character : Char) : List Char :=
  match character with
  | '\x00' => ['\\', '0']
  | '\t' => ['\\', 't']
  | '\n' => ['\\', 'n']
  | '\r' => ['\\', 'r']
  | '"' => ['\\', '"']
  | '\\' => ['\\', '\\']
  | other =>
    if unprintable other then
      ['\\', 'u', '\x7b'] ++ Nat.toDigits 16 other.toNat ++ ['\x7d']
    else [other]

def quote (text : String) : String :=
  String.ofList ('"' :: (text.toList.flatMap quoteChar ++ ['"']))

/-- A character without a letter of its own, and one that is shown as it is. -/
example : quote "a\u200bé\"" = "\"a\\u\x7b200b\x7dé\\\"\"" := by decide +kernel

end ChartLint.Text
