import ClusterGraph.Text.Printable

/-!
# Quoted text

Texts inside messages stand between double quotes. A quote, a backslash and the common controls
are written with a backslash, every other character that is not printable by its code point in
hexadecimal between braces.
-/

namespace ClusterGraph.Text

/-- The quoted form of one character. -/
def quoteChar (c : Char) : List Char :=
  if c = '"' then ['\\', '"']
  else if c = '\\' then ['\\', '\\']
  else if c = '\n' then ['\\', 'n']
  else if c = '\r' then ['\\', 'r']
  else if c = '\t' then ['\\', 't']
  else if c.toNat = 0 then ['\\', '0']
  else if isPrintable c then [c]
  else ['\\', 'u', Char.ofNat 0x7B] ++ Nat.toDigits 16 c.toNat ++ [Char.ofNat 0x7D]

/-- A text between double quotes, on one line. -/
def quote (s : String) : String :=
  String.ofList ('"' :: s.toList.flatMap quoteChar ++ ['"'])

example : quote "a\"\x00\x1bé" = "\"a\\\"\\0\\u\x7b1b\x7dé\"" := by decide +kernel

end ClusterGraph.Text
