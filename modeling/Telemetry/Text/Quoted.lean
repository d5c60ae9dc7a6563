import Telemetry.Text.PrintTable

/-!
# Quoted text

A text between double quotes in which every character can be seen: quotes and backslashes get a
backslash, tab, line ends and NUL have short forms, and what has no shape of its own is written by
its code point.
-/
namespace Telemetry.Text

/-- `\u{…}` with the code point in hexadecimal. -/
def codePoint (c : Char) : List Char :=
  '\\' :: 'u' :: '\x7b' :: (Nat.toDigits 16 c.toNat ++ ['\x7d'])

def quoteChar (c : Char) : List Char :=
  if c = '\x00' then ['\\', '0']
  else if c = '\t' then ['\\', 't']
  else if c = '\r' then ['\\', 'r']
  else if c = '\n' then ['\\', 'n']
  else if c = '"' ∨ c = '\\' then ['\\', c]
  else if hasShape c then [c]
  else codePoint c

def quote (s : String) : String :=
  String.ofList ('"' :: (s.toList.flatMap quoteChar ++ ['"']))

end Telemetry.Text
