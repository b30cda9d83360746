import Testbed.Text.Printable

/-!
# Quoted paths

A path is shown between double quotes. A double quote and a backslash get a backslash before them;
tab, line feed, carriage return and NUL are written `\t`, `\n`, `\r` and `\0`; any other character
that does not print as itself is written as its code point, `\u{200b}`.
-/

namespace Testbed.Text.Quoted

/-- The code point of `c` in lower-case hexadecimal. -/
def codePoint (c : Char) : List Char :=
  ['\\', 'u', '\x7b'] ++ Nat.toDigits 16 c.toNat ++ ['\x7d']

def escape (c : Char) : List Char :=
  if c = '\x00' then ['\\', '0']
  else if c = '\t' then ['\\', 't']
  else if c = '\n' then ['\\', 'n']
  else if c = '\r' then ['\\', 'r']
  else if c = '\x22' ∨ c = '\\' then ['\\', c]
  else if printsAlone c then [c]
  else codePoint c

/-- `s` between double quotes, with escapes. -/
def quote (s : String) : String :=
  .ofList ('\x22' :: s.toList.flatMap escape ++ ['\x22'])

end Testbed.Text.Quoted
