import WindowDecor.Text.Numeral
import WindowDecor.Text.Printable

/-!
# Texts in messages

A text that is quoted in a message stands between double quotes.  Five characters have short escapes
besides the backslash, other characters that are not printable are given by their code points, and
everything else, apostrophes included, stays as it is.
-/

namespace WindowDecor.Quoted

/-- A character inside quotes. -/
def escape (c : Char) : List Char :=
  if c = '\x00' then ['\\', '0']
  else if c = '\t' then ['\\', 't']
  else if c = '\n' then ['\\', 'n']
  else if c = '\r' then ['\\', 'r']
  else if c = '"' then ['\\', '"']
  else if c = '\\' then ['\\', '\\']
  else if isPrintable c then [c]
  else ['\\', 'u', '\x7b'] ++ Numeral.write 16 c.toNat ++ ['\x7d']

/-- A text between quotes. -/
def write (text : String) : String :=
  "\"" ++ String.ofList (text.toList.flatMap escape) ++ "\""

end WindowDecor.Quoted
