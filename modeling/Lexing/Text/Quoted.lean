import Lexing.Text.Printable

/-!
# Source text inside messages

Messages quote the source in one of two ways.

* `quotedChar` and `quotedString` write text between delimiters.  The backslash and the delimiter
  itself are escaped, the commonest control characters have a letter, every other character that
  cannot be seen is given by its code point, and the rest stands for itself.
* `asciiEscaped` writes one character in ASCII only, without delimiters; both quotation marks are
  escaped in it.

A code point is written as a backslash, a `u` and its hexadecimal digits in braces.
-/

namespace Lexing.Text

/-- A character by its code point: lower-case hexadecimal digits in braces, without padding. -/
def codePointEscape (c : Char) : List Char :=
  ['\\', 'u', '\x7b'] ++ Nat.toDigits 16 c.toNat ++ ['\x7d']

/-! ## Text between delimiters -/

/-- One character as it is written between two `delimiter`s. -/
def quotedBody (delimiter c : Char) : List Char :=
  if c = '\x00' then ['\\', '0']
  else if c = '\t' then ['\\', 't']
  else if c = '\r' then ['\\', 'r']
  else if c = '\n' then ['\\', 'n']
  else if c = '\\' ∨ c = delimiter then ['\\', c]
  else if isPrintable c then [c]
  else codePointEscape c

/-- Text between two `delimiter`s. -/
def quoted (delimiter : Char) (cs : List Char) : List Char :=
  delimiter :: (cs.flatMap (quotedBody delimiter) ++ [delimiter])

/-- A character between single quotation marks. -/
def quotedChar (c : Char) : String :=
  String.ofList (quoted '\'' [c])

/-- Text between double quotation marks. -/
def quotedString (s : String) : String :=
  String.ofList (quoted '"' s.toList)

/-! ## A character in ASCII -/

/-- A character in ASCII: those from the space to the tilde stand for themselves, apart from the
backslash and the quotation marks. -/
def asciiEscaped (c : Char) : String :=
  String.ofList <|
    if c = '\t' then ['\\', 't']
    else if c = '\r' then ['\\', 'r']
    else if c = '\n' then ['\\', 'n']
    else if c = '\\' ∨ c = '\'' ∨ c = '"' then ['\\', c]
    else if 0x20 ≤ c.toNat ∧ c.toNat ≤ 0x7E then [c]
    else codePointEscape c

end Lexing.Text
