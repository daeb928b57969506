import Lexing.Text.CharRange

/-!
# White space

Two notions of blank are in use when a line of source is drawn.  Its start is stripped of
*indentation*, which is spaces and tabs only; its end is stripped of *white space*, the Unicode
property of that name, which also holds line separators and the wide spaces of typography.
-/

namespace Lexing.Text

/-- The code points that have the Unicode property White_Space. -/
def whiteSpaceTable : List CharRange :=
  [⟨0x0009, 0x000D⟩, .single 0x0020, .single 0x0085, .single 0x00A0, .single 0x1680,
    ⟨0x2000, 0x200A⟩, ⟨0x2028, 0x2029⟩, .single 0x202F, .single 0x205F, .single 0x3000]

/-- Whether a character has the Unicode property White_Space. -/
def isWhiteSpace (c : Char) : Bool :=
  CharRange.anyContains whiteSpaceTable c

/-- The text without the white space at its end. -/
def trimEnd (cs : List Char) : List Char :=
  (cs.reverse.dropWhile isWhiteSpace).reverse

/-- Whether a character indents the line that starts with it: a space or a tab. -/
def isIndent (c : Char) : Bool :=
  c = ' ' || c = '\t'

/-- The number of spaces and tabs that a line starts with. -/
def indentation (line : List Char) : Nat :=
  (line.takeWhile isIndent).length

end Lexing.Text
