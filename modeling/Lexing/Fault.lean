import Lexing.Position
import Lexing.Text.Quoted

/-!
# Faults

A `Fault` says what is wrong with a piece of text, without saying where.  It is found while only the
text is known; a `LexicalError` adds the place.  Keeping the two apart lets statements about what is
recognised be free of offsets.

Each fault has a name, a catalog name under which its token is listed, a message, and a tip that
says what the language would have accepted.
-/

namespace Lexing

/-- What is wrong with a decimal number. -/
inductive NumberIssue where
  | leadingZero
  | outOfRange
deriving DecidableEq, Repr

/-- The issue as a message gives it. -/
def NumberIssue.text : NumberIssue → String
  | .leadingZero => "leading zero"
  | .outOfRange => "out of range"

/-- What is wrong with a piece of source text. -/
inductive Fault where
  /-- The character starts nothing in the language. -/
  | unknownCharacter (character : Char)
  /-- A string literal is not closed on its line. -/
  | unclosedString
  /-- A backslash stands before a character that it cannot escape. -/
  | invalidEscape (sequence : String)
  /-- The hexadecimal escape lacks its two digits. -/
  | invalidHexEscape (sequence : String)
  /-- A number is not written, or not of a size, that the language accepts. -/
  | malformedNumber (lexeme : String) (issue : NumberIssue)
  /-- A byte literal is too large for a byte. -/
  | malformedByteLiteral (lexeme : String)
deriving DecidableEq, Repr

/-- Advice that may accompany an error. -/
inductive Tip where
  | none
  | suggestion (text : String)
deriving DecidableEq, Repr

/-- The advice in words; the absence of advice is empty. -/
def Tip.text : Tip → String
  | .none => ""
  | .suggestion text => text

/-- The largest value of a number. -/
def numberLimit : Nat := 2147483647

/-- The largest value of a byte literal. -/
def byteLimit : Nat := 255

namespace Fault

/-- The name that diagnostics give the fault. -/
def name : Fault → String
  | .unknownCharacter _ => "UnknownCharacter"
  | .unclosedString => "UnclosedString"
  | .invalidEscape _ => "InvalidEscape"
  | .invalidHexEscape _ => "InvalidHexEscape"
  | .malformedNumber _ _ => "MalformedNumber"
  | .malformedByteLiteral _ => "MalformedByteLiteral"

/-- The name of the fault in the catalog of token kinds. -/
def catalogName : Fault → String
  | .unknownCharacter _ => "UNKNOWN_CHAR"
  | .unclosedString => "UNCLOSED_STRING"
  | .invalidEscape _ => "ESCAPE_ERROR"
  | .invalidHexEscape _ => "HEX_ERROR"
  | .malformedNumber _ _ => "NUM_ERROR"
  | .malformedByteLiteral _ => "NUM_B_ERROR"

/-- The fault in one phrase, with the text at fault quoted. -/
def message : Fault → String
  | .unknownCharacter c => "unknown character " ++ Text.quotedChar c
  | .unclosedString => "unclosed string"
  | .invalidEscape sequence => "undefined escape sequence " ++ Text.quotedString sequence
  | .invalidHexEscape sequence => "malformed hex escape sequence " ++ Text.quotedString sequence
  | .malformedNumber lexeme issue =>
    "malformed number " ++ Text.quotedString lexeme ++ ": " ++ issue.text
  | .malformedByteLiteral lexeme => "byte literal " ++ Text.quotedString lexeme ++ " out of range"

/-- What the language would have accepted. -/
def tip : Fault → Tip
  | .unknownCharacter c =>
    .suggestion ("`" ++ Text.asciiEscaped c ++ "` is not part of the language")
  | .unclosedString => .suggestion "string literals must be closed on the line they start"
  | .invalidEscape sequence =>
    .suggestion
      ("Unknown escape `" ++ sequence ++ "`, expected one of \\n \\t \\r \\\" \\\\ \\0 \\xHH")
  | .invalidHexEscape sequence =>
    .suggestion ("Invalid hex escape `" ++ sequence ++ "`, expected exactly two hex digits")
  | .malformedNumber _ .leadingZero => .suggestion "Numbers other than 0 may not start with a 0"
  | .malformedNumber _ .outOfRange =>
    .suggestion ("Number is above the integer limit of " ++ toString numberLimit)
  | .malformedByteLiteral _ => .suggestion "Byte literals must lie between 0b and 255b"

end Fault

/-- A fault and the place where the text at fault starts. -/
structure LexicalError where
  fault : Fault
  position : Position
deriving DecidableEq, Repr

end Lexing
