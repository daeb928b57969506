import Lexing.Fault
import Lexing.Token.Keyword
import Lexing.Token.Symbol

/-!
# Kinds of token

A `Kind` tells what a token is, together with the value that such a token has.  The type of what an
error carries is a parameter: it is a `Fault` while only the text is known, and a `LexicalError`
once the text has a place.  `Kind.placed` and `Kind.unplaced` lead from one to the other.
-/

namespace Lexing

/-- What a token is, with its value.  Errors carry an `ε`. -/
inductive Kind (ε : Type) where
  /-- A word that is not a keyword. -/
  | identifier
  /-- A decimal number. -/
  | number (value : Int32)
  /-- A number with the suffix that makes it a byte. -/
  | byteNumber (value : UInt8)
  /-- A string literal, with its escapes decoded. -/
  | string (content : String)
  | keyword (keyword : Keyword)
  | symbol (symbol : Symbol)
  /-- Text that is no token of the language. -/
  | error (error : ε)
deriving DecidableEq, Repr

namespace Kind

variable {ε δ : Type}

/-- The same kind, with the error replaced if there is one. -/
def map (f : ε → δ) : Kind ε → Kind δ
  | .identifier => .identifier
  | .number value => .number value
  | .byteNumber value => .byteNumber value
  | .string content => .string content
  | .keyword k => .keyword k
  | .symbol s => .symbol s
  | .error e => .error (f e)

/-- Whether the token is an error. -/
def isError : Kind ε → Bool
  | .error _ => true
  | _ => false

/-- Whether the token is a keyword. -/
def isKeyword : Kind ε → Bool
  | .keyword _ => true
  | _ => false

/-- The error, if the token is one. -/
def error? : Kind ε → Option ε
  | .error e => some e
  | _ => none

@[simp] theorem isError_map (f : ε → δ) (k : Kind ε) : (k.map f).isError = k.isError := by
  cases k <;> rfl

@[simp] theorem error?_map (f : ε → δ) (k : Kind ε) : (k.map f).error? = k.error?.map f := by
  cases k <;> rfl

theorem isSome_error? (k : Kind ε) : k.error?.isSome = k.isError := by
  cases k <;> rfl

/-- The kind of a token whose text starts at the given position. -/
def placed (position : Position) (k : Kind Fault) : Kind LexicalError :=
  k.map (⟨·, position⟩)

/-- The kind without the place of the error. -/
def unplaced (k : Kind LexicalError) : Kind Fault :=
  k.map LexicalError.fault

@[simp] theorem unplaced_placed (position : Position) (k : Kind Fault) :
    (k.placed position).unplaced = k := by
  cases k <;> rfl

/-- The name of the kind in the catalog: under it the token is listed. -/
def catalogName : Kind Fault → String
  | .identifier => "ID"
  | .number _ => "NUM"
  | .byteNumber _ => "NUM_B"
  | .string _ => "STRING"
  | .keyword k => k.catalogName
  | .symbol s => s.catalogName
  | .error fault => fault.catalogName

end Kind

end Lexing
