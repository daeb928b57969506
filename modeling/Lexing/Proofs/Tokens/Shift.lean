import Lexing.Proofs.Lexeme.Front
import Lexing.Scanner.Basic

/-!
# Tokens further down in a source

A token says where it stands, and so does an error.  `Token.shift` moves a token by a number of
lines and bytes and leaves alone what it is.  The tokens that a text has when it starts further down
in a source are its tokens moved there (`tokensAt_shift`), since recognition knows nothing of
places.
-/

namespace Lexing

/-! ## Moving what has a place -/

/-- The position a number of bytes further on. -/
def Position.shift (bytes : ℕ) (p : Position) : Position :=
  { p with offset := p.offset + bytes }

/-- The span a number of bytes further on. -/
def Span.shift (bytes : ℕ) (s : Span) : Span :=
  ⟨s.start.shift bytes, s.stop.shift bytes⟩

/-- The error a number of bytes further on. -/
def LexicalError.shift (bytes : ℕ) (e : LexicalError) : LexicalError :=
  { e with position := e.position.shift bytes }

/-- The token a number of lines and bytes further on.  Its kind and its lexeme stay what they are;
where the kind is an error, the error moves too. -/
def Token.shift (lines bytes : ℕ) (t : Token) : Token where
  kind := t.kind.map (LexicalError.shift bytes)
  lexeme := t.lexeme
  line := t.line + UInt32.ofNat lines
  span := t.span.shift bytes

/-- The item a number of lines and bytes further on. -/
def Item.shift (lines bytes : ℕ) : Item → Item
  | .token t => .token (t.shift lines bytes)
  | .trivia t => .trivia { t with line := t.line + UInt32.ofNat lines }

theorem Kind.placed_shift (k : Kind Fault) (p : Position) (bytes : ℕ) :
    (k.placed p).map (LexicalError.shift bytes) = k.placed (p.shift bytes) := by
  cases k <;> rfl

theorem Span.ofLength_shift (file : String) (offset length bytes : ℕ) :
    (ofLength file offset length).shift bytes = ofLength file (offset + bytes) length := by
  simp [ofLength, shift, Position.shift, Nat.add_right_comm]

theorem Kind.map_shift_shift (k : Kind LexicalError) (bytes bytes' : ℕ) :
    (k.map (LexicalError.shift bytes)).map (LexicalError.shift bytes') =
      k.map (LexicalError.shift (bytes + bytes')) := by
  cases k <;> simp [Kind.map, LexicalError.shift, Position.shift, Nat.add_assoc]

theorem Token.shift_shift (t : Token) (lines bytes lines' bytes' : ℕ) :
    (t.shift lines bytes).shift lines' bytes' = t.shift (lines + lines') (bytes + bytes') := by
  simp [shift, Kind.map_shift_shift, Span.shift, Position.shift, UInt32.ofNat_add,
    UInt32.add_assoc, Nat.add_assoc]

theorem Item.token?_shift (item : Item) (lines bytes : ℕ) :
    (item.shift lines bytes).token? = item.token?.map (Token.shift lines bytes) := by
  cases item <;> rfl

/-! ## Placing lexemes further down -/

namespace Lexeme

theorem place_shift (l : Lexeme) (file : String) (line : UInt32) (offset lines bytes : ℕ) :
    (l.place file line offset).shift lines bytes =
      l.place file (line + UInt32.ofNat lines) (offset + bytes) := by
  rcases l with ⟨kind | kind, text⟩
  · rfl
  · simp only [place, Item.shift, Token.shift, Kind.placed_shift, Span.ofLength_shift]
    rfl

theorem placeAll_shift (ls : List Lexeme) (file : String) (line : UInt32)
    (offset lines bytes : ℕ) :
    (placeAll file line offset ls).map (Item.shift lines bytes) =
      placeAll file (line + UInt32.ofNat lines) (offset + bytes) ls := by
  induction ls generalizing line offset with
  | nil => rfl
  | cons l ls ih =>
    have hline : line + UInt32.ofNat (l.text.count '\n') + UInt32.ofNat lines =
        line + UInt32.ofNat lines + UInt32.ofNat (l.text.count '\n') := by
      rw [UInt32.add_assoc, UInt32.add_assoc, UInt32.add_comm (UInt32.ofNat lines)]
    rw [placeAll_cons, List.map_cons, place_shift, ih, placeAll_cons, hline, Nat.add_right_comm]

/-! ## The tokens of a text -/

/-- The tokens of a text that starts on a line of a file, at a byte offset. -/
def tokensAt (policy : Policy) (file : String) (line : UInt32) (offset : ℕ) (cs : List Char) :
    List Token :=
  (placeAll file line offset (lexemes policy cs)).filterMap Item.token?

variable {policy : Policy} {file : String} {line : UInt32} {offset : ℕ}

@[simp] theorem tokensAt_nil : tokensAt policy file line offset [] = [] := by
  rw [tokensAt, lexemes_nil]
  rfl

/-- The tokens of a text are the one at its front, if the lexeme there is a token, and those of the
rest. -/
theorem tokensAt_of_front {l : Lexeme} {after : List Char} (h : Front policy l after) :
    tokensAt policy file line offset (l.text ++ after) =
      (l.place file line offset).token?.toList ++
        tokensAt policy file (line + UInt32.ofNat (l.text.count '\n'))
          (offset + Text.utf8Length l.text) after := by
  rw [tokensAt, lexemes_of_next? h.next?_eq_some, List.drop_left, placeAll_cons,
    List.filterMap_cons]
  cases (l.place file line offset).token? <;> rfl

theorem tokensAt_shift (cs : List Char) (lines bytes : ℕ) :
    (tokensAt policy file line offset cs).map (Token.shift lines bytes) =
      tokensAt policy file (line + UInt32.ofNat lines) (offset + bytes) cs := by
  rw [tokensAt, tokensAt, ← placeAll_shift, List.map_filterMap, List.filterMap_map]
  congr 1
  funext item
  exact (item.token?_shift lines bytes).symm

theorem tokenize_eq_tokensAt (source : String) (file : Option String) (policy : Policy) :
    tokenize source file policy =
      tokensAt policy (file.getD Scanner.unnamed) 1 0 source.toList :=
  tokenize_eq source file policy

end Lexeme

end Lexing
