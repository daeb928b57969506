/-!
# Places in a source

A `Position` is a byte offset in a named source, and a `Span` runs from one position up to another.
Positions are compared as a whole, name included; the length of a span and the question whether it
is empty look at the offsets alone.
-/

namespace Lexing

/-- A byte offset in the source of the given name. -/
structure Position where
  offset : Nat
  file : String
deriving DecidableEq, Repr

/-- The position of something that no source holds. -/
def Position.null : Position := ⟨0, "<null>"⟩

/-- The stretch of source from `start` up to, and without, `stop`. -/
structure Span where
  start : Position
  stop : Position
deriving DecidableEq, Repr

namespace Span

/-- The number of bytes in the span; none if it ends before it starts. -/
def length (s : Span) : Nat := s.stop.offset - s.start.offset

/-- Whether the span starts and ends at the same offset. -/
def isEmpty (s : Span) : Bool := s.start.offset = s.stop.offset

/-- The span of `text` in a source, when it starts at `offset`. -/
def ofLength (file : String) (offset length : Nat) : Span :=
  ⟨⟨offset, file⟩, ⟨offset + length, file⟩⟩

end Span

end Lexing
