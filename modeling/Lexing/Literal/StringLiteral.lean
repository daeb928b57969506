import Lexing.Lexeme.Basic

/-!
# String literals

Between its quotation marks a string literal is a sequence of *elements*, each of which denotes one
character: an ordinary character denotes itself, a simple escape denotes what its letter stands for,
and a hexadecimal escape denotes the character with the given code, below 256.  An element is valid
by its type, so the literals of the language are the lists of elements.

A literal that is not closed after the longest run of elements is at fault, and what follows the run
says how.  The whole rest of its line then belongs to it, whatever stands there.
-/

namespace Lexing

/-! ## Elements -/

/-- The escapes of one letter. -/
inductive SimpleEscape where
  | newline | tab | carriageReturn | quote | backslash | null
deriving DecidableEq, Repr

namespace SimpleEscape

/-- Every simple escape. -/
def all : List SimpleEscape :=
  [.newline, .tab, .carriageReturn, .quote, .backslash, .null]

/-- The character that follows the backslash. -/
def mark : SimpleEscape → Char
  | .newline => 'n'
  | .tab => 't'
  | .carriageReturn => 'r'
  | .quote => '"'
  | .backslash => '\\'
  | .null => '0'

/-- The character that the escape denotes. -/
def value : SimpleEscape → Char
  | .newline => '\n'
  | .tab => '\t'
  | .carriageReturn => '\r'
  | .quote => '"'
  | .backslash => '\\'
  | .null => '\x00'

/-- The escape that is written with the given character. -/
def ofMark? (c : Char) : Option SimpleEscape :=
  all.find? (·.mark = c)

@[simp] theorem ofMark?_mark (e : SimpleEscape) : ofMark? e.mark = some e := by
  cases e <;> decide

theorem mark_of_ofMark? {c : Char} {e : SimpleEscape} (h : ofMark? c = some e) : e.mark = c := by
  simpa using List.find?_some h

end SimpleEscape

/-- A hexadecimal digit, in either case. -/
structure HexDigit where
  char : Char
  isHexDigit : char.isHexDigit = true
deriving DecidableEq, Repr

/-- The number that the digit stands for. -/
def HexDigit.value (d : HexDigit) : Nat :=
  if d.char.isDigit then d.char.toNat - '0'.toNat
  else if d.char.isLower then d.char.toNat - 'a'.toNat + 10
  else d.char.toNat - 'A'.toNat + 10

/-- Whether a character stands for itself in a string literal.  The quotation mark ends the literal,
the backslash starts an escape, and a line feed may not occur. -/
def isOrdinary (c : Char) : Bool :=
  c ≠ '"' && c ≠ '\\' && c ≠ '\n'

/-- A part of a string literal that denotes one character. -/
inductive Element where
  | ordinary (char : Char) (valid : isOrdinary char = true)
  | escape (escape : SimpleEscape)
  | hex (high low : HexDigit)
deriving DecidableEq, Repr

namespace Element

/-- The element as it is written. -/
def text : Element → List Char
  | .ordinary c _ => [c]
  | .escape e => ['\\', e.mark]
  | .hex high low => ['\\', 'x', high.char, low.char]

/-- The character that the element denotes. -/
def value : Element → Char
  | .ordinary c _ => c
  | .escape e => e.value
  | .hex high low => Char.ofNat (16 * high.value + low.value)

/-- The element at the front of the text. -/
def read? : List Char → Option Element
  | '\\' :: 'x' :: high :: low :: _ =>
    if h : high.isHexDigit = true ∧ low.isHexDigit = true then
      some (.hex ⟨high, h.1⟩ ⟨low, h.2⟩)
    else none
  | '\\' :: mark :: _ => (SimpleEscape.ofMark? mark).map .escape
  | c :: _ => if h : isOrdinary c = true then some (.ordinary c h) else none
  | [] => none

theorem text_ne_nil (e : Element) : e.text ≠ [] := by
  cases e <;> simp [text]

theorem text_prefix_of_read? {cs : List Char} {e : Element} (h : read? cs = some e) :
    e.text <+: cs := by
  unfold read? at h
  split at h
  · split at h
    · cases h
      exact ⟨_, rfl⟩
    · cases h
  · next mark rest _ =>
    obtain ⟨s, hs, rfl⟩ := Option.map_eq_some_iff.mp h
    exact ⟨rest, by simp [text, SimpleEscape.mark_of_ofMark? hs]⟩
  · next c rest _ _ =>
    split at h
    · cases h
      exact ⟨rest, rfl⟩
    · cases h
  · cases h

theorem length_drop_lt_of_read? {cs : List Char} {e : Element} (h : read? cs = some e) :
    (cs.drop e.text.length).length < cs.length := by
  have hp := (text_prefix_of_read? h).length_le
  have hn := List.length_pos_iff.mpr e.text_ne_nil
  simp only [List.length_drop]
  omega

/-- The longest run of elements at the front of the text, and the text behind it. -/
def readAll (cs : List Char) : List Element × List Char :=
  go [] cs
where
  /-- Reads on behind the elements `done`, which are reversed. -/
  go (done : List Element) (cs : List Char) : List Element × List Char :=
    match _ : read? cs with
    | none => (done.reverse, cs)
    | some e => go (e :: done) (cs.drop e.text.length)
  termination_by cs.length
  decreasing_by exact length_drop_lt_of_read? (by assumption)

theorem readAll_go_of_none {cs : List Char} (h : read? cs = none) (done : List Element) :
    readAll.go done cs = (done.reverse, cs) := by
  rw [readAll.go]
  split <;> simp_all

theorem readAll_go_of_some {cs : List Char} {e : Element} (h : read? cs = some e)
    (done : List Element) :
    readAll.go done cs = readAll.go (e :: done) (cs.drop e.text.length) := by
  rw [readAll.go]
  split <;> simp_all

/-- What was read before does not change what is read. -/
theorem readAll_go (done : List Element) (cs : List Char) :
    readAll.go done cs = (done.reverse ++ (readAll cs).1, (readAll cs).2) := by
  induction hn : cs.length using Nat.strongRecOn generalizing done cs with
  | ind n ih =>
    subst hn
    cases h : read? cs with
    | none => simp [readAll, readAll_go_of_none h]
    | some e =>
      have hlt := length_drop_lt_of_read? h
      rw [readAll, readAll_go_of_some h, readAll_go_of_some h, ih _ hlt _ _ rfl,
        ih _ hlt [e] _ rfl]
      simp

theorem readAll_of_none {cs : List Char} (h : read? cs = none) : readAll cs = ([], cs) :=
  readAll_go_of_none h []

theorem readAll_of_some {cs : List Char} {e : Element} (h : read? cs = some e) :
    readAll cs =
      (e :: (readAll (cs.drop e.text.length)).1, (readAll (cs.drop e.text.length)).2) := by
  rw [readAll, readAll_go_of_some h, readAll_go]
  rfl

/-- The elements read, put together, and the text behind them are the whole text. -/
theorem flatMap_text_readAll (cs : List Char) :
    (readAll cs).1.flatMap text ++ (readAll cs).2 = cs := by
  induction hn : cs.length using Nat.strongRecOn generalizing cs with
  | ind n ih =>
    subst hn
    cases h : read? cs with
    | none => simp [readAll_of_none h]
    | some e =>
      obtain ⟨rest, rfl⟩ := text_prefix_of_read? h
      rw [readAll_of_some h, List.flatMap_cons, List.append_assoc,
        ih _ (length_drop_lt_of_read? h) _ rfl, List.drop_left]

end Element

/-! ## Literals -/

namespace StringLiteral

/-- How a literal is at fault, by the text behind its longest run of elements: the line ends there,
or a backslash starts no escape.  A hexadecimal escape is reported with the characters that stand in
the place of its two digits, as far as the line and the literal go. -/
def faultAt : List Char → Fault
  | '\\' :: 'x' :: rest =>
    .invalidHexEscape
      (String.ofList ('\\' :: 'x' :: (rest.take 2).takeWhile fun c => c ≠ '\n' && c ≠ '"'))
  | '\\' :: c :: _ =>
    if c = '\n' then .unclosedString else .invalidEscape (String.ofList ['\\', c])
  | _ => .unclosedString

/-- The text of a literal with the given elements. -/
def text (elements : List Element) : List Char :=
  '"' :: (elements.flatMap Element.text ++ ['"'])

/-- The string that a sequence of elements denotes. -/
def value (elements : List Element) : String :=
  String.ofList (elements.map Element.value)

/-- The literal whose opening quotation mark stands before the text.  If it is at fault, the rest of
the line belongs to it. -/
def read (cs : List Char) : Lexeme :=
  let run := Element.readAll cs
  match run.2 with
  | '"' :: _ => ⟨.token (.string (value run.1)), text run.1⟩
  | rest => ⟨.token (.error (faultAt rest)), '"' :: cs.takeWhile (· ≠ '\n')⟩

theorem text_read_prefix (cs : List Char) : (read cs).text <+: '"' :: cs := by
  simp only [read]
  split
  · next rest h =>
    refine ⟨rest, ?_⟩
    have hcs := Element.flatMap_text_readAll cs
    rw [h] at hcs
    simp only [text, List.cons_append, List.append_assoc, List.nil_append, hcs]
  · exact (List.prefix_cons_inj _).mpr (List.takeWhile_prefix _)

theorem text_read_ne_nil (cs : List Char) : (read cs).text ≠ [] := by
  simp only [read]
  split <;> simp [text]

end StringLiteral

end Lexing
