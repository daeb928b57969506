import Lexing.Literal.StringLiteral
import Mathlib.Data.List.Basic
import Mathlib.Tactic.IntervalCases

/-!
# The grammar of string literals

Which texts are string literals, and what they denote, is said here by rules alone.  `Denotes` lists
the ways to write one character between quotation marks; a `Part` is an instance of one of them,
valid by its type; `written` and `denoted` say how a list of parts is written and what it denotes.

`Part.exists_ofElement` ties the rules to the elements that are read off a text, and
`Element.readAll_append` says that reading finds the elements of a text again.  A literal is
therefore written in one way only (`eq_of_written_append`), even when other text follows it, and
`read_eq_string_iff` says that the reader accepts what the grammar derives and nothing else.
-/

namespace Lexing

/-! ## Hexadecimal digits -/

/-- The character is a hexadecimal digit of the given value, in lower or in upper case. -/
def HexValue (c : Char) (v : ℕ) : Prop :=
  "0123456789abcdef".toList[v]? = some c ∨ "0123456789ABCDEF".toList[v]? = some c

instance (c : Char) (v : ℕ) : Decidable (HexValue c v) :=
  inferInstanceAs (Decidable (_ ∨ _))

theorem mem_of_isHexDigit {c : Char} (h : c.isHexDigit = true) :
    c ∈ "0123456789abcdefABCDEF".toList := by
  have hranges : (48 ≤ c.toNat ∧ c.toNat ≤ 57) ∨ (97 ≤ c.toNat ∧ c.toNat ≤ 102) ∨
      (65 ≤ c.toNat ∧ c.toNat ≤ 70) := by
    have hval : c.toNat = c.val.toNat := rfl
    simp [Char.isHexDigit, Char.isDigit, UInt32.le_iff_toNat_le] at h
    omega
  rw [← Char.ofNat_toNat c]
  generalize c.toNat = n at hranges
  rcases hranges with ⟨hl, hu⟩ | ⟨hl, hu⟩ | ⟨hl, hu⟩
  all_goals interval_cases n <;> decide

theorem HexDigit.hexValue_value (d : HexDigit) : HexValue d.char d.value := by
  obtain ⟨c, hc⟩ := d
  have hall : ("0123456789abcdefABCDEF".toList.all fun c =>
      if hc : c.isHexDigit = true then HexValue c (HexDigit.value ⟨c, hc⟩) else True) = true := by
    decide
  have hvalue := List.all_eq_true.mp hall c (mem_of_isHexDigit hc)
  rwa [dif_pos hc, decide_eq_true_eq] at hvalue

theorem HexDigit.exists_of_hexValue {c : Char} {v : ℕ} (h : HexValue c v) :
    ∃ d : HexDigit, d.char = c ∧ d.value = v := by
  have hall : ∀ v < 16,
      (("0123456789abcdef".toList[v]?.toList ++ "0123456789ABCDEF".toList[v]?.toList).all fun c =>
        ∃ hc : c.isHexDigit = true, HexDigit.value ⟨c, hc⟩ = v) = true := by
    decide
  have hlt : v < 16 := by
    rcases h with h | h <;> exact (List.getElem?_eq_some_iff.mp h).1
  have hmem := List.mem_append.mpr (h.imp Option.mem_toList.mpr Option.mem_toList.mpr)
  have hvalue := List.all_eq_true.mp (hall v hlt) c hmem
  obtain ⟨hc, hv⟩ := of_decide_eq_true hvalue
  exact ⟨⟨c, hc⟩, rfl, hv⟩

/-! ## Reading finds the elements that are there -/

namespace Element

/-- A backslash starts the escape that the next character marks, if that is not an `x`. -/
theorem read?_escape {mark : Char} (h : mark ≠ 'x') (rest : List Char) :
    read? ('\\' :: mark :: rest) = (SimpleEscape.ofMark? mark).map .escape := by
  rw [read?]
  intro high low tail hmark
  exact absurd hmark h

theorem read?_hex (high low : Char) (rest : List Char) :
    read? ('\\' :: 'x' :: high :: low :: rest) =
      if h : high.isHexDigit = true ∧ low.isHexDigit = true then
        some (.hex ⟨high, h.1⟩ ⟨low, h.2⟩)
      else none := by
  rw [read?]

/-- A character that is no backslash stands for itself, or nothing stands there. -/
theorem read?_of_ne {c : Char} (h : c ≠ '\\') (rest : List Char) :
    read? (c :: rest) = if hc : isOrdinary c = true then some (.ordinary c hc) else none := by
  rw [read?]
  · intro high low tail hc
    exact absurd hc h
  · intro mark tail hc
    exact absurd hc h

/-- The element at the front of a text is read, whatever follows it. -/
theorem read?_text_append (e : Element) (rest : List Char) : read? (e.text ++ rest) = some e := by
  cases e with
  | ordinary c hc =>
    have hne : c ≠ '\\' := by
      rintro rfl
      simp [isOrdinary] at hc
    rw [text, List.singleton_append, read?_of_ne hne, dif_pos hc]
  | escape e =>
    have hne : e.mark ≠ 'x' := by cases e <;> decide
    rw [text, List.cons_append, List.singleton_append, read?_escape hne,
      SimpleEscape.ofMark?_mark, Option.map_some]
  | hex high low =>
    have hdigits := And.intro high.isHexDigit low.isHexDigit
    simp only [text, List.cons_append, List.nil_append, read?_hex, dif_pos hdigits]

theorem read?_quote (rest : List Char) : read? ('"' :: rest) = none := by
  simp [read?, isOrdinary]

theorem readAll_append (es : List Element) {rest : List Char} (h : read? rest = none) :
    readAll (es.flatMap text ++ rest) = (es, rest) := by
  induction es with
  | nil => exact readAll_of_none h
  | cons e es ih =>
    rw [List.flatMap_cons, List.append_assoc, readAll_of_some (read?_text_append e _),
      List.drop_left, ih]

end Element

namespace StringLiteral

/-! ## The rules -/

/-- Between the quotation marks of a literal, the text stands for the character. -/
inductive Denotes : List Char → Char → Prop
  | ordinary {c : Char} : c ≠ '"' → c ≠ '\\' → c ≠ '\n' → Denotes [c] c
  | lineFeed : Denotes ['\\', 'n'] '\n'
  | tab : Denotes ['\\', 't'] '\t'
  | carriageReturn : Denotes ['\\', 'r'] '\r'
  | quote : Denotes ['\\', '"'] '"'
  | backslash : Denotes ['\\', '\\'] '\\'
  | null : Denotes ['\\', '0'] '\x00'
  | hex {high low : Char} {h l : ℕ} : HexValue high h → HexValue low l →
      Denotes ['\\', 'x', high, low] (Char.ofNat (16 * h + l))

/-- A part of a literal: some text and the character that it stands for. -/
structure Part where
  text : List Char
  value : Char
  denotes : Denotes text value

/-- A literal with the given parts. -/
def written (parts : List Part) : List Char :=
  '"' :: (parts.flatMap Part.text ++ ['"'])

/-- What a literal with the given parts denotes. -/
def denoted (parts : List Part) : String :=
  String.ofList (parts.map Part.value)

theorem denotes_element (e : Element) : Denotes e.text e.value := by
  cases e with
  | ordinary c hc =>
    simp only [isOrdinary, Bool.and_eq_true, decide_eq_true_eq] at hc
    exact .ordinary hc.1.1 hc.1.2 hc.2
  | escape e => cases e <;> constructor
  | hex high low => exact .hex high.hexValue_value low.hexValue_value

/-- The part that an element is. -/
def Part.ofElement (e : Element) : Part := ⟨e.text, e.value, denotes_element e⟩

theorem Part.exists_ofElement (p : Part) : ∃ e, ofElement e = p := by
  obtain ⟨text, value, h⟩ := p
  suffices hex : ∃ e : Element, e.text = text ∧ e.value = value by
    obtain ⟨e, rfl, rfl⟩ := hex
    exact ⟨e, rfl⟩
  cases h with
  | ordinary hquote hbackslash hline =>
    exact ⟨.ordinary _ (by simp [isOrdinary, hquote, hbackslash, hline]), rfl, rfl⟩
  | lineFeed => exact ⟨.escape .newline, rfl, rfl⟩
  | tab => exact ⟨.escape .tab, rfl, rfl⟩
  | carriageReturn => exact ⟨.escape .carriageReturn, rfl, rfl⟩
  | quote => exact ⟨.escape .quote, rfl, rfl⟩
  | backslash => exact ⟨.escape .backslash, rfl, rfl⟩
  | null => exact ⟨.escape .null, rfl, rfl⟩
  | hex hhigh hlow =>
    obtain ⟨high, rfl, rfl⟩ := HexDigit.exists_of_hexValue hhigh
    obtain ⟨low, rfl, rfl⟩ := HexDigit.exists_of_hexValue hlow
    exact ⟨.hex high low, rfl, rfl⟩

theorem exists_map_ofElement (parts : List Part) :
    ∃ es : List Element, es.map Part.ofElement = parts := by
  induction parts with
  | nil => exact ⟨[], rfl⟩
  | cons p parts ih =>
    obtain ⟨e, rfl⟩ := p.exists_ofElement
    obtain ⟨es, rfl⟩ := ih
    exact ⟨e :: es, rfl⟩

theorem written_map_ofElement (es : List Element) : written (es.map Part.ofElement) = text es := by
  rw [written, List.flatMap_map]
  rfl

theorem denoted_map_ofElement (es : List Element) :
    denoted (es.map Part.ofElement) = value es := by
  rw [denoted, List.map_map]
  rfl

/-! ## What is read -/

theorem read_of_closed (es : List Element) (rest : List Char) :
    read (es.flatMap Element.text ++ '"' :: rest) = ⟨.token (.string (value es)), text es⟩ := by
  simp only [read, Element.readAll_append es (Element.read?_quote rest)]

/-- A text with a literal at its front is cut into the literal's parts in one way only. -/
theorem eq_of_text_append {es fs : List Element} {rest rest' : List Char}
    (h : text es ++ rest = text fs ++ rest') : es = fs := by
  simp only [text, List.cons_append, List.append_assoc, List.nil_append, List.cons.injEq,
    true_and] at h
  have hes := Element.readAll_append es (Element.read?_quote rest)
  rw [h, Element.readAll_append fs (Element.read?_quote rest')] at hes
  exact (congrArg Prod.fst hes).symm

theorem eq_of_written_append {parts parts' : List Part} {rest rest' : List Char}
    (h : written parts ++ rest = written parts' ++ rest') : parts = parts' := by
  obtain ⟨es, rfl⟩ := exists_map_ofElement parts
  obtain ⟨fs, rfl⟩ := exists_map_ofElement parts'
  rw [written_map_ofElement, written_map_ofElement] at h
  rw [eq_of_text_append h]

/-- What is read is a literal exactly if the grammar derives it, and then it denotes what the
grammar says. -/
theorem read_eq_string_iff {cs : List Char} {content : String} {lexeme : List Char} :
    read cs = ⟨.token (.string content), lexeme⟩ ↔
      ∃ parts, lexeme = written parts ∧ written parts <+: '"' :: cs ∧ content = denoted parts := by
  constructor
  · intro h
    have hprefix := text_read_prefix cs
    rw [h] at hprefix
    simp only [read] at h
    split at h
    · obtain ⟨hshape, rfl⟩ := Lexeme.mk.inj h
      obtain rfl := Kind.string.inj (Shape.token.inj hshape)
      exact ⟨(Element.readAll cs).1.map Part.ofElement, (written_map_ofElement _).symm,
        written_map_ofElement _ ▸ hprefix, (denoted_map_ofElement _).symm⟩
    · simp at h
  · rintro ⟨parts, rfl, ⟨rest, hrest⟩, rfl⟩
    obtain ⟨es, rfl⟩ := exists_map_ofElement parts
    rw [written_map_ofElement] at hrest
    obtain rfl : es.flatMap Element.text ++ '"' :: rest = cs := by
      simpa [text] using hrest
    rw [read_of_closed, written_map_ofElement, denoted_map_ofElement]

end StringLiteral

end Lexing
