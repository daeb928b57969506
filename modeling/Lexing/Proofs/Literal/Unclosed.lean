import Lexing.Proofs.Lexeme.LongestMatch
import Lexing.Proofs.Literal.Acceptance

/-!
# String literals at fault

Where a quotation mark is next and no literal of the grammar starts there, what is at fault is told
by the longest run of parts behind the quotation mark (`IsLongestRun`), and by what follows the run
and nothing else.  `IsFault` lists the ways in which a text can follow such a run, and what each of
them is called: the line ends, with a backslash before its end or without one, an escape by its code
lacks digits, or a backslash stands before a character that it cannot escape.

`isFault_iff` says that these are all, that no two apply at once, and that the fault which the
reader reports is the one that does.  The text at fault, and the sequence that a report quotes from
it, are of one line: the reader takes the line up to its end and the scan goes on there.
-/

namespace Lexing

open Text

namespace Element

theorem read?_readAll (cs : List Char) : read? (readAll cs).2 = none := by
  induction hn : cs.length using Nat.strongRecOn generalizing cs with
  | ind n ih =>
    subst hn
    cases h : read? cs with
    | none =>
      rw [readAll_of_none h]
      exact h
    | some e =>
      rw [readAll_of_some h]
      exact ih _ (length_drop_lt_of_read? h) _ rfl

/-- What is read is the longest run: every other one at the front of the text is a part of it. -/
theorem flatMap_text_prefix_readAll {es : List Element} {cs : List Char}
    (h : es.flatMap text <+: cs) : es.flatMap text <+: (readAll cs).1.flatMap text := by
  induction es generalizing cs with
  | nil => exact List.nil_prefix
  | cons e es ih =>
    obtain ⟨rest, rfl⟩ := h
    rw [List.flatMap_cons, List.append_assoc, readAll_of_some (read?_text_append e _),
      List.drop_left, List.flatMap_cons]
    exact (List.prefix_append_right_inj _).mpr (ih (List.prefix_append _ _))

end Element

namespace StringLiteral

/-! ## The longest run of parts -/

/-- The text is the longest one at the front of `cs` that parts of a literal make up. -/
structure IsLongestRun (run cs : List Char) : Prop where
  exists_parts : ∃ parts : List Part, run = parts.flatMap Part.text
  at_front : run <+: cs
  longest : ∀ parts : List Part, parts.flatMap Part.text <+: cs →
    parts.flatMap Part.text <+: run

theorem flatMap_text_map_ofElement (es : List Element) :
    (es.map Part.ofElement).flatMap Part.text = es.flatMap Element.text := by
  rw [List.flatMap_map]
  rfl

theorem isLongestRun_readAll (cs : List Char) :
    IsLongestRun ((Element.readAll cs).1.flatMap Element.text) cs where
  exists_parts := ⟨_, (flatMap_text_map_ofElement _).symm⟩
  at_front := ⟨_, Element.flatMap_text_readAll cs⟩
  longest := by
    intro parts hparts
    obtain ⟨es, rfl⟩ := exists_map_ofElement parts
    rw [flatMap_text_map_ofElement] at hparts ⊢
    exact Element.flatMap_text_prefix_readAll hparts

theorem exists_written_iff {cs : List Char} :
    (∃ parts, written parts <+: '"' :: cs) ↔ ∃ rest, (Element.readAll cs).2 = '"' :: rest := by
  constructor
  · rintro ⟨parts, rest, hparts⟩
    obtain ⟨es, rfl⟩ := exists_map_ofElement parts
    rw [written_map_ofElement, text, List.cons_append, List.append_assoc, List.singleton_append,
      List.cons.injEq] at hparts
    refine ⟨rest, ?_⟩
    rw [← hparts.2, Element.readAll_append es (Element.read?_quote rest)]
  · rintro ⟨rest, hrest⟩
    refine ⟨(Element.readAll cs).1.map Part.ofElement, rest, ?_⟩
    have hcs := Element.flatMap_text_readAll cs
    rw [hrest] at hcs
    rw [written_map_ofElement, text, List.cons_append, List.append_assoc, List.singleton_append,
      hcs]

/-! ## What can follow it -/

/-- The text can follow the longest run of parts of a literal that is not closed, and the fault is
the name of this. -/
inductive IsFault : List Char → Fault → Prop
  /-- The line ends. -/
  | lineEnd {rest : List Char} (hrest : ∀ c ∈ rest.head?, c = '\n') : IsFault rest .unclosedString
  /-- The line ends behind a backslash. -/
  | escapedLineEnd {rest : List Char} (hrest : ∀ c ∈ rest.head?, c = '\n') :
      IsFault ('\\' :: rest) .unclosedString
  /-- An escape by its code is not followed by two digits.  The characters that stand in their place
  are shown, up to the end of the line or a quotation mark. -/
  | hexEscape {shown more : List Char}
      (hdigits : ∀ high low tail, shown ++ more = high :: low :: tail →
        ¬((∃ h, HexValue high h) ∧ ∃ l, HexValue low l))
      (hlength : shown.length ≤ 2) (hshown : ∀ c ∈ shown, c ≠ '\n' ∧ c ≠ '"')
      (hmore : shown.length = 2 ∨ ∀ c ∈ more.head?, c = '\n' ∨ c = '"') :
      IsFault ('\\' :: 'x' :: (shown ++ more))
        (.invalidHexEscape (String.ofList ('\\' :: 'x' :: shown)))
  /-- A backslash stands before a character that marks no escape and does not end the line. -/
  | escape {c : Char} {more : List Char}
      (hc : c ∉ ['n', 't', 'r', '"', '\\', '0', 'x', '\n']) :
      IsFault ('\\' :: c :: more) (.invalidEscape (String.ofList ['\\', c]))

/-- Whether a character is shown in the place of a digit that an escape lacks. -/
def isShown (c : Char) : Bool :=
  c ≠ '\n' && c ≠ '"'

theorem stopsAt_isShown_iff {more : List Char} :
    StopsAt isShown more ↔ ∀ c ∈ more.head?, c = '\n' ∨ c = '"' := by
  simp only [StopsAt, isShown, Bool.and_eq_false_iff, decide_eq_false_iff_not, not_not]

theorem faultAt_hexEscape (rest : List Char) :
    faultAt ('\\' :: 'x' :: rest) =
      .invalidHexEscape (String.ofList ('\\' :: 'x' :: (rest.take 2).takeWhile isShown)) := rfl

theorem IsFault.faultAt_eq {rest : List Char} {fault : Fault} (h : IsFault rest fault) :
    faultAt rest = fault := by
  cases h with
  | lineEnd hrest =>
    cases rest with
    | nil => rfl
    | cons c rest =>
      obtain rfl : c = '\n' := by simpa using hrest
      rfl
  | @escapedLineEnd rest hrest =>
    cases rest with
    | nil => rfl
    | cons c rest =>
      obtain rfl : c = '\n' := by simpa using hrest
      rfl
  | @hexEscape shown more hdigits hlength hshown hmore =>
    have htext : ∀ c ∈ shown, isShown c = true := by simpa [isShown] using hshown
    have hstops : shown.length = 2 ∨ StopsAt isShown more :=
      hmore.imp_right stopsAt_isShown_iff.mpr
    rw [faultAt_hexEscape, takeWhile_take_append hlength htext hstops]
  | @escape c more hc =>
    have hne : c ≠ 'x' ∧ c ≠ '\n' := by
      constructor <;> (rintro rfl; simp at hc)
    simp [faultAt, hne]

/-- An escape by its code that is not read lacks a digit. -/
theorem isFault_hexEscape {rest : List Char} (hnone : Element.read? ('\\' :: 'x' :: rest) = none) :
    IsFault ('\\' :: 'x' :: rest) (faultAt ('\\' :: 'x' :: rest)) := by
  obtain ⟨shown, more, rfl, hlength, hshown, hmore⟩ := exists_bounded_stretch isShown 2 rest
  rw [faultAt_hexEscape, takeWhile_take_append hlength hshown hmore]
  refine .hexEscape ?_ hlength (by simpa [isShown] using hshown)
    (hmore.imp_right stopsAt_isShown_iff.mp)
  -- two digits would have been read as an element
  rintro high low tail htail ⟨⟨h, hhigh⟩, ⟨l, hlow⟩⟩
  obtain ⟨d, rfl, -⟩ := HexDigit.exists_of_hexValue hhigh
  obtain ⟨e, rfl, -⟩ := HexDigit.exists_of_hexValue hlow
  rw [htail, Element.read?_hex, dif_pos ⟨d.isHexDigit, e.isHexDigit⟩] at hnone
  cases hnone

/-- A backslash that is not read as an escape stands before what it cannot escape, or the line ends
behind it. -/
theorem isFault_escape {mark : Char} {rest : List Char} (hx : mark ≠ 'x')
    (hnone : Element.read? ('\\' :: mark :: rest) = none) :
    IsFault ('\\' :: mark :: rest) (faultAt ('\\' :: mark :: rest)) := by
  rw [Element.read?_escape hx, Option.map_eq_none_iff] at hnone
  by_cases hline : mark = '\n'
  · subst hline
    exact .escapedLineEnd (by simp)
  · have hfault : faultAt ('\\' :: mark :: rest) =
        .invalidEscape (String.ofList ['\\', mark]) := by simp [faultAt, hline]
    have hmarks : ['n', 't', 'r', '"', '\\', '0'].all
        fun c => (SimpleEscape.ofMark? c).isSome := by decide
    rw [hfault]
    refine .escape fun hmem => ?_
    have hsome := List.all_eq_true.mp hmarks mark (by simpa [hx, hline] using hmem)
    rw [hnone] at hsome
    cases hsome

/-- What is not read, no backslash and no quotation mark is the end of the line. -/
theorem eq_lineFeed_of_read?_eq_none {c : Char} {rest : List Char} (hc : c ≠ '\\')
    (hquote : c ≠ '"') (hnone : Element.read? (c :: rest) = none) : c = '\n' := by
  rw [Element.read?_of_ne hc] at hnone
  have hordinary : isOrdinary c = false := by
    by_contra hne
    rw [dif_pos (by simpa using hne)] at hnone
    cases hnone
  simpa [isOrdinary, hc, hquote] using hordinary

/-- What follows the longest run of a literal that is not closed is at fault in one of these
ways. -/
theorem isFault_faultAt {rest : List Char} (hnone : Element.read? rest = none)
    (hopen : ∀ more, rest ≠ '"' :: more) : IsFault rest (faultAt rest) := by
  match rest with
  | [] => exact .lineEnd (by simp)
  | c :: rest =>
    by_cases hc : c = '\\'
    · subst hc
      match rest with
      | [] => exact .escapedLineEnd (by simp)
      | mark :: rest =>
        by_cases hx : mark = 'x'
        · subst hx
          exact isFault_hexEscape hnone
        · exact isFault_escape hx hnone
    · have hquote : c ≠ '"' := fun h => hopen rest (by rw [h])
      obtain rfl := eq_lineFeed_of_read?_eq_none hc hquote hnone
      exact .lineEnd (by simp)

theorem isFault_iff {rest : List Char} {fault : Fault} (hnone : Element.read? rest = none)
    (hopen : ∀ more, rest ≠ '"' :: more) : faultAt rest = fault ↔ IsFault rest fault := by
  constructor
  · rintro rfl
    exact isFault_faultAt hnone hopen
  · intro h
    exact h.faultAt_eq

/-- The sequence that a report quotes is at the front of what follows the run, and of one line. -/
theorem IsFault.sequence_prefix {rest : List Char} {sequence : String}
    (h : IsFault rest (.invalidEscape sequence) ∨ IsFault rest (.invalidHexEscape sequence)) :
    sequence.toList <+: rest ∧ ∀ c ∈ sequence.toList, isInLine c = true := by
  rcases h with h | h
  · cases h with
    | @escape c more hc =>
      rw [String.toList_ofList]
      refine ⟨⟨more, rfl⟩, ?_⟩
      have hne : c ≠ '\n' := by
        rintro rfl
        simp at hc
      simp [isInLine, hne]
  · cases h with
    | @hexEscape shown more _ _ hshown _ =>
      rw [String.toList_ofList]
      refine ⟨⟨more, rfl⟩, ?_⟩
      have hline : ∀ c ∈ shown, c ≠ '\n' := fun c hc => (hshown c hc).1
      simpa [isInLine] using hline

/-- What is read where no literal starts is the rest of the line, at fault as what follows the
longest run says. -/
theorem read_of_not_written {cs : List Char} (hopen : ∀ parts, ¬written parts <+: '"' :: cs) :
    ∃ run rest, cs = run ++ rest ∧ IsLongestRun run cs ∧
      (∀ fault, faultAt rest = fault ↔ IsFault rest fault) ∧ (∀ c ∈ run, isInLine c = true) ∧
      read cs = ⟨.token (.error (faultAt rest)), '"' :: cs.takeWhile isInLine⟩ := by
  have hquote : ∀ rest, (Element.readAll cs).2 ≠ '"' :: rest := by
    intro rest hrest
    obtain ⟨parts, hparts⟩ := exists_written_iff.mpr ⟨rest, hrest⟩
    exact hopen parts hparts
  refine ⟨_, _, (Element.flatMap_text_readAll cs).symm, isLongestRun_readAll cs,
    fun fault => isFault_iff (Element.read?_readAll cs) hquote, ?_, read_of_not_closed hquote⟩
  intro c hc
  obtain ⟨e, -, hmem⟩ := List.mem_flatMap.mp hc
  exact e.isInLine_of_mem_text c hmem

end StringLiteral

namespace Scanner

open StringLiteral

/-- **The first fault of a string literal decides.**  At every place that a scan reaches and where a
quotation mark is next, but no literal of the grammar, the next item is an error token.  What it is
at fault for is told by what follows the longest run of parts behind the quotation mark; its lexeme
is the rest of the line, without the line feed, and the scan goes on at the end of the line.  A
sequence that is reported stands in the lexeme, right behind the run. -/
theorem unclosed_string_fault {source : String} {file : Option String} {policy : Policy}
    {items : List Item} {s : Scanner} {cs : List Char}
    (hs : Pulls (start source file policy) items s)
    (hsource : source.toList = Item.textOf items ++ '"' :: cs)
    (hopen : ∀ parts, ¬written parts <+: '"' :: cs) :
    ∃ run rest, cs = run ++ rest ∧ IsLongestRun run cs ∧
      ∃ token next after, s.nextItem? = some (.token token, next) ∧
        (∃ fault, token.kind.unplaced = .error fault) ∧
        (∀ fault, token.kind.unplaced = .error fault ↔ IsFault rest fault) ∧
        '"' :: cs = token.lexeme.toList ++ after ∧ '\n' ∉ token.lexeme.toList ∧
        (∀ c ∈ after.head?, c = '\n') ∧ next.cursor.rest = after ∧
        ∀ sequence, IsFault rest (.invalidEscape sequence) ∨
            IsFault rest (.invalidHexEscape sequence) →
          '"' :: (run ++ sequence.toList) <+: token.lexeme.toList := by
  have hrest : s.cursor.rest = '"' :: cs := hs.rest_of_start hsource
  obtain ⟨run, rest, hcs, hlongest, hfault, hrun, hread⟩ := read_of_not_written hopen
  -- the token is the lexeme that the reader finds
  have hnext : Lexeme.next? s.policy s.cursor.rest = some ⟨.token (.error (faultAt rest)),
      (String.ofList ('"' :: cs.takeWhile isInLine)).toList⟩ := by
    rw [hrest, Lexeme.next?_quote, hread, String.toList_ofList]
  obtain ⟨token, next, hnext, hkind, hlexeme⟩ := exists_token_iff.mpr hnext
  have htext : token.lexeme.toList = '"' :: cs.takeWhile isInLine := by
    rw [hlexeme, String.toList_ofList]
  refine ⟨run, rest, hcs, hlongest, token, next, cs.dropWhile isInLine, hnext, ⟨_, hkind⟩, ?_, ?_,
    ?_, ?_, ?_, ?_⟩
  · intro fault
    rw [hkind, Kind.error.injEq, hfault]
  · rw [htext, List.cons_append, List.takeWhile_append_dropWhile]
  · rw [htext]
    intro hmem
    have hline : '\n' ∈ cs.takeWhile isInLine := by simpa using hmem
    cases List.mem_takeWhile_imp hline
  · intro c hc
    simpa [isInLine] using stopsAt_dropWhile cs c hc
  · have hsplit := rest_of_nextItem? hnext
    have hitem : (Item.token token).text.toList = '"' :: cs.takeWhile isInLine := htext
    rw [hrest, hitem, List.cons_append, List.cons.injEq] at hsplit
    have hwhole : cs.takeWhile isInLine ++ cs.dropWhile isInLine = cs :=
      List.takeWhile_append_dropWhile
    exact (List.append_cancel_left (hwhole.trans hsplit.2)).symm
  · intro sequence hsequence
    obtain ⟨⟨more, rfl⟩, hinline⟩ := IsFault.sequence_prefix hsequence
    have hboth : ∀ c ∈ run ++ sequence.toList, isInLine c = true :=
      List.forall_mem_append.mpr ⟨hrun, hinline⟩
    rw [htext, hcs, ← List.append_assoc, List.takeWhile_append_of_pos hboth]
    exact ⟨more.takeWhile isInLine, rfl⟩

/-- The quotation mark in the place of the second digit is not shown and closes nothing. -/
theorem unclosed_string_fault_hex :
    ∃ items s, Pulls (start "=\"a\\x4\"\n5b" none .strict) items s ∧
      "=\"a\\x4\"\n5b".toList = Item.textOf items ++ '"' :: "a\\x4\"\n5b".toList ∧
      (∀ parts, ¬written parts <+: '"' :: "a\\x4\"\n5b".toList) ∧
      ∃ run rest, "a\\x4\"\n5b".toList = run ++ rest ∧
        IsLongestRun run "a\\x4\"\n5b".toList ∧
        ∃ token next after, s.nextItem? = some (.token token, next) ∧
          (∃ fault, token.kind.unplaced = .error fault) ∧
          (∀ fault, token.kind.unplaced = .error fault ↔ IsFault rest fault) ∧
          '"' :: "a\\x4\"\n5b".toList = token.lexeme.toList ++ after ∧
          '\n' ∉ token.lexeme.toList ∧ (∀ c ∈ after.head?, c = '\n') ∧
          next.cursor.rest = after ∧
          ∀ sequence, IsFault rest (.invalidEscape sequence) ∨
              IsFault rest (.invalidHexEscape sequence) →
            '"' :: (run ++ sequence.toList) <+: token.lexeme.toList := by
  have hs : Pulls (start "=\"a\\x4\"\n5b" none .strict) _ _ := .cons rfl (.nil _)
  have hopen : ∀ parts, ¬written parts <+: '"' :: "a\\x4\"\n5b".toList := by
    intro parts hparts
    obtain ⟨rest, hrest⟩ := exists_written_iff.mp ⟨parts, hparts⟩
    have hnone : Element.read? "\\x4\"\n5b".toList = none := rfl
    have hrun : Element.readAll "a\\x4\"\n5b".toList = _ :=
      Element.readAll_append [.ordinary 'a' rfl] hnone
    rw [hrun] at hrest
    cases hrest
  exact ⟨_, _, hs, rfl, hopen, unclosed_string_fault hs rfl hopen⟩

end Scanner

end Lexing
