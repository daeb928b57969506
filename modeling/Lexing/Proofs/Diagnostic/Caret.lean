import Lexing.Proofs.Diagnostic.Drawing
import Lexing.Proofs.Lexeme.Faults

/-!
# What a caret points at

The caret of a diagnostic is meant for the first character of the lexeme at fault, one row above it
and in its own column.  The columns do agree: the number of the line and the bar take as much room
in the row of the source as the bar alone in the row of the caret, and both rows leave the
indentation out.

What can be missing is the character.  White space is taken off the end of the line, and white space
is more than layout: most of it starts nothing in the language, and is an error.
`caret_below_lexeme` says that this is the only case.  Where an unknown character is white space and
nothing but white space follows it on its line, the source row ends before the column of the caret;
under every other error token the caret has the first character of the lexeme above it.
-/

namespace Lexing

open Text

namespace Text

/-! ## White space at the end of a line -/

theorem isWhiteSpace_eq_false_of_isDigit {c : Char} (h : c.isDigit = true) :
    isWhiteSpace c = false := by
  have hcode : 48 ≤ c.toNat ∧ c.toNat ≤ 57 := by
    simpa [Char.isDigit, UInt32.le_iff_toNat_le] using h
  have htable : ∀ r ∈ whiteSpaceTable, r.last < 48 ∨ 57 < r.first := by decide
  by_contra hblank
  obtain ⟨r, hr, hcontains⟩ := List.any_eq_true.mp (eq_true_of_ne_false hblank)
  have hrange := htable r hr
  rw [CharRange.contains_iff] at hcontains
  omega

theorem trimEnd_append_of_forall (before : List Char) {rest : List Char}
    (hrest : ∀ c ∈ rest, isWhiteSpace c = true) : trimEnd (before ++ rest) = trimEnd before := by
  have hreverse : ∀ c ∈ rest.reverse, isWhiteSpace c = true := by simpa using hrest
  rw [trimEnd, List.reverse_append, List.dropWhile_append_of_pos hreverse, trimEnd]

theorem trimEnd_eq_nil_iff {cs : List Char} :
    trimEnd cs = [] ↔ ∀ c ∈ cs, isWhiteSpace c = true :=
  List.rdropWhile_eq_nil_iff

theorem trimEnd_prefix_self (cs : List Char) : trimEnd cs <+: cs :=
  List.rdropWhile_prefix isWhiteSpace cs

theorem trimEnd_append_of_ne_nil (before : List Char) {rest : List Char}
    (hrest : trimEnd rest ≠ []) :
    trimEnd (before ++ rest) = before ++ trimEnd rest := by
  have hreverse : (rest.reverse.dropWhile isWhiteSpace).isEmpty = false := by
    rw [trimEnd, ne_eq, List.reverse_eq_nil_iff] at hrest
    simpa using hrest
  rw [trimEnd, List.reverse_append, List.dropWhile_append, if_neg (by simp [hreverse]),
    List.reverse_append, List.reverse_reverse, trimEnd]

/-- The character that follows `before` is still there when white space was taken off the end,
exactly if not all that follows `before` is white space. -/
theorem getElem?_trimEnd_append (before : List Char) {rest : List Char} (hne : rest ≠ []) :
    (trimEnd (before ++ rest))[before.length]? = rest.head? ↔
      ∃ c ∈ rest, isWhiteSpace c = false := by
  by_cases hblank : ∀ c ∈ rest, isWhiteSpace c = true
  · have hlength := (trimEnd_prefix_self before).length_le
    rw [trimEnd_append_of_forall before hblank, List.getElem?_eq_none hlength]
    refine iff_of_false ?_ (by simpa using hblank)
    simpa [eq_comm] using hne
  · have hshown := mt trimEnd_eq_nil_iff.mp hblank
    obtain ⟨c, shown, hcons⟩ := List.exists_cons_of_ne_nil hshown
    obtain ⟨trimmed, hrest⟩ := trimEnd_prefix_self rest
    rw [trimEnd_append_of_ne_nil before hshown, List.getElem?_append_right le_rfl, Nat.sub_self]
    refine iff_of_true ?_ (by simpa using hblank)
    rw [hcons] at hrest
    rw [hcons, ← hrest]
    rfl

/-! ## Texts of one line -/

theorem lineFeed_not_mem_toDigits {base : ℕ} (hbase : 1 < base) (hdigits : base ≤ 16) (n : ℕ) :
    '\n' ∉ Nat.toDigits base n := by
  have hchar : ∀ d < 16, '\n' ≠ Nat.digitChar d := by decide
  induction n using Nat.strongRecOn with
  | ind n ih =>
    rw [Nat.toDigits_eq_if hbase]
    split
    · next hn => simp
    · next hn =>
      have hquotient : n / base < n := Nat.div_lt_self (by omega) hbase
      have hremainder : n % base < base := Nat.mod_lt _ (by omega)
      rw [List.mem_append, List.mem_singleton, not_or]
      exact ⟨ih _ hquotient, hchar _ (by omega)⟩

theorem lineFeed_not_mem_asciiEscaped (c : Char) : '\n' ∉ (asciiEscaped c).toList := by
  have hdigits := lineFeed_not_mem_toDigits (by decide : 1 < 16) le_rfl c.toNat
  rw [asciiEscaped, String.toList_ofList]
  split_ifs with htab hreturn hline hquote hascii
  · decide
  · decide
  · decide
  · rcases hquote with rfl | rfl | rfl <;> decide
  · simpa using Ne.symm hline
  · simp [codePointEscape, hdigits]

end Text

/-! ## The rows of a diagnostic -/

theorem Fault.lineFeed_not_mem_name (fault : Fault) : '\n' ∉ fault.name.toList := by
  cases fault <;> simp [name]

theorem Fault.InLine.lineFeed_not_mem_tip {fault : Fault} (h : fault.InLine) :
    '\n' ∉ fault.tip.text.toList := by
  cases fault with
  | unknownCharacter c => simp [tip, Tip.text, lineFeed_not_mem_asciiEscaped]
  | unclosedString => simp [tip, Tip.text]
  | invalidEscape sequence =>
    have hsequence : '\n' ∉ sequence.toList := h
    simp [tip, Tip.text, hsequence]
  | invalidHexEscape sequence =>
    have hsequence : '\n' ∉ sequence.toList := h
    simp [tip, Tip.text, hsequence]
  | malformedNumber lexeme issue =>
    have hlimit : '\n' ∉ Nat.toDigits 10 numberLimit :=
      lineFeed_not_mem_toDigits (by decide) (by decide) _
    cases issue <;> simp [tip, Tip.text, hlimit]
  | malformedByteLiteral lexeme => simp [tip, Tip.text]

theorem Fault.InLine.lineFeed_not_mem_title {fault : Fault} (h : fault.InLine)
    (position : Position) : '\n' ∉ Diagnostic.title ⟨fault, position⟩ := by
  have hname := fault.lineFeed_not_mem_name
  have htip := h.lineFeed_not_mem_tip
  unfold Diagnostic.title
  split <;> simp_all

namespace Lexeme

variable {policy : Policy} {fault : Fault} {text after : List Char}

/-- An error that starts with white space is an unknown character. -/
theorem Front.eq_unknownCharacter (h : Front policy ⟨.token (.error fault), text⟩ after)
    (hblank : ∀ c ∈ text.head?, isWhiteSpace c = true) :
    ∃ c, fault = .unknownCharacter c ∧ text = [c] := by
  rcases h.error_cases with ⟨body, -, rfl, -⟩ | ⟨_, _, -, c, hhead, hdigit⟩ | hunknown
  · cases hblank _ rfl
  · have hc := hblank c hhead
    rw [isWhiteSpace_eq_false_of_isDigit hdigit] at hc
    cases hc
  · exact hunknown

/-- The line of an error has something else than white space from the lexeme on, unless the error is
an unknown character that is white space itself, and more of it follows up to the end. -/
theorem Front.exists_not_blank_iff (h : Front policy ⟨.token (.error fault), text⟩ after)
    (tail : List Char) :
    (∃ c ∈ text ++ tail, isWhiteSpace c = false) ↔
      ¬∃ c, fault = .unknownCharacter c ∧ isWhiteSpace c = true ∧
        ∀ d ∈ tail, isWhiteSpace d = true := by
  constructor
  · rintro ⟨d, hd, hseen⟩ ⟨c, rfl, hc, htail⟩
    rw [h.text_eq_singleton, List.mem_append, List.mem_singleton] at hd
    have hblank : isWhiteSpace d = true := hd.elim (· ▸ hc) (htail d)
    rw [hseen] at hblank
    cases hblank
  · intro hunknown
    by_contra hblank
    have hall : ∀ c ∈ text ++ tail, isWhiteSpace c = true := by simpa using hblank
    obtain ⟨htext, htail⟩ := List.forall_mem_append.mp hall
    obtain ⟨c, rfl, rfl⟩ := h.eq_unknownCharacter fun c hc => htext c (List.mem_of_mem_head? hc)
    exact hunknown ⟨c, rfl, htext c (List.mem_singleton_self c), htail⟩

end Lexeme

namespace Drawing

variable {d : Drawing}

theorem lineFeed_not_mem_label (d : Drawing) : '\n' ∉ d.label :=
  lineFeed_not_mem_toDigits (by decide) (by decide) _

theorem lineFeed_not_mem_rows (hshown : '\n' ∉ d.shown) : ∀ row ∈ d.rows, '\n' ∉ row := by
  have hlabel := d.lineFeed_not_mem_label
  simp [rows, bar, sourceRow, caretRow, hlabel, hshown, List.mem_replicate]

theorem exists_caretRow_eq (d : Drawing) :
    ∃ left, d.caretRow = left ++ ['^'] ∧ '^' ∉ left ∧
      left.length = d.label.length + 3 + d.dashes := by
  refine ⟨d.bar ++ [' '] ++ List.replicate d.dashes '-', rfl, ?_, ?_⟩
  · simp [bar, List.mem_replicate]
  · simp [bar]
    omega

/-- Above the caret stands what is shown behind as many characters as there are dashes. -/
theorem getElem?_sourceRow (d : Drawing) :
    d.sourceRow[d.label.length + 3 + d.dashes]? = d.shown[d.dashes]? := by
  rw [sourceRow, List.getElem?_append_right (by simp)]
  congr 1
  simp

variable {before lexeme after : List Char}

theorem lineFeed_not_mem_ofLexeme (hlexeme : '\n' ∉ lexeme) :
    '\n' ∉ (ofLexeme before lexeme after).shown := by
  intro hmem
  have hline : '\n' ∈ (lineHead before).dropWhile isIndent ++ lexeme ++ lineTail after :=
    (trimEnd_prefix_self _).mem hmem
  have hhead : '\n' ∉ (lineHead before).dropWhile isIndent := fun hmem =>
    not_mem_lineHead before ((List.dropWhile_suffix _).mem hmem)
  simp [hhead, hlexeme, not_mem_lineTail] at hline

/-- The first character of a lexeme stands above the caret exactly if its line has something else
than white space from there on. -/
theorem getElem?_sourceRow_ofLexeme (hne : lexeme ≠ []) {column : ℕ}
    (hcolumn : column = (ofLexeme before lexeme after).label.length + 3 +
      (ofLexeme before lexeme after).dashes) :
    (ofLexeme before lexeme after).sourceRow[column]? = lexeme.head? ↔
      ∃ c ∈ lexeme ++ lineTail after, isWhiteSpace c = false := by
  have hshown := @getElem?_trimEnd_append ((lineHead before).dropWhile isIndent)
    (lexeme ++ lineTail after) (by simp [hne])
  rw [List.head?_append_of_ne_nil lexeme hne, ← List.append_assoc] at hshown
  rw [hcolumn, getElem?_sourceRow]
  exact hshown

end Drawing

namespace Scanner

variable {source : String} {file : Option String} {policy : Policy} {before after : List Item}
  {t : Token} {e : LexicalError}

/-- The fault of an error token stands at the front of what is ahead there. -/
theorem exists_front_of_error
    (h : (start source file policy).items = before ++ .token t :: after)
    (he : t.error? = some e) :
    ∃ rest, Lexeme.Front policy ⟨.token (.error e.fault), t.lexeme.toList⟩ rest := by
  obtain ⟨rest, hfront⟩ := exists_front_of_mem_items (mem_of_items_eq h)
  have hkind : t.kind.unplaced = .error e.fault := by
    rcases t with ⟨kind, lexeme, line, span⟩
    cases kind with
    | error error =>
      obtain rfl := Option.some.inj he
      rfl
    | _ => cases he
  refine ⟨rest, ?_⟩
  rw [← hkind]
  exact hfront

theorem lineFeed_not_mem_rows_of_error
    (hfile : '\n' ∉ (file.getD unnamed).toList)
    (h : (start source file policy).items = before ++ .token t :: after)
    (he : t.error? = some e) :
    ∀ row ∈ [Diagnostic.title e, Diagnostic.origin e] ++
      (Drawing.ofLexeme (Item.textOf before) t.lexeme.toList (Item.textOf after)).rows,
      '\n' ∉ row := by
  have hplace := (pulls_of_items_eq h).token_of_start
  obtain ⟨_, hfront⟩ := exists_front_of_error h he
  have htitle : '\n' ∉ Diagnostic.title e := hfront.inLine.lineFeed_not_mem_title e.position
  have horigin : '\n' ∉ Diagnostic.origin e := by
    rw [Diagnostic.origin, hplace.2 e he, hplace.1]
    simpa using hfile
  refine List.forall_mem_append.mpr ⟨by simp [htitle, horigin], ?_⟩
  exact Drawing.lineFeed_not_mem_rows (Drawing.lineFeed_not_mem_ofLexeme (lexeme_of_items_eq h).2)

/-- **The caret stands below the first character of the lexeme.**  The diagnostic of an error token
that can be drawn has five rows.  The last but one is of the source and the last has the caret; in
its column the source row has the first character of the lexeme, except for an unknown character
that is taken for white space at the end of the line. -/
theorem caret_below_lexeme (source : String) (policy : Policy) {file : Option String}
    (hfile : '\n' ∉ (file.getD unnamed).toList) {before after : List Item} {t : Token}
    {e : LexicalError} (h : (start source file policy).items = before ++ .token t :: after)
    (he : t.error? = some e)
    (hwidth : Drawing.caretWidth (Item.textOf before) ≤ Drawing.widestCaret) :
    ∃ text title origin bar sourceRow left, Diagnostic.render e source = .ok text ∧
      lines text.toList = [title, origin, bar, sourceRow, left ++ ['^']].map (· ++ ['\n']) ∧
      '^' ∉ left ∧
      (sourceRow[left.length]? = t.lexeme.toList.head? ↔
        ¬∃ c, e.fault = .unknownCharacter c ∧ isWhiteSpace c = true ∧
          ∀ d ∈ lineTail (Item.textOf after), isWhiteSpace d = true) := by
  obtain ⟨_, hfront⟩ := exists_front_of_error h he
  obtain ⟨hne, -⟩ := lexeme_of_items_eq h
  have hrows := lineFeed_not_mem_rows_of_error hfile h he
  obtain ⟨left, hcaret, hleft, hlength⟩ := Drawing.exists_caretRow_eq
    (Drawing.ofLexeme (Item.textOf before) t.lexeme.toList (Item.textOf after))
  refine ⟨_, Diagnostic.title e, Diagnostic.origin e,
    (Drawing.ofLexeme (Item.textOf before) t.lexeme.toList (Item.textOf after)).bar,
    (Drawing.ofLexeme (Item.textOf before) t.lexeme.toList (Item.textOf after)).sourceRow, left,
    (render_of_items_eq h he).trans (if_pos hwidth), ?_, hleft, ?_⟩
  · rw [Diagnostic.stack, String.toList_ofList, ← hcaret]
    exact lines_flatMap_lineFeed hrows
  · rw [Drawing.getElem?_sourceRow_ofLexeme hne hlength]
    exact hfront.exists_not_blank_iff _

/-- A no-break space is shown where something else follows it on its line. -/
theorem caret_below_lexeme_no_break_space :
    ∃ before after t e, '\n' ∉ ((none : Option String).getD unnamed).toList ∧
      (start "\t\u00a0x" none .strict).items = before ++ .token t :: after ∧
      t.error? = some e ∧ Drawing.caretWidth (Item.textOf before) ≤ Drawing.widestCaret ∧
      ∃ text title origin bar sourceRow left, Diagnostic.render e "\t\u00a0x" = .ok text ∧
        lines text.toList = [title, origin, bar, sourceRow, left ++ ['^']].map (· ++ ['\n']) ∧
        '^' ∉ left ∧
        (sourceRow[left.length]? = t.lexeme.toList.head? ↔
          ¬∃ c, e.fault = .unknownCharacter c ∧ isWhiteSpace c = true ∧
            ∀ d ∈ lineTail (Item.textOf after), isWhiteSpace d = true) := by
  have hitems : (start "\t\u00a0x" none .strict).items =
      [.trivia ⟨.whitespace, "\t", 1⟩] ++
      .token ⟨.error ⟨.unknownCharacter '\u00a0', ⟨1, "<input>"⟩⟩, "\u00a0", 1,
        ⟨⟨1, "<input>"⟩, ⟨3, "<input>"⟩⟩⟩ ::
      [.token ⟨.identifier, "x", 1, ⟨⟨3, "<input>"⟩, ⟨4, "<input>"⟩⟩⟩] := by decide +kernel
  exact ⟨_, _, _, _, by decide, hitems, rfl, by decide,
    caret_below_lexeme _ .strict (by decide) hitems rfl (by decide)⟩

/-- At the end of its line a no-break space is not shown, and nothing stands above the caret. -/
theorem caret_below_nothing :
    ∃ t ∈ tokenize "x = 1;\u00a0" none .strict, ∃ e, t.error? = some e ∧
      ∃ text title origin bar sourceRow left, Diagnostic.render e "x = 1;\u00a0" = .ok text ∧
        lines text.toList = [title, origin, bar, sourceRow, left ++ ['^']].map (· ++ ['\n']) ∧
        '^' ∉ left ∧ sourceRow[left.length]? = none := by
  have htoken : (⟨.error ⟨.unknownCharacter '\u00a0', ⟨6, "<input>"⟩⟩, "\u00a0", 1,
      ⟨⟨6, "<input>"⟩, ⟨8, "<input>"⟩⟩⟩ : Token) ∈ tokenize "x = 1;\u00a0" none .strict := by
    decide +kernel
  have hrender : Diagnostic.render ⟨.unknownCharacter '\u00a0', ⟨6, "<input>"⟩⟩ "x = 1;\u00a0" =
      .ok (Diagnostic.stack
        ["Error: UnknownCharacter (`\\u\x7ba0\x7d` is not part of the language)".toList,
          "-> <input>".toList, "  |".toList, "1 | x = 1;".toList, "  | ------^".toList]) := by
    rfl
  have hlines := lines_flatMap_lineFeed (show ∀ row ∈
      ["Error: UnknownCharacter (`\\u\x7ba0\x7d` is not part of the language)".toList,
        "-> <input>".toList, "  |".toList, "1 | x = 1;".toList, "  | ------^".toList],
      '\n' ∉ row by decide)
  rw [← String.toList_ofList (l := List.flatMap _ _)] at hlines
  exact ⟨_, htoken, _, rfl, _, _, _, _, "1 | x = 1;".toList, "  | ------".toList, hrender, hlines,
    by decide, rfl⟩

end Scanner

end Lexing
