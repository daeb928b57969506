import Lexing.Proofs.Lexeme.Faults
import Lexing.Proofs.Literal.Unclosed
import Lexing.Proofs.Tokens.LineFeed
import Mathlib.Data.List.Forall2

/-!
# Lines that end with a carriage return

`withReturns` puts a carriage return before each line feed of a text.  Outside of string literals a
carriage return is layout, and so is the line feed behind it: what ended before the one ends before
the other, by the same rule (`Front.withReturns`).  A comment and a string literal at fault go up to
the end of their line and take the carriage return; then the line feed is next in either text.

A literal at fault is told by what follows its longest run of elements.  A carriage return is one
more element where nothing follows the run, and otherwise it stands behind what follows
(`Element.readAll_append_return`).  It counts in one case only, that of a backslash which was the
last of its line: now it stands before a character, and not one that it can escape.

The tokens of the two texts are compared by going along the lexemes of the first
(`forall₂_tokensAt_withReturns`).  The offsets drift apart, so those of the second text are left
open.
-/

namespace Lexing

open Text StringLiteral

/-! ## Carriage returns before line feeds -/

namespace Text

/-- The text with a carriage return before each line feed. -/
def withReturns (cs : List Char) : List Char :=
  cs.flatMap fun c => if c = '\n' then ['\r', '\n'] else [c]

@[simp] theorem withReturns_nil : withReturns [] = [] := rfl

@[simp] theorem withReturns_append (cs cs' : List Char) :
    withReturns (cs ++ cs') = withReturns cs ++ withReturns cs' :=
  List.flatMap_append

@[simp] theorem withReturns_lineFeed (rest : List Char) :
    withReturns ('\n' :: rest) = '\r' :: '\n' :: withReturns rest := rfl

theorem withReturns_cons_of_ne {c : Char} (h : c ≠ '\n') (rest : List Char) :
    withReturns (c :: rest) = c :: withReturns rest := by
  simp [withReturns, h]

theorem withReturns_eq_self {cs : List Char} (h : '\n' ∉ cs) : withReturns cs = cs := by
  induction cs with
  | nil => rfl
  | cons c cs ih =>
    obtain ⟨hne, hcs⟩ : '\n' ≠ c ∧ '\n' ∉ cs := by simpa using h
    rw [withReturns_cons_of_ne hne.symm, ih hcs]

theorem count_withReturns (cs : List Char) : (withReturns cs).count '\n' = cs.count '\n' := by
  induction cs with
  | nil => rfl
  | cons c cs ih =>
    by_cases hc : c = '\n'
    · subst hc
      simp [ih]
    · rw [withReturns_cons_of_ne hc, List.count_cons, List.count_cons, ih]

theorem eq_return_or_mem {cs : List Char} {c : Char} (h : c ∈ withReturns cs) :
    c = '\r' ∨ c ∈ cs := by
  obtain ⟨d, hd, hc⟩ := List.mem_flatMap.mp h
  split at hc
  · next hline =>
    subst hline
    obtain rfl | rfl : c = '\r' ∨ c = '\n' := by simpa using hc
    · exact .inl rfl
    · exact .inr hd
  · exact .inr (List.mem_singleton.mp hc ▸ hd)

theorem stopsAt_withReturns_iff {p : Char → Bool} {after : List Char} (hreturn : p '\r' = false)
    (hline : p '\n' = false) : StopsAt p (withReturns after) ↔ StopsAt p after := by
  cases after with
  | nil => rfl
  | cons c after =>
    by_cases hc : c = '\n'
    · subst hc
      simp [hreturn, hline]
    · rw [withReturns_cons_of_ne hc, stopsAt_cons, stopsAt_cons]

end Text

theorem isInLine_append_return {body : List Char} (hbody : ∀ c ∈ body, isInLine c = true) :
    ∀ c ∈ body ++ ['\r'], isInLine c = true :=
  List.forall_mem_append.mpr ⟨hbody, by simp [isInLine]⟩

theorem Numeral.hasByteSuffix_withReturns {policy : Policy} {after : List Char}
    (h : hasByteSuffix policy after = false) :
    hasByteSuffix policy (withReturns after) = false := by
  by_contra hsuffix
  obtain ⟨tail, htail, hstops⟩ := hasByteSuffix_iff.mp (by simpa using hsuffix)
  cases after with
  | nil => cases htail
  | cons c rest =>
    have hc : c ≠ '\n' := by
      rintro rfl
      cases htail
    rw [withReturns_cons_of_ne hc] at htail
    obtain ⟨rfl, rfl⟩ := List.cons.inj htail
    have hrest : StopsAt policy.continuesWord rest :=
      (stopsAt_withReturns_iff (policy.continuesWord_of_isLayout rfl)
        (policy.continuesWord_of_isLayout rfl)).mp hstops
    rw [hasByteSuffix_iff.mpr ⟨rest, rfl, hrest⟩] at h
    cases h

theorem Lexeme.Front.withReturns {policy : Policy} {kind : Kind Fault} {text after : List Char}
    (h : Front policy ⟨.token kind, text⟩ after)
    (hkind : ∀ fault, kind = .error fault → fault.isOfString = false) :
    Front policy ⟨.token kind, text⟩ (withReturns after) := by
  have hword : StopsAt policy.continuesWord after →
      StopsAt policy.continuesWord (Text.withReturns after) :=
    (stopsAt_withReturns_iff (policy.continuesWord_of_isLayout rfl)
      (policy.continuesWord_of_isLayout rfl)).mpr
  have hsymbol : ∀ {text}, StopsAt (Symbol.isExtendedBy text) after →
      StopsAt (Symbol.isExtendedBy text) (Text.withReturns after) := fun {text} =>
    (stopsAt_withReturns_iff (Symbol.isExtendedBy_of_isLayout text rfl)
      (Symbol.isExtendedBy_of_isLayout text rfl)).mpr
  cases h with
  | word hc hcs hafter => exact .word hc hcs (hword hafter)
  | number hne hdigits hafter hsuffix =>
    exact .number hne hdigits ((stopsAt_withReturns_iff rfl rfl).mpr hafter)
      (Numeral.hasByteSuffix_withReturns hsuffix)
  | byteNumber hne hdigits hafter => exact .byteNumber hne hdigits (hword hafter)
  | string es => exact .string es _
  | openString =>
    have hstring := hkind _ rfl
    rw [isOfString_faultAt] at hstring
    cases hstring
  | symbol s hafter => exact .symbol s (hsymbol hafter)
  | unknown hc hnone hafter => exact .unknown hc hnone (hsymbol hafter)

/-! ## String literals at fault -/

theorem Element.read?_append_return {rest : List Char} (hnone : read? rest = none)
    (hne : rest ≠ []) : read? (rest ++ ['\r']) = none := by
  obtain ⟨c, tail, rfl⟩ := List.exists_cons_of_ne_nil hne
  by_cases hc : c = '\\'
  · subst hc
    match tail with
    | [] => rfl
    | mark :: tail =>
      by_cases hmark : mark = 'x'
      · subst hmark
        have hreturn : '\r'.isHexDigit = false := rfl
        match tail with
        | [] => rfl
        | [high] => exact (read?_hex high '\r' []).trans (dif_neg (by simp [hreturn]))
        | high :: low :: tail =>
          rw [read?_hex] at hnone
          rwa [List.cons_append, List.cons_append, List.cons_append, List.cons_append, read?_hex]
      · rw [read?_escape hmark] at hnone
        rwa [List.cons_append, List.cons_append, read?_escape hmark]
  · rw [read?_of_ne hc] at hnone
    rwa [List.cons_append, read?_of_ne hc]

/-- A carriage return is one more element behind a run that is followed by nothing, and otherwise it
is behind what follows the run. -/
theorem Element.readAll_append_return (body : List Char) :
    (readAll (body ++ ['\r'])).2 =
      if (readAll body).2 = [] then [] else (readAll body).2 ++ ['\r'] := by
  have hsplit := flatMap_text_readAll body
  split
  · next hnil =>
    have hreturn : isOrdinary '\r' = true := rfl
    have hrun : body ++ ['\r'] =
        ((readAll body).1 ++ [Element.ordinary '\r' hreturn]).flatMap text ++ [] := by
      rw [hnil, List.append_nil] at hsplit
      simp [hsplit, text]
    rw [hrun, readAll_append _ rfl]
  · next hne =>
    have hrun : body ++ ['\r'] =
        (readAll body).1.flatMap text ++ ((readAll body).2 ++ ['\r']) := by
      rw [← List.append_assoc, hsplit]
    rw [hrun, readAll_append _ (read?_append_return (read?_readAll body) hne)]

namespace StringLiteral

/-- The line ends right behind a backslash that starts an escape. -/
theorem readAll_eq_backslash_iff {body : List Char} :
    (Element.readAll body).2 = ['\\'] ↔
      ∃ parts : List Part, body = parts.flatMap Part.text ++ ['\\'] := by
  constructor
  · intro h
    have hsplit := Element.flatMap_text_readAll body
    rw [h] at hsplit
    exact ⟨_, by rw [flatMap_text_map_ofElement, hsplit]⟩
  · rintro ⟨parts, rfl⟩
    obtain ⟨es, rfl⟩ := exists_map_ofElement parts
    rw [flatMap_text_map_ofElement, Element.readAll_append es rfl]

variable {body : List Char}

theorem not_closed_return (hopen : ∀ rest, (Element.readAll body).2 ≠ '"' :: rest)
    (rest : List Char) : (Element.readAll (body ++ ['\r'])).2 ≠ '"' :: rest := by
  rw [Element.readAll_append_return]
  split
  · simp
  · next hne =>
    obtain ⟨c, tail, hcons⟩ := List.exists_cons_of_ne_nil hne
    intro hquote
    rw [hcons, List.cons_append, List.cons.injEq] at hquote
    exact hopen tail (by rw [hcons, hquote.1])

/-- Behind a backslash a carriage return is what cannot be escaped. -/
theorem faultAt_return_of_backslash (h : (Element.readAll body).2 = ['\\']) :
    faultAt (Element.readAll (body ++ ['\r'])).2 = .invalidEscape "\\\r" := by
  rw [Element.readAll_append_return, h]
  rfl

theorem catalogName_faultAt_append_return {rest : List Char} (hnone : Element.read? rest = none)
    (hopen : ∀ more, rest ≠ '"' :: more) (hline : ∀ c ∈ rest, c ≠ '\n') (hne : rest ≠ [])
    (hbackslash : rest ≠ ['\\']) :
    (faultAt (rest ++ ['\r'])).catalogName = (faultAt rest).catalogName := by
  obtain ⟨c, tail, rfl⟩ := List.exists_cons_of_ne_nil hne
  by_cases hc : c = '\\'
  · subst hc
    cases tail with
    | nil => exact absurd rfl hbackslash
    | cons mark tail =>
      have hmark : mark ≠ '\n' := hline mark (by simp)
      by_cases hx : mark = 'x'
      · subst hx
        rfl
      · simp [faultAt, hmark]
  · have hquote : c ≠ '"' := fun heq => hopen tail (by rw [heq])
    exact absurd (eq_lineFeed_of_read?_eq_none hc hquote hnone) (hline c (by simp))

theorem catalogName_faultAt_return (hbody : ∀ c ∈ body, isInLine c = true)
    (hopen : ∀ rest, (Element.readAll body).2 ≠ '"' :: rest)
    (hbackslash : (Element.readAll body).2 ≠ ['\\']) :
    (faultAt (Element.readAll (body ++ ['\r'])).2).catalogName =
      (faultAt (Element.readAll body).2).catalogName := by
  have hline : ∀ c ∈ (Element.readAll body).2, c ≠ '\n' := by
    intro c hc
    have hmem : c ∈ body := by
      rw [← Element.flatMap_text_readAll body]
      exact List.mem_append_right _ hc
    simpa [isInLine] using hbody c hmem
  rw [Element.readAll_append_return]
  split
  · next hnil => rw [hnil]
  · next hne =>
    exact catalogName_faultAt_append_return (Element.read?_readAll body) hopen hline hne hbackslash

end StringLiteral

/-! ## What becomes of a token -/

namespace Token

/-- Whether the token is a string literal at fault. -/
def isOpenString (t : Token) : Bool :=
  t.kind.unplaced.error?.any Fault.isOfString

/-- The token is an unclosed string literal, of whose line nothing is left but a backslash that
starts an escape, and a line feed follows in the source, which has the given size. -/
structure EscapesLineFeed (size : ℕ) (t : Token) : Prop where
  unclosed : t.kind.unplaced = .error .unclosedString
  backslash : ∃ parts : List Part, t.lexeme.toList = '"' :: (parts.flatMap Part.text ++ ['\\'])
  lineFeed : t.span.stop.offset < size

/-- The second token stands for the first one, of a source of the given size, when carriage returns
have been put before the line feeds. -/
structure Counterpart (size : ℕ) (t t' : Token) : Prop where
  line_eq : t'.line = t.line
  /-- The kind is the same, with all that it carries, unless it is a string literal at fault. -/
  kind_eq : t.isOpenString = false → t'.kind.unplaced = t.kind.unplaced
  /-- The lexeme is the same, but a string literal at fault takes the carriage return at the end of
  its line, if the line has an end. -/
  lexeme_eq : t'.lexeme =
    if t.isOpenString ∧ t.span.stop.offset < size then t.lexeme ++ "\r" else t.lexeme
  catalogName_eq : ¬t.EscapesLineFeed size → t'.catalogName = t.catalogName
  /-- Behind a backslash the carriage return cannot be escaped, where the line feed ended the
  line. -/
  kind_of_escapes : t.EscapesLineFeed size → t'.kind.unplaced = .error (.invalidEscape "\\\r")

end Token

namespace Lexeme

variable {policy : Policy} {file : String} {line : UInt32} {offset offset' size : ℕ}

/-- A token that is the same in both sources.  If it is a string literal at fault, it is at the end
of the source. -/
theorem counterpart_self {kind : Kind Fault} {text : List Char}
    (hend : kind.error?.any Fault.isOfString = true → size ≤ offset + utf8Length text) :
    List.Forall₂ (Token.Counterpart size)
      (Lexeme.place ⟨.token kind, text⟩ file line offset).token?.toList
      (Lexeme.place ⟨.token kind, text⟩ file line offset').token?.toList := by
  refine .cons ⟨rfl, fun _ => ?_, ?_, fun _ => ?_, fun hescapes => ?_⟩ .nil
  · rw [Kind.unplaced_placed, Kind.unplaced_placed]
  · rw [if_neg]
    rintro ⟨hopen, hlt⟩
    rw [Token.isOpenString, Kind.unplaced_placed] at hopen
    exact absurd hlt (Nat.not_lt.mpr (hend hopen))
  · rw [Token.catalogName, Token.catalogName, Kind.unplaced_placed, Kind.unplaced_placed]
  · have hkind := hescapes.unclosed
    rw [Kind.unplaced_placed] at hkind
    exact absurd hescapes.lineFeed (Nat.not_lt.mpr (hend (by rw [hkind]; rfl)))

theorem counterpart_openString {body : List Char} (hbody : ∀ c ∈ body, isInLine c = true)
    (hopen : ∀ rest, (Element.readAll body).2 ≠ '"' :: rest)
    (hsize : offset + utf8Length ('"' :: body) < size) :
    List.Forall₂ (Token.Counterpart size)
      (Lexeme.place ⟨.token (.error (faultAt (Element.readAll body).2)), '"' :: body⟩
        file line offset).token?.toList
      (Lexeme.place ⟨.token (.error (faultAt (Element.readAll (body ++ ['\r'])).2)),
        '"' :: (body ++ ['\r'])⟩ file line offset').token?.toList := by
  have hstring : ∀ rest, ((Kind.error (faultAt rest)).error?.any Fault.isOfString) = true :=
    isOfString_faultAt
  have hbackslash : (∃ parts : List Part, (String.ofList ('"' :: body)).toList =
      '"' :: (parts.flatMap Part.text ++ ['\\'])) ↔ (Element.readAll body).2 = ['\\'] := by
    rw [readAll_eq_backslash_iff, String.toList_ofList]
    simp only [List.cons.injEq, true_and]
  refine .cons ⟨rfl, fun hclosed => ?_, ?_, fun hescapes => ?_, fun hescapes => ?_⟩ .nil
  · rw [Token.isOpenString, Kind.unplaced_placed, hstring] at hclosed
    cases hclosed
  · rw [if_pos ⟨by rw [Token.isOpenString, Kind.unplaced_placed, hstring], hsize⟩]
    exact @String.ofList_append ('"' :: body) ['\r']
  · rw [Token.catalogName, Token.catalogName, Kind.unplaced_placed, Kind.unplaced_placed]
    refine catalogName_faultAt_return hbody hopen fun hrest => hescapes ⟨?_, ?_, hsize⟩
    · rw [Kind.unplaced_placed, hrest]
      rfl
    · exact hbackslash.mpr hrest
  · rw [Kind.unplaced_placed, faultAt_return_of_backslash (hbackslash.mp hescapes.backslash)]

/-- What stands at the front of a text still does so with carriage returns before the line feeds,
but may take the one that is then behind it. -/
theorem Front.exists_counterpart {l : Lexeme} {after : List Char} (h : Front policy l after)
    (hl : l.shape ≠ .trivia .whitespace) (file : String) (line : UInt32) (offset' : ℕ)
    (hsize : offset + utf8Length (l.text ++ after) = size) :
    ∃ l' taken after', l'.text = l.text ++ taken ∧ Text.withReturns after = taken ++ after' ∧
      (∀ c ∈ taken, c = '\r') ∧ Front policy l' after' ∧
      List.Forall₂ (Token.Counterpart size) (l.place file line offset).token?.toList
        (l'.place file line offset').token?.toList := by
  rcases l with ⟨⟨_ | _⟩ | kind, text⟩
  · exact absurd rfl hl
  · cases h with
    | @comment body _ hbody hafter =>
      obtain rfl | ⟨rest, rfl⟩ := eq_nil_or_lineFeed hafter
      · exact ⟨_, [], [], by simp, rfl, by simp, .comment hbody hafter, .nil⟩
      · exact ⟨_, ['\r'], _, rfl, rfl, by simp,
          .comment (isInLine_append_return hbody) (stopsAt_cons.mpr rfl), .nil⟩
  · by_cases hstring : kind.error?.any Fault.isOfString = true
    · obtain ⟨fault, hfault, hstring'⟩ := (Option.any_eq_true _ _).mp hstring
      obtain rfl : kind = .error fault := by
        cases kind <;> cases hfault
        rfl
      obtain ⟨body, rfl, rfl, hbody, hopen, hafter⟩ := h.openString_of_isOfString hstring'
      obtain rfl | ⟨rest, rfl⟩ := eq_nil_or_lineFeed hafter
      · refine ⟨_, [], [], by simp, rfl, by simp, h, counterpart_self fun _ => ?_⟩
        simp [← hsize]
      · refine ⟨_, ['\r'], _, rfl, rfl, by simp,
          .openString (isInLine_append_return hbody) (not_closed_return hopen)
            (stopsAt_cons.mpr rfl),
          counterpart_openString hbody hopen ?_⟩
        have hlineFeed := '\n'.utf8Size_pos
        simp only [utf8Length_append, utf8Length_cons] at hsize ⊢
        omega
    · have hkind : ∀ fault, kind = .error fault → fault.isOfString = false := by
        rintro fault rfl
        simpa [Kind.error?] using hstring
      exact ⟨_, [], _, by simp, rfl, by simp, h.withReturns hkind,
        counterpart_self fun hopen => absurd hopen hstring⟩

/-- The tokens of a text stand for one another. -/
theorem forall₂_tokensAt_withReturns (cs : List Char) (hsize : offset + utf8Length cs = size) :
    List.Forall₂ (Token.Counterpart size) (tokensAt policy file line offset cs)
      (tokensAt policy file line offset' (Text.withReturns cs)) := by
  induction hn : cs.length using Nat.strongRecOn generalizing cs line offset offset' with
  | ind n ih =>
    subst hn
    cases h : next? policy cs with
    | none =>
      obtain rfl := next?_eq_none_iff.mp h
      rw [Text.withReturns_nil, tokensAt_nil, tokensAt_nil]
      exact .nil
    | some l =>
      have hlt := length_drop_lt_of_next? h
      obtain ⟨after, rfl, hfront⟩ := exists_front_of_next? h
      rw [List.drop_left] at hlt
      have hrest : offset + utf8Length l.text + utf8Length after = size := by
        rw [← hsize, utf8Length_append, Nat.add_assoc]
      rw [Text.withReturns_append]
      by_cases hl : l.shape = .trivia .whitespace
      · have hlayout := hfront.isLayout_of_mem hl
        have hlayout' : ∀ c ∈ Text.withReturns l.text, isLayout c = true := fun c hc =>
          (eq_return_or_mem hc).elim (fun hreturn => hreturn ▸ rfl) (hlayout c)
        rw [tokensAt_layout hlayout, tokensAt_layout hlayout', Text.count_withReturns]
        exact ih _ hlt after hrest rfl
      · obtain ⟨l', taken, after', htext, hafter, htaken, hfront', htoken⟩ :=
          hfront.exists_counterpart hl file line offset' hsize
        have hline := hfront.lineFeed_not_mem hl
        have hreturns : ∀ c ∈ taken, isLayout c = true := fun c hc => by rw [htaken c hc]; rfl
        have hcount : taken.count '\n' = 0 :=
          List.count_eq_zero.mpr fun hmem => absurd (htaken _ hmem) (by decide)
        -- for the rest, what the lexeme took is layout as it would be if it had been left
        have htail : List.Forall₂ (Token.Counterpart size)
            (tokensAt policy file (line + UInt32.ofNat (l.text.count '\n'))
              (offset + utf8Length l.text) after)
            (tokensAt policy file (line + UInt32.ofNat (l.text.count '\n'))
              (offset' + utf8Length l.text) (Text.withReturns after)) :=
          ih _ hlt after hrest rfl
        rw [hafter, tokensAt_layout hreturns, hcount] at htail
        rw [tokensAt_of_front hfront, Text.withReturns_eq_self hline, hafter, ← List.append_assoc,
          ← htext, tokensAt_of_front hfront', htext]
        refine List.rel_append htoken ?_
        simpa [hcount, Nat.add_assoc] using htail

end Lexeme

/-- **Carriage returns before the line feeds change next to nothing.**  The tokens of a source and
those of the source with the carriage returns stand for one another, in order.  Each is on the line
where it was, is listed under the same name, and has the kind and the lexeme that it had, unless it
is a string literal at fault.  Such a literal takes the carriage return at the end of its line, and
it changes its name by that in one case: if it was not closed because its line ended behind a
backslash. -/
theorem tokenize_withReturns (source : String) (file : Option String) (policy : Policy) :
    List.Forall₂ (Token.Counterpart source.utf8ByteSize) (tokenize source file policy)
      (tokenize (String.ofList (withReturns source.toList)) file policy) := by
  rw [Lexeme.tokenize_eq_tokensAt, Lexeme.tokenize_eq_tokensAt, String.toList_ofList]
  refine Lexeme.forall₂_tokensAt_withReturns _ ?_
  rw [Nat.zero_add, utf8Length_toList]

/-- What a backslash does to the end of its line can be told from how the line ends. -/
theorem tokenize_withReturns_backslash :
    '\r' ∉ "\"abc\\\n1".toList ∧
      withReturns "\"abc\\\n1".toList = "\"abc\\\r\n1".toList ∧
      (tokenize "\"abc\\\n1" none .strict).map Token.catalogName = ["UNCLOSED_STRING", "NUM"] ∧
      (tokenize "\"abc\\\r\n1" none .strict).map Token.catalogName = ["ESCAPE_ERROR", "NUM"] := by
  decide +kernel

end Lexing
