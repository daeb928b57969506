import Lexing.Proofs.CommandLine.Agreement
import Lexing.Proofs.Literal.Canonical
import Lexing.Proofs.Scan.Lines
import Lexing.Proofs.Text.LineOfByte
import Mathlib.Data.List.Forall2

/-!
# The lines of the output

The output has an entry for each token, and each entry ends with a line feed.  It is the entry of
one line as long as the token is displayed without a line feed, and for every token but one sort
this is so: line numbers, catalog names and lexemes have none, and neither have the digits of a
value.  A string literal is displayed with its content, and an escape can put a line feed there.

So the lines of the output are counted by the tokens and by the line feeds in the contents of string
literals (`ListsTokens.length_lines`), and they are the displayed tokens exactly if these contents
have none (`ListsTokens.lines_eq_iff`).  Then the output says what was listed: a line is cut at its
first two spaces into the number of a line, a catalog name and a value, and of these only the value
can have a space (`Token.listed_eq_of_display_eq`).

Where a content does have a line feed, its rest stands on a line that looks like any other, and two
sources with different tokens may have the same output (`output_not_one_line_per_token`).
-/

namespace Lexing

open Text

/-! ## What a token is displayed with -/

/-- A text is cut in one way only before a character that it does not have before. -/
theorem append_cons_inj_of_not_mem {d : Char} {a a' b b' : List Char} (ha : d ∉ a) (ha' : d ∉ a')
    (h : a ++ d :: b = a' ++ d :: b') : a = a' ∧ b = b' := by
  have hstops : ∀ rest, StopsAt (· ≠ d) (d :: rest) := fun rest => stopsAt_cons.mpr (by simp)
  have htext : ∀ {text : List Char}, d ∉ text → ∀ c ∈ text, decide (c ≠ d) = true := by
    intro text hd c hc
    exact decide_eq_true fun heq => hd (heq ▸ hc)
  have htake := takeWhile_append_of_stopsAt (htext ha) (hstops b)
  rw [h, takeWhile_append_of_stopsAt (htext ha') (hstops b')] at htake
  subst htake
  exact ⟨rfl, (List.cons.inj (List.append_cancel_left h)).2⟩

theorem Kind.catalogName_of_one_word (k : Kind Fault) :
    ' ' ∉ k.catalogName.toList ∧ '\n' ∉ k.catalogName.toList := by
  cases k with
  | keyword k => cases k <;> decide
  | symbol s =>
    rcases s with _ | _ | _ | _ | _ | _ | _ | _ | _ | r | o
    all_goals simp [catalogName, Symbol.catalogName]
  | error fault => cases fault <;> simp [catalogName, Fault.catalogName]
  | _ => simp [catalogName]

theorem toDigits_of_one_word (n : ℕ) : ' ' ∉ Nat.toDigits 10 n ∧ '\n' ∉ Nat.toDigits 10 n :=
  ⟨fun h => Bool.false_ne_true (Numeral.isDigit_of_mem_toDigits _ h),
    fun h => Bool.false_ne_true (Numeral.isDigit_of_mem_toDigits _ h)⟩

namespace Token

/-- What is listed of a token. -/
def listed (t : Token) : UInt32 × String × String := (t.line, t.catalogName, t.value)

/-- The line feeds in the content of a string literal; no other token has a content. -/
def contentLineFeeds (t : Token) : ℕ :=
  match t.kind with
  | .string content => content.toList.count '\n'
  | _ => 0

theorem toList_display (t : Token) :
    t.display.toList = Nat.toDigits 10 t.line.toNat ++ ' ' ::
      (t.catalogName.toList ++ ' ' :: t.value.toList) := by
  simp [display]

/-- What is listed of a token can be told from how it is displayed. -/
theorem listed_eq_of_display_eq {t u : Token} (h : t.display = u.display) :
    t.listed = u.listed := by
  rw [← String.toList_inj, toList_display, toList_display] at h
  obtain ⟨hline, hrest⟩ := append_cons_inj_of_not_mem (toDigits_of_one_word _).1
    (toDigits_of_one_word _).1 h
  obtain ⟨hname, hvalue⟩ := append_cons_inj_of_not_mem (Kind.catalogName_of_one_word _).1
    (Kind.catalogName_of_one_word _).1 hrest
  have hnumber : t.line = u.line := UInt32.toNat_inj.mp (Numeral.toDigits_injective hline)
  have hcatalog : t.catalogName = u.catalogName := String.toList_inj.mp hname
  rw [listed, listed, hnumber, hcatalog, String.toList_inj.mp hvalue]

theorem lineFeed_not_mem_toString (i : ℤ) : '\n' ∉ (toString i).toList := by
  cases i with
  | ofNat n =>
    have htext : (toString (Int.ofNat n)).toList = Nat.toDigits 10 n := Nat.toList_repr
    rw [htext]
    exact (toDigits_of_one_word n).2
  | negSucc n =>
    have htext : (toString (Int.negSucc n)).toList = '-' :: Nat.toDigits 10 (n + 1) := by
      rw [show toString (Int.negSucc n) = "-" ++ toString (n + 1) from rfl, String.toList_append]
      exact congrArg _ Nat.toList_repr
    rw [htext, List.mem_cons, not_or]
    exact ⟨by decide, (toDigits_of_one_word (n + 1)).2⟩

/-- Where the text of a token is of one line, the line feeds of its value are those of its
content. -/
theorem count_value {t : Token} (ht : '\n' ∉ t.lexeme.toList) :
    t.value.toList.count '\n' = t.contentLineFeeds := by
  obtain ⟨kind, lexeme, line, span⟩ := t
  cases kind with
  | number v => exact List.count_eq_zero_of_not_mem (lineFeed_not_mem_toString v.toInt)
  | byteNumber v =>
    exact List.count_eq_zero_of_not_mem (lineFeed_not_mem_toString (Int.ofNat v.toNat))
  | string content => rfl
  | _ => exact List.count_eq_zero_of_not_mem ht

theorem count_display {t : Token} (ht : '\n' ∉ t.lexeme.toList) :
    t.display.toList.count '\n' = t.contentLineFeeds := by
  have hline := List.count_eq_zero_of_not_mem (toDigits_of_one_word t.line.toNat).2
  have hname : t.catalogName.toList.count '\n' = 0 :=
    List.count_eq_zero_of_not_mem (Kind.catalogName_of_one_word _).2
  rw [toList_display, List.count_append, List.count_cons_of_ne (by decide), List.count_append,
    List.count_cons_of_ne (by decide), hline, hname, count_value ht, Nat.zero_add, Nat.zero_add]

end Token

/-! ## Rows that are written one below the other -/

namespace Text

/-- A text ends its row and is followed by the next one; each line feed in it makes a row more. -/
theorem length_lines_flatMap_lineFeed (rows : List (List Char)) :
    (lines (rows.flatMap (· ++ ['\n']))).length =
      rows.length + (rows.map (List.count '\n')).sum := by
  induction rows with
  | nil => rfl
  | cons row rows ih =>
    have hwhole : WholeLines (row ++ ['\n']) := wholeLines_of_getLast? (by simp)
    rw [List.flatMap_cons, hwhole.lines_append, List.length_append, hwhole.length_lines, ih,
      List.map_cons, List.sum_cons, List.length_cons, List.count_append]
    simp only [List.count_singleton_self]
    omega

/-- The rows are the lines of what is written exactly if each of them is of one line. -/
theorem lines_flatMap_lineFeed_iff (rows : List (List Char)) :
    lines (rows.flatMap (· ++ ['\n'])) = rows.map (· ++ ['\n']) ↔ ∀ row ∈ rows, '\n' ∉ row := by
  constructor
  · intro heq row hrow
    have hlength := congrArg List.length heq
    rw [length_lines_flatMap_lineFeed, List.length_map, Nat.add_eq_left,
      List.sum_eq_zero_iff_forall_eq_nat] at hlength
    exact List.count_eq_zero.mp (hlength _ (List.mem_map_of_mem hrow))
  · exact lines_flatMap_lineFeed

end Text

namespace CommandLine

/-! ## The output of a run -/

/-- The outcome is that of a run which lists the tokens of the source under the policy, and nothing
else, and which does not break off: comments are not wanted, its options select the policy, it finds
the source where it looks for it, and the errors can be drawn. -/
inductive ListsTokens (source : String) (policy : Policy) : Outcome → Prop
  | run {log : Log} {options : Options} {stdin : ByteArray} {files : FileTree}
      {texts : List String} (hplain : options.trivia = false) (hpolicy : options.policy = policy)
      (hread : options.file.elim (.ok stdin) files.read = .ok source.toUTF8)
      (hdrawn : ((tokenize source (some options.shownName) policy).filterMap
        Token.error?).mapM (Diagnostic.render · source) = .ok texts) :
      ListsTokens source policy (options.run log stdin files)

variable {source : String} {policy : Policy} {outcome : Outcome}

theorem ListsTokens.toList_output (h : ListsTokens source policy outcome) (file : Option String) :
    outcome.output.toList =
      ((tokenize source file policy).map (·.display.toList)).flatMap (· ++ ['\n']) := by
  obtain ⟨hplain, rfl, hread, hdrawn⟩ := h
  obtain ⟨-, houtput, -⟩ := Listing.ofSource_of_rendered _ hdrawn file
  rw [Options.run_eq_ofSource hread, houtput, hplain, Listing.listed_false, tokenize_eq]
  simp only [String.toList_join, List.flatMap_map, Listing.entryText, String.toList_append]
  rfl

theorem count_display_of_mem {file : Option String} {t : Token}
    (ht : t ∈ tokenize source file policy) :
    t.display.toList.count '\n' = t.contentLineFeeds := by
  obtain ⟨_, hfront⟩ := Scanner.exists_front_of_mem_items (mem_tokenize.mp ht)
  exact Token.count_display (hfront.lineFeed_not_mem nofun)

/-- There is a line for each token, and one more for each line feed in a content. -/
theorem ListsTokens.length_lines (h : ListsTokens source policy outcome) (file : Option String) :
    (lines outcome.output.toList).length = (tokenize source file policy).length +
      ((tokenize source file policy).map Token.contentLineFeeds).sum := by
  rw [h.toList_output file, length_lines_flatMap_lineFeed, List.length_map, List.map_map]
  congr 2
  exact List.map_congr_left fun t ht => count_display_of_mem ht

/-- The lines are the displayed tokens exactly if no content has a line feed. -/
theorem ListsTokens.lines_eq_iff (h : ListsTokens source policy outcome) (file : Option String) :
    lines outcome.output.toList =
        (tokenize source file policy).map (fun t => t.display.toList ++ ['\n']) ↔
      ∀ t ∈ tokenize source file policy, t.contentLineFeeds = 0 := by
  have hrows :=
    lines_flatMap_lineFeed_iff ((tokenize source file policy).map (·.display.toList))
  rw [← h.toList_output file, List.map_map] at hrows
  refine hrows.trans ?_
  rw [List.forall_mem_map]
  refine forall₂_congr fun t ht => ?_
  rw [← List.count_eq_zero, count_display_of_mem ht]

theorem map_listed_eq_of_lines_eq {tokens tokens' : List Token}
    (h : tokens'.map (fun t => t.display.toList ++ ['\n']) =
      tokens.map (fun t => t.display.toList ++ ['\n'])) :
    tokens'.map Token.listed = tokens.map Token.listed := by
  rw [← List.forall₂_eq_eq_eq, List.forall₂_map_left_iff, List.forall₂_map_right_iff] at h ⊢
  refine h.imp fun t u hrow => Token.listed_eq_of_display_eq ?_
  exact String.toList_inj.mp (List.append_cancel_right hrow)

/-- **The lines of the output.**  A run that lists the tokens of a source writes a line for each,
and one more for each line feed in the content of a string literal.  So the lines are the tokens as
they are displayed, one by one, exactly if no content has a line feed.  And two runs of which this
is true have the same output only if they list the same: as many tokens, each with the same line
number, catalog name and value. -/
theorem output_lines_exact (h : ListsTokens source policy outcome) (file : Option String) :
    let tokens := tokenize source file policy
    let rows := lines outcome.output.toList
    rows.length = tokens.length + (tokens.map Token.contentLineFeeds).sum ∧
    (rows = tokens.map (fun t => t.display.toList ++ ['\n']) ↔
      ∀ t ∈ tokens, t.contentLineFeeds = 0) ∧
    ∀ source' policy' outcome', ListsTokens source' policy' outcome' →
      let tokens' := tokenize source' file policy'
      (∀ t ∈ tokens, t.contentLineFeeds = 0) → (∀ t ∈ tokens', t.contentLineFeeds = 0) →
      outcome'.output = outcome.output → tokens'.map Token.listed = tokens.map Token.listed := by
  refine ⟨h.length_lines file, h.lines_eq_iff file, ?_⟩
  intro source' policy' outcome' h' tokens' hsingle hsingle' houtput
  apply map_listed_eq_of_lines_eq
  rw [← (h.lines_eq_iff file).mpr hsingle, ← (h'.lines_eq_iff file).mpr hsingle', houtput]

/-- The outcome of listing a source from standard input, with no options. -/
def listingOf (source : String) : Outcome :=
  Options.run ⟨.warn, fun n => n.level.name ++ "\n"⟩ {} source.toUTF8 ⟨[]⟩

theorem listsTokens_listingOf (hsound : (tokenize source (some stdinName) .strict).filterMap
    Token.error? = []) : ListsTokens source .strict (listingOf source) := by
  have hread : (none : Option String).elim (.ok source.toUTF8) (FileTree.read ⟨[]⟩) =
      .ok source.toUTF8 := rfl
  have hdrawn : ((tokenize source (some stdinName) .strict).filterMap Token.error?).mapM
      (Diagnostic.render · source) = .ok [] := by rw [hsound]; rfl
  exact .run rfl rfl hread hdrawn

/-- Two tokens of which one has a line feed in its content. -/
theorem output_lines_exact_escape :
    let outcome := listingOf "x\n\"a\\nb\""
    ListsTokens "x\n\"a\\nb\"" .strict outcome ∧
      (lines outcome.output.toList).length = 3 ∧
      lines outcome.output.toList ≠
        (tokenize "x\n\"a\\nb\"" none .strict).map (fun t => t.display.toList ++ ['\n']) := by
  have hlists : ListsTokens "x\n\"a\\nb\"" .strict (listingOf "x\n\"a\\nb\"") :=
    listsTokens_listingOf (by decide +kernel)
  obtain ⟨hlength, hlines, -⟩ := output_lines_exact hlists none
  exact ⟨hlists, hlength.trans (by decide +kernel), mt hlines.mp (by decide +kernel)⟩

/-- A line feed in the content of a string literal makes a line that is no token's, and that may be
taken for one: here a single token has two lines, and they are those of two other tokens. -/
theorem output_not_one_line_per_token :
    ListsTokens "\"a\\n1 ID b\"" .strict (listingOf "\"a\\n1 ID b\"") ∧
      (tokenize "\"a\\n1 ID b\"" none .strict).map Token.listed =
        [(1, "STRING", "a\n1 ID b")] ∧
      lines (listingOf "\"a\\n1 ID b\"").output.toList =
        ["1 STRING a\n".toList, "1 ID b\n".toList] ∧
      ListsTokens "\"a\" b" .strict (listingOf "\"a\" b") ∧
      (tokenize "\"a\" b" none .strict).map Token.listed = [(1, "STRING", "a"), (1, "ID", "b")] ∧
      (listingOf "\"a\" b").output = (listingOf "\"a\\n1 ID b\"").output := by
  have hone : ListsTokens "\"a\\n1 ID b\"" .strict (listingOf "\"a\\n1 ID b\"") :=
    listsTokens_listingOf (by decide +kernel)
  have htwo : ListsTokens "\"a\" b" .strict (listingOf "\"a\" b") :=
    listsTokens_listingOf (by decide +kernel)
  refine ⟨hone, by decide +kernel, ?_, htwo, by decide +kernel, ?_⟩
  · rw [hone.toList_output none]
    decide +kernel
  · rw [← String.toList_inj, hone.toList_output none, htwo.toList_output none]
    decide +kernel

end CommandLine

end Lexing
