import Lexing.CommandLine.Run
import Lexing.Proofs.Scan.Placement

/-!
# What the program writes

The program goes through the items of its source on its own and writes as it goes.  What it has
written at the end can be told from the items, all at once: the output has an entry for each token,
and for each comment where comments are wanted, the diagnostics are those of the errors, one after
the other, and the status says whether there was one (`Listing.extend_of_rendered`, by induction
along the pulls).

The log shares a stream with the diagnostics.  A scan makes no warnings, so a log that is kept for
warnings adds nothing to them, however it is worded.

None of this depends on where the source is read from, but for the name that the diagnostics show,
and nothing but the entries of comments depends on whether comments are wanted.
-/

namespace Lexing.CommandLine

namespace Listing

variable {source : String} {s : Scanner} {item : Item} {items : List Item} {texts : List String}

/-! ## Entries -/

/-- Whether the item has an entry: tokens have one, and comments do if they are wanted. -/
def isListed (comments : Bool) : Item → Bool
  | .token _ => true
  | .trivia t => comments && t.kind = .comment

/-- The entry of an item that has one, without the line feed at its end. -/
def entryText : Item → String
  | .token t => t.display
  | .trivia t => toString t.line.toNat ++ " COMMENT " ++ t.text

/-- The items that have an entry. -/
def listed (comments : Bool) (items : List Item) : List Item :=
  items.filter (isListed comments)

theorem entry_eq (comments : Bool) (item : Item) :
    entry comments item = if isListed comments item then entryText item ++ "\n" else "" := by
  rcases item with t | ⟨_ | _, text, line⟩
  · rfl
  · simp [entry, isListed]
  · simp [entry, isListed, entryText]

theorem join_map_entry (comments : Bool) (items : List Item) :
    String.join (items.map (entry comments)) =
      String.join ((listed comments items).map (entryText · ++ "\n")) := by
  induction items with
  | nil => rfl
  | cons item items ih =>
    rw [List.map_cons, String.join_cons, ih, entry_eq, listed, listed, List.filter_cons]
    split
    · rw [List.map_cons, String.join_cons]
    · rw [String.empty_append]

theorem filterMap_token?_listed (comments : Bool) (items : List Item) :
    (listed comments items).filterMap Item.token? = items.filterMap Item.token? := by
  rw [listed, List.filterMap_filter]
  congr 1
  funext item
  cases item with
  | token t => rfl
  | trivia t => exact ite_self none

theorem listed_false (items : List Item) :
    listed false items = (items.filterMap Item.token?).map Item.token := by
  rw [listed, List.map_filterMap, ← List.filterMap_eq_filter]
  congr 1
  funext item
  cases item <;> rfl

/-! ## Diagnostics -/

/-- The errors among items. -/
def errors (items : List Item) : List LexicalError :=
  items.filterMap error?

theorem length_errors_cons (item : Item) (items : List Item) :
    (errors (item :: items)).length = (error? item).isSome.toNat + (errors items).length := by
  rw [errors, List.filterMap_cons]
  cases error? item with
  | none => exact (Nat.zero_add _).symm
  | some e => exact Nat.add_comm _ 1

theorem errors_items_start (source : String) (file : Option String) (policy : Policy) :
    errors (Scanner.start source file policy).items =
      (tokenize source file policy).filterMap Token.error? := by
  rw [tokenize_eq, Scanner.tokens, List.filterMap_filterMap]
  rfl

theorem exists_of_mapM_cons {e : LexicalError} {es : List LexicalError}
    (h : (e :: es).mapM (Diagnostic.render · source) = .ok texts) :
    ∃ text texts', Diagnostic.render e source = .ok text ∧
      es.mapM (Diagnostic.render · source) = .ok texts' ∧ texts = text :: texts' := by
  rw [List.mapM_cons] at h
  cases htext : Diagnostic.render e source with
  | error _ => simp [htext, bind, Except.bind] at h
  | ok text =>
    cases htexts : es.mapM (Diagnostic.render · source) with
    | error _ => simp [htext, htexts, bind, Except.bind] at h
    | ok texts' =>
      simp only [htext, htexts, bind, Except.bind, pure, Except.pure, Except.ok.injEq] at h
      exact ⟨text, texts', rfl, rfl, h.symm⟩

/-- Where all errors can be drawn, the diagnostics are that of the first item and those of the
others. -/
theorem exists_complaint_of_cons
    (h : (errors (item :: items)).mapM (Diagnostic.render · source) = .ok texts) :
    ∃ text texts', complaint source item = .ok text ∧
      (errors items).mapM (Diagnostic.render · source) = .ok texts' ∧
      String.join texts = text ++ String.join texts' := by
  cases hitem : error? item with
  | none =>
    have hrest : errors (item :: items) = errors items := List.filterMap_cons_none hitem
    rw [hrest] at h
    exact ⟨"", texts, by rw [complaint, hitem], h, String.empty_append.symm⟩
  | some e =>
    have hrest : errors (item :: items) = e :: errors items := List.filterMap_cons_some hitem
    rw [hrest] at h
    obtain ⟨text, texts', htext, htexts, rfl⟩ := exists_of_mapM_cons h
    exact ⟨text, texts', by rw [complaint, hitem, ← htext], htexts, String.join_cons⟩

/-! ## The listing of items -/

/-- What is written about items whose errors can be drawn. -/
theorem extend_of_rendered (log : Log) (comments : Bool) (so : SoFar)
    (hdrawn : (errors s.items).mapM (Diagnostic.render · source) = .ok texts) :
    let outcome := extend log comments source so s
    outcome.status = (if so.errors + (errors s.items).length = 0 then .clean else .faulty) ∧
      outcome.output = so.output ++ String.join (s.items.map (entry comments)) ∧
      (log.level = .warn → outcome.diagnostics = so.diagnostics ++ String.join texts) := by
  fun_induction extend log comments source so s generalizing texts with
  | case1 so s hnone =>
    rw [Scanner.items_of_nextItem?_eq_none hnone] at hdrawn ⊢
    obtain rfl : [] = texts := Except.ok.inj hdrawn
    refine ⟨rfl, String.append_empty.symm, fun hlog => ?_⟩
    rw [SoFar.outcome, Log.write_of_level_eq_warn hlog]
    rfl
  | case2 so s item next hnext outcome htake =>
    rw [Scanner.items_eq_cons_of_nextItem? hnext] at hdrawn
    obtain ⟨text, texts', htext, -⟩ := exists_complaint_of_cons hdrawn
    simp [take, htext] at htake
  | case3 so s item next hnext so' htake ih =>
    rw [Scanner.items_eq_cons_of_nextItem? hnext] at hdrawn ⊢
    obtain ⟨text, texts', htext, htexts, hjoin⟩ := exists_complaint_of_cons hdrawn
    obtain ⟨hstatus, houtput, hdiagnostics⟩ := ih htexts
    simp only [take, htext, Except.ok.injEq] at htake
    subst htake
    refine ⟨?_, ?_, fun hlog => ?_⟩
    · rw [hstatus, length_errors_cons, Nat.add_assoc]
    · rw [houtput, List.map_cons, String.join_cons, String.append_assoc]
    · rw [hdiagnostics hlog, Log.write_of_level_eq_warn hlog, hjoin, String.append_empty,
        String.append_assoc]

/-! ### The name of the file -/

/-- The entry of an item, and whether it is an error, have nothing to do with the name of the
file. -/
theorem entry_place (comments : Bool) (l : Lexeme) (file file' : String) (line : UInt32)
    (offset : ℕ) :
    entry comments (l.place file line offset) = entry comments (l.place file' line offset) ∧
      (error? (l.place file line offset)).isSome = (error? (l.place file' line offset)).isSome := by
  rcases l with ⟨_ | kind, text⟩
  · exact ⟨rfl, rfl⟩
  · cases kind <;> exact ⟨rfl, rfl⟩

theorem entries_placeAll (comments : Bool) (ls : List Lexeme) (file file' : String) (line : UInt32)
    (offset : ℕ) :
    (Lexeme.placeAll file line offset ls).map (entry comments) =
        (Lexeme.placeAll file' line offset ls).map (entry comments) ∧
      (errors (Lexeme.placeAll file line offset ls)).length =
        (errors (Lexeme.placeAll file' line offset ls)).length := by
  induction ls generalizing line offset with
  | nil => exact ⟨rfl, rfl⟩
  | cons l ls ih =>
    obtain ⟨hentry, herror⟩ := entry_place comments l file file' line offset
    obtain ⟨hentries, herrors⟩ := ih (line + UInt32.ofNat (l.text.count '\n'))
      (offset + Text.utf8Length l.text)
    simp only [Lexeme.placeAll_cons, List.map_cons, length_errors_cons, hentry, herror, hentries,
      herrors, and_self]

theorem length_errors_items_start (source : String) (file : Option String) (policy : Policy) :
    (errors (Scanner.start source file policy).items).length = 0 ↔
      (tokenize source file policy).any (·.error?.isSome) = false := by
  rw [errors_items_start, List.length_eq_zero_iff, List.filterMap_eq_nil_iff, List.any_eq_false]
  exact forall₂_congr fun t _ => by rw [Option.not_isSome_iff_eq_none]

/-- What is written about a source whose errors can be drawn.  The name matters for the diagnostics
alone: everything else can be told from a scan under any name. -/
theorem ofSource_of_rendered (log : Log) {options : Options} {name : String}
    (hdrawn : ((tokenize source (some name) options.policy).filterMap Token.error?).mapM
      (Diagnostic.render · source) = .ok texts) (file : Option String) :
    let outcome := ofSource log options name source
    outcome.status =
        (if (tokenize source file options.policy).any (·.error?.isSome) then .faulty else .clean) ∧
      outcome.output = String.join ((listed options.trivia
        (Scanner.start source file options.policy).items).map (entryText · ++ "\n")) ∧
      (log.level = .warn → outcome.diagnostics = String.join texts) := by
  rw [← errors_items_start] at hdrawn
  obtain ⟨hstatus, houtput, hdiagnostics⟩ :=
    extend_of_rendered log options.trivia .nothing hdrawn
  obtain ⟨hentries, herrors⟩ := entries_placeAll options.trivia
    (Lexeme.lexemes options.policy source.toList) name (file.getD Scanner.unnamed) 1 0
  have hcount : SoFar.nothing.errors +
      (errors (Scanner.start source (some name) options.policy).items).length =
        (errors (Scanner.start source file options.policy).items).length := by
    rw [Scanner.items_start, Scanner.items_start]
    exact (Nat.zero_add _).trans herrors
  refine ⟨?_, ?_, fun hlog => (hdiagnostics hlog).trans String.empty_append⟩
  · rw [ofSource, hstatus, hcount]
    have hclean := length_errors_items_start source file options.policy
    cases hany : (tokenize source file options.policy).any (·.error?.isSome) with
    | false => rw [if_pos (hclean.mpr hany)]; rfl
    | true => rw [if_neg (by rw [hclean, hany]; decide)]; rfl
  · rw [ofSource, houtput, ← join_map_entry, Scanner.items_start, Scanner.items_start, ← hentries]
    exact String.empty_append

end Listing

/-! ## The program -/

theorem textOfBytes_toUTF8 (source : String) : textOfBytes source.toUTF8 = .ok source := by
  have htext : String.fromUTF8? source.toUTF8 = some source := by
    simp only [String.fromUTF8?, String.toUTF8_eq_toByteArray, dif_pos source.isValidUTF8]
    rfl
  rw [textOfBytes, htext]

theorem Options.run_eq_ofSource {log : Log} {options : Options} {source : String}
    {stdin : ByteArray} {files : FileTree}
    (hread : options.file.elim (.ok stdin) files.read = .ok source.toUTF8) :
    options.run log stdin files = Listing.ofSource log options options.shownName source := by
  simp only [run, hread, conclude, Except.bind, textOfBytes_toUTF8]

/-- **What the program writes is told by the items and the tokens of the source.**  The options are
any: comments may be wanted or not, and the policy is the one that they select.  The log is kept for
warnings only.  All errors are taken to be such that they can be drawn: `texts` are their
diagnostics, and they are the same whether comments are wanted or not. -/
theorem run_agrees_with_tokens {log : Log} {options : Options} {source : String}
    {stdin : ByteArray} {files : FileTree} {texts : List String} (hlog : log.level = .warn)
    (hread : options.file.elim (.ok stdin) files.read = .ok source.toUTF8)
    (hdrawn : ((tokenize source (some options.shownName) options.policy).filterMap
      Token.error?).mapM (Diagnostic.render · source) = .ok texts) (file : Option String) :
    let outcome := options.run log stdin files
    let items := (Scanner.start source file options.policy).items
    let tokens := tokenize source file options.policy
    let listed := Listing.listed options.trivia items
    outcome.output = String.join (listed.map (Listing.entryText · ++ "\n")) ∧
      listed.filterMap Item.token? = tokens ∧
      (options.trivia = false → outcome.output = String.join (tokens.map (·.display ++ "\n"))) ∧
      outcome.diagnostics = String.join texts ∧
      outcome.status.code = if tokens.any (·.error?.isSome) then 1 else 0 := by
  intro outcome items tokens listed
  have hrun : outcome = Listing.ofSource log options options.shownName source :=
    Options.run_eq_ofSource hread
  obtain ⟨hstatus, houtput, hdiagnostics⟩ := Listing.ofSource_of_rendered log hdrawn file
  rw [← hrun] at hstatus houtput hdiagnostics
  have htokens : items.filterMap Item.token? = tokens :=
    (tokenize_eq source file options.policy).symm
  refine ⟨houtput, (Listing.filterMap_token?_listed _ _).trans htokens, ?_, hdiagnostics hlog, ?_⟩
  · intro hplain
    have hlisted : listed = tokens.map Item.token := by
      rw [← htokens, ← Listing.listed_false, ← hplain]
    rw [houtput]
    change String.join (listed.map _) = _
    rw [hlisted, List.map_map]
    rfl
  · rw [hstatus]
    cases tokens.any (·.error?.isSome) <;> rfl

/-- A comment and an error on standard input, and words with underscores. -/
theorem run_agrees_with_tokens_comment :
    let log : Log := ⟨.warn, fun n => n.level.name ++ "
"⟩
    let options : Options := { trivia := true, allowUnderscores := true }
    let outcome := options.run log "x_ // c
@".toUTF8 ⟨[]⟩
    outcome.output = "1 ID x_
1 COMMENT // c
2 UNKNOWN_CHAR @
" ∧
      outcome.diagnostics = "Error: UnknownCharacter (`@` is not part of the language)
" ++
        "-> <stdin>
  |
2 | @
  | ^
" ∧
      outcome.status.code = 1 := by
  intro log options outcome
  have hread : options.file.elim (.ok "x_ // c
@".toUTF8) (FileTree.read ⟨[]⟩) =
      .ok "x_ // c
@".toUTF8 := rfl
  have hdrawn : ((tokenize "x_ // c
@" (some options.shownName) options.policy).filterMap
      Token.error?).mapM (Diagnostic.render · "x_ // c
@") =
        .ok ["Error: UnknownCharacter (`@` is not part of the language)
" ++
          "-> <stdin>
  |
2 | @
  | ^
"] := by decide +kernel
  have hlog : log.level = .warn := rfl
  obtain ⟨houtput, -, -, hdiagnostics, hcode⟩ := run_agrees_with_tokens hlog hread hdrawn none
  exact ⟨houtput.trans (by decide +kernel), hdiagnostics.trans (by decide +kernel),
    hcode.trans (by decide +kernel)⟩

end Lexing.CommandLine
