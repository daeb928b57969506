import Lexing.Proofs.Scan.Lines

/-!
# A session follows the items

However the calls to a scanner are mixed, they walk one list: the items that pulling one after the
other gives.  A scanner in use is always at an index of this list, and so is every scanner that was
kept.  `Answers` says, by indices alone, what each move gives at an index and to which index it
leads; `Scanner.move_sessionAt` that a session does just this, and `Scanner.moves_sessionAt` has it
for any moves in any order, by induction on the moves.

A session returns to the scanner that was kept last and forgets it.  Who keeps copies need not use
them in this order, nor only once, so a `Move` is a call or a return to any of the kept scanners,
after which it is still kept.

Since an index is all that a scanner has, a copy of it cannot be told from it, and what is asked of
the one does not move the other.
-/

namespace Lexing

/-! ## Moves -/

/-- A call, or a return to one of the scanners that were kept, the last of which is number `0`. -/
inductive Move where
  | call (call : Call)
  | goBack (i : ℕ)

namespace Session

/-- Makes one move.  A scanner that is gone back to stays kept. -/
def move (s : Session) : Move → Reply × Session
  | .call call => s.answer call
  | .goBack i =>
    match s.kept[i]? with
    | none => (.kept none, s)
    | some scanner => (.kept (some s.kept.length), { s with scanner := scanner })

/-- Makes moves in order.  With each reply comes the session behind it. -/
def moves (s : Session) : List Move → List (Reply × Session)
  | [] => []
  | move :: moves =>
    let after := s.move move
    after :: after.2.moves moves

theorem answer_nextItem (s : Session) :
    s.answer .nextItem =
      match s.scanner.nextItem? with
      | none => (.item none, s)
      | some (item, scanner) => (.item (some item), ⟨scanner, s.kept⟩) := rfl

theorem answer_nextToken (s : Session) :
    s.answer .nextToken = (.token s.scanner.nextToken.1, ⟨s.scanner.nextToken.2, s.kept⟩) := rfl

theorem answer_drain (s : Session) :
    s.answer .drain = (.tokens s.scanner.tokens, ⟨s.scanner.atEnd, s.kept⟩) := by
  rw [answer, Scanner.drain_eq]

theorem answer_count (s : Session) : s.answer .count = (.count s.scanner.tokens.length, s) := by
  rw [answer, Scanner.drain_eq]

theorem moves_map_call (s : Session) (calls : List Call) :
    s.moves (calls.map .call) = s.run calls := by
  induction calls generalizing s with
  | nil => rfl
  | cons call calls ih =>
    rw [List.map_cons, moves, run, ih]
    rfl

end Session

/-! ## Indices -/

/-- The index that a scanner in use is at, and the indices that were kept, the last one first. -/
structure Places where
  index : ℕ
  kept : List ℕ

/-- The places lie among the items, or at their end. -/
structure Places.Among (places : Places) (items : List Item) : Prop where
  index_le : places.index ≤ items.length
  kept_le : ∀ k ∈ places.kept, k ≤ items.length

/-- What a move gives at the first places among the items, and the places to which it leads. -/
inductive Answers (items : List Item) : Places → Move → Reply → Places → Prop
  /-- The item at the index is given. -/
  | item {k : ℕ} {kept : List ℕ} {item : Item} (hk : items[k]? = some item) :
      Answers items ⟨k, kept⟩ (.call .nextItem) (.item (some item)) ⟨k + 1, kept⟩
  /-- At the end there is no item, and no move. -/
  | noItem {kept : List ℕ} :
      Answers items ⟨items.length, kept⟩ (.call .nextItem) (.item none) ⟨items.length, kept⟩
  /-- The first token from the index on is given. -/
  | token {k j : ℕ} {kept : List ℕ} {t : Token} (hkj : k ≤ j)
      (hj : items[j]? = some (.token t))
      (hskipped : ∀ i, k ≤ i → i < j → ∀ t, items[i]? ≠ some (.token t)) :
      Answers items ⟨k, kept⟩ (.call .nextToken) (.token (some t)) ⟨j + 1, kept⟩
  /-- Where no token is left the scanner moves to the end. -/
  | noToken {k : ℕ} {kept : List ℕ} (hnone : ∀ i, k ≤ i → ∀ t, items[i]? ≠ some (.token t)) :
      Answers items ⟨k, kept⟩ (.call .nextToken) (.token none) ⟨items.length, kept⟩
  | look {places : Places} : Answers items places (.call .look) .seen places
  /-- All tokens from the index on are given. -/
  | drain {k : ℕ} {kept : List ℕ} :
      Answers items ⟨k, kept⟩ (.call .drain) (.tokens ((items.drop k).filterMap Item.token?))
        ⟨items.length, kept⟩
  | count {k : ℕ} {kept : List ℕ} :
      Answers items ⟨k, kept⟩ (.call .count)
        (.count ((items.drop k).filterMap Item.token?).length) ⟨k, kept⟩
  | save {k : ℕ} {kept : List ℕ} :
      Answers items ⟨k, kept⟩ (.call .save) (.kept (some (kept.length + 1))) ⟨k, k :: kept⟩
  | restore {k j : ℕ} {kept : List ℕ} :
      Answers items ⟨k, j :: kept⟩ (.call .restore) (.kept (some kept.length)) ⟨j, kept⟩
  | nothingKept {k : ℕ} : Answers items ⟨k, []⟩ (.call .restore) (.kept none) ⟨k, []⟩
  | goBack {k i j : ℕ} {kept : List ℕ} (hi : kept[i]? = some j) :
      Answers items ⟨k, kept⟩ (.goBack i) (.kept (some kept.length)) ⟨j, kept⟩
  | nowhere {k i : ℕ} {kept : List ℕ} (hi : kept.length ≤ i) :
      Answers items ⟨k, kept⟩ (.goBack i) (.kept none) ⟨k, kept⟩

/-- What moves in order give, each with the places to which it leads. -/
inductive Trace (items : List Item) : Places → List Move → List (Reply × Places) → Prop
  | nil (places : Places) : Trace items places [] []
  | cons {places next : Places} {move : Move} {moves : List Move} {reply : Reply}
      {trace : List (Reply × Places)} (hmove : Answers items places move reply next)
      (hmoves : Trace items next moves trace) :
      Trace items places (move :: moves) ((reply, next) :: trace)

namespace Answers

variable {items skipped rest : List Item} {token : Token} {k : ℕ} {kept : List ℕ}

/-- The tokens from an index on, as what is left of the items there has them. -/
theorem token_of_drop_eq (h : items.drop k = skipped ++ .token token :: rest)
    (hskipped : ∀ item ∈ skipped, item.token? = none) :
    Answers items ⟨k, kept⟩ (.call .nextToken) (.token (some token))
      ⟨k + (skipped.length + 1), kept⟩ := by
  refine .token (j := k + skipped.length) (Nat.le_add_right _ _) ?_ ?_
  · rw [← List.getElem?_drop, h, List.getElem?_append_right le_rfl, Nat.sub_self]
    rfl
  · intro i hki hi t ht
    obtain ⟨d, rfl⟩ := Nat.exists_eq_add_of_le hki
    rw [← List.getElem?_drop, h, List.getElem?_append_left (by omega)] at ht
    cases hskipped _ (List.mem_of_getElem? ht)

theorem noToken_of_drop (h : ∀ item ∈ items.drop k, item.token? = none) :
    Answers items ⟨k, kept⟩ (.call .nextToken) (.token none) ⟨items.length, kept⟩ := by
  refine .noToken ?_
  intro i hki t ht
  obtain ⟨d, rfl⟩ := Nat.exists_eq_add_of_le hki
  rw [← List.getElem?_drop] at ht
  cases h _ (List.mem_of_getElem? ht)

end Answers

namespace Places.Among

variable {items : List Item} {places next : Places} {move : Move} {reply : Reply}

theorem of_answers (h : Answers items places move reply next) (hplaces : places.Among items) :
    next.Among items := by
  obtain ⟨hindex, hkept⟩ := hplaces
  cases h with
  | item hk => exact ⟨(List.getElem?_eq_some_iff.mp hk).1, hkept⟩
  | token _ hj => exact ⟨(List.getElem?_eq_some_iff.mp hj).1, hkept⟩
  | noToken | drain => exact ⟨le_rfl, hkept⟩
  | noItem | look | count | nothingKept | nowhere => exact ⟨hindex, hkept⟩
  | save => exact ⟨hindex, List.forall_mem_cons.mpr ⟨hindex, hkept⟩⟩
  | restore =>
    obtain ⟨hj, hkept⟩ := List.forall_mem_cons.mp hkept
    exact ⟨hj, hkept⟩
  | goBack hi => exact ⟨hkept _ (List.mem_of_getElem? hi), hkept⟩

theorem of_mem_trace {moves : List Move} {trace : List (Reply × Places)}
    (h : Trace items places moves trace) (hplaces : places.Among items) :
    ∀ step ∈ trace, step.2.Among items := by
  induction h with
  | nil => exact fun _ hstep => absurd hstep List.not_mem_nil
  | cons hmove _ ih =>
    have hnext := hplaces.of_answers hmove
    exact List.forall_mem_cons.mpr ⟨hnext, ih hnext⟩

end Places.Among

namespace Scanner

variable {s t next : Scanner} {item : Item} {items : List Item}

/-! ## The scanner at an index -/

/-- The scanner behind the first `k` of the items ahead. -/
def behind (s : Scanner) (k : ℕ) : Scanner :=
  { s with cursor := s.cursor.advanceBy (Item.textOf (s.items.take k)).length }

theorem Pulls.eq_behind (h : Pulls s items t) : t = s.behind items.length := by
  rw [behind, h.items_eq, List.take_left]
  exact h.eq_advanceBy

theorem pulls_behind (s : Scanner) (k : ℕ) : Pulls s (s.items.take k) (s.behind k) := by
  have hrun := pulls_of_items_eq (List.take_append_drop k s.items).symm
  obtain ⟨m, hm, -⟩ := hrun.exists_of_append
  have heq : m = s.behind k := hm.eq_advanceBy
  rwa [← heq]

theorem items_behind (s : Scanner) (k : ℕ) : (s.behind k).items = s.items.drop k := by
  have hitems := (pulls_behind s k).items_eq
  conv_lhs at hitems => rw [← List.take_append_drop k s.items]
  exact (List.append_cancel_left hitems).symm

theorem behind_behind (s : Scanner) (k n : ℕ) : (s.behind k).behind n = s.behind (k + n) := by
  have htext : Item.textOf (s.items.take (k + n)) =
      Item.textOf (s.items.take k) ++ Item.textOf ((s.behind k).items.take n) := by
    rw [items_behind, List.take_add, Item.textOf_append]
  rw [behind, behind, behind, htext, List.length_append, Cursor.advanceBy_add]
  rfl

theorem behind_length (s : Scanner) : s.behind s.items.length = s.atEnd :=
  (pulls_items s).eq_behind.symm

theorem atEnd_behind (s : Scanner) (k : ℕ) : (s.behind k).atEnd = s.atEnd := by
  rw [atEnd, atEnd, (pulls_behind s k).rest_eq, List.length_append, Cursor.advanceBy_add]
  rfl

/-! ## One pull of a token -/

theorem nextItem?_of_items_eq_nil (h : s.items = []) : s.nextItem? = none := by
  have hend : s.behind 0 = s.atEnd := by
    rw [← behind_length, h]
    rfl
  have hnone := nextItem?_atEnd s
  rwa [← hend] at hnone

theorem eq_behind_of_nextItem? (h : s.nextItem? = some (item, next)) : next = s.behind 1 :=
  (Pulls.cons h (.nil next)).eq_behind

theorem nextItem?_of_items_eq_cons (h : s.items = item :: items) :
    s.nextItem? = some (item, s.behind 1) := by
  cases pulls_of_items_eq h with
  | cons hnext _ => rw [hnext, ← eq_behind_of_nextItem? hnext]

/-- The items ahead are all trivia, and everything is passed over; or there is a first token among
them, and trivia is passed over up to it, and no further. -/
theorem nextToken_cases (s : Scanner) :
    ((∀ item ∈ s.items, item.token? = none) ∧ s.nextToken = (none, s.atEnd)) ∨
      ∃ skipped token rest, s.items = skipped ++ .token token :: rest ∧
        (∀ item ∈ skipped, item.token? = none) ∧
        s.nextToken = (some token, s.behind (skipped.length + 1)) := by
  fun_induction nextToken s with
  | case1 s hnone =>
    rw [items_of_nextItem?_eq_none hnone, atEnd_of_nextItem?_eq_none hnone]
    exact .inl ⟨List.forall_mem_nil _, rfl⟩
  | case2 s token next hnext =>
    refine .inr ⟨[], token, next.items, items_eq_cons_of_nextItem? hnext, List.forall_mem_nil _, ?_⟩
    rw [eq_behind_of_nextItem? hnext]
    rfl
  | case3 s trivia next hnext ih =>
    rw [items_eq_cons_of_nextItem? hnext, ← atEnd_of_nextItem? hnext]
    rcases ih with ⟨hnone, hpull⟩ | ⟨skipped, token, rest, hitems, hskipped, hpull⟩
    · exact .inl ⟨List.forall_mem_cons.mpr ⟨rfl, hnone⟩, hpull⟩
    · refine .inr ⟨.trivia trivia :: skipped, token, rest, ?_,
        List.forall_mem_cons.mpr ⟨rfl, hskipped⟩, ?_⟩
      · rw [hitems, List.cons_append]
      · rw [hpull, eq_behind_of_nextItem? hnext, behind_behind, List.length_cons, Nat.add_comm 1]

theorem tokens_atEnd (s : Scanner) : s.atEnd.tokens = [] := by
  rw [tokens, items_of_nextItem?_eq_none (nextItem?_atEnd s), List.filterMap_nil]

theorem nextToken_eq (s : Scanner) :
    s.nextToken.1 = s.tokens.head? ∧ s.nextToken.2.tokens = s.tokens.tail := by
  match hpull : s.nextToken with
  | (none, next) =>
    obtain ⟨htokens, rfl⟩ := tokens_eq_nil_of_nextToken hpull
    rw [htokens]
    exact ⟨rfl, tokens_atEnd s⟩
  | (some token, next) =>
    rw [(tokens_eq_cons_of_nextToken hpull).1]
    exact ⟨rfl, rfl⟩

/-- Pulling tokens until there is none gives all tokens ahead. -/
theorem run_replicate_nextToken (s : Scanner) (kept : List Scanner) :
    ((Session.mk s kept).run (.replicate (s.tokens.length + 1) .nextToken)).map Prod.fst =
      s.tokens.map (.token ∘ some) ++ [.token none] := by
  induction htokens : s.tokens generalizing s with
  | nil =>
    have hfirst : s.nextToken.1 = none := by
      rw [s.nextToken_eq.1, htokens, List.head?_nil]
    rw [List.length_nil, List.replicate_one, Session.run, Session.run, Session.answer_nextToken,
      hfirst]
    rfl
  | cons token tokens ih =>
    have hfirst : s.nextToken.1 = some token := by
      rw [s.nextToken_eq.1, htokens, List.head?_cons]
    have hothers : s.nextToken.2.tokens = tokens := by
      rw [s.nextToken_eq.2, htokens, List.tail_cons]
    rw [List.length_cons, List.replicate_succ, Session.run, Session.answer_nextToken,
      List.map_cons, ih s.nextToken.2 hothers, hfirst]
    rfl

/-! ## Sessions at indices -/

/-- The session whose scanners are at the places. -/
def sessionAt (s : Scanner) (places : Places) : Session :=
  ⟨s.behind places.index, places.kept.map s.behind⟩

theorem tokens_behind (s : Scanner) (k : ℕ) :
    (s.behind k).tokens = (s.items.drop k).filterMap Item.token? := by
  rw [tokens, items_behind]

theorem answer_nextItem_sessionAt (s : Scanner) {k : ℕ} (hk : k ≤ s.items.length)
    (kept : List ℕ) :
    ∃ reply next, Answers s.items ⟨k, kept⟩ (.call .nextItem) reply next ∧
      (s.sessionAt ⟨k, kept⟩).answer .nextItem = (reply, s.sessionAt next) := by
  cases hitem : s.items[k]? with
  | none =>
    obtain rfl : k = s.items.length := Nat.le_antisymm hk (List.getElem?_eq_none_iff.mp hitem)
    have hnil : (s.behind s.items.length).items = [] := by
      rw [items_behind, List.drop_length]
    refine ⟨_, _, .noItem, ?_⟩
    rw [Session.answer_nextItem, sessionAt, nextItem?_of_items_eq_nil hnil]
  | some item =>
    obtain ⟨hlt, rfl⟩ := List.getElem?_eq_some_iff.mp hitem
    have hcons : (s.behind k).items = s.items[k] :: s.items.drop (k + 1) := by
      rw [items_behind, List.drop_eq_getElem_cons hlt]
    refine ⟨_, _, .item hitem, ?_⟩
    rw [Session.answer_nextItem, sessionAt, nextItem?_of_items_eq_cons hcons, behind_behind]
    rfl

theorem answer_nextToken_sessionAt (s : Scanner) (k : ℕ) (kept : List ℕ) :
    ∃ reply next, Answers s.items ⟨k, kept⟩ (.call .nextToken) reply next ∧
      (s.sessionAt ⟨k, kept⟩).answer .nextToken = (reply, s.sessionAt next) := by
  have hcases := (s.behind k).nextToken_cases
  rw [items_behind] at hcases
  rcases hcases with ⟨hnone, hpull⟩ | ⟨skipped, token, rest, hitems, hskipped, hpull⟩
  · refine ⟨_, _, .noToken_of_drop hnone, ?_⟩
    rw [Session.answer_nextToken, sessionAt, hpull, atEnd_behind, ← behind_length]
    rfl
  · refine ⟨_, _, .token_of_drop_eq hitems hskipped, ?_⟩
    rw [Session.answer_nextToken, sessionAt, hpull, behind_behind]
    rfl

/-- A move gives what the indices say, and leads where they say. -/
theorem move_sessionAt (s : Scanner) {places : Places} (hplaces : places.Among s.items)
    (move : Move) :
    ∃ reply next, Answers s.items places move reply next ∧
      (s.sessionAt places).move move = (reply, s.sessionAt next) := by
  obtain ⟨k, kept⟩ := places
  cases move with
  | goBack i =>
    cases hi : kept[i]? with
    | none =>
      refine ⟨_, _, .nowhere (List.getElem?_eq_none_iff.mp hi), ?_⟩
      simp [Session.move, sessionAt, hi]
    | some j =>
      refine ⟨_, _, .goBack hi, ?_⟩
      simp [Session.move, sessionAt, hi]
  | call call =>
    cases call with
    | nextItem => exact s.answer_nextItem_sessionAt hplaces.index_le kept
    | nextToken => exact s.answer_nextToken_sessionAt k kept
    | look => exact ⟨_, _, .look, rfl⟩
    | drain =>
      refine ⟨_, _, .drain, ?_⟩
      rw [← tokens_behind, sessionAt, sessionAt, behind_length, ← atEnd_behind s k]
      exact Session.answer_drain _
    | count =>
      refine ⟨_, _, .count, ?_⟩
      rw [← tokens_behind]
      exact Session.answer_count _
    | save =>
      refine ⟨_, _, .save, ?_⟩
      simp [Session.move, Session.answer, sessionAt]
    | restore =>
      cases kept with
      | nil => exact ⟨_, _, .nothingKept, rfl⟩
      | cons j kept =>
        refine ⟨_, _, .restore, ?_⟩
        simp [Session.move, Session.answer, sessionAt]

/-- Any moves in order give what the indices say, and lead where they say. -/
theorem moves_sessionAt (s : Scanner) {places : Places} (hplaces : places.Among s.items)
    (moves : List Move) :
    ∃ trace, Trace s.items places moves trace ∧
      (s.sessionAt places).moves moves = trace.map fun step => (step.1, s.sessionAt step.2) := by
  induction moves generalizing places with
  | nil => exact ⟨[], .nil places, rfl⟩
  | cons move moves ih =>
    obtain ⟨reply, next, hanswer, hmove⟩ := s.move_sessionAt hplaces move
    obtain ⟨trace, htrace, hmoves⟩ := ih (hplaces.of_answers hanswer)
    refine ⟨(reply, next) :: trace, .cons hanswer htrace, ?_⟩
    rw [Session.moves, hmove, hmoves, List.map_cons]

/-! ## From the start of a source -/

variable {source : String} {file : Option String} {policy : Policy}

theorem line_behind (hlines : source.toList.count '\n' < UInt32.size - 1) (k : ℕ) :
    ((start source file policy).behind k).line.toNat =
      1 + (Item.textOf ((start source file policy).items.take k)).count '\n' :=
  (pulls_behind _ k).toNat_line_of_start hlines

/-- **All ways of pulling walk one list.**  Pulling item after item from the start of a source
gives its items, and then there is none.  A session that starts there, whatever moves are made in
whatever order, is at an index of this list after each of them, and so is every scanner that it
keeps: what a move gives and where it leads is said by `Answers`.  The scanner at an index is the
one to which the items before it lead, and its line is that of their line feeds.  Pulling tokens
from there until there is none gives the tokens from the index on; from the first index these are
all tokens of the source. -/
theorem session_follows_items (source : String) (file : Option String) (policy : Policy)
    (hlines : source.toList.count '\n' < UInt32.size - 1) :
    let s := start source file policy
    (Pulls s s.items s.atEnd ∧ s.atEnd.nextItem? = none) ∧
      (∀ moves, ∃ trace, Trace s.items ⟨0, []⟩ moves trace ∧
        (Session.start s).moves moves = trace.map (fun step => (step.1, s.sessionAt step.2)) ∧
        ∀ step ∈ trace, step.2.Among s.items) ∧
      (∀ calls, (Session.start s).moves (calls.map .call) = (Session.start s).run calls) ∧
      (∀ k, Pulls s (s.items.take k) (s.behind k) ∧
        (s.behind k).line.toNat = 1 + (Item.textOf (s.items.take k)).count '\n' ∧
        ((Session.start (s.behind k)).run
            (.replicate ((s.behind k).tokens.length + 1) .nextToken)).map Prod.fst =
          ((s.items.drop k).filterMap Item.token?).map (.token ∘ some) ++ [.token none]) ∧
      tokenize source file policy = s.items.filterMap Item.token? := by
  intro s
  have hstart : (Places.mk 0 []).Among s.items := ⟨Nat.zero_le _, List.forall_mem_nil _⟩
  refine ⟨⟨pulls_items s, nextItem?_atEnd s⟩, ?_, Session.moves_map_call _, ?_,
    tokenize_eq source file policy⟩
  · intro moves
    obtain ⟨trace, htrace, hmoves⟩ := s.moves_sessionAt hstart moves
    exact ⟨trace, htrace, hmoves, hstart.of_mem_trace htrace⟩
  · intro k
    refine ⟨pulls_behind s k, line_behind hlines k, ?_⟩
    rw [Session.start, run_replicate_nextToken, tokens_behind]

/-- An item, a copy kept behind it, a token behind trivia, and twice back to the copy. -/
theorem session_follows_items_comment :
    "a // b\nc ".toList.count '\n' < UInt32.size - 1 ∧
      ∃ trace,
        Trace (start "a // b\nc " none .strict).items ⟨0, []⟩
          [.call .nextItem, .call .save, .call .nextToken, .goBack 0, .call .drain, .goBack 0]
          trace ∧
        (Session.start (start "a // b\nc " none .strict)).moves
            [.call .nextItem, .call .save, .call .nextToken, .goBack 0, .call .drain, .goBack 0] =
          trace.map (fun step => (step.1, (start "a // b\nc " none .strict).sessionAt step.2)) ∧
        ∀ step ∈ trace, step.2.Among (start "a // b\nc " none .strict).items :=
  ⟨by decide, (session_follows_items _ none .strict (by decide)).2.1 _⟩

end Scanner

end Lexing
