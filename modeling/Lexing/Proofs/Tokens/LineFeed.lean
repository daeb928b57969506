import Lexing.Proofs.Lexeme.Context
import Lexing.Proofs.Scan.Lines
import Lexing.Proofs.Tokens.Shift

/-!
# Lines are tokenized apart

No token goes over a line feed, and none looks over it: the tokens of two texts with a line feed
between them are those of the one and those of the other, moved down (`tokensAt_append_lineFeed`).
The proof goes along the lexemes of the first text.  A token keeps its rule when a line feed is put
behind the text.  Layout may go on over the line feed, but the tokens behind a text do not depend on
how much layout there is before them (`tokensAt_layout`).
-/

namespace Lexing

open Text

namespace Lexeme

variable {policy : Policy} {file : String} {line : UInt32} {offset : ℕ}

theorem tokensAt_layout_of_stopsAt {text after : List Char}
    (htext : ∀ c ∈ text, isLayout c = true) (hafter : StopsAt isLayout after) :
    tokensAt policy file line offset (text ++ after) =
      tokensAt policy file (line + UInt32.ofNat (text.count '\n')) (offset + utf8Length text)
        after := by
  by_cases hne : text = []
  · subst hne
    simp
  · exact tokensAt_of_front (.layout hne htext hafter)

/-- Layout has no tokens, and moves those behind it; there may be more layout at once behind it. -/
theorem tokensAt_layout {text : List Char} (htext : ∀ c ∈ text, isLayout c = true)
    (after : List Char) :
    tokensAt policy file line offset (text ++ after) =
      tokensAt policy file (line + UInt32.ofNat (text.count '\n')) (offset + utf8Length text)
        after := by
  obtain ⟨more, rest, rfl, hmore, hrest⟩ := exists_stretch isLayout after
  have hboth : ∀ c ∈ text ++ more, isLayout c = true := by
    intro c hc
    exact (List.mem_append.mp hc).elim (htext c) (hmore c)
  rw [← List.append_assoc, tokensAt_layout_of_stopsAt hboth hrest,
    tokensAt_layout_of_stopsAt hmore hrest, List.count_append, UInt32.ofNat_add, UInt32.add_assoc,
    utf8Length_append, Nat.add_assoc]

theorem tokensAt_append_lineFeed (a b : List Char) :
    tokensAt policy file line offset (a ++ '\n' :: b) =
      tokensAt policy file line offset a ++
        tokensAt policy file (line + UInt32.ofNat (a.count '\n' + 1)) (offset + (utf8Length a + 1))
          b := by
  induction hn : a.length using Nat.strongRecOn generalizing a line offset with
  | ind n ih =>
    subst hn
    cases h : next? policy a with
    | none =>
      obtain rfl := next?_eq_none_iff.mp h
      have hlayout : ∀ c ∈ ['\n'], isLayout c = true := by simp [isLayout]
      have hskip : tokensAt policy file line offset (['\n'] ++ b) = _ := tokensAt_layout hlayout b
      rw [List.singleton_append] at hskip
      rw [List.nil_append, hskip, tokensAt_nil, List.nil_append]
      rfl
    | some l =>
      have hlt := length_drop_lt_of_next? h
      obtain ⟨after, rfl, hfront⟩ := exists_front_of_next? h
      rw [List.drop_left] at hlt
      have hcounts : l.text.count '\n' + (after.count '\n' + 1) =
          (l.text ++ after).count '\n' + 1 := by
        rw [List.count_append, Nat.add_assoc]
      have hlengths : utf8Length l.text + (utf8Length after + 1) =
          utf8Length (l.text ++ after) + 1 := by
        rw [utf8Length_append, Nat.add_assoc]
      rw [List.append_assoc, ← hcounts, ← hlengths, UInt32.ofNat_add, ← UInt32.add_assoc,
        ← Nat.add_assoc]
      by_cases hl : l.shape = .trivia .whitespace
      · have hlayout := hfront.isLayout_of_mem hl
        rw [tokensAt_layout hlayout, tokensAt_layout hlayout, ih _ hlt after rfl]
      · rw [tokensAt_of_front (hfront.append_lineFeed hl b), tokensAt_of_front hfront,
          ih _ hlt after rfl, List.append_assoc]

end Lexeme

/-- The tokens of two sources with a line feed between them are the tokens of both, those of the
second moved behind the first. -/
theorem tokenize_append_lineFeed (a b : String) (file : Option String) (policy : Policy) :
    tokenize (a ++ "\n" ++ b) file policy =
      tokenize a file policy ++
        (tokenize b file policy).map
          (Token.shift (a.toList.count '\n' + 1) (a.utf8ByteSize + 1)) := by
  have htext : (a ++ "\n" ++ b).toList = a.toList ++ '\n' :: b.toList := by simp
  rw [Lexeme.tokenize_eq_tokensAt, Lexeme.tokenize_eq_tokensAt, Lexeme.tokenize_eq_tokensAt, htext,
    Lexeme.tokensAt_append_lineFeed, Lexeme.tokensAt_shift, utf8Length_toList]

theorem line_le_of_mem_tokenize {source : String} {file : Option String} {policy : Policy}
    {t : Token} (hlines : source.toList.count '\n' < UInt32.size - 1)
    (ht : t ∈ tokenize source file policy) : t.line.toNat ≤ 1 + source.toList.count '\n' := by
  obtain ⟨before, after, hitems⟩ := List.append_of_mem (mem_tokenize.mp ht)
  have hline : t.line.toNat = _ := Scanner.line_toNat_of_items_eq hlines hitems
  have htext : _ = source.toList := Scanner.textOf_items (Scanner.start source file policy)
  have hcount : (Item.textOf before).count '\n' ≤ source.toList.count '\n' := by
    rw [← htext, hitems, Item.textOf_append, List.count_append]
    exact Nat.le_add_right _ _
  omega

/-- **Lines are tokenized apart.**  The tokens of two texts with a line feed between them are the
tokens of the first and those of the second; the latter are as many lines and bytes further down as
the first text and the line feed have, and are the same in everything else.  So the tokens of a line
in the middle of a source are its own, whatever stands before it and behind it, and the tokens
before and behind it are not changed by what it is. -/
theorem tokenize_lines_apart (a b : String) (file : Option String) (policy : Policy)
    (hlines : (a ++ "\n" ++ b).toList.count '\n' < UInt32.size - 1) :
    tokenize (a ++ "\n" ++ b) file policy =
        tokenize a file policy ++
          (tokenize b file policy).map
            (Token.shift (a.toList.count '\n' + 1) (a.utf8ByteSize + 1)) ∧
      (∀ t ∈ tokenize b file policy,
        (t.shift (a.toList.count '\n' + 1) (a.utf8ByteSize + 1)).line.toNat =
          t.line.toNat + (a.toList.count '\n' + 1)) ∧
      ∀ line : String,
        tokenize (a ++ "\n" ++ (line ++ "\n" ++ b)) file policy =
          tokenize a file policy ++
            (tokenize line file policy).map
              (Token.shift (a.toList.count '\n' + 1) (a.utf8ByteSize + 1)) ++
            (tokenize b file policy).map
              (Token.shift (line.toList.count '\n' + 1 + (a.toList.count '\n' + 1))
                (line.utf8ByteSize + 1 + (a.utf8ByteSize + 1))) := by
  refine ⟨tokenize_append_lineFeed a b file policy, fun t ht => ?_, fun line => ?_⟩
  · have hcount : (a ++ "\n" ++ b).toList.count '\n' =
        a.toList.count '\n' + 1 + b.toList.count '\n' := by
      simp [Nat.add_assoc, Nat.add_comm 1]
    have hsize : UInt32.size = 2 ^ 32 := rfl
    rw [hcount] at hlines
    have hline := line_le_of_mem_tokenize (by omega) ht
    rw [hsize] at hlines
    rw [Token.shift, UInt32.toNat_add, UInt32.toNat_ofNat',
      Nat.mod_eq_of_lt (by omega : a.toList.count '\n' + 1 < 2 ^ 32), Nat.mod_eq_of_lt (by omega)]
  · rw [tokenize_append_lineFeed, tokenize_append_lineFeed, List.map_append, List.map_map,
      List.append_assoc]
    congr 3
    funext t
    exact t.shift_shift _ _ _ _

/-- An escape that lacks a digit at the end of its line does not find it on the next one. -/
theorem tokenize_lines_apart_hex :
    ("\"\\x4" ++ "\n" ++ "5b").toList.count '\n' < UInt32.size - 1 ∧
      tokenize ("\"\\x4" ++ "\n" ++ "5b") none .strict =
        tokenize "\"\\x4" none .strict ++
          (tokenize "5b" none .strict).map (Token.shift 1 5) :=
  ⟨by decide, (tokenize_lines_apart "\"\\x4" "5b" none .strict (by decide)).1⟩

end Lexing
