import Lexing.Proofs.Lexeme.Context
import Lexing.Proofs.Lexeme.LongestMatch

/-!
# What a lexeme needs of its neighbour

A lexeme that stands at the front of one text stands at the front of another that it begins, if what
follows it there is harmless to its rule.  Three things are:

* nothing at all (`Front.at_end`);
* layout (`Front.before_layout`), where a string literal at fault, which takes its line, needs the
  end of the line and nothing less;
* the neighbour that it had (`Precedes.front`), whatever now follows the neighbour.

In the last case a number is what has to be looked at: it sees two characters, and the second of
them may lie behind a neighbour of one.  But a neighbour `b` is a word, which ends where no word
goes on, and then it would have been the suffix of the number from the first.
-/

namespace Lexing.Lexeme

open Text

variable {policy : Policy} {l m : Lexeme} {after after' : List Char}

theorem Front.text_ne_nil (h : Front policy l after) : l.text ≠ [] :=
  text_ne_nil_of_next? h.next?_eq_some

theorem Front.at_end (h : Front policy l after) : Front policy l [] := by
  cases h with
  | layout hne htext => exact .layout hne htext stopsAt_nil
  | comment hbody => exact .comment hbody stopsAt_nil
  | word hc hcs => exact .word hc hcs stopsAt_nil
  | number hne hdigits => exact .number hne hdigits stopsAt_nil rfl
  | byteNumber hne hdigits => exact .byteNumber hne hdigits stopsAt_nil
  | string es => exact .string es []
  | openString hbody hopen => exact .openString hbody hopen stopsAt_nil
  | symbol s => exact .symbol s stopsAt_nil
  | unknown hc hnone => exact .unknown hc hnone stopsAt_nil

/-- Layout may follow any token; but a string literal at fault goes on up to the end of the line. -/
theorem Front.before_layout {kind : Kind Fault} {text : List Char}
    (h : Front policy ⟨.token kind, text⟩ after) {c : Char} (hc : isLayout c = true)
    (hline : ∀ fault, kind = .error fault → fault.isOfString = true → c = '\n')
    (rest : List Char) : Front policy ⟨.token kind, text⟩ (c :: rest) := by
  have hword : StopsAt policy.continuesWord (c :: rest) :=
    stopsAt_cons.mpr (policy.continuesWord_of_isLayout hc)
  have hsymbol : ∀ text, StopsAt (Symbol.isExtendedBy text) (c :: rest) := fun text =>
    stopsAt_cons.mpr (Symbol.isExtendedBy_of_isLayout text hc)
  cases h with
  | word hfirst hcs => exact .word hfirst hcs hword
  | number hne hdigits =>
    exact .number hne hdigits (stopsAt_cons.mpr (isDigit_eq_false_of_isLayout hc))
      (Numeral.hasByteSuffix_of_isLayout hc rest)
  | byteNumber hne hdigits => exact .byteNumber hne hdigits hword
  | string es => exact .string es (c :: rest)
  | openString hbody hopen =>
    obtain rfl := hline _ rfl (StringLiteral.isOfString_faultAt _)
    exact .openString hbody hopen (stopsAt_cons.mpr isInLine_lineFeed)
  | symbol s => exact .symbol s (hsymbol _)
  | unknown hmark hnone => exact .unknown hmark hnone (hsymbol _)

theorem Front.stopsAt_of_startsWord {c : Char} {cs : List Char} (h : Front policy l after)
    (htext : l.text = c :: cs) (hc : policy.startsWord c = true) :
    StopsAt policy.continuesWord after := by
  have hnext := h.next?_eq_some
  rw [htext, List.cons_append, next?, first_of_startsWord _ hc, word_eq, Option.some.injEq] at hnext
  have hword := congrArg Lexeme.text hnext
  have hsplit := List.takeWhile_append_dropWhile
    (p := policy.continuesWord) (l := c :: (cs ++ after))
  rw [show (c :: (cs ++ after)).takeWhile policy.continuesWord = c :: cs from hword.trans htext,
    List.cons_append, List.cons.injEq, List.append_cancel_left_eq] at hsplit
  rw [← hsplit.2]
  exact stopsAt_dropWhile _

/-- A number that has no suffix in front of its neighbour gets none from what follows the
neighbour. -/
theorem Front.hasByteSuffix_append (hm : Front policy m after)
    (h : Numeral.hasByteSuffix policy (m.text ++ after) = false) (after' : List Char) :
    Numeral.hasByteSuffix policy (m.text ++ after') = false := by
  refine Numeral.hasByteSuffix_append_of_stopsAt hm.text_ne_nil h (fun hhead => ?_) after'
  obtain ⟨cs, hcs⟩ := List.head?_eq_some_iff.mp hhead
  have halpha : 'b'.isAlpha = true := by decide
  have hb : policy.startsWord 'b' = true := by simp [Policy.startsWord, halpha]
  exact hm.stopsAt_of_startsWord hcs hb

/-- The second lexeme stands at once behind the first one in some text. -/
def Precedes (policy : Policy) (l m : Lexeme) : Prop :=
  ∃ after, Front policy l (m.text ++ after) ∧ Front policy m after

/-- A lexeme stands before its neighbour, whatever follows the neighbour. -/
theorem Precedes.front (h : Precedes policy l m) (after' : List Char) :
    Front policy l (m.text ++ after') := by
  obtain ⟨after, hl, hm⟩ := h
  have hhead : (m.text ++ after').head? = (m.text ++ after).head? := by
    rw [List.head?_append_of_ne_nil _ hm.text_ne_nil, List.head?_append_of_ne_nil _ hm.text_ne_nil]
  exact hl.of_head?_eq hhead fun hsuffix => hm.hasByteSuffix_append hsuffix after'

end Lexing.Lexeme
