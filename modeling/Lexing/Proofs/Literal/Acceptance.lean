import Lexing.Proofs.Lexeme.Front
import Lexing.Proofs.Scan.Pulls

/-!
# Which string literals a scan accepts

Where a quotation mark is next, a scan gives a string token exactly if the text ahead starts with a
literal of the grammar; the token is that literal and has what the grammar says it denotes.  The
grammar leaves no choice, neither of the literal nor of its parts, and what follows the closing
quotation mark is not looked at.
-/

namespace Lexing

theorem Kind.unplaced_eq_string_iff {k : Kind LexicalError} {content : String} :
    k.unplaced = .string content ↔ k = .string content := by
  cases k <;> simp [unplaced, map]

theorem Lexeme.next?_quote (policy : Policy) (cs : List Char) :
    next? policy ('"' :: cs) = some (StringLiteral.read cs) := by
  rw [next?, first_quote]

namespace Scanner

open StringLiteral

theorem exists_string_iff {s : Scanner} {cs : List Char} (hrest : s.cursor.rest = '"' :: cs)
    (content lexeme : String) :
    (∃ token next, s.nextItem? = some (.token token, next) ∧ token.kind = .string content ∧
        token.lexeme = lexeme) ↔
      ∃ parts, lexeme = String.ofList (written parts) ∧ written parts <+: '"' :: cs ∧
        content = denoted parts := by
  simp only [← Kind.unplaced_eq_string_iff]
  rw [exists_token_iff, hrest, Lexeme.next?_quote, Option.some.injEq, read_eq_string_iff]
  constructor
  · rintro ⟨parts, hlexeme, hprefix, hcontent⟩
    exact ⟨parts, by rw [← hlexeme, String.ofList_toList], hprefix, hcontent⟩
  · rintro ⟨parts, rfl, hprefix, hcontent⟩
    exact ⟨parts, String.toList_ofList, hprefix, hcontent⟩

/-- **String literals are accepted exactly when the grammar derives them.**  At every place that a
scan reaches and where a quotation mark is next, the next item is a string token with some content
and lexeme exactly if the lexeme is a literal of the grammar at the front of the text ahead and the
content is what it denotes.  There is at most one such literal and it has its parts in one way only;
and the same literal gives the same token wherever a scan comes to it, whatever is behind it. -/
theorem string_token_iff {source : String} {file : Option String} {policy : Policy}
    {items : List Item} {s : Scanner} {cs : List Char}
    (hs : Pulls (start source file policy) items s)
    (hsource : source.toList = Item.textOf items ++ '"' :: cs) :
    (∀ content lexeme,
        (∃ token next, s.nextItem? = some (.token token, next) ∧ token.kind = .string content ∧
            token.lexeme = lexeme) ↔
          ∃ parts, lexeme = String.ofList (written parts) ∧ written parts <+: '"' :: cs ∧
            content = denoted parts) ∧
      (∀ parts parts', written parts <+: '"' :: cs → written parts' <+: '"' :: cs →
        parts = parts') ∧
      ∀ parts, written parts <+: '"' :: cs →
        ∀ {source' : String} {file' : Option String} {policy' : Policy} {items' : List Item}
          {s' : Scanner} (after : List Char), Pulls (start source' file' policy') items' s' →
          source'.toList = Item.textOf items' ++ (written parts ++ after) →
          ∃ token token' next next', s.nextItem? = some (.token token, next) ∧
            s'.nextItem? = some (.token token', next') ∧ token.kind = token'.kind ∧
            token.lexeme = token'.lexeme := by
  have hrest : s.cursor.rest = '"' :: cs := hs.rest_of_start hsource
  refine ⟨exists_string_iff hrest, ?_, ?_⟩
  · rintro parts parts' ⟨rest, hparts⟩ ⟨rest', hparts'⟩
    exact eq_of_written_append (hparts.trans hparts'.symm)
  · intro parts hprefix source' file' policy' items' s' after hs' hsource'
    have hrest' : s'.cursor.rest = written parts ++ after := hs'.rest_of_start hsource'
    obtain ⟨token, next, hnext, hkind, hlexeme⟩ :=
      (exists_string_iff hrest _ _).mpr ⟨parts, rfl, hprefix, rfl⟩
    obtain ⟨token', next', hnext', hkind', hlexeme'⟩ :=
      (exists_string_iff hrest' _ _).mpr ⟨parts, rfl, List.prefix_append _ _, rfl⟩
    exact ⟨token, token', next, next', hnext, hnext', hkind.trans hkind'.symm,
      hlexeme.trans hlexeme'.symm⟩

/-- The quotation mark behind a backslash does not close the literal. -/
theorem string_token_iff_escaped_quote :
    ∃ items s, Pulls (start "=\"\\\"\\x4a\"b" none .strict) items s ∧
      "=\"\\\"\\x4a\"b".toList = Item.textOf items ++ '"' :: "\\\"\\x4a\"b".toList ∧
      ∀ content lexeme,
        (∃ token next, s.nextItem? = some (.token token, next) ∧ token.kind = .string content ∧
            token.lexeme = lexeme) ↔
          ∃ parts, lexeme = String.ofList (written parts) ∧
            written parts <+: '"' :: "\\\"\\x4a\"b".toList ∧ content = denoted parts := by
  have hs : Pulls (start "=\"\\\"\\x4a\"b" none .strict) _ _ := .cons rfl (.nil _)
  exact ⟨_, _, hs, rfl, (string_token_iff hs rfl).1⟩

end Scanner

end Lexing
