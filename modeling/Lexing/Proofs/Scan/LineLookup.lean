import Lexing.Proofs.Scan.Lines
import Lexing.Proofs.Scan.Tiling
import Lexing.Proofs.Text.Lines

/-!
# A token is found on its line

The line of a token is known twice.  The cursor counts line feeds on its way; and a diagnostic,
which has only the byte where a token starts, cuts the source into lines and looks the byte up.

The two agree because a token goes over no line feed.  The text before it ends on its line, the text
behind it starts there, and so the lookup finds the line that the three make up together
(`lineAt?_of_items_eq`).  For this the line counter need not be trusted; that the number found is
the one counted is a fact of its own, and holds until the counter wraps.
-/

namespace Lexing

namespace Scanner

variable {source : String} {file : Option String} {policy : Policy} {before after : List Item}
  {t : Token}

theorem toList_of_items_eq (h : (start source file policy).items = before ++ .token t :: after) :
    source.toList = Item.textOf before ++ (t.lexeme.toList ++ Item.textOf after) := by
  have hsource := textOf_items (start source file policy)
  rw [h, Item.textOf_append, Item.textOf_cons] at hsource
  exact hsource.symm

theorem lexeme_of_items_eq (h : (start source file policy).items = before ++ .token t :: after) :
    t.lexeme.toList ≠ [] ∧ '\n' ∉ t.lexeme.toList := by
  have hmem := mem_of_items_eq h
  constructor
  · exact mt String.toList_eq_nil_iff.mp ((pulls_items _).text_ne_empty _ hmem)
  · intro hline
    obtain ⟨trivia, htrivia, -⟩ := exists_whitespace_of_mem_items hmem hline
    cases htrivia

theorem lineAt?_of_items_eq
    (h : (start source file policy).items = before ++ .token t :: after) :
    Text.lineAt? source t.span.start.offset =
      some ⟨1 + (Item.textOf before).count '\n',
        String.ofList (Text.lineHead (Item.textOf before) ++ t.lexeme.toList ++
          (Text.lineTail (Item.textOf after) ++ Text.lineEnd (Item.textOf after))),
        Text.utf8Length (Text.lineHead (Item.textOf before))⟩ := by
  obtain ⟨hne, hline⟩ := lexeme_of_items_eq h
  have hsource : source =
      String.ofList (Item.textOf before ++ (t.lexeme.toList ++ Item.textOf after)) := by
    rw [← toList_of_items_eq h, String.ofList_toList]
  rw [(pulls_of_items_eq h).token_of_start.1, ← Item.utf8Length_textOf, hsource]
  exact Text.lineAt?_of_not_mem hne hline _ _

/-- **A token is found on its line.**  The lookup of the byte where a token starts always finds a
line; the number of this line is the line of the token, and the lexeme is on it, at the place that
was looked up. -/
theorem tokens_found_on_line (source : String) (file : Option String) (policy : Policy)
    (hlines : source.toList.count '\n' < UInt32.size - 1) :
    ∀ t ∈ tokenize source file policy,
      ∃ line, Text.lineAt? source t.span.start.offset = some line ∧
        line.number = t.line.toNat ∧
        ∃ head rest, line.text = head ++ t.lexeme ++ rest ∧
          head.utf8ByteSize = line.offset := by
  intro t ht
  obtain ⟨before, after, hitems⟩ := List.append_of_mem (mem_tokenize.mp ht)
  refine ⟨_, lineAt?_of_items_eq hitems, (line_toNat_of_items_eq hlines hitems).symm,
    String.ofList (Text.lineHead (Item.textOf before)),
    String.ofList (Text.lineTail (Item.textOf after) ++ Text.lineEnd (Item.textOf after)), ?_, ?_⟩
  · rw [String.ofList_append, String.ofList_append, String.ofList_toList]
  · rw [Text.utf8ByteSize_ofList]

/-- A string literal that its line does not close, on the second of three lines and not at its
start. -/
theorem tokens_found_on_line_open_string :
    "\n \"é\\x4\n5b".toList.count '\n' < UInt32.size - 1 ∧
      ∃ t ∈ tokenize "\n \"é\\x4\n5b" none .strict, t.lexeme = "\"é\\x4" ∧ t.line = 2 ∧
        ∃ line, Text.lineAt? "\n \"é\\x4\n5b" t.span.start.offset = some line ∧
          line.number = t.line.toNat ∧
          ∃ head rest, line.text = head ++ t.lexeme ++ rest ∧
            head.utf8ByteSize = line.offset := by
  have htoken : (⟨.error ⟨.invalidHexEscape "\\x4", ⟨2, "<input>"⟩⟩, "\"é\\x4", 2,
      ⟨⟨2, "<input>"⟩, ⟨8, "<input>"⟩⟩⟩ : Token) ∈ tokenize "\n \"é\\x4\n5b" none .strict := by
    decide +kernel
  exact ⟨by decide, _, htoken, rfl, rfl, tokens_found_on_line _ none .strict (by decide) _ htoken⟩

end Scanner

end Lexing
