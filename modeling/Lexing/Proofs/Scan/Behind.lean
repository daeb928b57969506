import Lexing.Cursor
import Lexing.Proofs.Text.Slice

/-!
# What a cursor has behind it

A cursor keeps no record of the text that it has passed, only two counts: bytes and lines.
`Cursor.Behind` says which text those counts belong to.  It holds at the start of a source, and
advancing keeps it (`Behind.advanceBy`), so every place that a scan can come to has such a text
behind it.

Two things follow for all of those places at once.  A slice between two of them is never refused
and is the text in between (`Behind.slice?_advanceBy`), because both ends are lengths of prefixes of
the source; and as long as the source has fewer than `UInt32.size - 1` line feeds the line counter
has not wrapped (`Behind.line_toNat`).
-/

namespace Lexing

namespace Text

theorem utf8ByteSize_ofList (cs : List Char) :
    (String.ofList cs).utf8ByteSize = Text.utf8Length cs := by
  induction cs with
  | nil => rfl
  | cons c cs ih =>
    have hcons : String.ofList ([c] ++ cs) = String.ofList [c] ++ String.ofList cs :=
      String.ofList_append
    have hc : (String.ofList [c]).utf8ByteSize = c.utf8Size := String.utf8ByteSize_singleton
    rw [← List.singleton_append, hcons, String.utf8ByteSize_append, hc, ih,
      List.singleton_append, Text.utf8Length_cons]

theorem utf8Length_toList (s : String) : Text.utf8Length s.toList = s.utf8ByteSize := by
  rw [← utf8ByteSize_ofList, String.ofList_toList]

end Text

/-- A counter of 32 bits that has the room counts on without wrapping. -/
theorem toNat_add_ofNat {line : UInt32} {n : ℕ} (h : line.toNat + n < UInt32.size) :
    (line + UInt32.ofNat n).toNat = line.toNat + n := by
  have hsize : UInt32.size = 2 ^ 32 := rfl
  rw [hsize] at h
  rw [UInt32.toNat_add, UInt32.toNat_ofNat', Nat.mod_eq_of_lt (by omega : n < 2 ^ 32),
    Nat.mod_eq_of_lt h]

theorem toNat_one_add_ofNat {n : ℕ} (h : n < UInt32.size - 1) :
    (1 + UInt32.ofNat n).toNat = 1 + n := by
  have hroom : (1 : UInt32).toNat + n < UInt32.size := by
    rw [UInt32.toNat_one]
    omega
  rw [toNat_add_ofNat hroom, UInt32.toNat_one]

namespace Cursor

/-- The text `behind` is what the cursor has passed: with the text ahead it makes up the source, and
the cursor's counts are those of `behind`. -/
structure Behind (c : Cursor) (behind : List Char) : Prop where
  source_eq : c.source = behind ++ c.rest
  offset_eq : c.offset = Text.utf8Length behind
  line_eq : c.line = 1 + UInt32.ofNat (behind.count '\n')

theorem behind_start (source : String) : (start source).Behind [] :=
  ⟨rfl, rfl, rfl⟩

namespace Behind

variable {c : Cursor} {behind : List Char}

theorem advanceBy (h : c.Behind behind) (n : ℕ) :
    (c.advanceBy n).Behind (behind ++ c.rest.take n) where
  source_eq := by
    rw [source_advanceBy, rest_advanceBy, List.append_assoc, List.take_append_drop, h.source_eq]
  offset_eq := by
    rw [offset_advanceBy, h.offset_eq, Text.utf8Length_append]
  line_eq := by
    rw [line_advanceBy, h.line_eq, List.count_append, UInt32.ofNat_add, UInt32.add_assoc]

/-- As long as it does not wrap, the line is one more than the number of line feeds behind. -/
theorem line_toNat (h : c.Behind behind) (hlines : behind.count '\n' < UInt32.size - 1) :
    c.line.toNat = 1 + behind.count '\n' := by
  rw [h.line_eq, toNat_one_add_ofNat hlines]

theorem count_le (h : c.Behind behind) : behind.count '\n' ≤ c.source.count '\n' := by
  rw [h.source_eq, List.count_append]
  omega

/-- Between two places that the cursor comes to, the source can be cut, and the cut is the text
between them. -/
theorem slice?_advanceBy (h : c.Behind behind) {m n : ℕ} (hmn : m ≤ n) :
    c.slice? (c.advanceBy m).offset (c.advanceBy n).offset =
      some (String.ofList ((c.rest.take n).drop m)) := by
  have hm := (h.advanceBy m).offset_eq
  have hn := (h.advanceBy n).offset_eq
  -- the source in three parts: up to the first place, up to the second, and what is left
  have hsplit : c.rest.take n = c.rest.take m ++ (c.rest.take n).drop m := by
    conv_lhs => rw [← List.take_append_drop m (c.rest.take n), List.take_take, Nat.min_eq_left hmn]
  have hsource : c.source =
      (behind ++ c.rest.take m) ++ (c.rest.take n).drop m ++ c.rest.drop n := by
    rw [List.append_assoc behind, ← hsplit, List.append_assoc, List.take_append_drop, h.source_eq]
  have hlength : Text.utf8Length (behind ++ c.rest.take n) =
      Text.utf8Length (behind ++ c.rest.take m) +
        Text.utf8Length ((c.rest.take n).drop m) := by
    rw [← Text.utf8Length_append, List.append_assoc, ← hsplit]
  rw [slice?, hm, hn, hlength, hsource, Text.slice?_append, Option.map_some]

end Behind

end Cursor

end Lexing
