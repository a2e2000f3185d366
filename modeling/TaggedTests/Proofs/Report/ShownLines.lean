import Mathlib.Data.List.Basic
import TaggedTests.Report.Difference

/-!
Lines of a difference as they are shown.

Without colors a line is its numbers, its mark and its text. Where the text does not end with a line
end, which only the last line of a text can lack, a mark and a line end follow.
-/

namespace TaggedTests

namespace Text

/-- Does a text end with a line end? -/
def endsLine (text : Text) : Bool := (text.getLast?.map Words.isLineEnd).getD false

/-- Whether a text ends with a line end is decided by what it ends with. -/
theorem endsLine_append (front : Text) {back : Text} (solid : back ≠ []) :
    (front ++ back).endsLine = back.endsLine := by
  rw [endsLine, endsLine, List.getLast?_append_of_ne_nil front solid]

/-- Every line holds a character. -/
theorem ne_nil_of_mem_endedLines {text line : Text} (member : line ∈ endedLines text) :
    line ≠ [] := by
  rintro rfl
  fun_induction endedLines text <;> simp_all

/-- Every line but the last one ends with a line end. -/
theorem endsLine_of_mem_dropLast {text line : Text} (member : line ∈ (endedLines text).dropLast) :
    line.endsLine = true := by
  -- A line in front of others is the first one or is in front of others without it.
  have either {line first : Text} {rest : List Text} (front : line ∈ (first :: rest).dropLast) :
      line = first ∨ line ∈ rest.dropLast := by
    cases rest with
    | nil => simp at front
    | cons second rest => simpa using front
  fun_induction endedLines text generalizing line with
  | case1 => simp at member
  | case2 rest ih =>
    -- A newline is a line of its own and ends it.
    rcases either member with rfl | later
    · rfl
    · exact ih later
  | case3 c rest _ ends ih =>
    rcases either member with rfl | later
    · simpa [endsLine, Words.isLineEnd] using ends
    · exact ih later
  | case4 c rest _ goes none ih => simp at member
  | case5 c rest _ goes first more lines ih =>
    -- A character that ends no line joins the line that follows it.
    rw [lines] at ih
    have solid : first ≠ [] := ne_nil_of_mem_endedLines (lines ▸ List.mem_cons_self ..)
    cases more with
    | nil => simp at member
    | cons second more =>
      rw [List.dropLast_cons_cons, List.mem_cons] at member
      rcases member with rfl | later
      · exact (endsLine_append [c] solid).trans (ih (List.mem_cons_self ..))
      · exact ih (List.mem_cons_of_mem first later)

/-- The lines of a text end with line ends, but for the last one where the text does not. -/
theorem endsLine_of_getElem? {text line : Text} {place : Nat}
    (there : (endedLines text)[place]? = some line) :
    line.endsLine = false ↔ place + 1 = (endedLines text).length ∧ text.endsLine = false := by
  have solid : line ≠ [] := ne_nil_of_mem_endedLines (List.mem_of_getElem? there)
  by_cases last : place + 1 = (endedLines text).length
  · -- The text ends with its last line.
    have split : (endedLines text).dropLast ++ [line] = endedLines text := by
      refine List.dropLast_append_getLast? line ?_
      rw [List.getLast?_eq_getElem?, ← last]
      exact there
    have same : text.endsLine = line.endsLine := by
      rw [← flatten_endedLines text, ← split, List.flatten_concat, endsLine_append _ solid]
    rw [same]
    exact (and_iff_right last).symm
  · -- A line in front of the last one ends with a line end in any case.
    have inside := (List.getElem?_eq_some_iff.1 there).1
    have front : line ∈ (endedLines text).dropLast := by
      refine List.mem_of_getElem? (i := place) ?_
      rw [List.getElem?_dropLast, if_pos (by omega), there]
    simp [endsLine_of_mem_dropLast front, last]

end Text

namespace Styled

/-- Without colors only the texts of the pieces are shown, one behind the other. -/
theorem render_plain (styled : Styled) : styled.render .plain = styled.flatMap Span.text := rfl

end Styled

namespace DiffLine

/-- The number of a line in one of the texts as it is shown, or blanks. -/
def columnText (number : Option Nat) : Text :=
  number.elim (List.replicate 5 ' ') fun number => Text.padLeft 4 (Text.ofNat number) ++ [' ']

/-- A line as it is shown without colors. -/
def plain (line : DiffLine) : Text :=
  columnText line.oldNumber ++ columnText line.newNumber ++ line.sign.mark ++ ' ' :: line.text ++
    if line.isUnterminated then ['∅', '\n'] else []

/-- Without colors a line is shown with its numbers, its mark and its text. -/
theorem text_styled (line : DiffLine) : line.styled.flatMap Span.text = line.plain := by
  -- Numbers, mark, pieces and the sign of a missing line end are shown one behind the other.
  have numbers (number : Option Nat) : (column number).flatMap Span.text = columnText number := by
    cases number <;> rfl
  have pieces : (line.pieces.map fun piece =>
      Span.of (if piece.emphasized then line.sign.emphasis else line.sign.role)
        piece.text).flatMap Span.text = line.text := by
    rw [List.flatMap_map]
    rfl
  have ending : (if line.isUnterminated then [Span.of line.sign.emphasis ['∅'], .newline]
      else []).flatMap Span.text = if line.isUnterminated then ['∅', '\n'] else [] := by
    split <;> rfl
  simp only [styled, List.flatMap_append, numbers, pieces, ending, plain]
  simp [Span.of, Span.bare]

/-- A line gets a mark exactly when its text does not end with a line end. -/
theorem isUnterminated_iff {line : DiffLine} (solid : ∀ piece ∈ line.pieces, piece.text ≠ [])
    (some : line.text ≠ []) : line.isUnterminated = true ↔ line.text.endsLine = false := by
  -- The text of a line ends with that of its last piece.
  unfold isUnterminated
  cases last : line.pieces.getLast? with
  | none => exact absurd (by simp [text, List.getLast?_eq_none_iff.1 last]) some
  | some piece =>
    have split := List.dropLast_append_getLast? piece last
    have ending : line.text.endsLine = piece.text.endsLine := by
      rw [text, ← split, List.flatMap_append, List.flatMap_singleton,
        Text.endsLine_append _ (solid piece (List.mem_of_getLast? last))]
    rw [ending, Bool.not_eq_true', Text.endsLine]

/-- A line with a number in a text gets a mark exactly if it is the last one and the text does not
end with a line end. -/
theorem isUnterminated_iff_last {line : DiffLine} (solid : ∀ piece ∈ line.pieces, piece.text ≠ [])
    {text : Text} {number : Nat} (listed : (line.text, number) ∈ (Text.endedLines text).zipIdx 1) :
    line.isUnterminated = true ↔
      number = (Text.endedLines text).length ∧ text.endsLine = false := by
  obtain ⟨first, there⟩ := List.mk_mem_zipIdx_iff_le_and_getElem?_sub.1 listed
  -- The line is one of the text, at the place before its number.
  have some : line.text ≠ [] := Text.ne_nil_of_mem_endedLines (List.mem_of_getElem? there)
  rw [isUnterminated_iff solid some, Text.endsLine_of_getElem? there, Nat.sub_add_cancel first]

/-- Every line is shown with a line end, also where its text has none. -/
theorem endsLine_plain {line : DiffLine} (solid : ∀ piece ∈ line.pieces, piece.text ≠ [])
    (some : line.text ≠ []) : line.plain.endsLine = true := by
  cases ending : line.isUnterminated with
  | true =>
    -- Behind the mark stands a line end.
    rw [plain, ending, if_pos rfl, Text.endsLine_append _ (List.cons_ne_nil _ _)]
    rfl
  | false =>
    -- Without a mark the text of the line is the last thing that is shown.
    rw [plain, ending, if_neg Bool.false_ne_true, List.append_nil,
      show ' ' :: line.text = [' '] ++ line.text from rfl, ← List.append_assoc,
      Text.endsLine_append _ some]
    simpa [ending] using isUnterminated_iff solid some

end DiffLine

end TaggedTests
