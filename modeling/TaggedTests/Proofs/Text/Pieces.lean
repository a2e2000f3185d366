import Mathlib.Data.List.Basic
import TaggedTests.Text.Basic

/-! What stands between separating characters in a text, and what is found between them again once
texts are joined by one. -/

namespace TaggedTests.Text

variable {separates : Char → Bool} {text front rest piece : Text} {parts : List Text} {c : Char}

/-- The parts of a text between separating characters that are not empty. -/
def pieces (separates : Char → Bool) (text : Text) : List Text :=
  (text.splitOnP separates).filter (· ≠ [])

/-- A separating character divides the pieces in front of it from those behind it. -/
theorem pieces_append_cons (ends : separates c = true) :
    pieces separates (front ++ c :: rest) = pieces separates front ++ pieces separates rest := by
  rw [pieces, List.splitOnP_append_cons _ _ ends, List.filter_append]
  rfl

/-- Without separating characters there is one piece, or none in the empty text. -/
theorem pieces_of_solid (solid : ∀ c ∈ text, separates c = false) :
    pieces separates text = if text = [] then [] else [text] := by
  rw [pieces, List.splitOnP_eq_singleton solid]
  split <;> simp_all

/-- No piece is empty, and none holds a separating character. -/
theorem solid_of_mem_pieces {text : Text} (member : piece ∈ pieces separates text) :
    piece ≠ [] ∧ ∀ c ∈ piece, separates c = false := by
  have alone {text : Text} (solid : ∀ c ∈ text, separates c = false)
      (member : piece ∈ pieces separates text) :
      piece ≠ [] ∧ ∀ c ∈ piece, separates c = false := by
    obtain ⟨some, rfl⟩ : text ≠ [] ∧ piece = text := by simpa [pieces_of_solid solid] using member
    exact ⟨some, solid⟩
  -- The first separating character divides the text, and there is less behind it.
  cases first : text.find? separates with
  | none => exact alone (by simpa using first) member
  | some c =>
    obtain ⟨ends, front, rest, rfl, free⟩ := List.find?_eq_some_iff_append.1 first
    rw [pieces_append_cons ends, List.mem_append] at member
    exact member.elim (alone (by simpa using free)) solid_of_mem_pieces
termination_by text.length

/-- Texts that are joined by a separating character have their own pieces, one text after the
other. -/
theorem pieces_intercalate (ends : separates c = true) (texts : List Text) :
    pieces separates ([c].intercalate texts) = texts.flatMap (pieces separates) := by
  -- The separator behind the first text keeps its pieces from those of the others.
  induction texts with
  | nil => rfl
  | cons text texts ih =>
    by_cases last : texts = []
    · simp [last]
    · rw [List.intercalate_cons_of_ne_nil last, List.append_assoc, List.singleton_append,
        pieces_append_cons ends, ih, List.flatMap_cons]

/-- Solid parts that are joined by a separating character are found again. -/
theorem pieces_intercalate_of_solid (ends : separates c = true)
    (solid : ∀ part ∈ parts, part ≠ [] ∧ ∀ c ∈ part, separates c = false) :
    pieces separates ([c].intercalate parts) = parts := by
  rw [pieces_intercalate ends]
  -- Each part is the only piece of its own.
  induction parts with
  | nil => rfl
  | cons part parts ih =>
    obtain ⟨⟨some, own⟩, others⟩ := List.forall_mem_cons.1 solid
    rw [List.flatMap_cons, pieces_of_solid own, if_neg some, ih others, List.singleton_append]

end TaggedTests.Text
