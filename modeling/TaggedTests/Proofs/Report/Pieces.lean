import Mathlib.Data.List.SplitBy
import TaggedTests.Proofs.Diff.Leads
import TaggedTests.Report.Difference

/-!
Emphasis loses nothing of a line.

Lines are cut into words, the words are handed out to runs, and runs are cut into pieces. Each word
carries the place of its line through all of this, so the pieces at a place make up that line again.
-/

namespace TaggedTests

/-- The text that pieces make up. -/
def Piece.join (pieces : List Piece) : Text := pieces.flatMap Piece.text

namespace Words

/-- The text at a place, of parts that carry their places. -/
def textAt (place : Nat) (parts : List (Nat × Text)) : Text :=
  (parts.filter fun part => part.1 = place).flatMap Prod.snd

/-- Pieces with their texts alone. -/
def texts (pieces : List (Nat × Piece)) : List (Nat × Text) :=
  pieces.map fun piece => (piece.1, piece.2.text)

@[simp] theorem texts_append (first second : List (Nat × Piece)) :
    texts (first ++ second) = texts first ++ texts second :=
  List.map_append

@[simp] theorem textAt_append (place : Nat) (first second : List (Nat × Text)) :
    textAt place (first ++ second) = textAt place first ++ textAt place second := by
  simp [textAt]

/-- The text at a place is read off parts one after the other. -/
theorem textAt_flatMap {α : Type} (place : Nat) (items : List α) (parts : α → List (Nat × Text)) :
    textAt place (items.flatMap parts) = items.flatMap fun item => textAt place (parts item) := by
  -- The text of a place is collected part by part.
  induction items with
  | nil => rfl
  | cons item rest ih => rw [List.flatMap_cons, textAt_append, ih, List.flatMap_cons]

/-- Parts that share a place have all their text there, and none elsewhere. -/
theorem textAt_of_place (shared : Nat) {parts : List (Nat × Text)}
    (same : ∀ part ∈ parts, part.1 = shared) (place : Nat) :
    textAt place parts = if shared = place then parts.flatMap Prod.snd else [] := by
  -- Parts of one place are all taken, or none of them is.
  split
  · next here =>
    rw [textAt, List.filter_eq_self.2 fun part member => by simp [same part member, here]]
  · next elsewhere =>
    rw [textAt, List.filter_eq_nil_iff.2 fun part member => by simp [same part member, elsewhere]]
    rfl

/-- Cutting a text at its line ends loses nothing. -/
theorem join_emphasize (text : Text) : Piece.join (emphasize text) = text := by
  rw [Piece.join, emphasize, List.flatMap_map]
  exact List.flatMap_id.trans (List.flatten_splitBy _ text)

/-- Whether words are emphasized or not, their text is that of the words. -/
theorem join_pieces (emphasized : Bool) (text : Text) :
    Piece.join (if emphasized then emphasize text else [⟨false, text⟩]) = text := by
  -- Emphasis cuts a text at its line ends, and joining it mends it.
  cases emphasized with
  | true => exact join_emphasize text
  | false => simp [Piece.join]

/-- Words that were joined share the place of the first of them. -/
theorem place_of_mem_splitBy {words group : List (Nat × Text)}
    (joined : group ∈ words.splitBy fun first second => first.1 == second.1) :
    ∀ word ∈ group, word.1 = (group.head?.map Prod.fst).getD 0 := by
  -- Neighbours have equal places, and so have all words of the group.
  have chain := List.isChain_of_mem_splitBy joined
  cases group with
  | nil => simp
  | cons first rest =>
    have : Trans (fun first second : Nat × Text => (first.1 == second.1) = true)
        (fun first second : Nat × Text => (first.1 == second.1) = true)
        (fun first second : Nat × Text => (first.1 == second.1) = true) :=
      ⟨fun before after => by simp_all⟩
    intro word member
    rcases List.mem_cons.1 member with rfl | later
    · rfl
    · exact (eq_of_beq (chain.rel_cons later)).symm

/-- Pieces of words have at every place the text that the words have there. -/
theorem textAt_piecesOf (emphasized : Bool) (words : List (Nat × Text)) (place : Nat) :
    textAt place (texts (piecesOf emphasized words)) = textAt place words := by
  -- Words and pieces are compared group by group.
  have groups : words = (words.splitBy fun first second => first.1 == second.1).flatMap id := by
    rw [List.flatMap_id, List.flatten_splitBy]
  conv_rhs => rw [groups]
  rw [piecesOf, texts, List.map_flatMap, textAt_flatMap, textAt_flatMap]
  refine List.flatMap_congr fun group joined => ?_
  have shared := place_of_mem_splitBy joined
  dsimp only [id]
  rw [textAt_of_place _ shared, List.map_map,
    textAt_of_place ((group.head?.map Prod.fst).getD 0) (by simp)]
  -- The pieces of a group make up its text.
  refine if_congr Iff.rfl ?_ rfl
  rw [List.flatMap_map]
  exact join_pieces emphasized _

/-- The number of words that runs reach. -/
def reach : List (Bool × Nat) → Nat
  | [] => 0
  | run :: rest => run.2 + reach rest

/-- Words that are handed out to runs keep their places, as far as the runs reach. -/
theorem textAt_deal (runs : List (Bool × Nat)) (words : List (Nat × Text)) (place : Nat) :
    textAt place (texts (deal runs words)) = textAt place (words.take (reach runs)) := by
  -- Each run takes its share of the words, and the rest is dealt to the others.
  induction runs generalizing words with
  | nil => rfl
  | cons run rest ih =>
    rw [deal, texts_append, textAt_append, textAt_piecesOf, ih, reach, List.take_add, textAt_append]

/-- The words of lines have at every place the line that stands there. -/
theorem textAt_ofLines (lines : List Text) (place : Nat) :
    textAt place (ofLines lines) = lines[place]?.getD [] := by
  -- The places may be counted from any number on, below which there is no text.
  have counted (start : Nat) : textAt place ((lines.zipIdx start).flatMap
      fun line => (ofLine line.1).map fun word => (line.2, word)) =
      if start ≤ place then lines[place - start]?.getD [] else [] := by
    induction lines generalizing start with
    | nil => simp [textAt]
    | cons line rest ih =>
      have own : textAt place ((ofLine line).map fun word => (start, word)) =
          if start = place then line else [] := by
        rw [textAt_of_place start (by simp), List.flatMap_map]
        exact if_congr Iff.rfl (List.flatMap_id.trans (List.flatten_splitBy _ line)) rfl
      rw [List.zipIdx_cons, List.flatMap_cons, textAt_append, own, ih]
      -- The place is that of a later line, of this one, or of none at all.
      rcases Nat.lt_trichotomy start place with before | rfl | behind
      · obtain ⟨further, rfl⟩ := Nat.exists_eq_add_of_lt before
        have above : start + further + 1 - start = (start + further + 1 - (start + 1)) + 1 := by
          omega
        rw [if_neg (by omega), if_pos (by omega), if_pos (by omega), above]
        rfl
      · simp
      · rw [if_neg (by omega), if_neg (by omega), if_neg (by omega)]
        rfl
  exact (counted 0).trans (by simp)

/-- Lines that are given in pieces are still the same lines, if the runs reach all of their
words. -/
theorem map_join_piecesByLine {lines : List Text} {runs : List (Bool × Nat)}
    (all : (ofLines lines).length ≤ reach runs) :
    (piecesByLine lines runs).map Piece.join = lines := by
  -- The pieces at a place have the text that the words have there, which is the line.
  have atPlace (place : Nat) : Piece.join (((deal runs (ofLines lines)).filter fun piece =>
      piece.1 = place).map Prod.snd) = lines[place]?.getD [] := by
    calc
      _ = textAt place (texts (deal runs (ofLines lines))) := by
        rw [textAt, texts, Piece.join, List.filter_map, List.flatMap_map, List.flatMap_map]
        rfl
      _ = textAt place (ofLines lines) := by rw [textAt_deal, List.take_of_length_le all]
      _ = lines[place]?.getD [] := textAt_ofLines lines place
  refine List.ext_getElem (by simp [piecesByLine]) fun place _ inside => ?_
  simp [piecesByLine, atPlace, List.getElem?_eq_getElem inside]

/-- Runs that count the words of stretches on one side reach all words of that side. -/
theorem reach_map {run : Hunk Text → Bool × Nat} {side : Hunk Text → List Text}
    (counts : ∀ hunk, (run hunk).2 = (side hunk).length) (hunks : List (Hunk Text)) :
    reach (hunks.map run) = (hunks.flatMap side).length := by
  -- A run counts the words that its stretch has on that side.
  induction hunks with
  | nil => rfl
  | cons hunk rest ih =>
    rw [List.map_cons, reach, counts, ih, List.flatMap_cons, List.length_append]

/-- The runs of the old words reach as many words as there are on the old side. -/
theorem reach_oldRuns (hunks : List (Hunk Text)) :
    reach (oldRuns hunks) = (hunks.flatMap Hunk.old).length :=
  reach_map (fun hunk => by cases hunk <;> rfl) hunks

/-- The runs of the new words reach as many words as there are on the new side. -/
theorem reach_newRuns (hunks : List (Hunk Text)) :
    reach (newRuns hunks) = (hunks.flatMap Hunk.new).length :=
  reach_map (fun hunk => by cases hunk <;> rfl) hunks

/-- No piece of words is empty, if no word is. -/
theorem ne_nil_of_mem_piecesOf {emphasized : Bool} {words : List (Nat × Text)}
    (solid : ∀ word ∈ words, word.2 ≠ []) {piece : Nat × Piece}
    (member : piece ∈ piecesOf emphasized words) : piece.2.text ≠ [] := by
  rw [piecesOf, List.mem_flatMap] at member
  obtain ⟨group, joined, member⟩ := member
  obtain ⟨made, cut, rfl⟩ := List.mem_map.1 member
  cases emphasized with
  | true =>
    -- An emphasized text is cut into runs of one character at least.
    obtain ⟨run, split, rfl⟩ := List.mem_map.1 cut
    exact List.ne_nil_of_mem_splitBy split
  | false =>
    -- The text of a group begins with a word.
    obtain rfl := List.mem_singleton.1 cut
    obtain ⟨word, first⟩ := List.exists_mem_of_ne_nil group (List.ne_nil_of_mem_splitBy joined)
    have known : word ∈ words := by
      rw [← List.flatten_splitBy (fun first second => first.1 == second.1) words]
      exact List.mem_flatten_of_mem joined first
    exact fun none => solid word known (List.flatMap_eq_nil_iff.1 none word first)

/-- No piece of words that are handed out is empty, if no word is. -/
theorem ne_nil_of_mem_deal {runs : List (Bool × Nat)} {words : List (Nat × Text)}
    (solid : ∀ word ∈ words, word.2 ≠ []) {piece : Nat × Piece}
    (member : piece ∈ deal runs words) : piece.2.text ≠ [] := by
  induction runs generalizing words with
  | nil => simp [deal] at member
  | cons run rest ih =>
    -- A piece is of the words that the first run takes or of those that are left.
    rcases List.mem_append.1 member with own | later
    · exact ne_nil_of_mem_piecesOf (fun word taken => solid word (List.mem_of_mem_take taken)) own
    · exact ih (fun word dropped => solid word (List.mem_of_mem_drop dropped)) later

/-- No piece of a line is empty. -/
theorem ne_nil_of_mem_piecesByLine {lines : List Text} {runs : List (Bool × Nat)}
    {pieces : List Piece} (line : pieces ∈ piecesByLine lines runs) {piece : Piece}
    (member : piece ∈ pieces) : piece.text ≠ [] := by
  -- Words are runs of one character at least.
  have solid : ∀ word ∈ ofLines lines, word.2 ≠ [] := by
    intro word listed
    obtain ⟨_, _, listed⟩ := List.mem_flatMap.1 listed
    obtain ⟨text, cut, rfl⟩ := List.mem_map.1 listed
    exact List.ne_nil_of_mem_splitBy cut
  obtain ⟨place, -, rfl⟩ := List.mem_map.1 line
  obtain ⟨placed, kept, rfl⟩ := List.mem_map.1 member
  exact ne_nil_of_mem_deal solid (List.mem_filter.1 kept).1

end Words

end TaggedTests
