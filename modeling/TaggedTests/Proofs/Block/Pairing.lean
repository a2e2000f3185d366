import Mathlib.Data.List.GetD
import TaggedTests.Block
import TaggedTests.Proofs.Text.Occurrence

/-! The blocks of a text are what stands in front of and between its brackets of equal rank. -/

namespace TaggedTests

namespace Text

/-- Making line ends uniform keeps the number of places at which a pattern without them occurs. -/
theorem length_positionsFrom_normalizeLines {pattern text : Text} (noNewline : '\n' ∉ pattern)
    (noReturn : '\r' ∉ pattern) (solid : pattern ≠ []) (start place : Nat) :
    (positionsFrom pattern start (normalizeLines text)).length =
      (positionsFrom pattern place text).length := by
  -- The pattern starts at no line end, and elsewhere it starts the same texts.
  have never {c : Char} {rest : Text} (foreign : c ∉ pattern) :
      pattern.isPrefixOf (c :: rest) = false := by
    rw [← Bool.not_eq_true, List.isPrefixOf_iff_prefix]
    exact not_prefix_cons foreign solid
  fun_induction normalizeLines text generalizing start place with
  | case1 => cases pattern <;> simp [positionsFrom]
  | case2 rest ih => simpa [positionsFrom, never noNewline, never noReturn] using ih _ _
  | case3 c rest plain ih =>
    -- A character that joins no other is passed alike, whether the pattern starts at it or not.
    have same : pattern <+: normalizeLines (c :: rest) ↔ pattern <+: c :: rest :=
      prefix_normalizeLines_iff noNewline noReturn
    rw [normalizeLines.eq_3 c rest plain, ← List.isPrefixOf_iff_prefix,
      ← List.isPrefixOf_iff_prefix, ← Bool.eq_iff_iff] at same
    simp only [positionsFrom, same]
    split <;> simp [ih (start + 1) (place + 1)]

end Text

namespace Block

/-- The number of opening brackets does not depend on how lines end. -/
theorem length_opens_normalizeLines (text : Text) :
    (opens (Text.normalizeLines text)).length = (opens text).length :=
  Text.length_positionsFrom_normalizeLines (by decide) (by decide) (by decide) 0 0

/-- The number of closing brackets does not depend on how lines end. -/
theorem length_closes_normalizeLines (text : Text) :
    (closes (Text.normalizeLines text)).length = (closes text).length :=
  Text.length_positionsFrom_normalizeLines (by decide) (by decide) (by decide) 0 0

/-- As many closing brackets as opening ones, and at least one of either. -/
structure Balanced (text : Text) : Prop where
  equal : (opens text).length = (closes text).length
  some : opens text ≠ []

/-- Brackets stay balanced when line ends are made uniform. -/
theorem Balanced.normalizeLines {text : Text} (balanced : Balanced text) :
    Balanced (Text.normalizeLines text) := by
  -- Both numbers are kept, so that they stay equal and positive.
  have opened := length_opens_normalizeLines text
  refine ⟨?_, fun none => ?_⟩
  · rw [opened, length_closes_normalizeLines, balanced.equal]
  · rw [none] at opened
    exact balanced.some (List.length_eq_zero_iff.1 opened.symm)

/--
The block of a rank, counted from zero.

Its content lies between the brackets of that rank, and its prose behind the closing bracket of the
rank before; either is empty where the brackets are the wrong way round.
-/
def ofRank (text : Text) (rank : Nat) : Block where
  prose :=
    let start := if rank = 0 then 0 else (closes text).getD (rank - 1) 0 + closing.length
    Text.slice start ((opens text).getD rank 0) text
  content :=
    Text.slice ((opens text).getD rank 0 + opening.length) ((closes text).getD rank 0) text

/-- All blocks of a text in order of their rank. -/
def ranked (text : Text) : List Block := (List.range (opens text).length).map (ofRank text)

/-- Pairing brackets from a place on gives one block for each rank. -/
theorem pair_eq_map {text : Text} {start : Nat} {opened closed : List Nat}
    (equal : opened.length = closed.length) :
    pair text start opened closed = (List.range opened.length).map fun rank =>
      ⟨Text.slice (if rank = 0 then start else closed.getD (rank - 1) 0 + closing.length)
          (opened.getD rank 0) text,
        Text.slice (opened.getD rank 0 + opening.length) (closed.getD rank 0) text⟩ := by
  -- The first brackets make the block of rank zero; the others are one rank further on.
  induction opened generalizing start closed with
  | nil => simp [pair]
  | cons first opened ih =>
    rcases closed with _ | ⟨last, closed⟩
    · simp at equal
    rw [pair, ih (by simpa using equal), List.length_cons, List.range_succ_eq_map]
    simp only [List.map_cons, List.map_map, if_true, List.getD_cons_zero, List.cons.injEq, true_and]
    refine List.map_congr_left fun rank _ => ?_
    rcases rank with _ | rank <;> simp

/-- Reading the brackets of a balanced text gives its blocks in order of their rank. -/
theorem ofText_eq_ranked {text : Text} (balanced : Balanced text) : ofText text = ranked text :=
  pair_eq_map balanced.equal

end Block

end TaggedTests
