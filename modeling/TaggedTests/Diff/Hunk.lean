import TaggedTests.Diff.Compact
import TaggedTests.Diff.Patience

/-! Differences between two lists as alternating stretches of kept and of changed items. -/

namespace TaggedTests

/-- A stretch of a comparison. -/
inductive Hunk (α : Type) where
  | keep (items : List α)
  /-- Old items that new ones take the place of; either may be missing. -/
  | change (old new : List α)
  deriving DecidableEq, Repr

/-- A stretch with the places at which it begins in the two lists, counted from zero. -/
structure Placed (α : Type) where
  oldStart : Nat
  newStart : Nat
  hunk : Hunk α
  deriving DecidableEq, Repr

namespace Hunk

variable {α : Type}

/-- The items of a stretch in the old list. -/
def old : Hunk α → List α
  | keep items | change items _ => items

/-- The items of a stretch in the new list. -/
def new : Hunk α → List α
  | keep items | change _ items => items

/-- Puts a step in front of the stretches that follow it, joining it to a stretch of its kind. -/
def push (step : Edit α) (hunks : List (Hunk α)) : List (Hunk α) :=
  match step, hunks with
  | .keep items, keep more :: rest => keep (items ++ more) :: rest
  | .keep items, rest => keep items :: rest
  | .delete items, change old new :: rest => change (items ++ old) new :: rest
  | .delete items, rest => change items [] :: rest
  | .insert items, change old new :: rest => change old (items ++ new) :: rest
  | .insert items, rest => change [] items :: rest

/-- The stretches of a script. -/
def ofScript (script : Script α) : List (Hunk α) := script.foldr push []

/-- The stretches in which two lists agree or differ. -/
def between [DecidableEq α] (old new : List α) : List (Hunk α) :=
  ofScript (Compact.script (Patience.script old new))

/-- Stretches with their places, given those at which the first one begins. -/
def placed : Nat → Nat → List (Hunk α) → List (Placed α)
  | _, _, [] => []
  | oldStart, newStart, hunk :: rest =>
    -- The next stretch begins where this one ends, in either list.
    ⟨oldStart, newStart, hunk⟩ ::
      placed (oldStart + hunk.old.length) (newStart + hunk.new.length) rest

/-- The number of items that a stretch keeps. -/
def keptCount : Hunk α → Nat
  | keep items => items.length
  | change _ _ => 0

end Hunk

end TaggedTests
