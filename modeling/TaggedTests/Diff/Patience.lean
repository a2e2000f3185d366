import TaggedTests.Diff.Myers

/-!
Edit scripts along anchors.

Items that occur once in each list are matched first. The parts between matched items are then
compared on their own.
-/

namespace TaggedTests

namespace Patience

variable {α : Type} [DecidableEq α]

/-- The items that occur exactly once in a list, in order. -/
def singles (items : List α) : List α := items.filter fun item => items.count item = 1

/-- Items that occur once in each list, in an order common to both. -/
def anchors (old new : List α) : List α := (Myers.script (singles old) (singles new)).kept

/-- The script between two parts that end before an anchor. -/
def gap (old new : List α) : Script α :=
  let front := sharedFront old new
  Script.keeping (old.take front) ++ Myers.script (old.drop front) (new.drop front)

/-- The script from one anchor to the next. -/
def along : List α → List α → List α → Script α
  | [], old, new => Myers.script old new
  | anchor :: rest, old, new =>
    gap (old.takeWhile (· ≠ anchor)) (new.takeWhile (· ≠ anchor)) ++
      along rest (old.dropWhile (· ≠ anchor)) (new.dropWhile (· ≠ anchor))

/-- The script between two lists. -/
def script (old new : List α) : Script α := along (anchors old new) old new

end Patience

end TaggedTests
