import TaggedTests.Test

/-! Does an output fit what a test expects? -/

namespace TaggedTests

/--
Makes attempts in order until one of them ends well, handing on the state that each leaves.

The answer tells whether one did, and the state after the last attempt that was made.
-/
def firstSuccess {ι σ : Type} (attempt : ι → σ → Bool × σ) : List ι → σ → Bool × σ
  | [], state => (false, state)
  | item :: rest, state =>
    match attempt item state with
    | (true, final) => (true, final)
    | (false, left) => firstSuccess attempt rest left

/-- Blocks in any order, neighbours joined by the separator: the search for such an order. -/
structure Shuffle where
  blocks : List Text
  separator : Text
  deriving DecidableEq, Repr

namespace Shuffle

/-- What follows a block, and the separator behind it if more blocks have to come. -/
def strip? (shuffle : Shuffle) (more : Bool) (block text : Text) : Option Text :=
  match Text.after? block text with
  | none => none
  | some tail => if more then Text.after? shuffle.separator tail else some tail

/--
Tries a block at its place: it must not be used yet, and the text must start with it.

It is marked as used while the rest is tried, and the mark is taken back when that fails.
-/
def tryBlock (shuffle : Shuffle) (more : Bool) (text : Text)
    (tryRest : Text → List Bool → Bool × List Bool) (item : Text × Nat) (used : List Bool) :
    Bool × List Bool :=
  if used.getD item.2 true then (false, used) else
    match shuffle.strip? more item.1 text with
    | none => (false, used)
    | some rest =>
      match tryRest rest (used.set item.2 true) with
      | (true, final) => (true, final)
      | (false, left) => (false, left.set item.2 false)

/-- Is a text made of unused blocks, as many as are said to remain? -/
def search (shuffle : Shuffle) : Nat → Text → List Bool → Bool × List Bool
  | 0, text, used => (text.isEmpty, used)
  | remaining + 1, text, used =>
    -- A block that is a prefix of another may be the wrong choice, so that all of them are tried.
    firstSuccess (shuffle.tryBlock (remaining ≠ 0) text (search shuffle remaining))
      shuffle.blocks.zipIdx used

/-- Is a text made of all blocks in some order? -/
def accepts (shuffle : Shuffle) (text : Text) : Bool :=
  let count := shuffle.blocks.length
  (shuffle.search count text (List.replicate count false)).1

end Shuffle

namespace Feature

/--
Is an output acceptable for this expected output?

It has to equal the joined text or, when the blocks are shuffled, to be them in some order.
-/
def accepts (feature : Feature) (actual : Text) : Bool :=
  if feature.modifiers.shuffled then
    Shuffle.accepts ⟨feature.contents, feature.separator⟩ actual
  else actual = feature.merged

end Feature

namespace Test

/-- Does what the last run printed satisfy the expected output? Nothing is expected without one. -/
def validate (test : Test) : Bool :=
  match test.captured, test.features.get? .output with
  | none, _ => false
  | some actual, some expected => expected.accepts actual
  | some actual, none => actual.isEmpty

end Test

end TaggedTests
