import TaggedTests.Diff.Script
import TaggedTests.Diff.Shared

/-!
Edit scripts by bisection.

Paths through the grid of both lists are grown from its two corners, one edit more in each round and
as far as the lists agree. Where they meet, the problem is cut in two.
-/

namespace TaggedTests

namespace Myers

/--
How far paths have come on each diagonal, as positions in the old list.

The diagonal of a point is its position in the old list less the one in the new list.
-/
structure Reach where
  /-- The diagonal zero is at this index. -/
  origin : Nat
  positions : Array Nat

namespace Reach

/-- No path has left its corner. -/
def start (origin : Nat) : Reach := ⟨origin, Array.replicate (2 * origin + 1) 0⟩

/-- The position on a diagonal. -/
def get (reach : Reach) (diagonal : Int) : Nat :=
  reach.positions.getD (diagonal + reach.origin).toNat 0

/-- The reach with another position on one diagonal. -/
def set (reach : Reach) (diagonal : Int) (position : Nat) : Reach :=
  { reach with
    positions := reach.positions.setIfInBounds (diagonal + reach.origin).toNat position }

/-- Where a path enters a diagonal with the edit of a round, from the better neighbour. -/
def entry (reach : Reach) (round : Nat) (diagonal : Int) : Nat :=
  -- An outermost diagonal has one neighbour that was reached; another takes the one further on.
  let below := reach.get (diagonal - 1)
  let above := reach.get (diagonal + 1)
  if diagonal = -(round : Int) ∨ (diagonal ≠ round ∧ below < above) then above else below + 1

end Reach

variable {α : Type} [DecidableEq α]

/-- The diagonals that a round can reach, the highest first. -/
def diagonals (round : Nat) : List Int :=
  (List.range (round + 1)).map fun i : Nat => (round : Int) - 2 * (i : Int)

/-- The number of items on which the lists agree from given places on, counted up to a bound. -/
def agreement (old new : Array α) : Nat → Nat → Nat → Nat
  | 0, _, _ => 0
  | bound + 1, place, across =>
    match old[place]?, new[across]? with
    | some x, some y => if x = y then agreement old new bound (place + 1) (across + 1) + 1 else 0
    | _, _ => 0

/-- How far a path goes on a diagonal after entering it, as the lists agree. -/
def slide (old new : Array α) (diagonal : Int) (entry : Nat) : Nat :=
  let across := (entry : Int) - diagonal
  if 0 ≤ across then entry + agreement old new (old.size - entry) entry across.toNat else entry

/-- A path as it goes along a diagonal in one round. -/
structure Leg where
  diagonal : Int
  entry : Nat
  stop : Nat

namespace Leg

/-- The position in the new list at which the path enters the diagonal. -/
def entryAcross (leg : Leg) : Nat := ((leg.entry : Int) - leg.diagonal).toNat

/-- The position in the new list at which the path stops. -/
def stopAcross (leg : Leg) : Nat := ((leg.stop : Int) - leg.diagonal).toNat

end Leg

/-- Grows paths along diagonals, up to the first leg that meets a path from the other corner. -/
def sweep (old new : Array α) (round : Nat) (meets : Leg → Bool) :
    List Int → Reach → Except Leg Reach
  | [], reach => .ok reach
  | diagonal :: rest, reach =>
    let entry := reach.entry round diagonal
    let leg : Leg := ⟨diagonal, entry, slide old new diagonal entry⟩
    if meets leg then .error leg
    else sweep old new round meets rest (reach.set diagonal leg.stop)

/-- Does a leg overlap with a path from the other corner, which counts from its own end? -/
def overlaps (old new : Array α) (other : Reach) (within : Int) (leg : Leg) : Bool :=
  let shift := (old.size : Int) - new.size
  (leg.diagonal - shift).natAbs ≤ within && old.size ≤ leg.stop + other.get (shift - leg.diagonal)

/-- Grows paths from both corners, a number of rounds at most, and gives the point where they
meet. -/
def meetingPoint? (old new : Array α) : Nat → Nat → Reach → Reach → Option (Nat × Nat)
  | 0, _, _, _ => none
  | fuel + 1, round, forward, backward =>
    -- Paths meet on the way forward if the lengths add up to an odd number, else on the way back.
    let odd := (old.size + new.size) % 2 = 1
    let meetsBackward leg := odd && overlaps old new backward (round - 1) leg
    match sweep old new round meetsBackward (diagonals round) forward with
    | .error leg => some (leg.entry, leg.entryAcross)
    | .ok grown =>
      let meetsForward leg := !odd && overlaps old new grown round leg
      match sweep old.reverse new.reverse round meetsForward (diagonals round) backward with
      | .error leg => some (old.size - leg.stop, new.size - leg.stopAcross)
      | .ok grownBack => meetingPoint? old new fuel (round + 1) grown grownBack

/-- Replaces a whole list, which is right whatever the lists are. -/
def replaceAll (old new : List α) : Script α := Script.deleting old ++ Script.inserting new

/-- The script between two lists that agree at neither end, with one for the parts to
be called on. -/
def bisect (recur : List α → List α → Script α) (old new : List α) : Script α :=
  if old.isEmpty ∨ new.isEmpty then replaceAll old new else
    -- Each round adds an edit from either corner, so that half of all edits are rounds enough.
    let rounds := (old.length + new.length + 1) / 2 + 1
    let corner := Reach.start (rounds + 1)
    match meetingPoint? old.toArray new.toArray rounds 0 corner corner with
    | none => replaceAll old new
    | some (x, y) => recur (old.take x) (new.take y) ++ recur (old.drop x) (new.drop y)

/-- The script between two lists, cutting the problem a number of times at most. -/
def conquer : Nat → List α → List α → Script α
  | 0, old, new => replaceAll old new
  | fuel + 1, old, new =>
    -- What agrees at either end is kept, and only the middle is cut.
    let front := sharedFront old new
    let oldRest := old.drop front
    let newRest := new.drop front
    let back := sharedBack oldRest newRest
    Script.keeping (old.take front) ++
      bisect (conquer fuel) (oldRest.take (oldRest.length - back))
        (newRest.take (newRest.length - back)) ++
      Script.keeping (oldRest.drop (oldRest.length - back))

/-- The script between two lists; every cut makes the lists shorter. -/
def script (old new : List α) : Script α := conquer (old.length + new.length + 1) old new

end Myers

end TaggedTests
