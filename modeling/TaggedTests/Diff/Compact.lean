import TaggedTests.Diff.Script
import TaggedTests.Diff.Shared

/-!
Moving the edits of a script together.

An insertion can slide over kept items where it ends or begins as they do. Deletions and insertions
that meet trade places or join.
-/

namespace TaggedTests

namespace Compact

variable {α : Type} [DecidableEq α]

/-- A script with one step singled out; the steps before it are in reversed order. -/
structure Focus (α : Type) where
  before : Script α
  step : Edit α
  after : Script α

/-- The script with more kept items at its front. -/
def keepFirst (items : List α) : Script α → Script α
  | .keep more :: rest => .keep (items ++ more) :: rest
  | script => .keep items :: script

/-- The reversed script with more kept items at its end. -/
def keepLast (items : List α) : Script α → Script α
  | .keep more :: rest => .keep (more ++ items) :: rest
  | script => .keep items :: script

/-- Moves a step towards the front as far as it goes. -/
def up : Nat → Focus α → Focus α
  | 0, focus => focus
  | fuel + 1, focus =>
    match focus.before, focus.step with
    | .keep kept :: rest, .insert items =>
      let shared := sharedBack kept items
      if shared = 0 then focus else
        -- The kept items pass to the other side of the insertion, which turns around by as many.
        let tail := kept.drop (kept.length - shared)
        up fuel ⟨Script.keeping (kept.take (kept.length - shared)) ++ rest,
          .insert (tail ++ items.take (items.length - shared)), keepFirst tail focus.after⟩
    | .delete other :: rest, .insert items =>
      up fuel ⟨rest, .insert items, .delete other :: focus.after⟩
    | .insert other :: rest, .delete items =>
      up fuel ⟨rest, .delete items, .insert other :: focus.after⟩
    | .insert other :: rest, .insert items =>
      up fuel ⟨rest, .insert (other ++ items), focus.after⟩
    | .delete other :: rest, .delete items =>
      up fuel ⟨rest, .delete (other ++ items), focus.after⟩
    | _, _ => focus

/-- Moves a step towards the end as far as it goes. -/
def down : Nat → Focus α → Focus α
  | 0, focus => focus
  | fuel + 1, focus =>
    match focus.step, focus.after with
    | .insert items, .keep kept :: rest =>
      let shared := sharedFront kept items
      if shared = 0 then focus else
        -- The same turn, with the items that the insertion begins with.
        let head := kept.take shared
        down fuel ⟨keepLast head focus.before, .insert (items.drop shared ++ head),
          Script.keeping (kept.drop shared) ++ rest⟩
    | .insert items, .delete other :: rest =>
      down fuel ⟨.delete other :: focus.before, .insert items, rest⟩
    | .delete items, .insert other :: rest =>
      down fuel ⟨.insert other :: focus.before, .delete items, rest⟩
    | .insert items, .insert other :: rest =>
      down fuel ⟨focus.before, .insert (items ++ other), rest⟩
    | .delete items, .delete other :: rest =>
      down fuel ⟨focus.before, .delete (items ++ other), rest⟩
    | _, _ => focus

/-- Moves a step up and then down. -/
def settle (focus : Focus α) : Focus α :=
  let raised := up (focus.before.weight + 1) focus
  down (raised.after.weight + 1) raised

/-- Settles every step of a kind, going through the script from its front. -/
def pass (moves : Edit α → Bool) : Nat → Script α → Script α → Script α
  | 0, before, rest => before.reverse ++ rest
  | _, before, [] => before.reverse
  | fuel + 1, before, step :: after =>
    if moves step then
      let settled := settle ⟨before, step, after⟩
      pass moves fuel (settled.step :: settled.before) settled.after
    else pass moves fuel (step :: before) after

/-- Is the step a deletion? -/
def isDelete : Edit α → Bool
  | .delete _ => true
  | _ => false

/-- Is the step an insertion? -/
def isInsert : Edit α → Bool
  | .insert _ => true
  | _ => false

/-- Settles all deletions and then all insertions. -/
def script (script : Script α) : Script α :=
  -- A pass meets a step at most once for each place that it can settle in.
  let bound := (script.weight + 1) * (script.weight + 1)
  pass isInsert bound [] (pass isDelete bound [] script)

end Compact

end TaggedTests
