import TaggedTests.Tag

/-! A feature is the value of one tag: its blocks, its modifiers and the separator that joins it. -/

namespace TaggedTests

/-- A set of modifiers. -/
structure Modifiers where
  shuffled : Bool := false
  endNewline : Bool := false
  endSpace : Bool := false
  endNone : Bool := false
  deriving DecidableEq, Repr

namespace Modifiers

/-- Is a modifier in the set? -/
def has (set : Modifiers) : Modifier → Bool
  | .shuffled => set.shuffled
  | .endNewline => set.endNewline
  | .endSpace => set.endSpace
  | .endNone => set.endNone

/-- The set with one more modifier. -/
def insert (set : Modifiers) : Modifier → Modifiers
  | .shuffled => { set with shuffled := true }
  | .endNewline => { set with endNewline := true }
  | .endSpace => { set with endSpace := true }
  | .endNone => { set with endNone := true }

/-- The modifiers of either set. -/
def union (first second : Modifiers) : Modifiers where
  shuffled := first.shuffled || second.shuffled
  endNewline := first.endNewline || second.endNewline
  endSpace := first.endSpace || second.endSpace
  endNone := first.endNone || second.endNone

/-- The modifiers of a set, in order of declaration. -/
def toList (set : Modifiers) : List Modifier := Modifier.all.filter set.has

/-- Does some modifier of the set force a separator? -/
def forcesSeparator (set : Modifiers) : Bool := set.toList.any fun m => m.separator?.isSome

@[simp] theorem has_insert (set : Modifiers) (modifier other : Modifier) :
    (set.insert modifier).has other = (set.has other || decide (other = modifier)) := by
  cases modifier <;> cases other <;> simp [insert, has]

@[simp] theorem has_union (first second : Modifiers) (modifier : Modifier) :
    (first.union second).has modifier = (first.has modifier || second.has modifier) := by
  cases modifier <;> rfl

/-- Sets with the same members are equal. -/
theorem ext {first second : Modifiers} (agree : ∀ m, first.has m = second.has m) :
    first = second := by
  -- Each field is the membership of its own modifier.
  cases first
  cases second
  have := agree .shuffled
  have := agree .endNewline
  have := agree .endSpace
  have := agree .endNone
  simp_all [has]

end Modifiers

/-- The value of one tag: blocks in order, joined by a separator when used as a whole. -/
structure Feature where
  tag : Tag
  contents : List Text
  modifiers : Modifiers
  separator : Text
  deriving DecidableEq, Repr

namespace Feature

/-- A feature without blocks or modifiers. -/
def empty (tag : Tag) (separator : Text) : Feature := ⟨tag, [], {}, separator⟩

/-- The feature with one more block at its end. -/
def push (feature : Feature) (block : Text) : Feature :=
  { feature with contents := feature.contents ++ [block] }

/-- The feature with other blocks. -/
def withContents (feature : Feature) (contents : List Text) : Feature :=
  { feature with contents := contents }

/-- Records a modifier; one that forces a separator also replaces the active one. -/
def apply (feature : Feature) (modifier : Modifier) : Feature :=
  { feature with
    modifiers := feature.modifiers.insert modifier
    separator := modifier.separator?.getD feature.separator }

/-- Records modifiers one after the other. -/
def applyAll (feature : Feature) (modifiers : List Modifier) : Feature :=
  modifiers.foldl apply feature

/-- The blocks joined into one text. -/
def merged (feature : Feature) : Text := feature.separator.intercalate feature.contents

/-- Is the joined text empty? -/
def isEmpty (feature : Feature) : Bool := feature.merged.isEmpty

/--
Joins a newer feature of the same tag to this one.

Blocks accumulate for a test and are replaced for a file. Modifiers accumulate, and the newer
separator is taken over exactly when some newer modifier forces one.
-/
def merge (feature newer : Feature) : Feature where
  tag := feature.tag
  contents :=
    match feature.tag.scope with
    | .perTest => feature.contents ++ newer.contents
    | .global => newer.contents
  modifiers := feature.modifiers.union newer.modifiers
  separator := if newer.modifiers.forcesSeparator then newer.separator else feature.separator

/-- The feature with its joined text as the only block. -/
def collapsed (feature : Feature) : Feature := { feature with contents := [feature.merged] }

/-- Do two features say the same: equal text and modifiers and, when shuffled, equal blocks? -/
def contentEq (feature other : Feature) : Bool :=
  feature.tag = other.tag && feature.modifiers = other.modifiers &&
    if feature.modifiers.shuffled then
      feature.contents = other.contents && feature.separator = other.separator
    else feature.merged = other.merged

end Feature

end TaggedTests
