import TaggedTests.Text.Basic

/-! The closed vocabulary of a test file: tags that name blocks and modifiers that adjust them. -/

namespace TaggedTests

/-- Where the feature of a tag lives. -/
inductive Scope where
  /-- One instance per file, shared by every test; a later block replaces an earlier one. -/
  | global
  /-- One instance per test; blocks accumulate. -/
  | perTest
  deriving DecidableEq, Repr

/-- The category of a block. The order of declaration settles every tie between tags. -/
inductive Tag where
  | description
  | main
  | flags
  | timeout
  | comment
  | startup
  | cleanup
  | input
  | cmd
  | output
  deriving DecidableEq, Repr

namespace Tag

/-- Every tag, in order of declaration. -/
def all : List Tag :=
  [description, main, flags, timeout, comment, startup, cleanup, input, cmd, output]

/-- The list of tags leaves none out. -/
theorem mem_all (tag : Tag) : tag ∈ all := by
  -- The vocabulary is finite, so membership is checked tag by tag.
  cases tag <;> decide

/-- The place of a tag in the order of declaration. -/
def index (tag : Tag) : Nat := all.idxOf tag

/-- The word that announces a tag in the prose before a block. -/
def keyword : Tag → Text
  | description => "DESCRIPTION".toList
  | main => "MAIN".toList
  | flags => "FLAGS".toList
  | timeout => "TIMEOUT".toList
  | comment => "COMMENT".toList
  | startup => "STARTUP".toList
  | cleanup => "CLEANUP".toList
  | input => "INPUT".toList
  | cmd => "CMD".toList
  | output => "OUTPUT".toList

/-- Does the feature of a tag belong to the file or to a test? -/
def scope : Tag → Scope
  | description | main | flags | timeout => .global
  | comment | startup | cleanup | input | cmd | output => .perTest

/-- The tag that a keyword names. -/
def ofKeyword? (keyword : Text) : Option Tag := all.find? fun tag => tag.keyword = keyword

/-- The tags of a scope, in order of declaration. -/
def ofScope (scope : Scope) : List Tag := all.filter fun tag => tag.scope = scope

end Tag

/-- An adjustment to how the blocks of a feature are joined or compared. -/
inductive Modifier where
  /-- The blocks may appear in any order. -/
  | shuffled
  /-- Blocks are joined by newlines. -/
  | endNewline
  /-- Blocks are joined by blanks. -/
  | endSpace
  /-- Blocks are joined by nothing. -/
  | endNone
  deriving DecidableEq, Repr

namespace Modifier

/-- Every modifier, in order of declaration. -/
def all : List Modifier := [shuffled, endNewline, endSpace, endNone]

/-- The list of modifiers leaves none out. -/
theorem mem_all (modifier : Modifier) : modifier ∈ all := by
  -- The vocabulary is finite, so membership is checked modifier by modifier.
  cases modifier <;> decide

/-- The word that asks for a modifier in the prose before a block. -/
def keyword : Modifier → Text
  | shuffled => "mSHUFFLED".toList
  | endNewline => "mENDNL".toList
  | endSpace => "mENDSPACE".toList
  | endNone => "mENDNONE".toList

/-- The separator that a modifier forces, if it forces one. -/
def separator? : Modifier → Option Text
  | shuffled => none
  | endNewline => some ['\n']
  | endSpace => some [' ']
  | endNone => some []

/-- The modifier that a keyword names. -/
def ofKeyword? (keyword : Text) : Option Modifier :=
  all.find? fun modifier => modifier.keyword = keyword

end Modifier

/-- Every word that has a meaning in the prose before a block. -/
def keywords : List Text := Tag.all.map Tag.keyword ++ Modifier.all.map Modifier.keyword

end TaggedTests
