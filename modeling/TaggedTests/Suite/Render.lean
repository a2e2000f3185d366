import TaggedTests.Block
import TaggedTests.Suite

/-!
Writing a suite as a test file.

A file-wide feature is written as one block, since a second would replace it. A comment comes first
in every test, empty where there is none, so that each test starts with a tag of its own.
-/

namespace TaggedTests

namespace Feature

/-- How late a modifier is written: the one that gives the active separator comes last. -/
def modifierRank (feature : Feature) (modifier : Modifier) : Nat :=
  match modifier.separator? with
  | none => 0
  | some separator => if separator ≠ feature.separator then 1 else 2

/-- The modifiers in the order in which they are written. -/
def writtenModifiers (feature : Feature) : List Modifier :=
  [0, 1, 2].flatMap fun rank => feature.modifiers.toList.filter fun modifier =>
    feature.modifierRank modifier = rank

/-- A block between its brackets. -/
def bracketed (block : Text) : Text := Block.opening ++ block ++ Block.closing

/-- The line in front of the blocks of a feature: its tag and its modifiers. -/
def heading (feature : Feature) : Text :=
  -- Prose of the first block: keywords alone, so that reading it finds nothing else.
  feature.tag.keyword ++
    feature.writtenModifiers.flatMap (fun modifier => ' ' :: modifier.keyword) ++ ['\n']

/-- A feature as written: its heading, then every block with the separator. -/
def render (feature : Feature) : Text :=
  if feature.contents.isEmpty then feature.heading ++ bracketed [] ++ ['\n', '\n'] else
    feature.heading ++
      feature.contents.flatMap (fun block => bracketed block ++ feature.separator) ++
      (if feature.separator = ['\n'] then ['\n'] else ['\n', '\n'])

end Feature

namespace Render

/-- The first line of a written file. -/
def header : Text := "Contents of this file were automatically generated by vival.".toList

/-- The line between the file-wide features and the tests. -/
def banner : Text :=
  let dashes := List.replicate 32 '-'
  dashes ++ "Tests".toList ++ dashes

/-- A keyword in lower case, which means nothing in prose. -/
def lowered (keyword : Text) : Text := keyword.map Char.toLower

/-- A title in which no keyword and no bracket is left, so that it can stand in prose. -/
def inertTitle (title : Text) : Text :=
  -- Brackets are bent first; no keyword holds a part of one.
  let bent := Text.replace Block.closing [')', '/'] (Text.replace Block.opening ['/', '('] title)
  keywords.foldl (fun text keyword => Text.replace keyword (lowered keyword) text) bent

/-- The comment of a test as written, empty where there is none. -/
def comment (registry : Registry) (test : Test) : Feature :=
  (test.features.get? .comment).getD (registry.feature .comment)

/-- The features of a test in the order in which they are written. -/
def testFeatures (registry : Registry) (test : Test) : List Feature :=
  comment registry test ::
    ((registry.ordered .perTest).filter (· ≠ .comment)).filterMap test.features.get?

/-- The line in front of a test: its title, and whether it is unfilled. -/
def titleLine (test : Test) : Text :=
  inertTitle test.title ++ (if test.filled then [] else " (unfilled)".toList) ++ ['\n', '\n']

/-- A test as written. -/
def testText (registry : Registry) (test : Test) : Text :=
  titleLine test ++ (testFeatures registry test).flatMap Feature.render

/-- The file-wide features in the order in which they are written. -/
def globalFeatures (registry : Registry) (globals : Features) : List Feature :=
  ((registry.ordered .global).filterMap globals.get?).map Feature.collapsed

end Render

/-- File-wide features and tests as a test file. -/
def render (registry : Registry) (globals : Features) (tests : List Test) : Text :=
  Render.header ++ ['\n', '\n'] ++
    (Render.globalFeatures registry globals).flatMap Feature.render ++
    Render.banner ++ ['\n', '\n'] ++ tests.flatMap (Render.testText registry)

/-- The suite as a test file. -/
def Suite.render (suite : Suite) : Text :=
  TaggedTests.render suite.registry suite.globals suite.tests

end TaggedTests
