import TaggedTests.Block
import TaggedTests.Suite.Sections
import TaggedTests.Text.Lines

/-!
Reading a test file.

Blocks are taken from left to right. A block without a tag in its prose continues the tag that was
asked for last. A test ends where a tag that was asked for in it is asked for again.
-/

namespace TaggedTests

/-- How a test file is to be read. -/
structure ReadOptions where
  format : Format := .bracketed
  /-- Sections of the older format must then have an expected output. -/
  expectFilled : Bool := true
  deriving DecidableEq, Repr

/-- What has been read after some of the blocks. -/
structure Progress where
  globals : Features
  /-- The tests that are complete. -/
  done : List Test
  /-- The test that blocks are added to. -/
  current : Test
  /-- The tags that were asked for in the current test. -/
  explicit : List Tag
  /-- The tag that was asked for last. -/
  previous : Tag
  deriving DecidableEq, Repr

namespace Progress

/-- Nothing has been read. -/
def start : Progress := ⟨.empty, [], .empty (Test.titleAt 0), [], .description⟩

/-- Completes the current test and starts the next one. -/
def startTest (progress : Progress) : Progress :=
  { progress with
    done := progress.done ++ [progress.current]
    current := .empty (Test.titleAt (progress.done.length + 1))
    explicit := [] }

/-- Starts a test if the tag was already asked for in the current one. -/
def makeRoom (progress : Progress) (tag : Tag) : Progress :=
  if progress.explicit.contains tag then progress.startTest else progress

/-- Adds a feature to the current test. -/
def addToTest (progress : Progress) (feature : Feature) : Progress :=
  { progress with current := progress.current.add feature }

/-- The feature that a block makes for a tag. -/
def featureOf (registry : Registry) (tag : Tag) (block : Block) : Feature :=
  (registry.featureOf tag [block.content]).applyAll block.modifiers

/-- Takes one more block. -/
def take (registry : Registry) (progress : Progress) (block : Block) : Progress :=
  -- A block without a tag of its own continues the last one.
  let tag := block.tag?.getD progress.previous
  let feature := featureOf registry tag block
  let placed :=
    match block.tag?, tag.scope with
    | _, .global => { progress with globals := progress.globals.add feature }
    | none, .perTest => progress.addToTest feature
    | some _, .perTest =>
      -- Only a tag that is asked for can end a test.
      let ready := progress.makeRoom tag
      { ready with explicit := ready.explicit ++ [tag] }.addToTest feature
  { placed with previous := tag }

/-- Takes blocks in order. -/
def takeAll (registry : Registry) (blocks : List Block) : Progress :=
  blocks.foldl (take registry) start

/-- All tests, the current one last. -/
def tests (progress : Progress) : List Test := progress.done ++ [progress.current]

end Progress

namespace Suite

/-- Reads the older format, with a warning if the newer one was asked for. -/
def readLegacy (registry : Registry) (options : ReadOptions) (text : Text) :
    Except ParseError Suite := do
  let tests ← Sections.read registry options.expectFilled text
  return {
    registry := registry
    globals := .empty
    tests := tests
    warnings := if options.format = .bracketed then [.oldFormat] else []
    format := .legacy }

/-- The suite of a list of blocks. -/
def ofBlocks (registry : Registry) (blocks : List Block) : Suite :=
  let progress := Progress.takeAll registry blocks
  ⟨registry, progress.globals, progress.tests, [], .bracketed⟩

/--
Reads a test file after making its line ends uniform.

Brackets have to be equal in number in either format; without any the older format is assumed.
-/
def read (registry : Registry) (options : ReadOptions) (raw : Text) : Except ParseError Suite :=
  -- Brackets are counted before anything decides on the format.
  let text := Text.normalizeLines raw
  let opened := (Block.opens text).length
  let closed := (Block.closes text).length
  if opened ≠ closed then .error (.unmatchedBrackets opened closed)
  else if opened = 0 ∨ options.format = .legacy then readLegacy registry options text
  else .ok (ofBlocks registry (Block.ofText text))

end Suite

end TaggedTests
