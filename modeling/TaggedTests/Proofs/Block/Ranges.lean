import TaggedTests.Proofs.Suite.Lossless
import TaggedTests.Proofs.Text.Offsets

/-!
The ranges of bytes in which the blocks of a text lie.

Brackets are searched for in the bytes of the text and paired in order, so that ranges may be
inverted and may overlap. Cutting at them never fails, and it gives the blocks of the text.
-/

namespace TaggedTests

/-- A range of the bytes of a text. -/
structure ByteRange where
  start : Nat
  stop : Nat
  deriving DecidableEq, Repr

/-- The ranges of the prose and of the content of a block. -/
structure BlockRange where
  prose : ByteRange
  content : ByteRange
  deriving DecidableEq, Repr

namespace ByteRange

variable {range : ByteRange} {text part : Text}

/-- A range, unless it is inverted, lies within the text and divides no character of it. -/
def Inside (range : ByteRange) (text : Text) : Prop :=
  range.start ≤ range.stop → range.stop ≤ (Text.utf8 text).length ∧
    text.IsBoundary range.start ∧ text.IsBoundary range.stop

/-- Cutting a text at a range does not fail, and it gives a part. -/
def Gives (range : ByteRange) (text part : Text) : Prop :=
  Text.cutBytes? range.start range.stop text = some part

/-- Where cutting does not fail, the range lies within the text and divides no character. -/
theorem Gives.inside (gives : range.Gives text part) : range.Inside text := by
  intro ordered
  -- The front, with and without the part, shows where the characters at both ends begin.
  obtain ⟨front, rest, rfl, starts, stops⟩ := (Text.cutBytes?_eq_some_iff ordered).1 gives
  refine ⟨?_, ⟨front, ?_, starts⟩, ⟨front ++ part, List.prefix_append .., stops⟩⟩
  · rw [← stops, Text.utf8_append (front ++ part) rest, List.length_append]
    omega
  · rw [List.append_assoc]
    exact List.prefix_append ..

end ByteRange

namespace BlockRange

/-- Both ranges, unless they are inverted, lie within the text and divide no character of it. -/
def Inside (ranges : BlockRange) (text : Text) : Prop :=
  ranges.prose.Inside text ∧ ranges.content.Inside text

/-- Cutting a text at both ranges does not fail, and it gives the parts of a block. -/
def Gives (text : Text) (ranges : BlockRange) (block : Block) : Prop :=
  ranges.prose.Gives text block.prose ∧ ranges.content.Gives text block.content

end BlockRange

namespace Block

variable {text : Text} {start : Nat} {opened closed : List Nat}

/-- Pairs brackets at offsets in order. The prose begins behind the closing bracket before it, and
the content behind the opening one. -/
def pairRanges (start : Nat) : List Nat → List Nat → List BlockRange
  | opened :: opens, closed :: closes =>
    ⟨⟨start, opened⟩, ⟨opened + (Text.utf8 opening).length, closed⟩⟩ ::
      pairRanges (closed + (Text.utf8 closing).length) opens closes
  | _, _ => []

/-- The ranges of the blocks of a text. -/
def ranges (text : Text) : List BlockRange :=
  pairRanges 0 (Text.offsets opening text) (Text.offsets closing text)

/-- Opening brackets are found in the bytes of a text at the offsets of their places. -/
theorem offsets_opening (text : Text) :
    Text.offsets opening text = (opens text).map (Text.offsetAt text) :=
  Text.offsets_eq_map (List.all_eq_true.1 (by decide)) (by decide) text

/-- Closing brackets are found in the bytes of a text at the offsets of their places. -/
theorem offsets_closing (text : Text) :
    Text.offsets closing text = (closes text).map (Text.offsetAt text) :=
  Text.offsets_eq_map (List.all_eq_true.1 (by decide)) (by decide) text

/-- Brackets that are paired at their offsets give the blocks that are paired at their places. -/
theorem forall₂_gives_pair (inside : start ≤ text.length)
    (opens : ∀ place ∈ opened, opening <+: text.drop place)
    (closes : ∀ place ∈ closed, closing <+: text.drop place) :
    List.Forall₂ (BlockRange.Gives text)
      (pairRanges (Text.offsetAt text start) (opened.map (Text.offsetAt text))
        (closed.map (Text.offsetAt text)))
      (pair text start opened closed) := by
  -- Each pair moves the start of the next prose, so it stays quantified over.
  induction opened generalizing start closed with
  | nil => exact .nil
  | cons first opened ih =>
    rcases closed with _ | ⟨last, closed⟩
    · exact .nil
    -- The ranges of this pair end inside the text, and the next prose begins there as well.
    obtain ⟨opening, opens⟩ := List.forall_mem_cons.1 opens
    obtain ⟨closing, closes⟩ := List.forall_mem_cons.1 closes
    have front := Text.add_length_le_of_prefix_drop (by decide) opening
    have back := Text.add_length_le_of_prefix_drop (by decide) closing
    rw [List.map_cons, List.map_cons, pairRanges, pair, ← Text.offsetAt_add_length opening,
      ← Text.offsetAt_add_length closing]
    refine .cons ⟨?_, ?_⟩ (ih back opens closes)
    · exact Text.cutBytes?_offsetAt inside (by omega)
    · exact Text.cutBytes?_offsetAt front (by omega)

/-- Cutting a text at the ranges of its blocks never fails, and it gives these blocks. -/
theorem forall₂_gives_ranges (text : Text) :
    List.Forall₂ (BlockRange.Gives text) (ranges text) (ofText text) := by
  -- The prose of the first block begins at the front of the text, whose offset is zero.
  rw [ranges, offsets_opening, offsets_closing]
  exact forall₂_gives_pair (Nat.zero_le _)
    (fun place found => Text.prefix_drop_of_mem_positionsFrom [] found)
    (fun place found => Text.prefix_drop_of_mem_positionsFrom [] found)

/-- The ranges of the blocks lie within the text and divide no character. -/
theorem inside_of_mem_ranges (text : Text) : ∀ range ∈ ranges text, range.Inside text := by
  -- Every range gives a block, and a cut that gives something has both of its ends inside the text.
  have both : List.Forall₂ (fun range block => range.Inside text ∧ range.Gives text block)
      (ranges text) (ofText text) :=
    (forall₂_gives_ranges text).imp fun range block gives =>
      ⟨⟨gives.1.inside, gives.2.inside⟩, gives⟩
  exact ((List.forall₂_and_left _ _).1 both).1

end Block

namespace Suite

variable {registry : Registry} {options : ReadOptions} {raw text : Text} {opening closing : Nat}

/-- The older format is never refused for its brackets. -/
theorem readLegacy_ne_unmatched :
    readLegacy registry options text ≠ .error (.unmatchedBrackets opening closing) := by
  -- The sections are refused for a section of theirs only.
  cases read : Sections.read registry options.expectFilled text with
  | ok tests => simp [readLegacy, read, Bind.bind, Except.bind, Pure.pure, Except.pure]
  | error error =>
    obtain ⟨-, place, -, rfl⟩ := Sections.readSections_eq_error_iff.1 read
    simp [readLegacy, read, Bind.bind, Except.bind]

/-- A text is refused for its brackets exactly when they differ in number, and then with these
numbers. -/
theorem read_eq_unmatched_iff :
    read registry options raw = .error (.unmatchedBrackets opening closing) ↔ opening ≠ closing ∧
      (Block.opens (Text.normalizeLines raw)).length = opening ∧
      (Block.closes (Text.normalizeLines raw)).length = closing := by
  simp only [read]
  split
  · next differ =>
    -- With different numbers the error tells them.
    simp only [Except.error.injEq, ParseError.unmatchedBrackets.injEq]
    constructor
    · rintro ⟨rfl, rfl⟩
      exact ⟨differ, rfl, rfl⟩
    · exact And.right
  · next equal =>
    -- With equal numbers there is no such error, in either format.
    refine iff_of_false ?_ ?_
    · split
      · exact readLegacy_ne_unmatched
      · simp
    · rintro ⟨differ, rfl, rfl⟩
      exact differ (not_not.1 equal)

/--
Reading a bracketed text never cuts it out of range or inside a character.

Its brackets are searched for in the bytes of the text, from left to right and without overlap, and
paired in order. However they are ordered or nested, each range of bytes that is cut for a prose or
for a content lies within the text, and at both of its ends a character starts or the text ends. The
parts that are cut are the blocks that are read.

So a text with as many closing brackets as opening ones, and with at least one of either, is always
read as bracketed blocks, if these are asked for; and a text is refused for its brackets exactly
when they differ in number, and then with these numbers.
-/
theorem read_cuts_whole_characters (registry : Registry) (options : ReadOptions) (raw : Text) :
    let text := Text.normalizeLines raw
    let opened := (Text.offsets Block.opening text).length
    let closed := (Text.offsets Block.closing text).length
    (∀ range ∈ Block.ranges text, range.Inside text) ∧
    List.Forall₂ (BlockRange.Gives text) (Block.ranges text) (Block.ofText text) ∧
    (options.format = .bracketed → opened = closed → opened ≠ 0 →
      read registry options raw = .ok (ofBlocks registry (Block.ofText text))) ∧
    ∀ opening closing, read registry options raw = .error (.unmatchedBrackets opening closing) ↔
      opening ≠ closing ∧ opened = opening ∧ closed = closing := by
  intro text opened closed
  -- There are as many offsets as places, so that either can be counted.
  have opens : opened = (Block.opens text).length := by
    rw [← List.length_map, ← Block.offsets_opening]
  have closes : closed = (Block.closes text).length := by
    rw [← List.length_map, ← Block.offsets_closing]
  refine ⟨Block.inside_of_mem_ranges text, Block.forall₂_gives_ranges text,
    fun bracketed equal some => ?_, fun opening closing => ?_⟩
  · -- Equally many brackets, of which there are some, are read as blocks.
    rw [opens] at equal some
    rw [closes] at equal
    have legacy : ¬ ((Block.opens text).length = 0 ∨ options.format = .legacy) := by
      rw [bracketed]
      simpa using some
    rw [read, if_neg (not_not.2 equal), if_neg legacy]
  · rw [opens, closes]
    exact read_eq_unmatched_iff

/-- Brackets that cross and share a slash among characters of several bytes, and a bracket that is
left over. -/
theorem read_cuts_whole_characters_crossed :
    let raw : Text := "é\x7d/\x7b😀 INPUT /\x7bß\r\n\x7d/ñ".toList
    let text := Text.normalizeLines raw
    let content : BlockRange := ⟨⟨4, 16⟩, ⟨18, 21⟩⟩
    Block.ranges text = [⟨⟨0, 3⟩, ⟨5, 2⟩⟩, content] ∧ content.Inside text ∧
      Block.ofText text = [⟨"é\x7d".toList, []⟩, ⟨"\x7b😀 INPUT ".toList, "ß\n".toList⟩] ∧
      read .builtin {} raw = .ok (ofBlocks .builtin (Block.ofText text)) ∧
      read .builtin {} "ß/\x7b".toList = .error (.unmatchedBrackets 1 0) := by
  intro raw text content
  -- The one text is read and the other one refused.
  obtain ⟨inside, -, succeeds, -⟩ := read_cuts_whole_characters .builtin {} raw
  obtain ⟨-, -, -, refused⟩ := read_cuts_whole_characters .builtin {} "ß/\x7b".toList
  have ranges : Block.ranges text = [⟨⟨0, 3⟩, ⟨5, 2⟩⟩, content] := by decide +kernel
  have member : content ∈ Block.ranges text := by
    rw [ranges]
    exact List.mem_cons_of_mem _ (List.mem_singleton_self _)
  -- An opening bracket that begins inside of a closing one is paired with it and holds nothing.
  exact ⟨ranges, inside content member, by decide +kernel,
    succeeds rfl (by decide +kernel) (by decide +kernel),
    (refused 1 0).2 ⟨by decide, by decide +kernel, by decide +kernel⟩⟩

end Suite

end TaggedTests
