import TaggedTests.Proofs.Report.Pieces
import TaggedTests.Proofs.Report.ShownLines

/-!
A difference is a faithful edit script.

The lines with an old number are the lines of the expected text, and those with a new number the
lines of the output, each in order and counted from one. This holds for any stretches that follow
each other without gaps and cover both texts, and for any pieces that lose no line, and it holds for
those that are found here.
-/

namespace TaggedTests

/-- The text of a line that a comparison finds, with its place on one side, if it has one there. -/
def Change.entry? (side : Change → Option Nat) (change : Change) : Option (Text × Nat) :=
  (side change).map fun place => (Piece.join change.pieces, place)

/-- The text of a line with its number on one side, if it has one there. -/
def DiffLine.entry? (side : DiffLine → Option Nat) (line : DiffLine) : Option (Text × Nat) :=
  (side line).map fun number => (line.text, number)

namespace Placed

variable {α : Type} {start : Placed α → Nat} {items : Hunk α → List α}

/-- On one side, the first stretch begins at a place, and each of the others where the one before it
has ended. -/
def Contiguous (start : Placed α → Nat) (items : Hunk α → List α) : Nat → List (Placed α) → Prop
  | _, [] => True
  | place, stretch :: rest =>
    start stretch = place ∧ Contiguous start items (place + (items stretch.hunk).length) rest

/-- The items of contiguous stretches, each counted from where it begins, are counted through. -/
theorem Contiguous.flatMap_zipIdx {place : Nat} {stretches : List (Placed α)}
    (contiguous : Contiguous start items place stretches) :
    stretches.flatMap (fun stretch => (items stretch.hunk).zipIdx (start stretch)) =
      (stretches.flatMap fun stretch => items stretch.hunk).zipIdx place := by
  -- Behind the first stretch, the count has come to the place where the second one begins.
  induction stretches generalizing place with
  | nil => rfl
  | cons stretch rest ih =>
    obtain ⟨here, later⟩ := contiguous
    rw [List.flatMap_cons, List.flatMap_cons, List.zipIdx_append, ih later, here]

end Placed

namespace Hunk

variable {α : Type}

/-- Places leave the stretches themselves alone. -/
theorem flatMap_placed {β : Type} (oldStart newStart : Nat) (hunks : List (Hunk α))
    (items : Hunk α → List β) :
    (placed oldStart newStart hunks).flatMap (fun stretch => items stretch.hunk) =
      hunks.flatMap items := by
  -- Wherever the first stretch begins, it is the same stretch.
  induction hunks generalizing oldStart newStart with
  | nil => rfl
  | cons hunk rest ih => rw [placed, List.flatMap_cons, List.flatMap_cons, ih]

/-- Stretches with their places are contiguous in either list. -/
theorem contiguous_placed (oldStart newStart : Nat) (hunks : List (Hunk α)) :
    Placed.Contiguous Placed.oldStart old oldStart (placed oldStart newStart hunks) ∧
      Placed.Contiguous Placed.newStart new newStart (placed oldStart newStart hunks) := by
  -- The places of the second stretch are those behind the first one.
  induction hunks generalizing oldStart newStart with
  | nil => exact ⟨trivial, trivial⟩
  | cons hunk rest ih => exact ⟨⟨rfl, (ih _ _).1⟩, ⟨rfl, (ih _ _).2⟩⟩

end Hunk

namespace Difference

/-- A way to find a difference: the stretches of two lists of lines with their places, and the lines
of each stretch with theirs. -/
structure Method where
  stretches : List Text → List Text → List (Placed Text)
  changes : Placed Text → List Change

/-- The way in which differences are found here. -/
def method : Method := ⟨fun old new => Hunk.placed 0 0 (Hunk.between old new), changes⟩

namespace Method

/-- The lines of the difference of two texts, each with the places that were found for it. -/
def lines (method : Method) (expected actual : Text) : List DiffLine :=
  ((method.stretches (Text.endedLines expected) (Text.endedLines actual)).flatMap
    method.changes).map DiffLine.ofChange

/-- The difference of two texts under their names. -/
def styled (method : Method) (expected actual expectedName actualName : Text) : Styled :=
  shown (method.lines expected actual) expectedName actualName

/-- A way to find differences that loses no line.

Stretches cover both texts in order and without gaps. In a stretch, the lines with a place in a text
are its lines of that text, in order and in their places, of which the pieces make up each line. -/
structure Sound (method : Method) : Prop where
  covers_old : ∀ old new, (method.stretches old new).flatMap (fun stretch => stretch.hunk.old) = old
  covers_new : ∀ old new, (method.stretches old new).flatMap (fun stretch => stretch.hunk.new) = new
  /-- A stretch begins where the one before it has ended. -/
  contiguous_old : ∀ old new,
    Placed.Contiguous Placed.oldStart Hunk.old 0 (method.stretches old new)
  contiguous_new : ∀ old new,
    Placed.Contiguous Placed.newStart Hunk.new 0 (method.stretches old new)
  changes_old : ∀ stretch, (method.changes stretch).filterMap (Change.entry? Change.oldIndex) =
    stretch.hunk.old.zipIdx stretch.oldStart
  changes_new : ∀ stretch, (method.changes stretch).filterMap (Change.entry? Change.newIndex) =
    stretch.hunk.new.zipIdx stretch.newStart
  /-- A line that was removed has no new place, and one that was added has no old one. -/
  signs : ∀ stretch, ∀ change ∈ method.changes stretch,
    (change.oldIndex ≠ none ↔ change.sign ≠ .added) ∧
      (change.newIndex ≠ none ↔ change.sign ≠ .removed)
  /-- No piece is cut out of nothing. -/
  solid : ∀ stretch, (∀ line ∈ stretch.hunk.old ++ stretch.hunk.new, line ≠ []) →
    ∀ change ∈ method.changes stretch, ∀ piece ∈ change.pieces, piece.text ≠ []

end Method

/-- The lines of a difference are found in this way. -/
theorem lines_method (expected actual : Text) :
    method.lines expected actual = lines expected actual := rfl

/-- A difference is shown with the lines that are found in this way. -/
theorem styled_method (expected actual expectedName actualName : Text) :
    method.styled expected actual expectedName actualName =
      styled expected actual expectedName actualName := rfl

/-- The lines of a difference that leads from the expected text to the output, and nothing else. -/
structure Faithful (expected actual : Text) (lines : List DiffLine) : Prop where
  /-- The lines with an old number are those of the expected text, numbered from one. -/
  old : lines.filterMap (DiffLine.entry? DiffLine.oldNumber) = (Text.endedLines expected).zipIdx 1
  /-- The lines with a new number are those of the output, numbered from one. -/
  new : lines.filterMap (DiffLine.entry? DiffLine.newNumber) = (Text.endedLines actual).zipIdx 1
  both : ∀ line ∈ lines, line.sign = .both ↔ line.oldNumber ≠ none ∧ line.newNumber ≠ none
  removed : ∀ line ∈ lines, line.sign = .removed ↔ line.oldNumber ≠ none ∧ line.newNumber = none
  added : ∀ line ∈ lines, line.sign = .added ↔ line.oldNumber = none ∧ line.newNumber ≠ none
  /-- An expected line gets the mark of a missing line end exactly if it is the last one and has
  none. -/
  marked_old : ∀ line ∈ lines, ∀ number, line.oldNumber = some number →
    (line.isUnterminated = true ↔
      number = (Text.endedLines expected).length ∧ expected.endsLine = false)
  /-- So does a line of the output. -/
  marked_new : ∀ line ∈ lines, ∀ number, line.newNumber = some number →
    (line.isUnterminated = true ↔
      number = (Text.endedLines actual).length ∧ actual.endsLine = false)
  ends : ∀ line ∈ lines, line.plain.endsLine = true

/-- A difference as it is shown without colors: two lines with the names of the texts, and then its
own lines. -/
def plain (lines : List DiffLine) (expectedName actualName : Text) : Text :=
  '\n' :: "--- ".toList ++ expectedName ++ '\n' :: "+++ ".toList ++ actualName ++
    '\n' :: lines.flatMap DiffLine.plain

/-- The lines with a number on one side are those with a place there, each with the number after
it. -/
theorem entries_ofChange {place : Change → Option Nat} {number : DiffLine → Option Nat}
    (counted : ∀ change, number (.ofChange change) = (place change).map (· + 1))
    (changes : List Change) :
    (changes.map DiffLine.ofChange).filterMap (DiffLine.entry? number) =
      (changes.filterMap (Change.entry? place)).map (Prod.map id (· + 1)) := by
  rw [List.filterMap_map, List.map_filterMap]
  refine List.filterMap_congr fun change _ => ?_
  -- A line keeps its pieces, and so its text.
  show DiffLine.entry? number (.ofChange change) = (Change.entry? place change).map _
  rw [DiffLine.entry?, counted, Change.entry?, Option.map_map, Option.map_map]
  rfl

/-- Without colors a difference is shown as the names of the texts and its lines. -/
theorem render_shown (lines : List DiffLine) (expectedName actualName : Text) :
    (shown lines expectedName actualName).render .plain = plain lines expectedName actualName := by
  -- Of every part, the names included, only the text is left.
  have texts : lines.flatMap (fun line => line.styled.flatMap Span.text) =
      lines.flatMap DiffLine.plain :=
    List.flatMap_congr fun line _ => line.text_styled
  rw [Styled.render_plain, shown, List.flatMap_append, List.flatMap_assoc, texts, plain]
  simp only [List.flatMap_cons, List.flatMap_nil, Span.of, Span.bare, Span.newline,
    List.cons_append, List.nil_append, List.append_nil, List.append_assoc]

/-- A line with a number stands under it among the entries of that side. -/
theorem mem_of_number {side : DiffLine → Option Nat} {lines : List DiffLine} {line : DiffLine}
    {number : Nat} {entries : List (Text × Nat)}
    (listed : lines.filterMap (DiffLine.entry? side) = entries) (member : line ∈ lines)
    (numbered : side line = some number) : (line.text, number) ∈ entries := by
  rw [← listed]
  exact List.mem_filterMap.2 ⟨line, member, by rw [DiffLine.entry?, numbered, Option.map_some]⟩

namespace Method

variable {method : Method} {expected actual : Text} {line : DiffLine}

/-- The lines with a number on one side are counted through from one, if the lines of each stretch
are counted from where it begins, and the stretches are contiguous. -/
theorem entries_lines {place : Change → Option Nat} {number : DiffLine → Option Nat}
    {start : Placed Text → Nat} {items : Hunk Text → List Text} {all : List Text}
    (counted : ∀ change, number (.ofChange change) = (place change).map (· + 1))
    (listed : ∀ stretch, (method.changes stretch).filterMap (Change.entry? place) =
      (items stretch.hunk).zipIdx (start stretch))
    (contiguous : Placed.Contiguous start items 0
      (method.stretches (Text.endedLines expected) (Text.endedLines actual)))
    (covers : (method.stretches (Text.endedLines expected) (Text.endedLines actual)).flatMap
      (fun stretch => items stretch.hunk) = all) :
    (method.lines expected actual).filterMap (DiffLine.entry? number) = all.zipIdx 1 := by
  -- Changes are counted from zero, stretch by stretch, and lines one more than that.
  rw [lines, entries_ofChange counted, List.filterMap_flatMap,
    List.flatMap_congr fun stretch _ => listed stretch, contiguous.flatMap_zipIdx, covers]
  exact List.map_snd_add_zipIdx_eq_zipIdx

/-- The lines with an old number are those of the expected text. -/
theorem Sound.entries_old (sound : method.Sound) (expected actual : Text) :
    (method.lines expected actual).filterMap (DiffLine.entry? DiffLine.oldNumber) =
      (Text.endedLines expected).zipIdx 1 :=
  entries_lines (fun _ => rfl) sound.changes_old (sound.contiguous_old _ _) (sound.covers_old _ _)

/-- The lines with a new number are those of the output. -/
theorem Sound.entries_new (sound : method.Sound) (expected actual : Text) :
    (method.lines expected actual).filterMap (DiffLine.entry? DiffLine.newNumber) =
      (Text.endedLines actual).zipIdx 1 :=
  entries_lines (fun _ => rfl) sound.changes_new (sound.contiguous_new _ _) (sound.covers_new _ _)

/-- Every line that is shown was found in a stretch. -/
theorem exists_of_mem_lines (member : line ∈ method.lines expected actual) :
    ∃ stretch ∈ method.stretches (Text.endedLines expected) (Text.endedLines actual),
      ∃ change ∈ method.changes stretch, line = .ofChange change := by
  -- Lines are made of changes one by one, and changes belong to stretches.
  obtain ⟨change, listed, rfl⟩ := List.mem_map.1 member
  obtain ⟨stretch, found, inside⟩ := List.mem_flatMap.1 listed
  exact ⟨stretch, found, change, inside, rfl⟩

/-- The numbers of a line go with its sign. -/
theorem Sound.numbers (sound : method.Sound) (member : line ∈ method.lines expected actual) :
    (line.oldNumber ≠ none ↔ line.sign ≠ .added) ∧
      (line.newNumber ≠ none ↔ line.sign ≠ .removed) := by
  -- A line has a number exactly where the change that it is made of has a place.
  obtain ⟨stretch, -, change, inside, rfl⟩ := exists_of_mem_lines member
  simpa [DiffLine.ofChange] using sound.signs stretch change inside

/-- Every line of a difference is a line of one of the texts. -/
theorem Sound.text_mem (sound : method.Sound) (member : line ∈ method.lines expected actual) :
    line.text ∈ Text.endedLines expected ∨ line.text ∈ Text.endedLines actual := by
  -- What is not in the old text has been added, and so it has a new number.
  obtain ⟨inOld, inNew⟩ := sound.numbers member
  by_cases added : line.sign = .added
  · obtain ⟨number, numbered⟩ := Option.ne_none_iff_exists'.1 (inNew.2 (by simp [added]))
    have listed := mem_of_number (sound.entries_new expected actual) member numbered
    exact .inr (List.mem_of_getElem? (List.mk_mem_zipIdx_iff_le_and_getElem?_sub.1 listed).2)
  · obtain ⟨number, numbered⟩ := Option.ne_none_iff_exists'.1 (inOld.2 added)
    have listed := mem_of_number (sound.entries_old expected actual) member numbered
    exact .inl (List.mem_of_getElem? (List.mk_mem_zipIdx_iff_le_and_getElem?_sub.1 listed).2)

/-- No piece of a line is empty, as no line of the texts is. -/
theorem Sound.ne_nil_of_mem (sound : method.Sound) (member : line ∈ method.lines expected actual) :
    ∀ piece ∈ line.pieces, piece.text ≠ [] := by
  obtain ⟨stretch, found, change, inside, rfl⟩ := exists_of_mem_lines member
  refine sound.solid stretch (fun text listed => ?_) change inside
  -- The lines of a stretch are lines of the texts.
  rcases List.mem_append.1 listed with removed | added
  · have line : text ∈ Text.endedLines expected := by
      rw [← sound.covers_old (Text.endedLines expected) (Text.endedLines actual)]
      exact List.mem_flatMap.2 ⟨stretch, found, removed⟩
    exact Text.ne_nil_of_mem_endedLines line
  · have line : text ∈ Text.endedLines actual := by
      rw [← sound.covers_new (Text.endedLines expected) (Text.endedLines actual)]
      exact List.mem_flatMap.2 ⟨stretch, found, added⟩
    exact Text.ne_nil_of_mem_endedLines line

/-- Whatever loses no line finds faithful differences. -/
theorem Sound.faithful (sound : method.Sound) (expected actual : Text) :
    Faithful expected actual (method.lines expected actual) where
  old := sound.entries_old expected actual
  new := sound.entries_new expected actual
  -- The numbers of a line tell its sign.
  both line member := by
    obtain ⟨inOld, inNew⟩ := sound.numbers member
    cases sign : line.sign <;> simp_all
  removed line member := by
    obtain ⟨inOld, inNew⟩ := sound.numbers member
    cases sign : line.sign <;> simp_all
  added line member := by
    obtain ⟨inOld, inNew⟩ := sound.numbers member
    cases sign : line.sign <;> simp_all
  -- Where the text of a line ends with a line end is known from its place among the lines.
  marked_old line member number numbered :=
    DiffLine.isUnterminated_iff_last (sound.ne_nil_of_mem member)
      (mem_of_number (sound.entries_old expected actual) member numbered)
  marked_new line member number numbered :=
    DiffLine.isUnterminated_iff_last (sound.ne_nil_of_mem member)
      (mem_of_number (sound.entries_new expected actual) member numbered)
  ends line member := by
    refine DiffLine.endsLine_plain (sound.ne_nil_of_mem member) ?_
    rcases sound.text_mem member with removed | added
    · exact Text.ne_nil_of_mem_endedLines removed
    · exact Text.ne_nil_of_mem_endedLines added

end Method

/-- Changed lines are shown as they are, or in pieces by the stretches of their words. -/
theorem changedLines_cases (old new : List Text) :
    changedLines old new = (old.map plainLine, new.map plainLine) ∨
    ∃ hunks : List (Hunk Text), hunks.flatMap Hunk.old = (Words.ofLines old).map Prod.snd ∧
      hunks.flatMap Hunk.new = (Words.ofLines new).map Prod.snd ∧
      changedLines old new = (Words.piecesByLine old (Words.oldRuns hunks),
        Words.piecesByLine new (Words.newRuns hunks)) := by
  have between := Hunk.flatMap_between ((Words.ofLines old).map Prod.snd)
    ((Words.ofLines new).map Prod.snd)
  unfold changedLines
  dsimp only
  -- A side without lines, few lines in common and few words in common are all shown plainly.
  split_ifs
  · exact .inl rfl
  · exact .inl rfl
  · exact .inl rfl
  · exact .inr ⟨_, between.1, between.2, rfl⟩

/-- A line without emphasis is one piece. -/
theorem map_join_plainLine (lines : List Text) :
    (lines.map plainLine).map Piece.join = lines := by
  simp [plainLine, Piece.join, Function.comp_def]

/-- Changed lines are still the same lines, whether they are shown in pieces or not. -/
theorem map_join_changedLines (old new : List Text) :
    (changedLines old new).1.map Piece.join = old ∧
      (changedLines old new).2.map Piece.join = new := by
  rcases changedLines_cases old new with whole | ⟨hunks, oldWords, newWords, cut⟩
  · rw [whole]
    exact ⟨map_join_plainLine old, map_join_plainLine new⟩
  · -- The stretches of either side reach all of its words.
    rw [cut]
    exact ⟨Words.map_join_piecesByLine (by simp [Words.reach_oldRuns, oldWords]),
      Words.map_join_piecesByLine (by simp [Words.reach_newRuns, newWords])⟩

/-- The piece of a line without emphasis is the line. -/
theorem ne_nil_of_mem_plainLine {lines : List Text} (solid : ∀ line ∈ lines, line ≠ [])
    {pieces : List Piece} (whole : pieces ∈ lines.map plainLine) :
    ∀ piece ∈ pieces, piece.text ≠ [] := by
  obtain ⟨line, listed, rfl⟩ := List.mem_map.1 whole
  intro piece member
  -- The line is its only piece.
  obtain rfl := List.mem_singleton.1 member
  exact solid line listed

/-- No piece of changed lines is empty, if no line is. -/
theorem ne_nil_of_mem_changedLines {old new : List Text} (solid : ∀ line ∈ old ++ new, line ≠ [])
    {pieces : List Piece}
    (changed : pieces ∈ (changedLines old new).1 ∨ pieces ∈ (changedLines old new).2) :
    ∀ piece ∈ pieces, piece.text ≠ [] := by
  rcases changedLines_cases old new with whole | ⟨hunks, -, -, cut⟩
  · -- Lines that are shown plainly are lines of the texts.
    rw [whole] at changed
    rcases changed with removed | added
    · exact ne_nil_of_mem_plainLine (fun line listed => solid line (by simp [listed])) removed
    · exact ne_nil_of_mem_plainLine (fun line listed => solid line (by simp [listed])) added
  · -- Pieces are made of words, of which none is empty.
    rw [cut] at changed
    rcases changed with removed | added
    · exact fun piece => Words.ne_nil_of_mem_piecesByLine removed
    · exact fun piece => Words.ne_nil_of_mem_piecesByLine added

/-- Lines that are counted on a side, from a place on, are listed there with their places. -/
theorem entries_of_place {place : Change → Option Nat} {α : Type} {start : Nat}
    {made : α × Nat → Change} {text : α → Text} {items : List α} {lines : List Text}
    (counted : ∀ item offset, place (made (item, offset)) = some (start + offset))
    (whole : ∀ item offset, Piece.join (made (item, offset)).pieces = text item)
    (same : items.map text = lines) :
    (items.zipIdx.map made).filterMap (Change.entry? place) = lines.zipIdx start := by
  have entry (item : α × Nat) :
      Change.entry? place (made item) = some (text item.1, start + item.2) := by
    rw [Change.entry?, counted item.1 item.2, Option.map_some, whole item.1 item.2]
  calc (items.zipIdx.map made).filterMap (Change.entry? place)
      = items.zipIdx.map fun item => (text item.1, start + item.2) := by
        rw [List.filterMap_map, ← List.filterMap_eq_map]
        exact List.filterMap_congr fun item _ => entry item
    _ = lines.zipIdx start := by
        -- A place is the place within the list, and as much more as the list starts behind.
        rw [← same, List.zipIdx_map, List.zipIdx_eq_map_add (i := start), List.map_map]
        rfl

/-- Lines that are not counted on a side are not listed there. -/
theorem entries_of_none {place : Change → Option Nat} {α : Type} {made : α × Nat → Change}
    (absent : ∀ item offset, place (made (item, offset)) = none) (items : List α) :
    (items.zipIdx.map made).filterMap (Change.entry? place) = [] := by
  rw [List.filterMap_map, List.filterMap_eq_nil_iff]
  -- A change without a place is no entry.
  intro item _
  rw [Function.comp_apply, Change.entry?, absent item.1 item.2, Option.map_none]

/-- The lines of a stretch with an old place are its old lines. -/
theorem entries_old_changes (stretch : Placed Text) :
    (changes stretch).filterMap (Change.entry? Change.oldIndex) =
      stretch.hunk.old.zipIdx stretch.oldStart := by
  obtain ⟨oldStart, newStart, hunk⟩ := stretch
  cases hunk with
  | keep lines =>
    -- Every line that is kept is counted on the old side.
    exact entries_of_place (fun _ _ => rfl) (fun _ _ => rfl)
      (List.map_map.symm.trans (map_join_plainLine lines))
  | change old new =>
    -- The lines that are added are not counted on the old side.
    have removed := (map_join_changedLines old new).1
    calc (changes ⟨oldStart, newStart, .change old new⟩).filterMap (Change.entry? Change.oldIndex)
        = _ ++ _ := List.filterMap_append ..
      _ = old.zipIdx oldStart ++ [] := congrArg₂ (· ++ ·)
          (entries_of_place (fun _ _ => rfl) (fun _ _ => rfl) removed)
          (entries_of_none (fun _ _ => rfl) _)
      _ = old.zipIdx oldStart := List.append_nil _

/-- The lines of a stretch with a new place are its new lines. -/
theorem entries_new_changes (stretch : Placed Text) :
    (changes stretch).filterMap (Change.entry? Change.newIndex) =
      stretch.hunk.new.zipIdx stretch.newStart := by
  obtain ⟨oldStart, newStart, hunk⟩ := stretch
  cases hunk with
  | keep lines =>
    -- Every line that is kept is counted on the new side.
    exact entries_of_place (fun _ _ => rfl) (fun _ _ => rfl)
      (List.map_map.symm.trans (map_join_plainLine lines))
  | change old new =>
    -- The lines that are removed are not counted on the new side.
    have added := (map_join_changedLines old new).2
    calc (changes ⟨oldStart, newStart, .change old new⟩).filterMap (Change.entry? Change.newIndex)
        = _ ++ _ := List.filterMap_append ..
      _ = [] ++ new.zipIdx newStart := congrArg₂ (· ++ ·)
          (entries_of_none (fun _ _ => rfl) _)
          (entries_of_place (fun _ _ => rfl) (fun _ _ => rfl) added)
      _ = new.zipIdx newStart := List.nil_append _

/-- A line that is found in a stretch is kept, removed or added there. -/
theorem cases_of_mem_changes {stretch : Placed Text} {change : Change}
    (member : change ∈ changes stretch) :
    (∃ lines line offset, stretch.hunk = .keep lines ∧ line ∈ lines ∧
      change = ⟨.both, some (stretch.oldStart + offset), some (stretch.newStart + offset),
        plainLine line⟩) ∨
    ∃ old new pieces offset, stretch.hunk = .change old new ∧
      ((pieces ∈ (changedLines old new).1 ∧
        change = ⟨.removed, some (stretch.oldStart + offset), none, pieces⟩) ∨
      (pieces ∈ (changedLines old new).2 ∧
        change = ⟨.added, none, some (stretch.newStart + offset), pieces⟩)) := by
  obtain ⟨oldStart, newStart, hunk⟩ := stretch
  cases hunk with
  | keep lines =>
    -- A line that is kept has its place behind the start in either text.
    obtain ⟨⟨line, offset⟩, counted, rfl⟩ := List.mem_map.1 member
    exact .inl ⟨lines, line, offset, rfl, List.fst_mem_of_mem_zipIdx counted, rfl⟩
  | change old new =>
    -- What is removed comes before what is added.
    rcases List.mem_append.1 member with removed | added
    · obtain ⟨⟨pieces, offset⟩, counted, rfl⟩ := List.mem_map.1 removed
      exact .inr ⟨old, new, pieces, offset, rfl,
        .inl ⟨List.fst_mem_of_mem_zipIdx counted, rfl⟩⟩
    · obtain ⟨⟨pieces, offset⟩, counted, rfl⟩ := List.mem_map.1 added
      exact .inr ⟨old, new, pieces, offset, rfl,
        .inr ⟨List.fst_mem_of_mem_zipIdx counted, rfl⟩⟩

/-- Differences that are found here lose no line. -/
theorem sound_method : method.Sound where
  covers_old old new := by
    show (Hunk.placed 0 0 _).flatMap _ = old
    rw [Hunk.flatMap_placed, (Hunk.flatMap_between old new).1]
  covers_new old new := by
    show (Hunk.placed 0 0 _).flatMap _ = new
    rw [Hunk.flatMap_placed, (Hunk.flatMap_between old new).2]
  contiguous_old old new := (Hunk.contiguous_placed 0 0 _).1
  contiguous_new old new := (Hunk.contiguous_placed 0 0 _).2
  changes_old := entries_old_changes
  changes_new := entries_new_changes
  signs stretch change member := by
    -- Kept lines have both places, and every other line has the one of its own side.
    rcases cases_of_mem_changes member with
      ⟨_, _, _, -, -, rfl⟩ | ⟨_, _, _, _, -, ⟨-, rfl⟩ | ⟨-, rfl⟩⟩ <;> simp
  solid stretch solid change member := by
    -- A kept line is one piece, and changed lines are cut into pieces that are not empty.
    rcases cases_of_mem_changes member with
      ⟨lines, line, _, kept, listed, rfl⟩ | ⟨old, new, pieces, _, changed, made⟩
    · rw [kept] at solid
      exact ne_nil_of_mem_plainLine (fun line listed => solid line (List.mem_append_left _ listed))
        (List.mem_map_of_mem listed)
    · rw [changed] at solid
      rcases made with ⟨removed, rfl⟩ | ⟨added, rfl⟩
      · exact ne_nil_of_mem_changedLines solid (.inl removed)
      · exact ne_nil_of_mem_changedLines solid (.inr added)

/--
A difference is a faithful edit script from the expected text to the output.

Without colors it is shown as the names of the two texts and its lines. Those with an old number are
the lines of the expected text and those with a new number the lines of the output, in order and
numbered from one; the sign of a line tells which numbers it has. A line is shown with the mark of a
missing line end exactly if it is a last line without one, so that what is shown of every line ends
with a line end. All of this holds for any way to find differences that loses no line.
-/
theorem styled_faithful (expected actual expectedName actualName : Text) :
    (Faithful expected actual (lines expected actual) ∧
      (styled expected actual expectedName actualName).render .plain =
        plain (lines expected actual) expectedName actualName) ∧
    ∀ method : Method, method.Sound →
      Faithful expected actual (method.lines expected actual) ∧
      (method.styled expected actual expectedName actualName).render .plain =
        plain (method.lines expected actual) expectedName actualName := by
  have faithful (method : Method) (sound : method.Sound) :
      Faithful expected actual (method.lines expected actual) ∧
      (method.styled expected actual expectedName actualName).render .plain =
        plain (method.lines expected actual) expectedName actualName :=
    ⟨sound.faithful expected actual, render_shown ..⟩
  -- The way in which differences are found here loses no line.
  have own := faithful method sound_method
  rw [lines_method, styled_method] at own
  exact ⟨own, faithful⟩

/-- A last line that has lost its line end, below one that is in both texts. -/
theorem styled_faithful_unterminated :
    let expected := "Hello\nWorld\n".toList
    let actual := "Hello\nWorld".toList
    method.Sound ∧ Faithful expected actual (method.lines expected actual) ∧
      (method.styled expected actual ['E'] ['A']).render .plain =
        "\n--- E\n+++ A\n   1    1 | Hello\n   2      - World\n        2 + World∅\n".toList := by
  intro expected actual
  obtain ⟨-, general⟩ := styled_faithful expected actual ['E'] ['A']
  -- The general part is about this way as well.
  obtain ⟨faithful, shown⟩ := general method sound_method
  exact ⟨sound_method, faithful, shown.trans (by decide +kernel)⟩

end Difference

end TaggedTests
