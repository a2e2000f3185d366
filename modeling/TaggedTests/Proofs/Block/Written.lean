import TaggedTests.Proofs.Block.Pairing

/-! A text that is written block by block is read back as those blocks. -/

namespace TaggedTests

namespace Text

/-- A part without a two-character pattern, which does not begin at its end either, is passed. -/
theorem positionsFrom_append {p q : Char} {front rest : Text} (absent : ¬ [p, q] <:+: front)
    (seam : front.getLast? = some p → rest.head? ≠ some q) (start : Nat) :
    positionsFrom [p, q] start (front ++ rest) =
      positionsFrom [p, q] (start + front.length) rest := by
  -- The pattern starts at no character of the front, so that each of them is passed in turn.
  induction front generalizing start with
  | nil => simp
  | cons c front ih =>
    -- An occurrence here would lie inside the front or, from its last character, across the seam.
    have here : [p, q].isPrefixOf (c :: (front ++ rest)) = false := by
      rw [← Bool.not_eq_true, List.isPrefixOf_iff_prefix]
      rcases front with _ | ⟨d, front⟩
      · rcases rest with _ | ⟨e, rest⟩
        · simp
        · simp only [List.nil_append, List.cons_prefix_cons]
          rintro ⟨rfl, rfl, -⟩
          exact seam rfl rfl
      · simp only [List.cons_append, List.cons_prefix_cons]
        rintro ⟨rfl, rfl, -⟩
        exact absent ⟨[], front, rfl⟩
    -- A front that has one more character ends as it did before.
    have later : front.getLast? = some p → rest.head? ≠ some q := by
      intro last
      refine seam ?_
      rw [List.getLast?_cons, last, Option.getD_some]
    have shift : start + 1 + front.length = start + (c :: front).length := by
      simp only [List.length_cons]
      omega
    simp only [List.cons_append, positionsFrom, here, Bool.false_eq_true, if_false]
    rw [ih (fun inside => absent (List.infix_cons inside)) later, shift]

/-- A text without a two-character pattern has no position of it. -/
theorem positionsFrom_eq_nil {p q : Char} {text : Text} (absent : ¬ [p, q] <:+: text)
    (start : Nat) : positionsFrom [p, q] start text = [] := by
  -- All of the text is passed, and nothing is left behind it.
  have passed := @positionsFrom_append p q text [] absent (by simp) start
  simpa [positionsFrom] using passed

/-- A part in the middle of a text lies behind the part in front of it. -/
theorem slice_middle (front middle rest : Text) :
    slice front.length (front.length + middle.length) (front ++ (middle ++ rest)) = middle := by
  simp [slice]

/-- A text that may stand between brackets: it holds no bracket, and no line end to be changed. -/
structure Plain (text : Text) : Prop where
  opening : ¬ Block.opening <:+: text
  closing : ¬ Block.closing <:+: text
  noReturn : '\r' ∉ text

instance (text : Text) : Decidable text.Plain :=
  decidable_of_iff
    (¬ Block.opening <:+: text ∧ ¬ Block.closing <:+: text ∧ '\r' ∉ text)
    ⟨fun ⟨opening, closing, noReturn⟩ => ⟨opening, closing, noReturn⟩,
      fun plain => ⟨plain.opening, plain.closing, plain.noReturn⟩⟩

end Text

namespace Block

/-- Behind a slash, a text makes an opening bracket by itself or with a brace in front. -/
theorem not_opening_infix_cons_iff {text : Text} :
    ¬ opening <:+: '/' :: text ↔ text.head? ≠ some '\x7b' ∧ ¬ opening <:+: text := by
  rw [List.infix_cons_iff, not_or, opening, List.cons_prefix_cons]
  -- The pair starts at the slash exactly when its second character comes next.
  rcases text with _ | ⟨c, rest⟩
  · simp
  · simp [List.cons_prefix_cons, @eq_comm _ c]

/-- In front of a slash, a text makes a closing bracket by itself or with a brace at its end. -/
theorem not_closing_infix_concat_iff {text : Text} :
    ¬ closing <:+: text ++ ['/'] ↔ ¬ closing <:+: text ∧ text.getLast? ≠ some '\x7d' := by
  -- The slash alone holds no pair, so that only the seam is left beside the text.
  have slash : ¬ closing <:+: ['/'] := by decide
  rw [closing, Text.pair_infix_append_iff, not_or, not_or]
  refine and_congr_right fun _ => ⟨fun free => ?_, fun last => ⟨slash, ?_⟩⟩
  · simpa using free.2
  · simpa using last

/-- A block as it is written: its content between brackets, behind its prose. -/
def write (block : Block) : Text := block.prose ++ (opening ++ (block.content ++ closing))

/-- A block that makes no brackets but its own, even where it meets a block before it. -/
structure Writable (block : Block) : Prop where
  start : ¬ opening <:+: '/' :: block.prose
  stop : ¬ closing <:+: block.prose ++ ['/']
  plain : block.content.Plain

/-- A block is writable when its prose holds no bracket and makes none at its ends. -/
theorem writable_of_free {block : Block} (noOpening : ¬ opening <:+: block.prose)
    (noClosing : ¬ closing <:+: block.prose) (head : block.prose.head? ≠ some '\x7b')
    (last : block.prose.getLast? ≠ some '\x7d') (plain : block.content.Plain) : block.Writable :=
  ⟨not_opening_infix_cons_iff.2 ⟨head, noOpening⟩, not_closing_infix_concat_iff.2 ⟨noClosing, last⟩,
    plain⟩

/-- A block that makes no brackets but its own when nothing stands in front of it. -/
structure Solid (block : Block) : Prop where
  start : ¬ opening <:+: block.prose
  stop : ¬ closing <:+: block.prose ++ ['/']
  plain : block.content.Plain

/-- A block that may meet another one before it may stand at the front as well. -/
theorem Writable.solid {block : Block} (writable : block.Writable) : block.Solid :=
  ⟨fun inside => writable.start (List.infix_cons inside), writable.stop, writable.plain⟩

/-- A block with uniform line ends in its prose. -/
def uniform (block : Block) : Block := ⟨Text.normalizeLines block.prose, block.content⟩

variable {block : Block} {blocks : List Block} {rest trail : Text}

/-- Behind its first character, a written block has no opening bracket up to its end. -/
theorem not_opening_infix_content {content : Text} (plain : content.Plain) :
    ¬ opening <:+: '\x7b' :: (content ++ closing) := by
  -- Neither the brace in front nor the closing bracket lends the content half a bracket.
  rw [List.infix_cons_iff, opening, Text.pair_infix_append_iff]
  rintro (here | inside | inside | ⟨-, brace⟩)
  · simp at here
  · exact plain.opening inside
  · revert inside
    decide
  · simp [closing] at brace

/-- The opening bracket of a written block stands behind its prose, and it has no other. -/
theorem positionsFrom_opening_write (solid : block.Solid)
    (seam : rest.head? ≠ some '\x7b') (start : Nat) :
    Text.positionsFrom opening start (block.write ++ rest) =
      (start + block.prose.length) ::
        Text.positionsFrom opening (start + block.write.length) rest := by
  -- The prose is passed up to the bracket, and then content and closing bracket.
  have shape : block.write ++ rest =
      block.prose ++ '/' :: ('\x7b' :: (block.content ++ closing) ++ rest) := by
    simp [write, opening]
  have found (place : Nat) (text : Text) :
      Text.positionsFrom opening place ('/' :: ('\x7b' :: text)) =
        place :: Text.positionsFrom opening (place + 1) ('\x7b' :: text) := by
    simp [Text.positionsFrom, opening]
  -- No bracket opens within the content, nor where the block meets what follows.
  have passed := Text.positionsFrom_append (not_opening_infix_content solid.plain)
    (fun _ => seam) (start + block.prose.length + 1)
  have whole : start + block.prose.length + 1 +
      ('\x7b' :: (block.content ++ closing)).length = start + block.write.length := by
    simp only [write, opening, closing, List.length_append, List.length_cons, List.length_nil]
    omega
  rw [shape, opening, Text.positionsFrom_append solid.start (by simp), ← opening, List.cons_append,
    found, ← List.cons_append, opening, passed, whole]

/-- Up to its closing bracket, a written block has none. -/
theorem not_closing_infix_front (solid : block.Solid) :
    ¬ closing <:+: block.prose ++ ['/'] ++ '\x7b' :: block.content := by
  -- The prose makes none with the slash behind it, and the content none with the brace before it.
  rw [closing, Text.pair_infix_append_iff, List.infix_cons_iff]
  rintro (inside | (here | inside) | ⟨slash, -⟩)
  · exact solid.stop inside
  · simp at here
  · exact solid.plain.closing inside
  · simp at slash

/-- The closing bracket of a written block stands behind its content, and it has no other. -/
theorem positionsFrom_closing_write (solid : block.Solid) (start : Nat) :
    Text.positionsFrom closing start (block.write ++ rest) =
      (start + block.prose.length + opening.length + block.content.length) ::
        Text.positionsFrom closing (start + block.write.length) rest := by
  -- All in front of the bracket is passed, and then its second character.
  have shape : block.write ++ rest =
      block.prose ++ ['/'] ++ '\x7b' :: block.content ++ '\x7d' :: (['/'] ++ rest) := by
    simp [write, opening, closing]
  have found (place : Nat) (text : Text) :
      Text.positionsFrom closing place ('\x7d' :: (['/'] ++ text)) =
        place :: Text.positionsFrom closing (place + 1) (['/'] ++ text) := by
    simp [Text.positionsFrom, closing]
  have front : start + (block.prose ++ ['/'] ++ '\x7b' :: block.content).length =
      start + block.prose.length + opening.length + block.content.length := by
    simp only [opening, List.length_append, List.length_cons, List.length_nil]
    omega
  have whole : start + block.prose.length + opening.length + block.content.length + 1 + 1 =
      start + block.write.length := by
    simp only [write, opening, closing, List.length_append, List.length_cons, List.length_nil]
    omega
  -- What is left of the block is its last character, which closes nothing by itself.
  have slash : ¬ closing <:+: ['/'] := by decide
  rw [shape, closing, Text.positionsFrom_append (not_closing_infix_front solid) (by simp),
    ← closing, found, front, closing, Text.positionsFrom_append slash (by simp),
    List.length_singleton, whole]

/-- Written blocks with text behind them make no opening bracket with a closing one before them. -/
theorem head?_writes_ne (writable : ∀ block ∈ blocks, block.Writable)
    (start : trail.head? ≠ some '\x7b') :
    (blocks.flatMap write ++ trail).head? ≠ some '\x7b' := by
  rcases blocks with _ | ⟨block, blocks⟩
  · exact start
  · -- The text begins with the prose or, if that is empty, with the slash of a bracket.
    have own := (writable block (List.mem_cons_self ..)).start
    have front := (not_opening_infix_cons_iff.1 own).1
    rw [List.flatMap_cons, write]
    cases prose : block.prose with
    | nil => simp [opening]
    | cons c rest => simpa [prose] using front

/-- Written blocks have one opening bracket each. -/
theorem length_opens_writes (writable : ∀ block ∈ blocks, block.Writable)
    (start : ¬ opening <:+: '/' :: trail) (place : Nat) :
    (Text.positionsFrom opening place (blocks.flatMap write ++ trail)).length =
      blocks.length := by
  obtain ⟨head, absent⟩ := not_opening_infix_cons_iff.1 start
  -- Each block adds its own bracket, and the text behind the last one has none.
  induction blocks generalizing place with
  | nil =>
    rw [List.flatMap_nil, List.nil_append, opening, Text.positionsFrom_eq_nil absent]
    rfl
  | cons block blocks ih =>
    obtain ⟨own, rest⟩ := List.forall_mem_cons.1 writable
    rw [List.flatMap_cons, List.append_assoc,
      positionsFrom_opening_write own.solid (head?_writes_ne rest head), List.length_cons, ih rest,
      List.length_cons]

/-- Written blocks have one closing bracket each. -/
theorem length_closes_writes (writable : ∀ block ∈ blocks, block.Writable)
    (free : ¬ closing <:+: trail) (place : Nat) :
    (Text.positionsFrom closing place (blocks.flatMap write ++ trail)).length =
      blocks.length := by
  -- As for opening brackets, but no seam can make a closing one.
  induction blocks generalizing place with
  | nil =>
    rw [List.flatMap_nil, List.nil_append, closing, Text.positionsFrom_eq_nil free]
    rfl
  | cons block blocks ih =>
    obtain ⟨own, rest⟩ := List.forall_mem_cons.1 writable
    rw [List.flatMap_cons, List.append_assoc, positionsFrom_closing_write own.solid,
      List.length_cons, ih rest, List.length_cons]

/-- A written block behind a front is read back, and then what follows it. -/
theorem pair_write_append (solid : block.Solid) (seam : rest.head? ≠ some '\x7b') (front : Text) :
    pair (front ++ (block.write ++ rest)) front.length
        (Text.positionsFrom opening front.length (block.write ++ rest))
        (Text.positionsFrom closing front.length (block.write ++ rest)) =
      block :: pair (front ++ block.write ++ rest) (front ++ block.write).length
        (Text.positionsFrom opening (front ++ block.write).length rest)
        (Text.positionsFrom closing (front ++ block.write).length rest) := by
  -- Prose and content are the parts of the text between the places of its brackets.
  have prose := Text.slice_middle front block.prose
    (opening ++ (block.content ++ closing) ++ rest)
  have content := Text.slice_middle (front ++ (block.prose ++ opening)) block.content
    (closing ++ rest)
  simp only [List.length_append, List.append_assoc] at prose content
  -- What follows the block starts where the block ends.
  have behind : front.length + block.prose.length + opening.length + block.content.length +
      closing.length = front.length + block.write.length := by
    simp only [write, List.length_append]
    omega
  rw [positionsFrom_opening_write solid seam, positionsFrom_closing_write solid, pair, behind,
    List.length_append, List.append_assoc]
  simp only [write, List.append_assoc, ← Nat.add_assoc] at prose content ⊢
  rw [prose, content]

/-- Written blocks behind a front are read back from the end of that front on. -/
theorem pair_writes (writable : ∀ block ∈ blocks, block.Writable)
    (start : ¬ opening <:+: '/' :: trail) (front : Text) :
    let text := blocks.flatMap write ++ trail
    pair (front ++ text) front.length (Text.positionsFrom opening front.length text)
      (Text.positionsFrom closing front.length text) = blocks := by
  obtain ⟨head, absent⟩ := not_opening_infix_cons_iff.1 start
  -- The first block joins the front for the blocks that follow it.
  induction blocks generalizing front with
  | nil => simp [opening, Text.positionsFrom_eq_nil absent, pair]
  | cons block blocks ih =>
    obtain ⟨own, rest⟩ := List.forall_mem_cons.1 writable
    have first := pair_write_append own.solid (head?_writes_ne rest head) front
    simp only [List.flatMap_cons, List.append_assoc]
    rw [first]
    exact congrArg _ (ih rest (front ++ block.write))

/-- Written blocks behind a block at the front of a text are read back with it. -/
theorem ofText_write_append (solid : block.Solid) (writable : ∀ block ∈ blocks, block.Writable)
    (start : ¬ opening <:+: '/' :: trail) :
    ofText (block.write ++ (blocks.flatMap write ++ trail)) = block :: blocks := by
  -- No marker arises where the first block meets the next one, so it is paired by itself.
  have seam := head?_writes_ne writable (not_opening_infix_cons_iff.1 start).1
  exact (pair_write_append solid seam []).trans
    (congrArg _ (pair_writes writable start ([] ++ block.write)))

/-- Written blocks behind a block at the front of a text have balanced brackets with it. -/
theorem balanced_write_append (solid : block.Solid) (writable : ∀ block ∈ blocks, block.Writable)
    (start : ¬ opening <:+: '/' :: trail) (free : ¬ closing <:+: trail) :
    Balanced (block.write ++ (blocks.flatMap write ++ trail)) := by
  -- There is one bracket of either kind for each block.
  have opened := positionsFrom_opening_write solid
    (head?_writes_ne writable (not_opening_infix_cons_iff.1 start).1) 0
  have closed := @positionsFrom_closing_write block (blocks.flatMap write ++ trail) solid 0
  rw [← Text.positions, ← opens] at opened
  rw [← Text.positions, ← closes] at closed
  refine ⟨?_, fun none => ?_⟩
  · rw [opened, closed, List.length_cons, List.length_cons, length_opens_writes writable start,
      length_closes_writes writable free]
  · simp [opened] at none

/-- Written blocks have balanced brackets if there are any. -/
theorem balanced_writes (writable : ∀ block ∈ blocks, block.Writable) (some : blocks ≠ [])
    (start : ¬ opening <:+: '/' :: trail) (free : ¬ closing <:+: trail) :
    Balanced (blocks.flatMap write ++ trail) := by
  obtain ⟨block, rest, rfl⟩ := List.exists_cons_of_ne_nil some
  -- There is a first block, and with it at the front the brackets of all of them are balanced.
  obtain ⟨own, others⟩ := List.forall_mem_cons.1 writable
  rw [List.flatMap_cons, List.append_assoc]
  exact balanced_write_append own.solid others start free

/-- Uniform line ends leave a block writable. -/
theorem Writable.uniform (writable : block.Writable) : block.uniform.Writable := by
  -- Neither bracket holds a character of a line end.
  have back := @Text.normalizeLines_append block.prose ['/'] (by simp)
  refine ⟨?_, ?_, writable.plain⟩
  · -- The slash in front of the prose is kept as it is.
    rw [Block.uniform, ← Text.normalizeLines_cons (by decide),
      Text.infix_normalizeLines_iff (by decide) (by decide) (by decide)]
    exact writable.start
  · -- The slash behind the prose joins no line end.
    rw [Text.normalizeLines_eq_self (by decide : '\r' ∉ ['/'])] at back
    rw [Block.uniform, ← back, Text.infix_normalizeLines_iff (by decide) (by decide) (by decide)]
    exact writable.stop

/-- Uniform line ends in a written text are uniform line ends in the prose of its blocks. -/
theorem normalizeLines_writes (writable : ∀ block ∈ blocks, block.Writable) :
    Text.normalizeLines (blocks.flatMap write ++ trail) =
      (blocks.map uniform).flatMap write ++ Text.normalizeLines trail := by
  -- A bracket follows the prose, and the content has no line end that would be changed.
  induction blocks with
  | nil => rfl
  | cons block blocks ih =>
    obtain ⟨own, others⟩ := List.forall_mem_cons.1 writable
    have front : Text.normalizeLines (opening ++ block.content) = opening ++ block.content :=
      Text.normalizeLines_eq_self (by simp [opening, own.plain.noReturn])
    have behind (rest : Text) :
        Text.normalizeLines (closing ++ rest) = closing ++ Text.normalizeLines rest := by
      simp [closing, Text.normalizeLines]
    -- Line ends are changed part by part, cut at the brackets.
    have shape (rest : Text) : block.write ++ rest =
        block.prose ++ ((opening ++ block.content) ++ (closing ++ rest)) := by
      simp [write]
    rw [List.flatMap_cons, List.append_assoc, shape, Text.normalizeLines_append (by simp [opening]),
      Text.normalizeLines_append (by simp [closing]), front, behind, ih others]
    simp [write, uniform]

/-- Written blocks are read back with uniform line ends in their prose. -/
theorem ranked_writes (writable : ∀ block ∈ blocks, block.Writable) (some : blocks ≠ [])
    (start : ¬ opening <:+: '/' :: trail) (free : ¬ closing <:+: trail) :
    ranked (Text.normalizeLines (blocks.flatMap write ++ trail)) = blocks.map uniform := by
  -- Uniform line ends leave written blocks, which are read back one by one.
  have balanced := (balanced_writes writable some start free).normalizeLines
  have uniformed : ∀ block ∈ blocks.map uniform, block.Writable := by
    intro block member
    obtain ⟨former, inside, rfl⟩ := List.mem_map.1 member
    exact (writable former inside).uniform
  have begun : ¬ opening <:+: '/' :: Text.normalizeLines trail := by
    rwa [← Text.normalizeLines_cons (by decide),
      Text.infix_normalizeLines_iff (by decide) (by decide) (by decide)]
  rw [← ofText_eq_ranked balanced, normalizeLines_writes writable]
  exact pair_writes uniformed begun []

end Block

end TaggedTests
