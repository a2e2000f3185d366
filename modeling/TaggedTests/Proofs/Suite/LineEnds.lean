import TaggedTests.Proofs.Suite.Sections

/-! How the lines of a test file end makes no difference to what is read. -/

namespace TaggedTests

namespace Text

variable {text other : Text}

/-- The second text is the first one with some of its newlines written as `\r\n`. -/
inductive SameLines : Text → Text → Prop
  | nil : SameLines [] []
  | kept (c : Char) {text other : Text} (same : SameLines text other) :
    SameLines (c :: text) (c :: other)
  | both {text other : Text} (same : SameLines text other) :
    SameLines ('\n' :: text) ('\r' :: '\n' :: other)

/-- The text with each newline written as a lone carriage return. -/
def withReturns (text : Text) : Text := text.map fun c => if c = '\n' then '\r' else c

/-- Line ends are made uniform by writing each `\r\n` as a newline, and then each carriage return
that is left. -/
theorem normalizeLines_eq_replace (text : Text) :
    normalizeLines text = replace ['\r'] ['\n'] (replace ['\r', '\n'] ['\n'] text) := by
  have changed (rest : Text) :
      replace ['\r'] ['\n'] ('\r' :: rest) = '\n' :: replace ['\r'] ['\n'] rest :=
    replace_append (by simp) rest
  -- A newline that was put in place of both characters is kept.
  have kept {c : Char} (plain : c ≠ '\r') (rest : Text) :
      replace ['\r'] ['\n'] (c :: rest) = c :: replace ['\r'] ['\n'] rest :=
    replace_cons (by simp) (by simpa using plain.symm)
  fun_induction normalizeLines text with
  | case1 => rw [replace_nil (by simp), replace_nil (by simp)]
  | case2 rest ih =>
    have front : replace ['\r', '\n'] ['\n'] ('\r' :: '\n' :: rest) =
        '\n' :: replace ['\r', '\n'] ['\n'] rest := replace_append (by simp) rest
    rw [front, kept (by decide), ih]
  | case3 c rest plain ih =>
    -- No pair starts here, so only a lone carriage return changes in the second pass.
    have absent : ¬ ['\r', '\n'] <+: c :: rest := by
      rintro ⟨behind, whole⟩
      obtain ⟨returned, newline⟩ := List.cons.inj whole
      exact plain behind returned.symm newline.symm
    rw [replace_cons (by simp) absent, ih]
    split
    · next returned =>
      rw [returned, changed]
    · next other => rw [kept other]

/-- Newlines that are written in two ways are the same newlines once they are made uniform. -/
theorem SameLines.normalizeLines_eq (same : SameLines text other) (clean : '\r' ∉ text) :
    normalizeLines other = text := by
  -- Newlines that were kept are no carriage returns, and those written as pairs are put together.
  induction same with
  | nil => rfl
  | kept c same ih =>
    rw [List.mem_cons, not_or] at clean
    rw [normalizeLines_cons (Ne.symm clean.1), ih clean.2]
  | both same ih =>
    rw [normalizeLines, ih (mt (List.mem_cons_of_mem _) clean)]

/-- Without newlines every carriage return ends a line of its own. -/
theorem normalizeLines_eq_map (noNewline : '\n' ∉ text) :
    normalizeLines text = text.map fun c => if c = '\r' then '\n' else c := by
  -- Without a newline every return stands alone.
  fun_induction normalizeLines text with
  | case1 => rfl
  | case2 => simp at noNewline
  | case3 c rest _ ih => rw [List.map_cons, ih (mt (List.mem_cons_of_mem _) noNewline)]

/-- Carriage returns that were written for all newlines are these newlines again. -/
theorem normalizeLines_withReturns (clean : '\r' ∉ text) :
    normalizeLines (withReturns text) = text := by
  have noNewline : '\n' ∉ withReturns text := by
    rw [withReturns, List.mem_map]
    rintro ⟨c, -, written⟩
    split at written
    · simp at written
    · next other => exact other written
  -- With returns only, each of them becomes a newline.
  rw [normalizeLines_eq_map noNewline, withReturns, List.map_map]
  -- No other character was a carriage return before.
  have each : ∀ c ∈ text, ((fun c => if c = '\r' then '\n' else c) ∘
      fun c => if c = '\n' then '\r' else c) c = id c := by
    intro c member
    have other : c ≠ '\r' := fun returned => clean (returned ▸ member)
    by_cases newline : c = '\n'
    · simp [newline]
    · simp [newline, other]
  rw [List.map_congr_left each, List.map_id]

/-- Line ends that are uniform stay so. -/
theorem normalizeLines_normalizeLines (text : Text) :
    normalizeLines (normalizeLines text) = normalizeLines text :=
  normalizeLines_eq_self (return_not_mem_normalizeLines text)

end Text

namespace Suite

variable {registry : Registry} {options : ReadOptions} {raw : Text} {suite : Suite}

/-- What is read depends only on the text with uniform line ends. -/
theorem read_congr {other : Text} (same : Text.normalizeLines other = Text.normalizeLines raw) :
    read registry options other = read registry options raw := by
  simp only [read, same]

/-- No block that was read has a carriage return. -/
theorem noReturn_of_read (read : Suite.read registry options raw = .ok suite) :
    suite.Each ('\r' ∉ ·) := by
  -- In both formats the content of a block is a part of the text with uniform line ends.
  have clean := Text.return_not_mem_normalizeLines raw
  rcases read_cases read with ⟨-, -, rfl⟩ | ⟨-, -, legacy⟩
  · exact each_ofBlocks registry fun block member =>
      Block.not_mem_content_of_mem_ranked member clean
  · have provenance := provenance_readLegacy legacy
    obtain ⟨tests, -, rfl⟩ := readLegacy_eq_ok_iff.1 legacy
    exact ⟨Features.each_empty, fun test member => (provenance test member).2.mono
      fun content inside returned => clean (inside.subset returned)⟩

/--
How lines end makes no difference to what is read, in either format and whether or not tests have to
be filled.

A text without carriage returns gives the same suite or the same error when any of its newlines are
written as `\r\n`, or when all of them are written as lone carriage returns. This is so because line
ends are made uniform first: each `\r\n` becomes a newline, and so does each other carriage return.
That leaves no carriage return and changes nothing when it is done again, and so no block that is
read has one.
-/
theorem read_ignores_line_ends (registry : Registry) (options : ReadOptions) :
    (∀ text other : Text, '\r' ∉ text →
      Text.SameLines text other ∨ other = Text.withReturns text →
      read registry options other = read registry options text) ∧
    (∀ raw : Text,
      Text.normalizeLines raw =
        Text.replace ['\r'] ['\n'] (Text.replace ['\r', '\n'] ['\n'] raw) ∧
      Text.normalizeLines (Text.normalizeLines raw) = Text.normalizeLines raw ∧
      '\r' ∉ Text.normalizeLines raw) ∧
    ∀ raw suite, read registry options raw = .ok suite → suite.Each ('\r' ∉ ·) := by
  refine ⟨fun text other clean written => read_congr ?_, fun raw => ?_,
    fun raw suite => noReturn_of_read⟩
  · -- Both texts are made uniform before anything is read of them.
    rw [Text.normalizeLines_eq_self clean]
    rcases written with same | rfl
    · exact same.normalizeLines_eq clean
    · exact Text.normalizeLines_withReturns clean
  · exact ⟨Text.normalizeLines_eq_replace raw, Text.normalizeLines_normalizeLines raw,
      Text.return_not_mem_normalizeLines raw⟩

/-- A block with two newlines, one of which is written as `\r\n`, or both as carriage returns. -/
theorem read_ignores_line_ends_mixed :
    let text : Text := ['/', '\x7b', 'a', '\n', '\n', '\x7d', '/']
    let mixed : Text := ['/', '\x7b', 'a', '\n', '\r', '\n', '\x7d', '/']
    let returns : Text := ['/', '\x7b', 'a', '\r', '\r', '\x7d', '/']
    '\r' ∉ text ∧ Text.SameLines text mixed ∧ returns = Text.withReturns text ∧
      read .builtin {} mixed = read .builtin {} text ∧
      read .builtin {} returns = read .builtin {} text ∧
      ∃ suite, read .builtin {} mixed = .ok suite ∧ suite.description = ['a', '\n', '\n'] ∧
        suite.Each ('\r' ∉ ·) := by
  intro text mixed returns
  obtain ⟨alike, -, free⟩ := read_ignores_line_ends .builtin {}
  have clean : '\r' ∉ text := by decide
  -- The first newline is kept, and the second one is written as a return and a newline.
  have same : Text.SameLines text mixed :=
    .kept _ (.kept _ (.kept _ (.kept _ (.both (.kept _ (.kept _ .nil))))))
  have written : returns = Text.withReturns text := by decide
  have balanced : Block.Balanced mixed := ⟨by decide +kernel, by decide +kernel⟩
  -- The brackets are balanced, so that blocks are read.
  have blocks : read .builtin {} mixed =
      .ok (ofBlocks .builtin (Block.ranked (Text.normalizeLines mixed))) :=
    read_of_balanced rfl balanced
  exact ⟨clean, same, written, alike text mixed clean (Or.inl same),
    alike text returns clean (Or.inr written), _, blocks, by decide +kernel, free _ _ blocks⟩

end Suite

end TaggedTests
