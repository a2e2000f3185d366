import TaggedTests.Build
import TaggedTests.Proofs.Suite.Stripping
import TaggedTests.Proofs.Text.Words

/-!
Sanitizers that are dropped from the flags, and what the compiler is given of the others.

Flags are dropped as white space divides them, but the compiler is given the words that a shell
reads. The two agree on flags if they agree on each word, and can differ where white space is quoted
or escaped, where a quoted word asks for sanitizers, and behind a comment.
-/

namespace TaggedTests

namespace Suite

variable {suite : Suite} {flags front rest : Text} {words : List ShellWord} {c : Char}

/-- The flags that are left when sanitizers are dropped. -/
def keptFlags (flags : Text) : Text :=
  [' '].intercalate ((Text.words flags).filter (!asksForSanitizers ·))

/-- The words of the flags that are left are those that ask for no sanitizers. -/
theorem words_keptFlags (flags : Text) :
    Text.words (keptFlags flags) = (Text.words flags).filter (!asksForSanitizers ·) :=
  Text.words_intercalate fun _ member => Text.solid_of_mem_words (List.mem_of_mem_filter member)

/-- Without sanitizers a suite has flags if it had some, and then those that are left. -/
theorem flags_stripSanitizers_eq_map (suite : Suite) :
    suite.stripSanitizers.flags = suite.flags.map keptFlags := by
  -- Flags that are there give way to one block, which holds what is left.
  cases given : suite.flags with
  | none =>
    have same : suite.stripSanitizers.globals = suite.globals := by
      rw [globals_stripSanitizers, given, Option.elim_none]
    rw [flags, same, ← flags, given, Option.map_none]
  | some flags =>
    -- The file has the new block for its flags now.
    let feature := suite.registry.featureOf .flags [keptFlags flags]
    have changed : suite.stripSanitizers.globals = suite.globals.replace feature := by
      rw [globals_stripSanitizers, given, Option.elim_some]
      rfl
    have found : suite.stripSanitizers.globals.get? .flags = some feature := by
      rw [changed]
      exact suite.globals.get?_replace_self feature
    rw [Suite.flags, Features.merged?, found, Option.map_some, Option.map_some]
    exact congrArg some (suite.registry.merged_featureOf ..)

/-- Without sanitizers a suite has the flags that are left. -/
theorem flags_stripSanitizers (suite : Suite) :
    suite.stripSanitizers.flags.getD [] = keptFlags (suite.flags.getD []) := by
  rw [flags_stripSanitizers_eq_map]
  cases suite.flags <;> rfl

/-- A word that names sanitizers begins with what asks for them. -/
theorem asksForSanitizers_of_after? {word names : Text}
    (named : Text.after? sanitizeFlag word = some names) : asksForSanitizers word = true :=
  List.isPrefixOf_iff_prefix.2 ⟨names, (Text.after?_eq_some_iff.1 named).symm⟩

/-- Without sanitizers a suite asks for none. -/
theorem sanitizers_stripSanitizers (suite : Suite) : suite.stripSanitizers.sanitizers = [] := by
  rw [sanitizers, flags_stripSanitizers, words_keptFlags, List.flatMap_eq_nil_iff]
  intro word member
  -- A word that names sanitizers is not among those that are kept.
  cases named : Text.after? sanitizeFlag word with
  | none => rfl
  | some names => simp [asksForSanitizers_of_after? named] at member

/-- Nothing is left of flags in which every word asks for sanitizers. -/
theorem keptFlags_eq_nil_iff :
    keptFlags flags = [] ↔ (Text.words flags).filter (!asksForSanitizers ·) = [] := by
  -- An empty text has no words, and no words are joined to an empty text.
  constructor
  · intro none
    rw [← words_keptFlags, none]
    rfl
  · intro none
    rw [keptFlags, none, List.intercalate_nil]

/-- What is left of flags on both sides of white space is joined by a blank. -/
theorem keptFlags_append_cons (blank : Text.isBlank c = true) :
    keptFlags (front ++ c :: rest) =
      if keptFlags front = [] then keptFlags rest
      else if keptFlags rest = [] then keptFlags front
      else keptFlags front ++ ' ' :: keptFlags rest := by
  -- The words in front and those behind are filtered on their own, and either may come to nothing.
  have divided : keptFlags (front ++ c :: rest) =
      [' '].intercalate ((Text.words front).filter (!asksForSanitizers ·) ++
        (Text.words rest).filter (!asksForSanitizers ·)) := by
    rw [keptFlags, Text.words_append_cons blank, List.filter_append]
  simp only [divided, keptFlags_eq_nil_iff]
  split
  -- Nothing in front is kept, nothing behind, or a blank is left between both.
  · next none => rw [none, List.nil_append, keptFlags]
  · next some =>
    split
    · next none => rw [none, List.append_nil, keptFlags]
    · next more =>
      rw [Text.intercalate_append some more, List.append_assoc]
      rfl

/-- Dropping sanitizers drops a word or leaves it as it is, by what a shell reads of it. -/
def KeptAsRead (word : ShellWord) : Prop :=
  keptFlags word.written = if asksForSanitizers word.read then [] else word.written

instance : DecidablePred KeptAsRead := fun _ => inferInstanceAs (Decidable (_ = _))

/-- Flags in which each word is dropped or left as it is are divided into the words that are
left. -/
theorem divided_keptFlags (divided : flags.Divided words)
    (each : ∀ word ∈ words, KeptAsRead word) :
    (keptFlags flags).Divided (words.filter fun word => !asksForSanitizers word.read) := by
  -- The induction is on how the flags are divided; what is left of a separator is a blank.
  induction divided with
  | nil => exact .nil
  | @gap c rest words ends divided ih =>
    -- A separator in front leaves nothing of its own.
    have front : keptFlags [] = [] := rfl
    have blank := WordState.isBlank_of_separates ends
    rw [← List.nil_append (c :: rest), keptFlags_append_cons blank, if_pos front]
    exact ih each
  | last word whole =>
    rw [each word List.mem_cons_self]
    -- The last word is dropped or kept as a whole.
    cases asks : asksForSanitizers word.read with
    | true => simpa [asks] using Text.Divided.nil
    | false => simpa [asks] using Text.Divided.last word whole
  | @word word c rest words whole ends divided ih =>
    obtain ⟨own, others⟩ := List.forall_mem_cons.1 each
    have behind := ih others
    rw [keptFlags_append_cons (WordState.isBlank_of_separates ends), own]
    cases asks : asksForSanitizers word.read with
    | true => simpa [asks] using behind
    | false =>
      -- The word stays, and a blank follows it if something is left behind it.
      have some : word.written ≠ [] := fun empty => by
        rw [empty] at whole
        cases whole
      simp only [Bool.false_eq_true, if_false, if_neg some]
      rw [List.filter_cons_of_pos (by simp [asks])]
      split
      · next none =>
        rw [behind.eq_nil none]
        exact .last word whole
      · exact .word word whole (by decide) behind

/-- Flags can be split when a shell reads words in them. -/
theorem splitFlags_eq_ok_iff {listed : List Text} :
    CompileCommand.splitFlags flags = .ok listed ↔ Text.shellWords? flags = some listed := by
  unfold CompileCommand.splitFlags
  cases Text.shellWords? flags <;> simp

/--
Dropping sanitizers drops what asks for them from the words of the flags, and from what the compiler
is given if every word is dropped or left as it is.

In any case the words between white space are the former ones but for those that ask for sanitizers,
in order, and none is asked for any more. Flags without comments that can be split are divided into
the words that the compiler is given, as they are written. If, by what it is read as, each of these
is dropped or left as it is, the flags can be split again, and the compiler is given the same as
before but for what asks for sanitizers.
-/
theorem splitFlags_stripSanitizers (suite : Suite) :
    let flags := suite.flags.getD []
    let kept := suite.stripSanitizers.flags.getD []
    Text.words kept = (Text.words flags).filter (!asksForSanitizers ·) ∧
    suite.stripSanitizers.sanitizers = [] ∧
    ∀ listed, CompileCommand.splitFlags flags = .ok listed →
      WordState.outside.commentFree flags = true →
      (∃ words, Text.Divided flags words) ∧ ∀ words, Text.Divided flags words →
        words.map ShellWord.read = listed ∧ ((∀ word ∈ words, KeptAsRead word) →
          CompileCommand.splitFlags kept = .ok (listed.filter (!asksForSanitizers ·))) := by
  intro flags kept
  have left : kept = keptFlags flags := flags_stripSanitizers suite
  refine ⟨left ▸ words_keptFlags flags, sanitizers_stripSanitizers suite,
    fun listed split free => ?_⟩
  -- Any division of the flags gives the words that were read, and one of what is left.
  have read := splitFlags_eq_ok_iff.1 split
  refine ⟨(Text.exists_divided read free).imp fun _ => And.left, fun words divided => ?_⟩
  obtain rfl : words.map ShellWord.read = listed :=
    Option.some_inj.1 (divided.shellWords?.symm.trans read)
  refine ⟨rfl, fun each => splitFlags_eq_ok_iff.2 ?_⟩
  -- What is left is divided into the kept words, which read as they did.
  rw [left, (divided_keptFlags divided each).shellWords?, List.filter_map]
  rfl

/-- Flags with a quoted blank and a sanitizer, a tab and two blanks between the words. -/
theorem splitFlags_stripSanitizers_quoted :
    let flags : Text := "-O2".toList ++ '\t' :: ("-D".toList ++ ' ' :: ("'NAME=\"a b\"'".toList ++
      ' ' :: ' ' :: ("-fsanitize=leak".toList ++ ' ' :: "-Wall".toList)))
    let suite : Suite := ofBlocks .builtin [⟨"FLAGS".toList, flags⟩]
    suite.flags = some flags ∧ CompileCommand.splitFlags (suite.stripSanitizers.flags.getD []) =
      .ok (["-O2", "-D", "NAME=\"a b\"", "-Wall"].map String.toList) := by
  intro flags suite
  have given : suite.flags.getD [] = flags := by decide +kernel
  -- The flags are cut at a tab and at blanks, of which two stand in a row.
  have divided : Text.Divided flags _ :=
    .word ⟨_, "-O2".toList⟩ (by decide +kernel) rfl <|
    .word ⟨_, "-D".toList⟩ (by decide +kernel) rfl <|
    .word ⟨_, "NAME=\"a b\"".toList⟩ (by decide +kernel) rfl <| .gap rfl <|
    .word ⟨_, "-fsanitize=leak".toList⟩ (by decide +kernel) rfl <|
    .last ⟨_, "-Wall".toList⟩ (by decide +kernel)
  rw [← given] at divided
  obtain ⟨-, -, agree⟩ := splitFlags_stripSanitizers suite
  obtain ⟨-, each⟩ := agree _ (splitFlags_eq_ok_iff.2 divided.shellWords?) (by decide +kernel)
  -- Every word is kept as it is read, quotes included.
  have kept := (each _ divided).2 (by decide +kernel)
  exact ⟨by decide +kernel, kept.trans (by decide +kernel)⟩

/--
Flags are not always split as before but for what asks for sanitizers.

A quoted word that asks for sanitizers stays, and two quoted blanks become one. Other flags cannot
be split any more, because a part of a word that looks as if it asked for sanitizers is dropped with
the quote at its end. Of others again more is lost, because a comment no longer ends with its line.
-/
theorem splitFlags_stripSanitizers_differs :
    let suite (flags : String) : Suite := ofBlocks .builtin [⟨"FLAGS".toList, flags.toList⟩]
    let split (suite : Suite) := CompileCommand.splitFlags (suite.flags.getD [])
    let halved := suite "-O2 -D'x -fsanitize=address'"
    let commented := suite "-O2 # -fsanitize=address\n-Wall"
    (∃ quoted, Suite.read .builtin {} ("FLAGS /\x7b-O2 -fsanitize=leak '-fsanitize=address' " ++
        "-DNAME='a  b'\x7d/ INPUT /\x7b1\x7d/ OUTPUT /\x7b1\x7d/").toList = .ok quoted ∧
      split quoted = .ok (["-O2", "-fsanitize=leak", "-fsanitize=address", "-DNAME=a  b"].map
        String.toList) ∧
      split quoted.stripSanitizers =
        .ok (["-O2", "-fsanitize=address", "-DNAME=a b"].map String.toList)) ∧
    split halved = .ok (["-O2", "-Dx -fsanitize=address"].map String.toList) ∧
    split halved.stripSanitizers = .error (.malformedFlags "-O2 -D'x".toList) ∧
    split commented = .ok (["-O2", "-Wall"].map String.toList) ∧
    split commented.stripSanitizers = .ok ["-O2".toList] := by
  -- Each suite is evaluated before and after its sanitizers are dropped.
  refine ⟨⟨_, read_of_balanced rfl ⟨?_, ?_⟩, ?_, ?_⟩, ?_, ?_, ?_, ?_⟩ <;> decide +kernel

end Suite

end TaggedTests
