import TaggedTests.Proofs.Text.Pieces
import TaggedTests.Text.Blank
import TaggedTests.Text.ShellWords

/-! Words between white space, and where they are the words that a shell reads. -/

namespace TaggedTests

/-- What separates words for a shell is white space. -/
theorem WordState.isBlank_of_separates {c : Char} (separates : separates c = true) :
    Text.isBlank c = true := by
  simp only [WordState.separates, Bool.or_eq_true, decide_eq_true_eq] at separates
  rcases separates with (rfl | rfl) | rfl <;> decide

namespace Text

variable {text front rest word : Text} {c : Char}

/-- White space divides the words in front of it from those behind it. -/
theorem words_append_cons (blank : isBlank c = true) :
    words (front ++ c :: rest) = words front ++ words rest :=
  pieces_append_cons blank

/-- No word is empty, and none holds white space. -/
theorem solid_of_mem_words (member : word ∈ words text) :
    word ≠ [] ∧ ∀ c ∈ word, isBlank c = false :=
  solid_of_mem_pieces member

/-- Parts are joined as those in front and those behind, if there are some of each. -/
theorem intercalate_append {separator : Text} {first second : List Text} (some : first ≠ [])
    (more : second ≠ []) : separator.intercalate (first ++ second) =
      separator.intercalate first ++ separator ++ separator.intercalate second := by
  induction first with
  | nil => contradiction
  | cons part first ih =>
    -- With one part left, the separator behind it is the one between the two lists.
    cases first with
    | nil =>
      rw [List.singleton_append, List.intercalate_cons_of_ne_nil more, List.intercalate_singleton]
    | cons next first =>
      rw [List.cons_append, List.intercalate_cons_of_ne_nil (by simp), ih (List.cons_ne_nil _ _),
        List.intercalate_cons_cons]
      simp

/-- Words that are joined by blanks are read again. -/
theorem words_intercalate {parts : List Text}
    (solid : ∀ part ∈ parts, part ≠ [] ∧ ∀ c ∈ part, isBlank c = false) :
    words ([' '].intercalate parts) = parts :=
  pieces_intercalate_of_solid (by decide) solid

end Text

/-- A word as it is written, and as a shell reads it. -/
structure ShellWord where
  written : Text
  read : Text

namespace WordState

variable {state next : WordState} {raw text : Text} {listed : List Text} {c : Char}

/-- Where a reader stands behind a text in which it completes no word. -/
def silently? (state : WordState) : Text → Option WordState
  | [] => some state
  | c :: rest =>
    match state.step c with
    | (next, none) => next.silently? rest
    | (_, some _) => none

/-- Does a reader come to no comment in a text? -/
def commentFree (state : WordState) : Text → Bool
  | [] => true
  | c :: rest => (state.step c).1 ≠ comment && (state.step c).1.commentFree rest

/-- Behind a text in which it completes no word, a reader goes on from where it stands. -/
theorem words?_append (silent : state.silently? raw = some next) (rest : Text) :
    state.words? (raw ++ rest) = next.words? rest := by
  -- A character that completes no word only moves the reader.
  induction raw generalizing state with
  | nil =>
    cases silent
    rfl
  | cons c raw ih =>
    rcases taken : state.step c with ⟨further, _ | word⟩
    · rw [silently?, taken] at silent
      simp [words?, taken, ih silent]
    · simp [silently?, taken] at silent

/-- One more character in which no word is completed. -/
theorem silently?_append_singleton (silent : state.silently? raw = some next)
    (taken : (next.step c).2 = none) :
    state.silently? (raw ++ [c]) = some (next.step c).1 := by
  induction raw generalizing state with
  | nil =>
    obtain rfl : state = next := Option.some_inj.1 silent
    -- One step without a word is taken before the others, which go on from its state.
    rcases step : state.step c with ⟨further, _ | word⟩
    · simp [silently?, step]
    · simp [step] at taken
  | cons d raw ih =>
    rcases step : state.step d with ⟨further, _ | word⟩
    · rw [silently?, step] at silent
      simpa [silently?, step] using ih silent
    · simp [silently?, step] at silent

/-- A reader that is in no comment passes over a separator between words, ends a word at one, or
takes a character of a word. -/
theorem step_cases (state : WordState) (c : Char) :
    state = comment ∨ (state = outside ∧ separates c = true) ∨
      (∃ read, state = bare read ∧ separates c = true) ∨
        ((state.step c).2 = none ∧ (state.step c).1 ≠ outside) := by
  cases state <;> cases ends : separates c <;>
    simp [step, ends, inWord, inDoubleEscape] <;> split_ifs <;> simp

end WordState

namespace Text

/-- A text as a shell divides it: separators, and between them words as they are written. -/
inductive Divided : Text → List ShellWord → Prop
  | nil : Divided [] []
  | gap {c : Char} {rest : Text} {words : List ShellWord} (ends : WordState.separates c = true)
    (divided : Divided rest words) : Divided (c :: rest) words
  | last (word : ShellWord)
    (whole : WordState.outside.silently? word.written = some (.bare word.read)) :
    Divided word.written [word]
  | word (word : ShellWord) {c : Char} {rest : Text} {words : List ShellWord}
    (whole : WordState.outside.silently? word.written = some (.bare word.read))
    (ends : WordState.separates c = true) (divided : Divided rest words) :
    Divided (word.written ++ c :: rest) (word :: words)

/-- The empty text is divided into no words. -/
theorem Divided.eq_nil {text : Text} {words : List ShellWord} (divided : text.Divided words)
    (empty : text = []) : words = [] := by
  -- Whatever is divided into words or gaps holds a character.
  cases divided with
  | nil => rfl
  | gap => cases empty
  | last word whole =>
    rw [empty] at whole
    cases whole
  | word => simp at empty

/-- A shell reads the words into which it divides a text. -/
theorem Divided.shellWords? {text : Text} {words : List ShellWord}
    (divided : text.Divided words) : shellWords? text = some (words.map ShellWord.read) := by
  -- Behind a word the reader stands outside quotes, so that the separator ends the word.
  induction divided with
  | nil => rfl
  | gap ends _ ih => simpa [Text.shellWords?, WordState.words?, WordState.step, ends] using ih
  | last word whole =>
    have read := WordState.words?_append whole []
    rwa [List.append_nil] at read
  | word word whole ends _ ih =>
    rw [Text.shellWords?] at ih
    simp [Text.shellWords?, WordState.words?_append whole, WordState.words?, WordState.step, ends,
      ih]

/-- A reader behind the front of a word, which is empty between words, divides the text from that
front on into the words that it reads. -/
theorem exists_divided_from {state : WordState} {raw text : Text} {listed : List Text}
    (start : state = .outside → raw = []) (known : state ≠ .comment)
    (silent : WordState.outside.silently? raw = some state)
    (read : state.words? text = some listed) (free : state.commentFree text = true) :
    ∃ words, Divided (raw ++ text) words ∧ words.map ShellWord.read = listed := by
  induction text generalizing state raw listed with
  | nil =>
    cases state with
    | outside =>
      cases read
      exact ⟨[], by simpa [start rfl] using Divided.nil, rfl⟩
    | comment => contradiction
    | bare word =>
      cases read
      exact ⟨[⟨raw, word⟩], by simpa using Divided.last ⟨raw, word⟩ silent, rfl⟩
    | _ => cases read
  | cons c text ih =>
    obtain ⟨further, free⟩ : (state.step c).1 ≠ .comment ∧
      (state.step c).1.commentFree text = true := by simpa [WordState.commentFree] using free
    rcases state.step_cases c with rfl | ⟨rfl, ends⟩ | ⟨word, rfl, ends⟩ | ⟨none, inside⟩
    · contradiction
    · -- A separator between words is passed over.
      have next : (WordState.outside.step c).1 = .outside := by simp [WordState.step, ends]
      rw [next] at free
      have behind : WordState.outside.words? text = some listed := by
        simpa [WordState.words?, WordState.step, ends] using read
      obtain ⟨words, divided, reads⟩ := ih (fun _ => rfl) (by simp) rfl behind free
      rw [start rfl]
      exact ⟨words, divided.gap ends, reads⟩
    · -- A separator ends the word in front of it.
      have next : ((WordState.bare word).step c).1 = .outside := by simp [WordState.step, ends]
      rw [next] at free
      obtain ⟨others, behind, rfl⟩ : ∃ others, WordState.outside.words? text = some others ∧
          word :: others = listed := by
        simpa [WordState.words?, WordState.step, ends] using read
      obtain ⟨words, divided, rfl⟩ := ih (fun _ => rfl) (by simp) rfl behind free
      exact ⟨⟨raw, word⟩ :: words, .word ⟨raw, word⟩ silent ends divided, rfl⟩
    · -- The word in front goes on.
      have behind : (state.step c).1.words? text = some listed := by
        simpa [WordState.words?, none] using read
      obtain ⟨words, divided, reads⟩ := ih (absurd · inside) further
        (WordState.silently?_append_singleton silent none) behind free
      exact ⟨words, by simpa using divided, reads⟩

/-- A text without comments is divided into the words that a shell reads. -/
theorem exists_divided {text : Text} {listed : List Text} (read : shellWords? text = some listed)
    (free : WordState.outside.commentFree text = true) :
    ∃ words, text.Divided words ∧ words.map ShellWord.read = listed :=
  exists_divided_from (fun _ => rfl) (by simp) rfl read free

end Text

end TaggedTests
