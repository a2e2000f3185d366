import Mathlib.Data.List.Infix
import TaggedTests.Block

/-! Which modifiers a prose mentions, and in which order it mentions them last. -/

namespace TaggedTests

/-- A text starts with one keyword at most if none of them begins another one. -/
theorem Text.eq_of_starts {α : Type} {keyword : α → Text} {first second : α} {text : Text}
    (begins : ∀ {one other : α}, keyword one <+: keyword other → one = other)
    (one : keyword first <+: text) (other : keyword second <+: text) : first = second := by
  -- One of the keywords begins with the other one.
  rcases List.prefix_or_prefix_of_prefix one other with shorter | longer
  · exact begins shorter
  · exact (begins longer).symm

namespace Modifier

/-- No keyword of a modifier begins that of another one. -/
theorem eq_of_keyword_begins {first second : Modifier}
    (begins : first.keyword <+: second.keyword) : first = second := by
  cases first <;> cases second <;> first | rfl | exact absurd begins (by decide)

/-- A text starts with the keyword of one modifier at most. -/
theorem eq_of_starts {first second : Modifier} {text : Text} (one : first.keyword <+: text)
    (other : second.keyword <+: text) : first = second :=
  Text.eq_of_starts eq_of_keyword_begins one other

/-- No keyword is empty. -/
theorem keyword_ne_nil (modifier : Modifier) : modifier.keyword ≠ [] := by
  cases modifier <;> decide

/-- The list of modifiers has each of them once. -/
theorem nodup_all : all.Nodup := by decide

end Modifier

namespace Text

variable {word text rest : Text} {c : Char} {place : Nat}

/-- A word occurs in a text last at a place: it starts there and nowhere further on. -/
def LastAt (word text : Text) (place : Nat) : Prop :=
  word <+: text.drop place ∧ ∀ later, place < later → ¬ word <+: text.drop later

/-- A word that starts at some place of a text occurs in it. -/
theorem infix_of_prefix_drop (starts : word <+: text.drop place) : word <:+: text :=
  starts.isInfix.trans (List.drop_suffix place text).isInfix

/-- Behind the first character, a word occurs last where it does in the rest. -/
theorem lastAt_cons_succ_iff : LastAt word (c :: rest) (place + 1) ↔ LastAt word rest place := by
  -- Places behind the first character are counted one less in the rest.
  refine and_congr Iff.rfl ⟨fun last later behind => ?_, fun last later behind => ?_⟩
  · exact last (later + 1) (by omega)
  · cases later with
    | zero => omega
    | succ later => exact last later (by omega)

/-- A word that occurs in the rest does not occur last at the first character. -/
theorem not_lastAt_zero_of_occurs (occurs : word <:+: rest) : ¬ LastAt word (c :: rest) 0 := by
  rintro ⟨-, last⟩
  obtain ⟨front, back, rfl⟩ := occurs
  -- Where the word occurs in the rest is a later place.
  refine last (front.length + 1) (by omega) ?_
  simp

/-- A word that does not occur in the rest occurs last at the first character, if anywhere. -/
theorem eq_zero_of_lastAt (last : LastAt word (c :: rest) place) (absent : ¬ word <:+: rest) :
    place = 0 := by
  -- A later place would be one in the rest.
  cases place with
  | zero => rfl
  | succ place => exact absurd (infix_of_prefix_drop (lastAt_cons_succ_iff.1 last).1) absent

/-- A word that occurs in a text occurs last at some place. -/
theorem exists_lastAt (solid : word ≠ []) (occurs : word <:+: text) :
    ∃ place, LastAt word text place := by
  -- It is the place in the rest, or the first one if the word does not occur there again.
  induction text with
  | nil => exact absurd (List.infix_nil.1 occurs) solid
  | cons c rest ih =>
    by_cases later : word <:+: rest
    · obtain ⟨place, last⟩ := ih later
      exact ⟨place + 1, lastAt_cons_succ_iff.2 last⟩
    · refine ⟨0, (List.infix_cons_iff.1 occurs).resolve_right later,
        fun further behind starts => ?_⟩
      cases further with
      | zero => omega
      | succ further => exact later (infix_of_prefix_drop starts)

/-- A modifier is mentioned where its keyword occurs. -/
theorem mem_mentionedModifiers {modifier : Modifier} :
    modifier ∈ mentionedModifiers text ↔ modifier.keyword <:+: text := by
  -- A modifier is listed at its last mention, which is at the front or in the rest.
  induction text with
  | nil => simp [mentionedModifiers, modifier.keyword_ne_nil]
  | cons c rest ih =>
    simp only [mentionedModifiers, List.mem_append, List.mem_filter, Modifier.mem_all, true_and,
      Bool.and_eq_true, List.isPrefixOf_iff_prefix, Bool.not_eq_true', List.contains_eq_mem,
      decide_eq_false_iff_not, ih, List.infix_cons_iff]
    tauto

/-- Modifiers are mentioned in the order of the places where their keywords occur last. -/
theorem pairwise_mentionedModifiers (text : Text) :
    (mentionedModifiers text).Pairwise fun former later =>
      ∀ place further, LastAt former.keyword text place → LastAt later.keyword text further →
        place < further := by
  induction text with
  | nil => exact .nil
  | cons c rest ih =>
    -- A modifier that is mentioned in the rest is mentioned there last.
    have further {modifier : Modifier} (member : modifier ∈ mentionedModifiers rest) {place : Nat}
        (last : LastAt modifier.keyword (c :: rest) place) :
        ∃ behind, place = behind + 1 ∧ LastAt modifier.keyword rest behind := by
      cases place with
      | zero => exact absurd last (not_lastAt_zero_of_occurs (mem_mentionedModifiers.1 member))
      | succ behind => exact ⟨behind, rfl, lastAt_cons_succ_iff.1 last⟩
    refine List.pairwise_append.2 ⟨?_, ?_, ?_⟩
    · -- One modifier at most is mentioned at the first character.
      refine (Modifier.nodup_all.filter _).imp_of_mem fun {former later} one other differ => ?_
      simp only [List.mem_filter, Bool.and_eq_true, List.isPrefixOf_iff_prefix] at one other
      exact absurd (Modifier.eq_of_starts one.2.1 other.2.1) differ
    · refine ih.imp_of_mem fun {former later} one other before place last placed lasts => ?_
      obtain ⟨behind, rfl, own⟩ := further one placed
      obtain ⟨beyond, rfl, others⟩ := further other lasts
      exact Nat.succ_lt_succ (before behind beyond own others)
    · intro former here later member place last placed lasts
      simp only [List.mem_filter, Bool.and_eq_true, Bool.not_eq_true', List.contains_eq_mem,
        decide_eq_false_iff_not, mem_mentionedModifiers] at here
      obtain rfl := eq_zero_of_lastAt placed here.2.2
      obtain ⟨beyond, rfl, -⟩ := further member lasts
      exact Nat.succ_pos beyond

/-- A prose asks for a separator: some modifier that it mentions forces one. -/
def AsksForSeparator (prose : Text) : Prop :=
  ∃ modifier : Modifier, modifier.separator?.isSome = true ∧ modifier.keyword <:+: prose

/-- A prose asks for a separator last: of the modifiers that it mentions and that force one, the one
with this separator is mentioned last. -/
def AsksLastFor (prose separator : Text) : Prop :=
  ∃ (modifier : Modifier) (place : Nat), modifier.separator? = some separator ∧
    LastAt modifier.keyword prose place ∧
    ∀ (other : Modifier) (elsewhere : Nat), other.separator?.isSome = true → other ≠ modifier →
      LastAt other.keyword prose elsewhere → elsewhere < place

/-- The separators that the modifiers of a prose force, in the order of their last mention. -/
def forcedSeparators (prose : Text) : List Text :=
  (mentionedModifiers prose).filterMap Modifier.separator?

/-- No separator is forced exactly if the prose does not ask for one. -/
theorem forcedSeparators_eq_nil_iff {prose : Text} :
    forcedSeparators prose = [] ↔ ¬ AsksForSeparator prose := by
  rw [forcedSeparators, List.filterMap_eq_nil_iff]
  -- Nothing is forced if no modifier that is mentioned has a separator.
  simp only [mem_mentionedModifiers, AsksForSeparator, not_exists, not_and,
    Option.isSome_iff_ne_none, ne_eq, not_imp_not]

/-- The last separator that is forced is the one that the prose asks for last. -/
theorem asksLastFor_of_getLast? {prose separator : Text}
    (last : (forcedSeparators prose).getLast? = some separator) : AsksLastFor prose separator := by
  rw [forcedSeparators, List.getLast?_filterMap, List.findSome?_eq_some_iff] at last
  obtain ⟨behind, modifier, front, split, forced, none⟩ := last
  -- The last one that forces a separator splits the list of modifiers.
  have whole : mentionedModifiers prose = front.reverse ++ modifier :: behind.reverse := by
    rw [← List.reverse_reverse (mentionedModifiers prose), split]
    simp
  have member : modifier ∈ mentionedModifiers prose := by simp [whole]
  obtain ⟨place, placed⟩ := exists_lastAt modifier.keyword_ne_nil (mem_mentionedModifiers.1 member)
  refine ⟨modifier, place, forced, placed, fun other elsewhere forces differ last => ?_⟩
  -- Another modifier that forces a separator is mentioned before this one.
  have mentioned := mem_mentionedModifiers.2 (infix_of_prefix_drop last.1)
  have ordered := pairwise_mentionedModifiers prose
  rw [whole] at mentioned ordered
  rcases List.mem_append.1 mentioned with former | later
  · exact (List.pairwise_append.1 ordered).2.2 other former modifier (List.mem_cons_self ..)
      elsewhere place last placed
  · rcases List.mem_cons.1 later with same | later
    · exact absurd same differ
    · simp [none other (List.mem_reverse.1 later)] at forces

end Text

end TaggedTests
