import TaggedTests.Proofs.Text.Inert
import TaggedTests.Proofs.Text.Replacement
import TaggedTests.Suite.Render

/-!
Titles as written hold no keyword and no bracket, so that they mean nothing in prose.

Each replacement removes its own word and brings in no other. A title that means nothing is written
as it is, and any other changes in the case of letters and the shape of braces alone.
-/

namespace TaggedTests

namespace Render

/-- No keyword is empty. -/
theorem ne_nil_of_mem_keywords : ∀ keyword ∈ keywords, keyword ≠ [] := by
  decide

/-- Keywords in lower case have nothing but small letters. -/
theorem isLower_of_mem_lowered : ∀ keyword ∈ keywords, lowered keyword ≠ [] ∧
    (lowered keyword).all Char.isLower = true := by
  decide

/-- Reserved words have more than one character, and no small letter but for the first. -/
theorem isLower_of_mem_tail : ∀ word ∈ reserved, word.tail ≠ [] ∧
    word.tail.all (!Char.isLower ·) = true := by
  decide

/-- No reserved word begins as a keyword in lower case ends. -/
theorem getLast?_lowered_ne : ∀ keyword ∈ keywords, ∀ word ∈ reserved,
    (lowered keyword).getLast? ≠ word.head? := by
  decide

/-- A keyword in lower case shares no character with a reserved word but perhaps its first. -/
theorem foreign_lowered {keyword word : Text} (keyed : keyword ∈ keywords)
    (meaningful : word ∈ reserved) : ∀ c ∈ lowered keyword, c ∉ word.tail := by
  -- The one has nothing but small letters, and the other has none but perhaps the first.
  intro c small inside
  have lower := List.all_eq_true.1 (isLower_of_mem_lowered keyword keyed).2 c small
  have upper := List.all_eq_true.1 (isLower_of_mem_tail word meaningful).2 c inside
  simp [lower] at upper

/-- Putting a keyword in lower case brings in no reserved word. -/
theorem neutral_lowered {keyword word : Text} (keyed : keyword ∈ keywords)
    (meaningful : word ∈ reserved) : Text.Neutral keyword (lowered keyword) word :=
  -- Behind its first character a reserved word has no small letter, and keywords in lower case do
  -- not end with that character.
  Text.neutral_of_foreign (isLower_of_mem_lowered keyword keyed).1
    (isLower_of_mem_tail word meaningful).1 (foreign_lowered keyed meaningful)
    (getLast?_lowered_ne keyword keyed word meaningful)

/-- A keyword that is put in lower case does not occur any more. -/
theorem not_infix_replace_lowered {keyword : Text} (keyed : keyword ∈ keywords) (text : Text) :
    ¬ keyword <:+: Text.replace keyword (lowered keyword) text := by
  -- A keyword in lower case does not even end with the beginning of the keyword.
  have meaningful : keyword ∈ reserved := List.mem_append_right _ keyed
  have long := (isLower_of_mem_tail keyword meaningful).1
  refine (neutral_lowered keyed meaningful).not_infix_replace_self (fun none => ?_)
    fun k _ positive => Text.not_take_suffix_of_foreign long (foreign_lowered keyed meaningful)
      (getLast?_lowered_ne keyword keyed keyword meaningful) positive
  simp [none] at long

/-- Bending both brackets leaves neither of them. -/
theorem not_infix_bent (title : Text) :
    let bent := Text.replace Block.closing [')', '/'] (Text.replace Block.opening ['/', '('] title)
    ∀ word ∈ [Block.opening, Block.closing], ¬ word <:+: bent := by
  -- A bent closing bracket ends as the closing bracket did, so it begins no new opening bracket.
  intro bent word member
  have opened : Text.Neutral Block.opening ['/', '('] Block.opening := by decide
  have closed : Text.Neutral Block.closing [')', '/'] Block.closing := by decide
  have apart : Text.Neutral Block.closing [')', '/'] Block.opening := by decide
  simp only [List.mem_cons, List.not_mem_nil, or_false] at member
  rcases member with rfl | rfl
  · exact fun occurs => opened.not_infix_replace_self (by decide) (by decide)
      (apart.infix_of_replace (by decide) occurs)
  · exact closed.not_infix_replace_self (by decide) (by decide)

/-- Putting keywords in lower case removes them and brings in no reserved word. -/
theorem not_infix_foldl_lowered {words : List Text} (known : ∀ word ∈ words, word ∈ keywords)
    {text word : Text} (meaningful : word ∈ reserved) (absent : word ∈ words ∨ ¬ word <:+: text) :
    ¬ word <:+: words.foldl (fun text keyword => Text.replace keyword (lowered keyword) text)
      text := by
  -- The word is replaced in its turn, and it stays absent from then on.
  induction words generalizing text with
  | nil => simpa using absent
  | cons keyword words ih =>
    have keyed := known keyword (List.mem_cons_self ..)
    have solid := ne_nil_of_mem_keywords keyword keyed
    refine ih (fun other member => known other (List.mem_cons_of_mem _ member)) ?_
    rcases absent with member | absent
    · -- Either it is its turn now, or it comes later.
      rcases List.mem_cons.1 member with rfl | later
      · exact Or.inr (not_infix_replace_lowered keyed text)
      · exact Or.inl later
    · exact Or.inr fun occurs => absent
        ((neutral_lowered keyed meaningful).infix_of_replace solid occurs)

/-- A title as written is inert. -/
theorem inert_inertTitle (title : Text) : (inertTitle title).Inert := by
  -- Brackets are gone before the keywords' turn, and each keyword goes in its own.
  intro word meaningful
  unfold inertTitle
  refine not_infix_foldl_lowered (fun _ member => member) meaningful ?_
  rcases List.mem_append.1 meaningful with bracket | keyword
  · exact Or.inr (not_infix_bent title word bracket)
  · exact Or.inl keyword

/-- A title that means nothing in prose is written as it is. -/
theorem inertTitle_of_inert {title : Text} (inert : title.Inert) :
    inertTitle title = title := by
  unfold inertTitle
  rw [Text.replace_of_absent _ (inert Block.opening (by decide)),
    Text.replace_of_absent _ (inert Block.closing (by decide))]
  -- No keyword is replaced either, one after the other.
  have each : ∀ keyword ∈ keywords, ¬ keyword <:+: title :=
    fun keyword member => inert keyword (List.mem_append_right _ member)
  generalize keywords = words at each
  induction words with
  | nil => rfl
  | cons word words ih =>
    obtain ⟨own, others⟩ := List.forall_mem_cons.1 each
    rw [List.foldl_cons, Text.replace_of_absent _ own, ih others]

/-- A character with its case blurred, and with braces taken for parentheses. -/
def blurred (c : Char) : Char :=
  if c = '\x7b' then '(' else if c = '\x7d' then ')' else c.toLower

/-- A bent bracket is the bracket again when case and braces are blurred. -/
theorem map_blurred_bent : ['/', '('].map blurred = Block.opening.map blurred ∧
    [')', '/'].map blurred = Block.closing.map blurred := by
  decide

/-- A keyword in lower case is the keyword again when case is blurred. -/
theorem map_blurred_lowered : ∀ keyword ∈ keywords,
    (lowered keyword).map blurred = keyword.map blurred := by
  decide

/-- Putting keywords in lower case changes the case of letters alone. -/
theorem map_blurred_foldl_lowered {words : List Text} (known : ∀ word ∈ words, word ∈ keywords)
    (text : Text) :
    (words.foldl (fun text keyword => Text.replace keyword (lowered keyword) text) text).map
      blurred = text.map blurred := by
  -- Each step is a replacement that does not show, and so are all of them together.
  induction words generalizing text with
  | nil => rfl
  | cons keyword words ih =>
    obtain ⟨keyed, others⟩ := List.forall_mem_cons.1 known
    have solid := ne_nil_of_mem_keywords keyword keyed
    rw [List.foldl_cons, ih others, Text.map_replace solid (map_blurred_lowered keyword keyed)]

/-- A title as written is the title but for the case of letters and the shape of braces. -/
theorem map_blurred_inertTitle (title : Text) :
    (inertTitle title).map blurred = title.map blurred := by
  unfold inertTitle
  rw [map_blurred_foldl_lowered fun _ member => member]
  -- Of the brackets, the closing ones are bent last.
  rw [Text.map_replace (by decide) map_blurred_bent.2,
    Text.map_replace (by decide) map_blurred_bent.1]

/--
Titles are made inert, and no more is done to them than that takes.

A title as written holds no bracket and no keyword of a tag or a modifier, however those of the
title overlap. Titles without any are written as they are, and no others. In any case every
character stays in its place, but for the case of letters and the shape of braces.
-/
theorem inertTitle_disarms (title : Text) :
    (inertTitle title).Inert ∧ (inertTitle title = title ↔ title.Inert) ∧
      (inertTitle title).map blurred = title.map blurred := by
  have inert : (inertTitle title).Inert := inert_inertTitle title
  refine ⟨inert, ⟨fun same => ?_, inertTitle_of_inert⟩, map_blurred_inertTitle title⟩
  -- What is written as it is was inert from the start.
  rwa [same] at inert

/-- Keywords and brackets that overlap: the first of them is changed, and the second falls apart. -/
example : ["TIMEOUTIMEOUT", "CMDmENDNL", "\x7d/\x7b"].map (fun title => inertTitle title.toList) =
    ["timeoutIMEOUT".toList, "cmdmendnl".toList, ")/(".toList] := by
  decide +kernel

end Render

end TaggedTests
