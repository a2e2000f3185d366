import TaggedTests.Proofs.Feature.Made
import TaggedTests.Proofs.Suite.Reads

/-! The line in front of a written feature says its tag and its modifiers, and nothing else. -/

namespace TaggedTests

/-- A tag's keyword asks for that tag and mentions no modifier. -/
theorem Tag.meaning_keyword : ∀ tag : Tag, Text.lastTag? tag.keyword = some tag ∧
    Text.mentionedModifiers tag.keyword = [] := by
  -- The vocabulary is finite, so each keyword is read in turn.
  intro tag
  cases tag <;> decide

/-- A modifier's keyword asks for no tag and mentions that modifier. -/
theorem Modifier.meaning_keyword : ∀ modifier : Modifier,
    Text.lastTag? modifier.keyword = none ∧
      Text.mentionedModifiers modifier.keyword = [modifier] := by
  -- As for tags, each keyword is read in turn.
  intro modifier
  cases modifier <;> decide

/-- No keyword holds a character of a bracket. -/
theorem slash_not_mem_keywords : ∀ keyword ∈ keywords, '/' ∉ keyword := by
  decide

namespace Text

/-- Modifiers as they are written behind the tag of a feature. -/
def asked (modifiers : List Modifier) : Text :=
  modifiers.flatMap fun modifier => ' ' :: modifier.keyword

/-- One more modifier stands behind a blank of its own. -/
theorem append_asked_concat (front : Text) (modifiers : List Modifier) (modifier : Modifier) :
    front ++ asked (modifiers ++ [modifier]) =
      (front ++ asked modifiers) ++ ' ' :: modifier.keyword := by
  simp [asked]

/-- Modifiers that are written behind a text leave the tag that it asks for. -/
theorem lastTag?_append_asked (front : Text) (modifiers : List Modifier) :
    lastTag? (front ++ asked modifiers) = lastTag? front := by
  -- The induction takes the modifier that is written last.
  induction modifiers using List.reverseRecOn with
  | nil => simp [asked]
  | append_singleton modifiers modifier ih =>
    rw [append_asked_concat, lastTag?_append separates_blank, modifier.meaning_keyword.1, ih]
    rfl

/-- Different modifiers that are written behind a text without any are mentioned in this order. -/
theorem mentionedModifiers_append_asked {front : Text} (none : mentionedModifiers front = [])
    {modifiers : List Modifier} (once : modifiers.Nodup) :
    mentionedModifiers (front ++ asked modifiers) = modifiers := by
  -- The modifier that is written last is none of those before it, which it would take back.
  induction modifiers using List.reverseRecOn with
  | nil => simp [asked, none]
  | append_singleton modifiers modifier ih =>
    obtain ⟨former, -, differ⟩ := List.nodup_append.1 once
    rw [append_asked_concat, mentionedModifiers_append separates_blank,
      modifier.meaning_keyword.2, ih former]
    congr 1
    exact List.filter_eq_self.2 fun other member => by simp [differ other member modifier]

end Text

namespace Feature

/-- A heading is the tag, the modifiers behind it, and the end of the line. -/
theorem heading_eq (feature : Feature) :
    feature.heading = feature.tag.keyword ++ Text.asked feature.writtenModifiers ++ ['\n'] := rfl

variable {lead : Text}

/-- Behind a lead, the heading stands on a line of its own. -/
theorem exists_lead_heading (leads : lead.Lead) (feature : Feature) :
    ∃ front : Text, front.Inert ∧ lead ++ feature.heading =
      ((front ++ '\n' :: feature.tag.keyword) ++ Text.asked feature.writtenModifiers) ++
        '\n' :: [] := by
  obtain ⟨front, rfl, before⟩ := leads.exists_front
  exact ⟨front, before, by simp [heading_eq]⟩

/-- A heading behind a lead asks for the tag of the feature. -/
theorem lastTag?_heading (leads : lead.Lead) (feature : Feature) :
    Text.lastTag? (lead ++ feature.heading) = some feature.tag := by
  -- The tag starts its line, and no modifier behind it asks for another one.
  obtain ⟨front, -, shape⟩ := exists_lead_heading leads feature
  rw [shape, Text.lastTag?_append Text.separates_newline, Text.lastTag?_append_asked,
    Text.lastTag?_append Text.separates_newline, feature.tag.meaning_keyword.1]
  rfl

/-- A heading behind a lead mentions the modifiers of the feature as they are written. -/
theorem mentionedModifiers_heading (leads : lead.Lead) (feature : Feature) :
    Text.mentionedModifiers (lead ++ feature.heading) = feature.writtenModifiers := by
  -- Neither the lead nor the tag mentions a modifier in front of them.
  obtain ⟨front, inert, shape⟩ := exists_lead_heading leads feature
  have none : Text.mentionedModifiers (front ++ '\n' :: feature.tag.keyword) = [] := by
    rw [Text.mentionedModifiers_append Text.separates_newline, feature.tag.meaning_keyword.2,
      inert.mentionedModifiers_eq_nil]
    rfl
  rw [shape, Text.mentionedModifiers_append Text.separates_newline,
    Text.mentionedModifiers_append_asked none feature.nodup_writtenModifiers]
  simp [Text.mentionedModifiers]

/-- A heading holds no character of a bracket. -/
theorem slash_not_mem_heading (feature : Feature) : '/' ∉ feature.heading := by
  -- It is made of keywords, blanks and a newline.
  have tag : '/' ∉ feature.tag.keyword :=
    slash_not_mem_keywords _ (List.mem_append_left _ (List.mem_map_of_mem feature.tag.mem_all))
  have modifiers (modifier : Modifier) : '/' ∉ modifier.keyword :=
    slash_not_mem_keywords _ (List.mem_append_right _ (List.mem_map_of_mem modifier.mem_all))
  simp [heading_eq, Text.asked, tag, modifiers]

end Feature

end TaggedTests
