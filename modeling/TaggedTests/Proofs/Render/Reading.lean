import TaggedTests.Proofs.Features
import TaggedTests.Proofs.Render.Heading

/-! A written feature is read back block by block. -/

namespace TaggedTests

/-- An inert text that makes no bracket between a closing bracket and an opening one. -/
structure Text.InertBetween (text : Text) : Prop where
  inert : text.Inert
  head : text.head? ≠ some '\x7b'
  last : text.getLast? ≠ some '\x7d'

/-- Such a text and whole lines of inert text behind it are a lead. -/
theorem Text.InertBetween.lead {text rest : Text} (between : text.InertBetween)
    (inert : rest.Inert) (last : ('\n' :: rest).getLast? = some '\n') :
    (text ++ '\n' :: rest).Lead := by
  -- The newline keeps both parts apart, and it comes first where the text is empty.
  refine ⟨(Text.inert_append_cons_iff Text.separates_newline).2 ⟨between.inert, inert⟩, ?_, ?_⟩
  · have head := between.head
    cases text <;> simp_all
  · rw [List.getLast?_append, last, Option.some_or]

/-- Every configured separator may stand between blocks. -/
def Registry.InertSeparators (registry : Registry) : Prop :=
  ∀ tag, (registry.spec tag).separator.InertBetween

/-- The separators that are built in may stand between blocks. -/
theorem Registry.inertSeparators_builtin : Registry.builtin.InertSeparators := by
  intro tag
  cases tag <;> exact ⟨by decide, by decide, by decide⟩

/-- The separators that modifiers force may stand between blocks. -/
theorem Modifier.inertBetween_separator {modifier : Modifier} {separator : Text}
    (forces : modifier.separator? = some separator) : separator.InertBetween := by
  cases modifier <;> cases forces <;> exact ⟨by decide, by decide, by decide⟩

namespace Feature

variable {registry : Registry} {feature : Feature} {lead : Text}

/-- The active separator of a feature may stand between blocks. -/
theorem Settled.inertBetween (settled : Settled registry feature)
    (separators : registry.InertSeparators) : feature.separator.InertBetween := by
  -- The separator is the configured one unless a modifier forces one of its own.
  cases forced : feature.modifiers.forcesSeparator with
  | false =>
    rw [settled.configured forced]
    exact separators feature.tag
  | true =>
    obtain ⟨_, _, active⟩ := settled.forced forced
    exact Modifier.inertBetween_separator active

/-- A feature that can be written and read back: its separator is settled, and all of its blocks may
stand between brackets. -/
structure Legible (registry : Registry) (feature : Feature) : Prop where
  settled : feature.Settled registry
  plain : ∀ content ∈ feature.contents, content.Plain

/-- A feature as it is read back: with one empty block if it had none. -/
def reread (feature : Feature) : Feature :=
  feature.withContents (if feature.contents = [] then [[]] else feature.contents)

/-- A feature that is read back has a first block. -/
theorem reread_eq (feature : Feature) :
    feature.reread = feature.withContents (feature.contents.headD [] :: feature.contents.tail) := by
  unfold reread
  cases feature.contents <;> rfl

/-- A feature with a block is read back as it is. -/
theorem reread_of_blocks (blocks : feature.contents ≠ []) : feature.reread = feature := by
  rw [reread, if_neg blocks]
  rfl

/-- The blocks of a feature as they are written behind a lead; the others follow a separator. -/
def written (lead : Text) (feature : Feature) : List Block :=
  ⟨lead ++ feature.heading, feature.contents.headD []⟩ ::
    feature.contents.tail.map (Block.mk feature.separator)

/-- What is written behind the last block of a feature. -/
def ending (feature : Feature) : Text :=
  if feature.contents = [] then ['\n', '\n'] else
    feature.separator ++ (if feature.separator = ['\n'] then ['\n'] else ['\n', '\n'])

/-- Separators behind all parts and one in front are separators in front of all and one behind. -/
theorem append_flatMap_append (separator : Text) (part : Text → Text) (contents : List Text)
    (rest : Text) :
    separator ++ (contents.flatMap (fun content => part content ++ separator) ++ rest) =
      contents.flatMap (fun content => separator ++ part content) ++ (separator ++ rest) := by
  -- A separator behind each part is one in front of each part and a last one behind all.
  induction contents with
  | nil => rfl
  | cons content contents ih => simp [ih]

/-- A block is its prose and its content between brackets. -/
theorem write_eq (block : Block) : block.write = block.prose ++ bracketed block.content := by
  simp [Block.write, bracketed]

/-- A feature is written block by block. -/
theorem append_render (lead : Text) (feature : Feature) :
    lead ++ feature.render = (feature.written lead).flatMap Block.write ++ feature.ending := by
  unfold render written ending
  cases blocks : feature.contents with
  | nil => simp [write_eq]
  | cons first others =>
    -- The separator behind a block is the prose of the next one.
    simp [write_eq, List.flatMap_map, append_flatMap_append]

/-- What is written behind the last block of a feature is a lead for what follows. -/
theorem lead_ending (between : feature.separator.InertBetween) : feature.ending.Lead := by
  -- The last separator is followed by one newline or two, which end the line.
  unfold ending
  split
  · exact ⟨by decide, by decide, by decide⟩
  · split <;> exact between.lead (by decide) (by decide)

/-- The heading of a feature makes no bracket with the lead before it and the block behind it. -/
theorem writable_heading (leads : lead.Lead) (feature : Feature) {content : Text}
    (plain : content.Plain) : (Block.mk (lead ++ feature.heading) content).Writable := by
  -- Both brackets hold a character that no heading has, and a lead ends with a newline.
  have newline := leads.last
  have filled : lead ≠ [] := by
    rintro rfl
    simp at newline
  have absent {word : Text} (slash : '/' ∈ word) : ¬ word <:+: feature.heading := fun inside =>
    feature.slash_not_mem_heading (inside.subset slash)
  refine Block.writable_of_free ?_ ?_ ?_ ?_ plain
  · rw [Block.opening, Text.pair_infix_append_iff, newline]
    rintro (inside | inside | ⟨other, -⟩)
    · exact leads.inert Block.opening (by decide) inside
    · exact absent (by decide) inside
    · simp at other
  · -- The same three ways are there for a closing bracket.
    rw [Block.closing, Text.pair_infix_append_iff, newline]
    rintro (inside | inside | ⟨other, -⟩)
    · exact leads.free inside
    · exact absent (by decide) inside
    · simp at other
  · rw [List.head?_append_of_ne_nil _ filled]
    exact leads.head
  · simp [heading_eq]

/-- The blocks of a feature make no brackets but their own. -/
theorem writable_written (leads : lead.Lead) (between : feature.separator.InertBetween)
    (plain : ∀ content ∈ feature.contents, content.Plain) :
    ∀ block ∈ feature.written lead, block.Writable := by
  -- A feature without blocks is written with an empty one.
  have first : (feature.contents.headD []).Plain := by
    cases blocks : feature.contents with
    | nil => exact (by decide : Text.Plain [])
    | cons content rest => exact plain content (by simp [blocks])
  intro block member
  rcases List.mem_cons.1 member with rfl | later
  · exact writable_heading leads feature first
  · -- Other blocks have the separator as their prose.
    obtain ⟨content, inside, rfl⟩ := List.mem_map.1 later
    exact Block.writable_of_free (between.inert _ (by decide)) (between.inert _ (by decide))
      between.head between.last (plain content (List.mem_of_mem_tail inside))

end Feature

end TaggedTests
