import Mathlib.Data.Char
import Mathlib.Data.List.Lex
import Mathlib.Data.List.Lattice
import Mathlib.Data.List.Sort
import TaggedTests.Registry

/-!
Documents of overrides, one after the other.

Two of them are one document, in which the newer one goes first for each field of each tag.
-/

namespace TaggedTests

/-- The keyword of a tag names that tag. -/
theorem Tag.ofKeyword?_keyword (tag : Tag) : Tag.ofKeyword? tag.keyword = some tag := by
  cases tag <;> decide

/-- A keyword names the tag whose keyword it is. -/
theorem Tag.ofKeyword?_eq_some_iff {keyword : Text} {tag : Tag} :
    Tag.ofKeyword? keyword = some tag ↔ tag.keyword = keyword := by
  -- The tag that is found has the keyword, and every tag is found under its own.
  refine ⟨fun named => by simpa using List.find?_some named, ?_⟩
  rintro rfl
  exact tag.ofKeyword?_keyword

/-- Different tags have different keywords. -/
theorem Tag.keyword_injective : Function.Injective Tag.keyword := fun first second same =>
  Option.some_inj.1 (by rw [← first.ofKeyword?_keyword, same, second.ofKeyword?_keyword])

namespace TagOverride

/-- The fields that a newer override gives, and for the others those of an older one. -/
def andThen (older newer : TagOverride) : TagOverride where
  order := newer.order <|> older.order
  separator := newer.separator <|> older.separator
  label := newer.label <|> older.label
  fallback := newer.fallback <|> older.fallback

/-- An override without fields leaves an older one as it is. -/
@[simp] theorem andThen_none (older : TagOverride) : older.andThen {} = older := by
  simp [andThen]

end TagOverride

namespace TagSpec

/-- An override without fields changes nothing. -/
@[simp] theorem override_none (spec : TagSpec) : spec.override {} = spec := by
  simp [override]

/-- Two overrides one after the other are one, in which the newer one goes first. -/
theorem override_override (spec : TagSpec) (older newer : TagOverride) :
    (spec.override older).override newer = spec.override (older.andThen newer) := by
  -- A label that was taken away may be given again, and the other way round.
  cases older with | mk order separator label fallback
  cases newer with | mk order' separator' label' fallback'
  cases order' <;> cases separator' <;> cases label' <;> cases fallback' <;>
    simp [override, TagOverride.andThen]

/-- A tag can be used under a configuration: that is its own, shows no empty label, and has a text
for the absence of what every suite needs. -/
structure UsableFor (spec : TagSpec) (tag : Tag) : Prop where
  own : spec.tag = tag
  labelled : spec.label ≠ some []
  fallback : tag = .timeout ∨ tag = .description → spec.fallback ≠ none

/-- An override leaves a configuration that can be used. -/
theorem UsableFor.override {spec : TagSpec} {tag : Tag} (usable : spec.UsableFor tag)
    (update : TagOverride) : (spec.override update).UsableFor tag := by
  refine ⟨usable.own, ?_, fun needed => ?_⟩
  · cases given : update.label with
    | none => simpa [TagSpec.override, given] using usable.labelled
    | some label =>
      -- An empty label is no label.
      simp only [TagSpec.override, given]
      split <;> simp_all
  · cases given : update.fallback with
    | none => simpa [TagSpec.override, given] using usable.fallback needed
    | some text => simp [TagSpec.override, given]

end TagSpec

namespace RegistryFile

/-- The keywords that a document mentions. -/
def keywords (file : RegistryFile) : List Text := file.map Prod.fst

/-- A document gives each keyword once, in increasing order. -/
def Ordered (file : RegistryFile) : Prop := file.keywords.Pairwise (· < ·)

instance (file : RegistryFile) : Decidable file.Ordered :=
  inferInstanceAs (Decidable (file.keywords.Pairwise (· < ·)))

/-- What a document gives for a keyword: no field for one that it does not mention. -/
def given (file : RegistryFile) (keyword : Text) : TagOverride := (file.lookup keyword).getD {}

/-- Two documents as one, in which the newer one goes first for each field. -/
def layered (older newer : RegistryFile) : RegistryFile :=
  ((older.keywords ∪ newer.keywords).insertionSort (· ≤ ·)).map fun keyword =>
    (keyword, (older.given keyword).andThen (newer.given keyword))

/-- A document that mentions what two others mention, and takes each field from the newer one if
that gives it and from the older one otherwise. -/
structure Layers (file older newer : RegistryFile) : Prop where
  keywords : ∀ keyword, keyword ∈ file.keywords ↔
    keyword ∈ older.keywords ∨ keyword ∈ newer.keywords
  order : ∀ keyword, (file.given keyword).order =
    ((newer.given keyword).order <|> (older.given keyword).order)
  separator : ∀ keyword, (file.given keyword).separator =
    ((newer.given keyword).separator <|> (older.given keyword).separator)
  label : ∀ keyword, (file.given keyword).label =
    ((newer.given keyword).label <|> (older.given keyword).label)
  fallback : ∀ keyword, (file.given keyword).fallback =
    ((newer.given keyword).fallback <|> (older.given keyword).fallback)

variable {file older newer : RegistryFile} {keyword : Text} {update : TagOverride}

/-- A document gives a keyword in front what stands there. -/
theorem given_cons_self : given ((keyword, update) :: file) keyword = update := by
  simp [given]

/-- What stands in front for another keyword is passed over. -/
theorem given_cons_of_ne {other : Text} (differ : other ≠ keyword) :
    given ((keyword, update) :: file) other = file.given other := by
  rw [given, List.lookup_cons, beq_eq_false_iff_ne.2 differ, given]

/-- A keyword that is not mentioned is given no field. -/
theorem given_of_not_mem (absent : keyword ∉ file.keywords) : file.given keyword = {} := by
  induction file with
  | nil => rfl
  | cons entry file ih =>
    -- An entry of another keyword is passed over.
    obtain ⟨own, later⟩ : keyword ≠ entry.1 ∧ keyword ∉ keywords file := by
      simpa [keywords] using absent
    rw [given_cons_of_ne own, ih later]

/-- A document that is made by a function of the keyword gives what the function does. -/
theorem given_map {listed : List Text} (fields : Text → TagOverride) (member : keyword ∈ listed) :
    given (listed.map fun keyword => (keyword, fields keyword)) keyword = fields keyword := by
  induction listed with
  | nil => simp at member
  | cons first listed ih =>
    -- The first entry of the keyword counts, and all of its entries give the same fields.
    by_cases own : keyword = first
    · subst own
      exact given_cons_self
    · exact (given_cons_of_ne own).trans (ih (List.mem_of_ne_of_mem own member))

/-- Two documents as one mention what either mentions. -/
theorem mem_keywords_layered : keyword ∈ (older.layered newer).keywords ↔
    keyword ∈ older.keywords ∨ keyword ∈ newer.keywords := by
  simp [keywords, layered]

/-- Two documents as one give each keyword once, in increasing order. -/
theorem ordered_layered (once : newer.keywords.Nodup) : (older.layered newer).Ordered := by
  -- The keywords of both documents are sorted, and each of them is there once.
  have keys : (older.layered newer).keywords =
      (older.keywords ∪ newer.keywords).insertionSort (· ≤ ·) := by
    rw [keywords, layered, List.map_map]
    exact List.map_id _
  rw [Ordered, keys]
  have distinct := (List.perm_insertionSort (· ≤ ·) (older.keywords ∪ newer.keywords)).nodup_iff.2
    (once.union _)
  exact (List.sortedLE_insertionSort.sortedLT_of_nodup distinct).pairwise

/-- Two documents as one give a keyword what both give it, the newer one after the older one. -/
theorem given_layered (keyword : Text) : (older.layered newer).given keyword =
    (older.given keyword).andThen (newer.given keyword) := by
  by_cases mentioned : keyword ∈ (older.layered newer).keywords
  · -- What is mentioned has an entry with the fields of both documents.
    refine given_map (fun keyword => (older.given keyword).andThen (newer.given keyword)) ?_
    simpa [mem_keywords_layered] using mentioned
  · -- What neither document mentions is given nothing, and two such overrides give nothing
    -- together.
    rw [given_of_not_mem mentioned]
    rw [mem_keywords_layered, not_or] at mentioned
    rw [given_of_not_mem mentioned.1, given_of_not_mem mentioned.2, TagOverride.andThen_none]

/-- Two documents as one take each field from the newer one if that gives it. -/
theorem layers_layered : (older.layered newer).Layers older newer :=
  -- Field by field the newer document goes before the older one.
  ⟨fun _ => mem_keywords_layered, fun _ => by rw [given_layered, TagOverride.andThen],
    fun _ => by rw [given_layered, TagOverride.andThen],
    fun _ => by rw [given_layered, TagOverride.andThen],
    fun _ => by rw [given_layered, TagOverride.andThen]⟩

end RegistryFile

end TaggedTests
