import TaggedTests.Harness.Selection
import TaggedTests.Proofs.Path.Order
import TaggedTests.Proofs.Text.Cutting

/-!
Which files a harness runs.

Patterns lead to paths, some of them with an error, and of all leads to one path the last one
counts. So the files are sorted and none is run twice, and where all leads to a path agree it does
not matter in which order patterns are given.
-/

namespace TaggedTests

/-- A text contains a pattern exactly when the pattern occurs in it. -/
theorem Text.contains_iff {pattern text : Text} :
    Text.contains pattern text = true ↔ pattern <:+: text := by
  rw [contains, Option.isSome_iff_ne_none, Ne, cut?_eq_none_iff, not_not]

namespace Harness

/-- What a pattern leads to: a path, and the error that it comes with, if it comes with one. -/
structure Lead where
  path : Text
  error : Option SelectionError
  deriving DecidableEq, Repr

namespace Lead

/-- The lead that something found for a pattern is. -/
def ofFinding : Finding → Lead
  | .path path => ⟨path, none⟩
  | .unreadable path reason => ⟨path, some (.unreadable path reason)⟩

/-- The case of a lead. -/
def toCase (program : Option Text) (lead : Lead) : Case :=
  match lead.error with
  | none => .ofFile program lead.path
  | some error => ⟨lead.path, .error error⟩

variable {program : Option Text} {lead : Lead}

/-- The case of a lead has its path. -/
@[simp] theorem path_toCase (program : Option Text) (lead : Lead) :
    (lead.toCase program).path = lead.path := by
  unfold toCase
  split <;> rfl

/-- What is found without an error and has a name is run against the program, if there is one. -/
theorem program_toCase {executable : Text} (silent : lead.error = none)
    (named : Path.fileName? lead.path ≠ none) :
    (lead.toCase program).program = .ok executable ↔ program = some executable := by
  -- A path with a name and without an error is a case of the program, if there is one.
  have present : (Path.fileName? lead.path).isNone = false :=
    Option.isNone_eq_false_iff.2 (Option.isSome_iff_ne_none.2 named)
  cases program <;> simp [toCase, Case.ofFile, silent, present]

end Lead

/-- A pattern leads to itself if it has no star or cannot be read, and else to what is found. -/
inductive Yields (expand : Expansion) (pattern : Text) : Lead → Prop
  | itself (plain : '*' ∉ pattern) : Yields expand pattern ⟨pattern, none⟩
  | refused {error : GlobError} (star : '*' ∈ pattern) (refuses : expand pattern = .error error) :
    Yields expand pattern ⟨pattern, some (.pattern error)⟩
  | found {findings : List Finding} {path : Text} (star : '*' ∈ pattern)
    (expands : expand pattern = .ok findings) (member : .path path ∈ findings) :
    Yields expand pattern ⟨path, none⟩
  | unreadable {findings : List Finding} {path reason : Text} (star : '*' ∈ pattern)
    (expands : expand pattern = .ok findings) (member : .unreadable path reason ∈ findings) :
    Yields expand pattern ⟨path, some (.unreadable path reason)⟩

/-- The leads of a pattern, in order. -/
def leadsOf (expand : Expansion) (pattern : Text) : List Lead :=
  if '*' ∈ pattern then
    match expand pattern with
    | .ok findings => findings.map Lead.ofFinding
    | .error error => [⟨pattern, some (.pattern error)⟩]
  else [⟨pattern, none⟩]

variable {expand : Expansion} {pattern : Text} {program : Option Text} {lead : Lead}

/-- The leads of a pattern are what it leads to. -/
theorem mem_leadsOf : lead ∈ leadsOf expand pattern ↔ Yields expand pattern lead := by
  -- A pattern holds a star and is expanded, with findings or with an error, or it is a path itself.
  unfold leadsOf
  split
  · next star =>
    cases expands : expand pattern with
    | ok findings =>
      -- Each finding is a path or a directory that could not be read, and gives the lead of its
      -- kind.
      rw [List.mem_map]
      constructor
      · rintro ⟨_ | _, member, rfl⟩
        · exact .found star expands member
        · exact .unreadable star expands member
      · rintro (_ | ⟨_, refuses⟩ | ⟨_, again, member⟩ | ⟨_, again, member⟩)
        · contradiction
        · simp [expands] at refuses
        · cases expands.symm.trans again
          exact ⟨_, member, rfl⟩
        · cases expands.symm.trans again
          exact ⟨_, member, rfl⟩
    | error error =>
      rw [List.mem_singleton]
      constructor
      · rintro rfl
        -- A pattern that is refused leads to itself alone, with the error.
        exact .refused star expands
      · rintro (_ | ⟨_, refuses⟩ | ⟨_, again, _⟩ | ⟨_, again, _⟩)
        · contradiction
        · cases expands.symm.trans refuses
          rfl
        · simp [expands] at again
        · simp [expands] at again
  · next plain =>
    rw [List.mem_singleton]
    constructor
    · rintro rfl
      -- Without a star there is only the path, whatever the expansion would say.
      exact .itself plain
    · rintro (_ | _ | _ | _) <;> first | rfl | contradiction

/-- The cases of a pattern are those of its leads. -/
theorem casesOf_eq_map (expand : Expansion) (program : Option Text) (pattern : Text) :
    casesOf expand program pattern = (leadsOf expand pattern).map (Lead.toCase program) := by
  unfold casesOf leadsOf
  split
  · -- Findings become leads and then cases, which is what they become at once.
    cases expand pattern with
    | ok findings =>
      rw [List.map_map]
      exact List.map_congr_left fun finding _ => by cases finding <;> rfl
    | error error => rfl
  · rfl

/-- A path holds one of the filters, if there are any. -/
def Included (filters : Option (List Text)) (path : Text) : Prop :=
  filters = none ∨ ∃ texts, filters = some texts ∧ ∃ text ∈ texts, text <:+: path

namespace Case

variable {case other : Case} {cases : List Case}

/-- Cases in the order of their paths, of which no two are the same. -/
def Sorted (cases : List Case) : Prop :=
  cases.Pairwise fun first second => Path.lt first.path second.path = true

/-- One more case replaces one of the same path and leaves the others. -/
theorem mem_insert (sorted : Sorted cases) : other ∈ insert case cases ↔
    other = case ∨ other ∈ cases ∧ ¬ Path.Same case.path other.path := by
  induction cases with
  | nil => simp [insert]
  | cons first rest ih =>
    obtain ⟨before, sorted⟩ := List.pairwise_cons.1 sorted
    rw [insert]
    split
    · next front =>
      -- The case comes before all others.
      have apart : other ∈ first :: rest → ¬ Path.Same case.path other.path := by
        intro member
        rcases List.mem_cons.1 member with rfl | later
        · exact Path.not_same_of_lt front
        · exact Path.not_same_of_lt (Path.lt_trans front (before other later))
      rw [List.mem_cons, and_iff_left_of_imp apart]
    · split
      · next front behind =>
        -- The case belongs among the others, and the first one is of another path.
        have apart : ¬ Path.Same case.path first.path := fun same =>
          Path.not_same_of_lt behind same.symm
        rw [List.mem_cons, List.mem_cons, ih sorted]
        constructor
        · rintro (rfl | rfl | ⟨member, differ⟩)
          · exact .inr ⟨.inl rfl, apart⟩
          · exact .inl rfl
          · exact .inr ⟨.inr member, differ⟩
        · rintro (rfl | ⟨rfl | member, differ⟩)
          · exact .inr (.inl rfl)
          · exact .inl rfl
          · exact .inr (.inr ⟨member, differ⟩)
      · next front behind =>
        -- The case takes the place of the first one, which is before all that follow.
        have same : Path.Same case.path first.path := Path.same_iff_not_lt.2 ⟨front, behind⟩
        rw [List.mem_cons, List.mem_cons]
        refine or_congr_right ⟨fun later => ⟨.inr later, fun equal => ?_⟩, ?_⟩
        · exact Path.not_same_of_lt (before other later) (same.symm.trans equal)
        · rintro ⟨rfl | later, differ⟩
          · contradiction
          · exact later

/-- One more case is put where it belongs. -/
theorem Sorted.insert (sorted : Sorted cases) (case : Case) : Sorted (insert case cases) := by
  induction cases with
  | nil => exact List.pairwise_singleton ..
  | cons first rest ih =>
    have whole := sorted
    obtain ⟨before, sorted⟩ := List.pairwise_cons.1 sorted
    rw [Case.insert]
    split
    · next front =>
      refine List.pairwise_cons.2 ⟨?_, whole⟩
      exact List.forall_mem_cons.2
        ⟨front, fun other later => Path.lt_trans front (before other later)⟩
    · split
      · next front behind =>
        -- What follows the first one is the case or followed it before.
        refine List.pairwise_cons.2 ⟨fun other member => ?_, ih sorted⟩
        rcases (mem_insert sorted).1 member with rfl | ⟨later, -⟩
        · exact behind
        · exact before other later
      · next front behind =>
        -- What follows the first one follows any spelling of its path.
        have same : Path.Same case.path first.path := Path.same_iff_not_lt.2 ⟨front, behind⟩
        refine List.pairwise_cons.2 ⟨fun other later => ?_, sorted⟩
        have next := before other later
        rwa [Path.lt_eq_true_iff, ← same, ← Path.lt_eq_true_iff] at next

/-- Sorted cases are known by their members. -/
theorem Sorted.eq_of_mem_iff {others : List Case} (sorted : Sorted cases)
    (otherSorted : Sorted others) (same : ∀ case, case ∈ cases ↔ case ∈ others) :
    cases = others := by
  have nodup {cases : List Case} (sorted : Sorted cases) : cases.Nodup := by
    refine List.Pairwise.imp (fun {first second} before => ?_) sorted
    rintro rfl
    exact Path.not_same_of_lt before rfl
  refine ((List.perm_ext_iff_of_nodup (nodup sorted) (nodup otherSorted)).2 same).eq_of_pairwise
    (fun first second _ _ before behind => ?_) sorted otherSorted
  -- No two cases come before each other.
  exact absurd rfl (Path.not_same_of_lt (Path.lt_trans before behind))

/-- A case counts exactly when its path holds one of the filters, if there are any. -/
theorem isIncluded_iff {filters : Option (List Text)} : isIncluded filters case = true ↔
    Included filters case.path := by
  unfold isIncluded Included
  cases filters <;> simp [Text.contains_iff]

end Case

/-- A lead is the last one to its path. -/
def Last (leads : List Lead) (lead : Lead) : Prop :=
  ∃ front rest, leads = front ++ lead :: rest ∧ ∀ other ∈ rest, ¬ Path.Same other.path lead.path

variable {leads : List Lead} {new : Lead} {path : Text}

/-- There is no last one of no leads. -/
theorem not_last_nil : ¬ Last [] lead := by
  rintro ⟨front, rest, none, -⟩
  simp at none

/-- One more lead is the last one to its path, and to other paths those before it are. -/
theorem last_append_singleton : Last (leads ++ [new]) lead ↔
    lead = new ∨ Last leads lead ∧ ¬ Path.Same new.path lead.path := by
  constructor
  · rintro ⟨front, rest, whole, fresh⟩
    -- The last lead is the new one, or the new one stands behind it and has another path.
    rcases List.eq_nil_or_concat rest with rfl | ⟨rest, last, rfl⟩
    · exact .inl (List.append_singleton_inj.1 whole).2.symm
    · rw [List.concat_eq_append, ← List.cons_append, ← List.append_assoc,
        List.append_singleton_inj] at whole
      obtain ⟨rfl, rfl⟩ := whole
      exact .inr ⟨⟨front, rest, rfl, fun other member => fresh other (by simp [member])⟩,
        fresh new (by simp)⟩
  · rintro (rfl | ⟨⟨front, rest, rfl, fresh⟩, differ⟩)
    · -- Nothing stands behind the new lead.
      exact ⟨leads, [], rfl, by simp⟩
    · exact ⟨front, rest ++ [new], by simp, List.forall_mem_append.2 ⟨fresh, by simpa using differ⟩⟩

/-- The last lead to a path is one. -/
theorem Last.mem (last : Last leads lead) : lead ∈ leads := by
  obtain ⟨front, rest, rfl, -⟩ := last
  simp

/-- There is a last lead to a path as soon as there is one. -/
theorem exists_last_iff : (∃ lead, Path.Same lead.path path ∧ Last leads lead) ↔
    ∃ lead ∈ leads, Path.Same lead.path path := by
  constructor
  · rintro ⟨lead, same, last⟩
    exact ⟨lead, last.mem, same⟩
  · rintro ⟨lead, member, same⟩
    -- The induction is on the leads from the last one on: it counts itself or leaves those before
    -- it.
    induction leads using List.reverseRecOn with
    | nil => simp at member
    | append_singleton leads new ih =>
      by_cases newer : Path.Same new.path path
      · exact ⟨new, newer, last_append_singleton.2 (.inl rfl)⟩
      · -- The new lead is to another path, so that the last one is before it.
        have former : lead ∈ leads := by
          rcases List.mem_append.1 member with former | own
          · exact former
          · rw [List.mem_singleton.1 own] at same
            contradiction
        obtain ⟨lead, same, last⟩ := ih former
        exact ⟨lead, same, last_append_singleton.2
          (.inr ⟨last, fun equal => newer (equal.trans same)⟩)⟩

/-- The cases of leads, of which each replaces the one to the same path before it. -/
def keptCases (program : Option Text) (leads : List Lead) : List Case :=
  leads.foldl (fun cases lead => Case.insert (lead.toCase program) cases) []

/-- Cases are put in order one after the other. -/
theorem sorted_keptCases (program : Option Text) (leads : List Lead) :
    Case.Sorted (keptCases program leads) := by
  unfold keptCases
  -- Cases are put in one by one, the last lead last, and each keeps the order.
  induction leads using List.reverseRecOn with
  | nil => exact .nil
  | append_singleton leads new ih =>
    rw [List.foldl_append]
    exact ih.insert _

/-- The cases that are left are those of the last leads to their paths. -/
theorem mem_keptCases {case : Case} : case ∈ keptCases program leads ↔
    ∃ lead, Last leads lead ∧ case = lead.toCase program := by
  -- On the number of leads, as a new one replaces the case of its path and leaves the others.
  induction leads using List.reverseRecOn with
  | nil => simp [keptCases, not_last_nil]
  | append_singleton leads new ih =>
    have step : keptCases program (leads ++ [new]) =
        Case.insert (new.toCase program) (keptCases program leads) := by
      rw [keptCases, List.foldl_append]
      rfl
    rw [step, Case.mem_insert (sorted_keptCases program leads), ih, Lead.path_toCase]
    simp only [last_append_singleton]
    constructor
    · -- A case is the new one or one of another path that was there.
      rintro (rfl | ⟨⟨lead, last, rfl⟩, differ⟩)
      · exact ⟨new, .inl rfl, rfl⟩
      · exact ⟨lead, .inr ⟨last, by simpa using differ⟩, rfl⟩
    · rintro ⟨lead, rfl | ⟨last, differ⟩, rfl⟩
      · exact .inl rfl
      · exact .inr ⟨⟨lead, last, rfl⟩, by simpa using differ⟩

/-- All cases are those that are left of the leads of all patterns. -/
theorem allCases_eq_keptCases (expand : Expansion) (settings : Settings) :
    allCases expand settings =
      keptCases settings.program (settings.patterns.flatMap (leadsOf expand)) := by
  -- The cases of a pattern are those of its leads.
  have cases : settings.patterns.flatMap (casesOf expand settings.program) =
      (settings.patterns.flatMap (leadsOf expand)).map (Lead.toCase settings.program) := by
    rw [List.map_flatMap]
    exact List.flatMap_congr fun pattern _ => casesOf_eq_map expand settings.program pattern
  rw [allCases, cases, List.foldl_map, keptCases]

/-- The files that are run are the cases of the last leads to their paths that hold a filter. -/
theorem mem_cases {settings : Settings} {case : Case} : case ∈ cases expand settings ↔
    (∃ lead, Last (settings.patterns.flatMap (leadsOf expand)) lead ∧
      case = lead.toCase settings.program) ∧ Included settings.filters case.path := by
  rw [cases, List.mem_filter, allCases_eq_keptCases, mem_keptCases, Case.isIncluded_iff]

/-- The files that are run are sorted by their paths. -/
theorem sorted_cases (expand : Expansion) (settings : Settings) :
    Case.Sorted (cases expand settings) := by
  rw [cases, allCases_eq_keptCases]
  exact (sorted_keptCases _ _).filter _

/-- Leads agree wherever they are to one path. -/
def Coherent (leads : List Lead) : Prop :=
  ∀ first ∈ leads, ∀ second ∈ leads, Path.Same first.path second.path → first = second

/-- Where leads agree, each is the last one to its path. -/
theorem Coherent.last_iff_mem (coherent : Coherent leads) : Last leads lead ↔ lead ∈ leads := by
  refine ⟨Last.mem, fun member => ?_⟩
  -- Some lead of this path is the last one, and coherent leads of one path are the same.
  obtain ⟨last, same, counts⟩ := exists_last_iff.2 ⟨lead, member, rfl⟩
  rwa [coherent last counts.mem lead member same] at counts

/-- Where leads agree, their order does not matter. -/
theorem Coherent.keptCases_eq {others : List Lead} (coherent : Coherent leads)
    (permuted : others.Perm leads) : keptCases program others = keptCases program leads := by
  have again : Coherent others := fun first member second other same =>
    coherent first (permuted.mem_iff.1 member) second (permuted.mem_iff.1 other) same
  -- Both lists are sorted, so they are equal if they have the same cases.
  refine (sorted_keptCases _ _).eq_of_mem_iff (sorted_keptCases _ _) fun case => ?_
  simp only [mem_keptCases, again.last_iff_mem, coherent.last_iff_mem, permuted.mem_iff]

/--
A harness runs every file that its patterns lead to, once and in the order of paths.

A path is run, as it was spelled last, exactly when it holds one of the filters, if there are any;
and there is such a spelling exactly when a pattern leads to the path: a pattern without a star, or
one that cannot be read, to itself, and any other to what is found for it. What has a name and comes
without an error is run against the program, if there is one. Where all leads to one path agree in
the spelling and in the error, the order of the patterns does not matter.
-/
theorem cases_follow_leads (expand : Expansion) (settings : Settings) :
    let selected := cases expand settings
    let leads := settings.patterns.flatMap (leadsOf expand)
    selected.Pairwise (fun first second => Path.lt first.path second.path = true) ∧
    (∀ path, path ∈ selected.map Case.path ↔
      (∃ lead, lead.path = path ∧ Last leads lead) ∧ Included settings.filters path) ∧
    (∀ path, (∃ lead, Path.Same lead.path path ∧ Last leads lead) ↔
      ∃ pattern ∈ settings.patterns, ∃ lead,
        Path.Same lead.path path ∧ Yields expand pattern lead) ∧
    (∀ case ∈ selected, Path.fileName? case.path ≠ none →
      (∀ pattern ∈ settings.patterns, ∀ lead, Yields expand pattern lead →
        Path.Same lead.path case.path → lead.error = none) →
      ∀ program, case.program = .ok program ↔ settings.program = some program) ∧
    ((∀ first ∈ settings.patterns, ∀ second ∈ settings.patterns, ∀ lead other,
        Yields expand first lead → Yields expand second other →
        Path.Same lead.path other.path → lead = other) →
      ∀ patterns, patterns.Perm settings.patterns →
        cases expand { settings with patterns := patterns } = selected) := by
  intro selected leads
  have mem_leads {lead : Lead} :
      lead ∈ leads ↔ ∃ pattern ∈ settings.patterns, Yields expand pattern lead := by
    simp only [leads, List.mem_flatMap, mem_leadsOf]
  refine ⟨?_, fun path => ?_, fun path => ?_, fun case member named silent program => ?_,
    fun agree patterns permuted => ?_⟩
  · exact sorted_cases expand settings
  · -- A path is run if the last lead to it is included.
    rw [List.mem_map]
    constructor
    · rintro ⟨case, member, rfl⟩
      obtain ⟨⟨lead, last, rfl⟩, included⟩ := mem_cases.1 member
      exact ⟨⟨lead, (lead.path_toCase _).symm, last⟩, included⟩
    · rintro ⟨⟨lead, rfl, last⟩, included⟩
      exact ⟨lead.toCase settings.program, mem_cases.2 ⟨⟨lead, last, rfl⟩, by simpa using included⟩,
        lead.path_toCase _⟩
  · -- Some lead to a path is the last one exactly if there is a lead to it.
    rw [exists_last_iff]
    constructor
    · rintro ⟨lead, member, same⟩
      obtain ⟨pattern, listed, yields⟩ := mem_leads.1 member
      exact ⟨pattern, listed, lead, same, yields⟩
    · rintro ⟨pattern, listed, lead, same, yields⟩
      exact ⟨lead, mem_leads.2 ⟨pattern, listed, yields⟩, same⟩
  · -- The case is that of a lead, which comes without an error like all to its path.
    obtain ⟨⟨lead, last, rfl⟩, -⟩ := mem_cases.1 member
    obtain ⟨pattern, listed, yields⟩ := mem_leads.1 last.mem
    rw [lead.path_toCase] at named silent
    exact Lead.program_toCase (silent pattern listed lead yields rfl) named
  · -- Leads that agree are kept alike in whatever order they come.
    have coherent : Coherent leads := by
      intro lead member other second same
      obtain ⟨pattern, listed, yields⟩ := mem_leads.1 member
      obtain ⟨further, listedToo, yieldsToo⟩ := mem_leads.1 second
      exact agree pattern listed further listedToo lead other yields yieldsToo same
    simp only [selected, cases, allCases_eq_keptCases]
    rw [coherent.keptCases_eq (permuted.flatMap_right _)]

/-- Two patterns that lead to one file, a pattern that cannot be read, and a file without a
filter. -/
theorem cases_follow_leads_overlapping :
    let tree : FileTree := ⟨fun path => path ∈ ["a.txt".toList, "b.txt".toList], fun path =>
      if path = ['.'] then some (.ok ["b.txt".toList, "a.txt".toList]) else none⟩
    let expand := Glob.expand tree
    let settings : Settings := {
      program := some "prog".toList
      patterns := ["*.txt".toList, "[*".toList, "b.txt".toList]
      filters := some ["b".toList, "[".toList] }
    (cases expand settings).map Case.path = ["[*".toList, "b.txt".toList] ∧
      (∀ case ∈ cases expand settings, case.path = "b.txt".toList →
        case.program = .ok "prog".toList) ∧
      cases expand { settings with patterns := settings.patterns.reverse } =
        cases expand settings := by
  intro tree expand settings
  let leads : List Lead := [⟨"b.txt".toList, none⟩, ⟨"a.txt".toList, none⟩,
    ⟨"[*".toList, some (.pattern (.badSet 0))⟩, ⟨"b.txt".toList, none⟩]
  -- The patterns yield these four leads, of which two are of one path and the same.
  have listed : settings.patterns.flatMap (leadsOf expand) = leads := by decide +kernel
  have known {pattern : Text} (member : pattern ∈ settings.patterns) {lead : Lead}
      (yields : Yields expand pattern lead) : lead ∈ leads :=
    listed ▸ List.mem_flatMap.2 ⟨pattern, member, mem_leadsOf.2 yields⟩
  have agree : ∀ lead ∈ leads, ∀ other ∈ leads, Path.Same lead.path other.path → lead = other := by
    decide +kernel
  have silent : ∀ lead ∈ leads, Path.Same lead.path "b.txt".toList → lead.error = none := by
    decide +kernel
  obtain ⟨-, -, -, runs, ordered⟩ := cases_follow_leads expand settings
  refine ⟨by decide +kernel, fun case member path => ?_, ?_⟩
  · -- The program is known for a path with a name that no pattern has an error for.
    refine (runs case member ?_ ?_ _).2 rfl <;> rw [path]
    · decide +kernel
    · exact fun pattern member lead yields => silent lead (known member yields)
  · -- Leads of one path agree, so that the order of the patterns does not count.
    exact ordered (fun first member second further lead other yields too =>
      agree lead (known member yields) other (known further too)) _ (List.reverse_perm _)

end Harness

end TaggedTests
