import PageSelectors.Proofs.Catalog.Meaning

/-!
Entries under other names. What a definition asks for and the text it stands for do not change when
the entries it mentions get other names. So an entry depends on nothing but what it reaches: a file
makes a catalog if its entries, renamed, are found in a file that makes one, and its queries are the
same.
-/

namespace PageSelectors.Catalog

open Outcome

section Definitions

variable (newName : String → String)

def ConditionDefinition.rename : ConditionDefinition → ConditionDefinition
  | .boundary entry => .boundary (newName entry)
  | .not condition => .not condition.rename
  | condition => condition

def StepDefinition.rename (step : StepDefinition) : StepDefinition :=
  { step with
    conditions := step.conditions.map (ConditionDefinition.rename newName)
    boundary := step.boundary.map newName }

def Definition.rename (definition : Definition) : Definition :=
  { definition with steps := definition.steps.map (StepDefinition.rename newName) }

variable {newName}

namespace ConditionDefinition

theorem supported_rename {grammar : Grammar} (condition : ConditionDefinition) :
    (condition.rename newName).Supported grammar ↔ condition.Supported grammar := by
  induction condition with
  | not condition ih => exact ih
  | _ => exact Iff.rfl

theorem wellNamed_rename (condition : ConditionDefinition) :
    (condition.rename newName).WellNamed ↔ condition.WellNamed := by
  induction condition with
  | not condition ih => exact ih
  | _ => exact Iff.rfl

theorem mentions_rename (condition : ConditionDefinition) :
    (condition.rename newName).mentions = condition.mentions.map newName := by
  induction condition with
  | not condition ih => exact ih
  | _ => rfl

theorem core_rename (condition : ConditionDefinition) :
    (condition.rename newName).core = condition.core.rename newName := by
  induction condition with
  | not condition ih => exact ih
  | _ => rfl

theorem isNegated_rename (condition : ConditionDefinition) :
    (condition.rename newName).isNegated = condition.isNegated := by
  cases condition with
  | _ => rfl

theorem cssText_rename (condition : ConditionDefinition) :
    (condition.rename newName).cssText = condition.cssText := by
  have criterion (core : ConditionDefinition) :
      (core.rename newName).cssCriterion = core.cssCriterion := by
    cases core with
    | _ => rfl
  rw [cssText, cssText, isNegated_rename, core_rename, criterion]

theorem xpathText_rename (limit : String → String) (condition : ConditionDefinition) :
    (condition.rename newName).xpathText limit =
      condition.xpathText fun name => limit (newName name) := by
  have tests (core : ConditionDefinition) :
      (core.rename newName).xpathTests limit = core.xpathTests fun name => limit (newName name) := by
    cases core with
    | _ => rfl
  rw [xpathText, xpathText, isNegated_rename, core_rename, tests]

end ConditionDefinition

namespace StepDefinition

theorem mentions_rename (step : StepDefinition) :
    (step.rename newName).mentions = step.mentions.map newName := by
  have boundary : (step.boundary.map newName).toList = step.boundary.toList.map newName := by
    cases step.boundary with
    | none => rfl
    | some entry => rfl
  simp only [mentions, rename, boundary, List.map_append, List.flatMap_map, List.map_flatMap,
    ConditionDefinition.mentions_rename]

theorem WellFormed.of_rename {grammar : Grammar} {step : StepDefinition}
    (wellFormed : (step.rename newName).WellFormed grammar) : step.WellFormed grammar := by
  have kept : (step.conditions.map (ConditionDefinition.rename newName)).isEmpty =
      step.conditions.isEmpty := List.isEmpty_map
  obtain ⟨bare, limited, supported, tagged, named⟩ := wellFormed
  simp only [rename, Option.isSome_map, List.forall_mem_map, kept, List.map_eq_nil_iff,
    ConditionDefinition.supported_rename, ConditionDefinition.wellNamed_rename] at *
  exact ⟨bare, limited, supported, tagged, named⟩

theorem appendCss_rename (text : String) (step : StepDefinition) :
    (step.rename newName).appendCss text = step.appendCss text := by
  simp only [appendCss, rename, List.map_map, Function.comp_def,
    ConditionDefinition.cssText_rename]

theorem appendXPath_rename (limit : String → String) (text : String) (step : StepDefinition) :
    (step.rename newName).appendXPath limit text =
      step.appendXPath (fun name => limit (newName name)) text := by
  have boundary : (step.boundary.map newName).elim "" limit =
      step.boundary.elim "" fun name => limit (newName name) := by
    cases step.boundary with
    | none => rfl
    | some entry => rfl
  have conditions :
      (step.conditions.map (ConditionDefinition.rename newName)).map
          (ConditionDefinition.xpathText limit) =
        step.conditions.map (ConditionDefinition.xpathText fun name => limit (newName name)) := by
    rw [List.map_map]
    exact List.map_congr_left fun condition _ => condition.xpathText_rename limit
  unfold appendXPath
  rw [← boundary, ← conditions]
  rfl

end StepDefinition

namespace Definition

theorem mentions_rename (definition : Definition) :
    (definition.rename newName).mentions = definition.mentions.map newName := by
  simp only [mentions, rename, List.flatMap_map, List.map_flatMap, StepDefinition.mentions_rename]

theorem mem_mentions_rename {definition : Definition} {mentioned : String}
    (member : mentioned ∈ definition.mentions) :
    newName mentioned ∈ (definition.rename newName).mentions := by
  rw [mentions_rename]
  exact List.mem_map_of_mem member

theorem isPageRooted_rename (definition : Definition) :
    (definition.rename newName).isPageRooted = definition.isPageRooted := by
  simp only [isPageRooted, rename, List.head?_map]
  cases definition.steps.head? with
  | none => rfl
  | some first => rfl

theorem WellFormed.of_rename {definition : Definition}
    (wellFormed : (definition.rename newName).WellFormed) : definition.WellFormed := by
  have later : (definition.rename newName).laterSteps =
      definition.laterSteps.map (StepDefinition.rename newName) := by
    unfold laterSteps rename
    cases definition.raw with
    | none => exact List.map_tail.symm
    | some text => rfl
  obtain ⟨nonempty, starts, continues, steps⟩ := wellFormed
  rw [later] at continues
  simp only [rename, ne_eq, List.map_eq_nil_iff, List.forall_mem_map] at nonempty continues steps
  refine ⟨nonempty, fun unwritten first leads => ?_, continues, ?_⟩
  · apply starts unwritten (first.rename newName)
    simp only [rename, List.head?_map]
    exact Option.mem_map_of_mem _ leads
  · exact fun step member => (steps step member).of_rename

theorem text_rename (limit : String → String) (definition : Definition) :
    (definition.rename newName).text limit = definition.text fun name => limit (newName name) := by
  simp only [text, rename, List.foldl_map, StepDefinition.appendCss_rename,
    StepDefinition.appendXPath_rename]

end Definition

end Definitions

/-- A file whose entries are found in another file under other names. Its definitions mention no
entries but its own. -/
structure File.RenamedIn (newName : String → String) (file larger : File) : Prop where
  closed : ∀ listed ∈ file.selectors.entries, ∀ mentioned ∈ listed.2.mentions,
    mentioned ∈ file.selectors.names
  found : ∀ listed ∈ file.selectors.entries,
    larger.selectors.get? (newName listed.1) = some (listed.2.rename newName)

section Files

variable {newName : String → String} {larger file : File}

namespace File.RenamedIn

variable (renamed : file.RenamedIn newName larger)
include renamed

theorem get?_eq {name : String} {definition : Definition}
    (known : file.selectors.get? name = some definition) :
    larger.selectors.get? (newName name) = some (definition.rename newName) :=
  renamed.found (name, definition) (Table.get?_eq_some_iff.1 known)

theorem mem_names {name mentioned : String} {definition : Definition}
    (known : file.selectors.get? name = some definition) (member : mentioned ∈ definition.mentions) :
    mentioned ∈ file.selectors.names :=
  renamed.closed (name, definition) (Table.get?_eq_some_iff.1 known) mentioned member

theorem isBoundary {name : String} (known : name ∈ file.selectors.names)
    (boundary : IsBoundary larger.selectors (newName name)) : IsBoundary file.selectors name := by
  obtain ⟨definition, found⟩ := Table.mem_names_iff.1 known
  obtain ⟨other, otherFound, grammar, rooted⟩ := boundary
  obtain rfl : definition.rename newName = other :=
    Table.eq_of_get? (renamed.get?_eq found) otherFound
  exact ⟨definition, found, grammar, definition.isPageRooted_rename.symm.trans rooted⟩

/-- An entry compiles where its counterpart does: the two stacks grow in step. -/
theorem compiles (stack : List String) (name : String) (known : name ∈ file.selectors.names)
    (counterpart : Compiles larger.selectors (stack.map newName) (newName name)) :
    Compiles file.selectors stack name := by
  obtain ⟨definition, found⟩ := Table.mem_names_iff.1 known
  obtain ⟨fresh, other, otherFound, wellFormed, boundaries⟩ := compiles_iff.1 counterpart
  obtain rfl : definition.rename newName = other :=
    Table.eq_of_get? (renamed.get?_eq found) otherFound
  have fresh : name ∉ stack := fun member => fresh (List.mem_map_of_mem member)
  have shorter := remaining_push_lt fresh known
  refine compiles_iff.2 ⟨fresh, definition, found, wellFormed.of_rename, fun mentioned member => ?_⟩
  have mentionedKnown := renamed.mem_names found member
  obtain ⟨boundary, mentionedCompiles⟩ :=
    boundaries (newName mentioned) (Definition.mem_mentions_rename member)
  refine ⟨renamed.isBoundary mentionedKnown boundary, ?_⟩
  apply compiles (stack ++ [name]) mentioned mentionedKnown
  rwa [List.map_append]
termination_by (remaining file.selectors stack).length

theorem hasText {name text : String} (known : name ∈ file.selectors.names)
    (has : HasText larger.selectors (newName name) text) : HasText file.selectors name text := by
  generalize called : newName name = other at has
  induction has generalizing name with
  | @entry other otherDefinition texts otherFound _ ih =>
      obtain rfl := called
      obtain ⟨definition, found⟩ := Table.mem_names_iff.1 known
      obtain rfl : definition.rename newName = otherDefinition :=
        Table.eq_of_get? (renamed.get?_eq found) otherFound
      rw [definition.text_rename]
      apply HasText.entry (fun mentioned => texts (newName mentioned)) found
      intro mentioned member
      have others := renamed.mem_names found member
      exact ih (newName mentioned) (Definition.mem_mentions_rename member) others rfl

end File.RenamedIn

theorem query_of_compileAfresh {definitions : Table Definition} {name : String}
    {definition : Definition} {entry : Entry}
    (found : definitions.get? name = some definition)
    (compiled : compileAfresh definitions name definition = .ok entry) :
    HasText definitions name entry.query.text ∧
      entry.query = ⟨entry.query.text, definition.grammar, definition.isPageRooted,
        Locator.Settings.standard.effectiveLead⟩ := by
  obtain ⟨-, grammar, absolute, text⟩ := means_of_compileAfresh found compiled
  have lead : entry.query.lead = Locator.Settings.standard.effectiveLead := by
    obtain ⟨selector, -, compiled⟩ := bind_eq_ok_iff.1 compiled
    obtain ⟨query, queried, rfl⟩ := bind_pure_eq_ok_iff.1 compiled
    obtain ⟨text, -, rfl⟩ := bind_pure_eq_ok_iff.1 (mapError_eq_ok_iff.1 queried)
    rfl
  rw [name_of_compileAfresh compiled] at text
  exact ⟨(text _).2 rfl, by rw [← grammar, ← absolute, ← lead]⟩

theorem compileAfresh_of_get? {catalog : Catalog} {name : String} {definition : Definition}
    (made : ofFile file = .ok catalog) (found : file.selectors.get? name = some definition) :
    ∃ entry, catalog.get? name = some entry ∧
      compileAfresh file.selectors name definition = .ok entry := by
  rw [ofFile_eq_afresh] at made
  obtain ⟨entries, compiled, rfl⟩ := bind_pure_eq_ok_iff.1 made
  have all := mapM_eq_ok_iff.1 compiled
  obtain ⟨other, otherMember, otherCompiled⟩ :=
    exists_of_mem_right all.flip (Table.get?_eq_some_iff.1 found)
  have called : other.name = name := name_of_compileAfresh otherCompiled
  have listed : (entries.find? (·.name == name)).isSome := by
    rw [List.find?_isSome]
    exact ⟨other, otherMember, by simp [called]⟩
  obtain ⟨entry, first⟩ := Option.isSome_iff_exists.1 listed
  obtain ⟨⟨firstName, firstDefinition⟩, member, firstCompiled⟩ :=
    exists_of_mem_right all (List.mem_of_find?_eq_some first)
  have same : entry.name = name := by simpa using List.find?_some first
  obtain rfl : firstName = name := (name_of_compileAfresh firstCompiled).symm.trans same
  obtain rfl : definition = firstDefinition :=
    Table.eq_of_get? found (Table.get?_eq_some_iff.2 member)
  exact ⟨entry, first, firstCompiled⟩

/-- An entry depends on nothing but what it reaches. If the entries of a file, under other names and
so in another order, are among those of a file that makes a catalog, the file makes a catalog too,
and each of its queries is that of its counterpart. -/
theorem ofFile_of_renamedIn {largerCatalog : Catalog} (renamed : file.RenamedIn newName larger)
    (made : ofFile larger = .ok largerCatalog) :
    ∃ catalog, ofFile file = .ok catalog ∧ ∀ name ∈ file.selectors.names, ∃ entry other,
      catalog.get? name = some entry ∧ largerCatalog.get? (newName name) = some other ∧
        entry.query = other.query := by
  obtain ⟨catalog, smaller⟩ : ∃ catalog, ofFile file = .ok catalog := by
    rw [ofFile_isOk_iff_compiles]
    intro ⟨name, definition⟩ member
    have found := Table.get?_eq_some_iff.2 member
    have counterpart := renamed.get?_eq found
    apply renamed.compiles [] name (Table.mem_names_iff.2 ⟨definition, found⟩)
    exact (ofFile_isOk_iff_compiles larger).1 ⟨_, made⟩
      (newName name, definition.rename newName) (Table.get?_eq_some_iff.1 counterpart)
  refine ⟨catalog, smaller, fun name known => ?_⟩
  obtain ⟨definition, found⟩ := Table.mem_names_iff.1 known
  have counterpart := renamed.get?_eq found
  obtain ⟨entry, got, compiled⟩ := compileAfresh_of_get? smaller found
  obtain ⟨other, otherGot, otherCompiled⟩ := compileAfresh_of_get? made counterpart
  obtain ⟨has, query⟩ := query_of_compileAfresh found compiled
  obtain ⟨otherHas, otherQuery⟩ := query_of_compileAfresh counterpart otherCompiled
  have text : entry.query.text = other.query.text := has.unique (renamed.hasText known otherHas)
  refine ⟨entry, other, got, otherGot, ?_⟩
  rw [query, otherQuery, text, definition.isPageRooted_rename]
  rfl

end Files

/-- Two entries of `pageFile` under names that put them in the other order, without the third. -/
def shelfFile : File where
  selectors := .ofList
    [("a", ⟨.xpath, some "before the heading", none,
        [⟨.page, some "li",
            [.attribute " lang " (.compare .endsWith) "US", .not (.boundary "z")], none⟩,
          ⟨.limitedBy, none, [], some "z"⟩]⟩),
      ("z", ⟨.xpath, none, none,
        [⟨.page, some " h2 ", [.not (.not (.classes ["title"]))], none⟩]⟩)]

def pageName (name : String) : String :=
  if name = "a" then "item" else "heading"

theorem ofFile_of_renamedIn_shelfFile :
    shelfFile.RenamedIn pageName pageFile ∧ ∃ pageCatalog, ofFile pageFile = .ok pageCatalog ∧
      ∃ catalog, ofFile shelfFile = .ok catalog ∧ ∀ name ∈ shelfFile.selectors.names,
        ∃ entry other, catalog.get? name = some entry ∧
          pageCatalog.get? (pageName name) = some other ∧ entry.query = other.query := by
  have renamed : shelfFile.RenamedIn pageName pageFile :=
    ⟨by decide +kernel, by decide +kernel⟩
  have compiles : (ofFile pageFile).toOption.isSome := by decide +kernel
  cases made : ofFile pageFile with
  | error fault =>
      rw [made] at compiles
      cases compiles
  | ok pageCatalog => exact ⟨renamed, pageCatalog, rfl, ofFile_of_renamedIn renamed made⟩

end PageSelectors.Catalog
