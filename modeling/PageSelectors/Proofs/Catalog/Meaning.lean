import PageSelectors.Proofs.Catalog.DefinitionCompilation
import PageSelectors.Proofs.Catalog.Acceptance

/-!
What a catalog means. The texts of entries are fixed by the definitions alone, and the queries of a
catalog have exactly these texts.
-/

namespace PageSelectors.Catalog

open Outcome

section Agreement

variable {limit other : String → String}

theorem ConditionDefinition.xpathText_congr {condition : ConditionDefinition}
    (agree : ∀ mentioned ∈ condition.mentions, limit mentioned = other mentioned) :
    condition.xpathText limit = condition.xpathText other := by
  rw [condition.core_cases.2.2.2] at agree
  unfold xpathText
  cases core : condition.core with
  | boundary entry =>
      rw [core] at agree
      rw [xpathTests, xpathTests, agree entry (by simp [mentions])]
  | _ => rfl

theorem StepDefinition.appendXPath_congr {step : StepDefinition}
    (agree : ∀ mentioned ∈ step.mentions, limit mentioned = other mentioned) (text : String) :
    step.appendXPath limit text = step.appendXPath other text := by
  have conditions : step.conditions.map (ConditionDefinition.xpathText limit) =
      step.conditions.map (ConditionDefinition.xpathText other) := by
    apply List.map_congr_left
    intro condition member
    apply ConditionDefinition.xpathText_congr
    intro mentioned inside
    exact agree mentioned (List.mem_append_right _ (List.mem_flatMap_of_mem member inside))
  have boundary : step.boundary.elim "" limit = step.boundary.elim "" other := by
    cases named : step.boundary with
    | none => rfl
    | some entry => exact agree entry (by simp [mentions, named])
  rw [appendXPath, appendXPath, conditions, boundary]

theorem Definition.text_congr {definition : Definition}
    (agree : ∀ mentioned ∈ definition.mentions, limit mentioned = other mentioned) :
    definition.text limit = definition.text other := by
  unfold text
  cases definition.grammar with
  | css => rfl
  | xpath =>
      apply List.foldl_ext
      intro text step member
      apply step.appendXPath_congr
      intro mentioned inside
      exact agree mentioned (List.mem_flatMap_of_mem member inside)

end Agreement

variable {definitions : Table Definition} {stack : List String} {name text : String}

theorem HasText.unique {other : String} (first : HasText definitions name text)
    (second : HasText definitions name other) : text = other := by
  induction first generalizing other with
  | @entry name definition texts found _ ih =>
      cases second with
      | @entry _ otherDefinition otherTexts otherFound otherHas =>
          obtain rfl : definition = otherDefinition := Table.eq_of_get? found otherFound
          apply Definition.text_congr
          intro mentioned member
          rw [ih mentioned member (otherHas mentioned member)]

theorem textAfresh_of_resolves
    (resolves : Resolves (boundaryOf (buildAfresh definitions stack)) name) :
    textAfresh definitions stack name =
      .ok (resolvedText (boundaryOf (buildAfresh definitions stack)) name) := by
  obtain ⟨chain, text, resolved, -, rendered⟩ := resolves
  obtain ⟨selector, built, isChain⟩ := bind_eq_ok_iff.1 resolved
  obtain rfl := boundaryChain_eq_ok_iff.1 isChain
  rw [resolvedText, resolved, ok_bind, rendered, textAfresh, built, ok_bind]
  exact rendered

/-- What an entry compiles to afresh is its text, on whatever stack it is built. -/
theorem hasText_of_textAfresh (stack : List String) (name text : String)
    (compiled : textAfresh definitions stack name = .ok text) : HasText definitions name text := by
  obtain ⟨fresh, definition, found, fits, rfl⟩ := textAfresh_eq_ok_iff.1 compiled
  have shorter := remaining_push_lt fresh (Table.mem_names_iff.2 ⟨definition, found⟩)
  apply HasText.entry _ found
  intro mentioned member
  apply hasText_of_textAfresh (stack ++ [name])
  exact textAfresh_of_resolves (fits.resolves mentioned member)
termination_by (remaining definitions stack).length

structure Entry.Means (definitions : Table Definition) (entry : Entry) (definition : Definition) :
    Prop where
  description : entry.description = definition.description
  grammar : entry.query.grammar = definition.grammar
  absolute : entry.query.absolute = definition.isPageRooted
  text : ∀ text, HasText definitions entry.name text ↔ text = entry.query.text

theorem name_of_compileAfresh {definition : Definition} {entry : Entry}
    (compiled : compileAfresh definitions name definition = .ok entry) : entry.name = name := by
  obtain ⟨selector, -, compiled⟩ := bind_eq_ok_iff.1 compiled
  obtain ⟨query, -, rfl⟩ := bind_pure_eq_ok_iff.1 compiled
  rfl

theorem means_of_compileAfresh {definition : Definition} {entry : Entry}
    (found : definitions.get? name = some definition)
    (compiled : compileAfresh definitions name definition = .ok entry) :
    entry.Means definitions definition := by
  simp only [compileAfresh, Query.compile, Query.compileWith, bind_eq_ok_iff, mapError_eq_ok_iff,
    pure_eq_ok_iff] at compiled
  obtain ⟨selector, built, _, ⟨text, rendered, rfl⟩, rfl⟩ := compiled
  obtain ⟨-, other, otherFound, assembled⟩ := buildAfresh_eq_ok_iff.1 built
  obtain rfl : definition = other := Table.eq_of_get? found otherFound
  have has : HasText definitions name text :=
    hasText_of_textAfresh [] name text (bind_eq_ok_iff.2 ⟨selector, built, rendered⟩)
  exact {
    description := rfl
    grammar := definition.grammar_of_assemble assembled
    absolute := definition.isAbsolute_of_assemble assembled
    text := fun text => ⟨fun other => other.unique has, fun same => same ▸ has⟩ }

/-- A catalog has the names of its file, and each entry has the text of its definition: the one that
can be read off the definitions alone. -/
theorem means_of_ofFile {file : File} {catalog : Catalog} (made : ofFile file = .ok catalog) :
    catalog.names = file.selectors.names ∧
      ∀ entry ∈ catalog.entries, ∃ definition,
        file.selectors.get? entry.name = some definition ∧
          entry.Means file.selectors definition := by
  rw [ofFile_eq_afresh] at made
  obtain ⟨entries, compiled, rfl⟩ := bind_pure_eq_ok_iff.1 made
  constructor
  · have names : List.Forall₂ Eq (entries.map Entry.name) (file.selectors.entries.map (·.1)) := by
      rw [List.forall₂_map_left_iff, List.forall₂_map_right_iff]
      exact (mapM_eq_ok_iff.1 compiled).flip.imp fun _ _ => name_of_compileAfresh
    rwa [List.forall₂_eq_eq_eq] at names
  · intro entry member
    obtain ⟨⟨name, definition⟩, listed, compiled⟩ :=
      exists_of_mem_right (mapM_eq_ok_iff.1 compiled) member
    have found := Table.get?_eq_some_iff.2 listed
    refine ⟨definition, ?_, means_of_compileAfresh found compiled⟩
    rw [name_of_compileAfresh compiled]
    exact found

def pageFile : File where
  selectors := .ofList
    [("heading", ⟨.xpath, none, none,
        [⟨.page, some " h2 ", [.not (.not (.classes ["title"]))], none⟩]⟩),
      ("item", ⟨.xpath, some "before the heading", none,
        [⟨.page, some "li",
            [.attribute " lang " (.compare .endsWith) "US", .not (.boundary "heading")], none⟩,
          ⟨.limitedBy, none, [], some "heading"⟩]⟩),
      ("link", ⟨.css, none, some "nav", [⟨.child, none, [.tag "a", .not (.id "top")], none⟩]⟩)]

def pageTexts : List String :=
  ["/descendant::h2[not(contains(concat(' ', normalize-space(@class), ' '), ' title '))]",
    "/descendant::li[substring(@lang, string-length(@lang) - string-length('US')+1) = 'US']" ++
      "[not(following::h2[not(contains(concat(' ', normalize-space(@class), ' '), ' title '))])]" ++
      "[following::h2[not(contains(concat(' ', normalize-space(@class), ' '), ' title '))]]",
    "nav > a:not([id='top'])"]

theorem means_of_ofFile_pageFile :
    ∃ catalog, ofFile pageFile = .ok catalog ∧
      catalog.entries.map (·.query.text) = pageTexts ∧
        catalog.names = pageFile.selectors.names ∧
          ∀ entry ∈ catalog.entries, ∃ definition,
            pageFile.selectors.get? entry.name = some definition ∧
              entry.Means pageFile.selectors definition := by
  have compiled : (ofFile pageFile).toOption.map
      (fun catalog => catalog.entries.map (·.query.text)) = some pageTexts := by
    decide +kernel
  cases made : ofFile pageFile with
  | error fault =>
      rw [made] at compiled
      cases compiled
  | ok catalog =>
      rw [made] at compiled
      exact ⟨catalog, rfl, Option.some.inj compiled, means_of_ofFile made⟩

end PageSelectors.Catalog
