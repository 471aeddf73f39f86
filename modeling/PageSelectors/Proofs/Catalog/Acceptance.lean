import PageSelectors.Proofs.Catalog.DefinitionCompilation
import PageSelectors.Proofs.Catalog.Sharing

/-!
Which files make a catalog. An entry compiles on a stack exactly if it is not on it, is well formed,
and everything it mentions is a boundary that compiles with the entry on top of the stack. Unfolding
this along the mentions, the stack turns into the absence of cycles.
-/

namespace PageSelectors.Catalog

open Outcome

variable {definitions : Table Definition} {stack : List String} {name text : String}

def textAfresh (definitions : Table Definition) (stack : List String) (name : String) :
    Except Fault String :=
  buildAfresh definitions stack name >>= Selector.render

def Compiles (definitions : Table Definition) (stack : List String) (name : String) : Prop :=
  ∃ text, textAfresh definitions stack name = .ok text

theorem textAfresh_eq_ok_iff :
    textAfresh definitions stack name = .ok text ↔
      name ∉ stack ∧ ∃ definition, definitions.get? name = some definition ∧
        definition.Fits (boundaryOf (buildAfresh definitions (stack ++ [name]))) ∧
          text = definition.text
            (limitText (boundaryOf (buildAfresh definitions (stack ++ [name])))) := by
  rw [textAfresh, bind_eq_ok_iff]
  simp only [buildAfresh_eq_ok_iff, ← Definition.assemble_render_iff, bind_eq_ok_iff]
  constructor
  · rintro ⟨selector, ⟨fresh, definition, found, assembled⟩, rendered⟩
    exact ⟨fresh, definition, found, selector, assembled, rendered⟩
  · rintro ⟨fresh, definition, found, selector, assembled, rendered⟩
    exact ⟨selector, ⟨fresh, definition, found, assembled⟩, rendered⟩

theorem boundaryChain_eq_ok_iff {selector : Selector} {chain : XPath.Chain} :
    boundaryChain name selector = .ok chain ↔ selector = .xpath chain := by
  cases selector with
  | css other => simp [boundaryChain]
  | xpath other => simp [boundaryChain]

theorem resolves_iff :
    Resolves (boundaryOf (buildAfresh definitions stack)) name ↔
      IsBoundary definitions name ∧ Compiles definitions stack name := by
  simp only [Resolves, boundaryOf, bind_eq_ok_iff, boundaryChain_eq_ok_iff, Compiles, textAfresh]
  constructor
  · rintro ⟨chain, text, ⟨_, built, rfl⟩, absolute, rendered⟩
    obtain ⟨-, definition, found, assembled⟩ := buildAfresh_eq_ok_iff.1 built
    refine ⟨⟨definition, found, ?_, ?_⟩, text, _, built, rendered⟩
    · exact (definition.grammar_of_assemble assembled).symm
    · exact (definition.isAbsolute_of_assemble assembled).symm.trans absolute
  · rintro ⟨⟨definition, found, grammar, rooted⟩, text, selector, built, rendered⟩
    obtain ⟨-, other, foundOther, assembled⟩ := buildAfresh_eq_ok_iff.1 built
    obtain rfl : definition = other := Table.eq_of_get? found foundOther
    have sameGrammar := definition.grammar_of_assemble assembled
    cases selector with
    | css chain =>
        rw [grammar] at sameGrammar
        cases sameGrammar
    | xpath chain =>
        refine ⟨chain, text, ⟨_, built, rfl⟩, ?_, rendered⟩
        exact (definition.isAbsolute_of_assemble assembled).trans rooted

/-- The step of compilation: from an entry to what it mentions. -/
theorem compiles_iff :
    Compiles definitions stack name ↔
      name ∉ stack ∧ ∃ definition, definitions.get? name = some definition ∧
        definition.WellFormed ∧ ∀ mentioned ∈ definition.mentions,
          IsBoundary definitions mentioned ∧ Compiles definitions (stack ++ [name]) mentioned := by
  unfold Compiles
  simp only [textAfresh_eq_ok_iff]
  constructor
  · rintro ⟨text, fresh, definition, found, ⟨wellFormed, resolves⟩, -⟩
    refine ⟨fresh, definition, found, wellFormed, fun mentioned member => ?_⟩
    simpa only [Compiles, textAfresh_eq_ok_iff] using resolves_iff.1 (resolves mentioned member)
  · rintro ⟨fresh, definition, found, wellFormed, boundaries⟩
    refine ⟨_, fresh, definition, found, ⟨wellFormed, fun mentioned member => ?_⟩, rfl⟩
    apply resolves_iff.2
    simpa only [Compiles, textAfresh_eq_ok_iff] using boundaries mentioned member

theorem Compiles.of_mentions {mentioned : String} (compiles : Compiles definitions stack name)
    (mentions : Mentions definitions name mentioned) :
    Compiles definitions (stack ++ [name]) mentioned := by
  obtain ⟨-, definition, found, -, boundaries⟩ := compiles_iff.1 compiles
  obtain ⟨other, foundOther, member⟩ := mentions
  obtain rfl : definition = other := Table.eq_of_get? found foundOther
  exact (boundaries mentioned member).2

/-- No walk from an entry that compiles comes back to it or to the stack. -/
theorem Compiles.not_mem_of_walk {reached : String}
    (walk : Relation.TransGen (Mentions definitions) name reached)
    (compiles : Compiles definitions stack name) : reached ∉ stack ++ [name] := by
  induction walk using Relation.TransGen.head_induction_on generalizing stack with
  | single mentions => exact (compiles_iff.1 (compiles.of_mentions mentions)).1
  | head mentions _ ih =>
      intro member
      exact ih (compiles.of_mentions mentions) (List.mem_append_left _ member)

/-- In an acceptable file an entry compiles on every stack that no walk from it leads to. -/
theorem compiles_of_acceptable
    (acceptable : ∀ name definition, definitions.get? name = some definition →
      Acceptable definitions name definition)
    (stack : List String) (name : String) (known : name ∈ definitions.names) (fresh : name ∉ stack)
    (apart : ∀ reached, Relation.TransGen (Mentions definitions) name reached → reached ∉ stack) :
    Compiles definitions stack name := by
  obtain ⟨definition, found⟩ := Table.mem_names_iff.1 known
  have accepted := acceptable name definition found
  refine compiles_iff.2 ⟨fresh, definition, found, accepted.wellFormed, fun mentioned member => ?_⟩
  have boundary := accepted.boundaries mentioned member
  have mentions : Mentions definitions name mentioned := ⟨definition, found, member⟩
  -- The stack grows by the entry itself, which no walk comes back to.
  have above {reached : String} (walk : Relation.TransGen (Mentions definitions) name reached) :
      reached ∉ stack ++ [name] := by
    rw [List.mem_append, List.mem_singleton, not_or]
    refine ⟨apart reached walk, ?_⟩
    rintro rfl
    exact accepted.acyclic walk
  have shorter := remaining_push_lt fresh known
  refine ⟨boundary, compiles_of_acceptable acceptable (stack ++ [name]) mentioned ?_ ?_ ?_⟩
  · obtain ⟨other, foundOther, -⟩ := boundary
    exact Table.mem_names_iff.2 ⟨other, foundOther⟩
  · exact above (.single mentions)
  · exact fun reached walk => above (.head mentions walk)
termination_by (remaining definitions stack).length

theorem compileAfresh_isOk_iff {definition : Definition} :
    (∃ entry, compileAfresh definitions name definition = .ok entry) ↔
      Compiles definitions [] name := by
  simp only [compileAfresh, Query.compile, Query.compileWith, bind_eq_ok_iff, mapError_eq_ok_iff,
    pure_eq_ok_iff, Compiles, textAfresh]
  constructor
  · rintro ⟨entry, selector, built, query, ⟨text, rendered, -⟩, -⟩
    exact ⟨text, selector, built, rendered⟩
  · rintro ⟨text, selector, built, rendered⟩
    exact ⟨_, selector, built, _, ⟨text, rendered, rfl⟩, rfl⟩

theorem ofFile_isOk_iff_compiles (file : File) :
    (∃ catalog, ofFile file = .ok catalog) ↔
      ∀ listed ∈ file.selectors.entries, Compiles file.selectors [] listed.1 := by
  have decided : (∃ catalog, ofFile file = .ok catalog) ↔
      ∃ entries, (file.selectors.entries.mapM fun listed =>
        compileAfresh file.selectors listed.1 listed.2) = .ok entries := by
    rw [ofFile_eq_afresh, ofFileAfresh]
    simp only [bind_pure_eq_ok_iff]
    constructor
    · rintro ⟨_, entries, compiled, -⟩
      exact ⟨entries, compiled⟩
    · rintro ⟨entries, compiled⟩
      exact ⟨_, entries, compiled, rfl⟩
  rw [decided, mapM_isOk_iff]
  exact forall₂_congr fun _ _ => compileAfresh_isOk_iff

theorem acceptable_of_compiles {definition : Definition}
    (found : definitions.get? name = some definition) (compiles : Compiles definitions [] name) :
    Acceptable definitions name definition := by
  obtain ⟨-, other, foundOther, wellFormed, boundaries⟩ := compiles_iff.1 compiles
  obtain rfl : definition = other := Table.eq_of_get? found foundOther
  exact {
    wellFormed
    boundaries := fun mentioned inside => (boundaries mentioned inside).1
    acyclic := fun walk => compiles.not_mem_of_walk walk (by simp) }

/-- A file makes a catalog exactly if every entry of it is acceptable: its steps and conditions are
ones its grammar has, its names and tags are good, what it mentions can be a boundary, and it does
not lead back to itself. -/
theorem ofFile_isOk_iff (file : File) :
    (∃ catalog, ofFile file = .ok catalog) ↔
      ∀ listed ∈ file.selectors.entries, Acceptable file.selectors listed.1 listed.2 := by
  rw [ofFile_isOk_iff_compiles]
  constructor
  · rintro compiles ⟨name, definition⟩ member
    exact acceptable_of_compiles (Table.get?_eq_some_iff.2 member) (compiles _ member)
  · rintro acceptable ⟨name, definition⟩ member
    apply compiles_of_acceptable
    · exact fun other definition found => acceptable (other, definition)
        (Table.get?_eq_some_iff.1 found)
    · exact Table.mem_names_iff.2 ⟨definition, Table.get?_eq_some_iff.2 member⟩
    · simp
    · simp

end PageSelectors.Catalog
