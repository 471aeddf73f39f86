import PageSelectors.Proofs.Catalog.ConditionCompilation

/-!
Steps, from the definition to the text. A step is put together after a chain and rendered exactly if
it may stand there, is well formed and its boundaries resolve, and it appends to the text what is
read off its definition.
-/

namespace PageSelectors.Catalog

open Text (trim)
open Outcome

variable {resolve : String → Except Fault XPath.Chain}

section Conditions

variable {Native : Type} {toGrammar : Leaf → Except Fault (Condition Native)}

theorem assembleConditions_eq (definitions : List ConditionDefinition) :
    assembleConditions resolve toGrammar definitions =
      definitions.mapM fun definition => definition.leaf resolve >>= toGrammar := by
  induction definitions with
  | nil => rfl
  | cons definition rest ih =>
      rw [assembleConditions, List.mapM_cons, ih]
      simp only [settle_eq, bind_assoc]

theorem isEmpty_of_assembleConditions {definitions : List ConditionDefinition}
    {conditions : List (Condition Native)}
    (assembled : assembleConditions resolve toGrammar definitions = .ok conditions) :
    conditions.isEmpty = definitions.isEmpty := by
  rw [assembleConditions_eq, mapM_eq_ok_iff] at assembled
  cases assembled with
  | nil => rfl
  | cons _ _ => rfl

theorem assembleConditions_render_iff {render : Condition Native → Except Fault String}
    {passes : ConditionDefinition → Prop} {write : ConditionDefinition → String}
    (decides : ∀ definition text,
      (do
        let leaf ← definition.leaf resolve
        let condition ← toGrammar leaf
        render condition) = .ok text ↔ passes definition ∧ text = write definition)
    {definitions : List ConditionDefinition} {text : String} :
    (∃ conditions, assembleConditions resolve toGrammar definitions = .ok conditions ∧
      (do return String.join (← conditions.mapM render)) = .ok text) ↔
        (∀ definition ∈ definitions, passes definition) ∧
          text = String.join (definitions.map write) := by
  rw [← bind_eq_ok_iff, assembleConditions_eq, ← bind_assoc]
  apply bind_pure_eq_ok_iff_of String.join
  intro texts
  rw [mapM_mapM_eq_ok_iff]
  apply mapM_eq_ok_iff_map
  intro definition text
  rw [bind_assoc]
  exact decides definition text

end Conditions

namespace StepDefinition

structure Fits (grammar : Grammar) (resolve : String → Except Fault XPath.Chain)
    (step : StepDefinition) : Prop where
  wellFormed : step.WellFormed grammar
  resolves : ∀ mentioned ∈ step.mentions, Resolves resolve mentioned

variable {step : StepDefinition} {grammar : Grammar}

theorem checkShape_eq_ok_iff :
    step.checkShape = .ok () ↔
      (¬ step.HasTag → step.tag = none ∧ step.conditions = []) ∧
        (step.kind ≠ .limitedBy → step.boundary = none) := by
  have full : (step.tag.isSome ∨ step.conditions ≠ []) ↔
      ¬ (step.tag = none ∧ step.conditions = []) := by
    rw [not_and_or, Option.isSome_iff_ne_none]
  unfold checkShape HasTag
  simp only [full]
  by_cases limit : step.kind = .limitedBy
  · simp [limit]
  · by_cases parent : step.kind = .parent
    · by_cases bare : step.tag = none ∧ step.conditions = []
      · simp [parent, bare]
      · simp [parent, bare]
    · simp [limit, parent]

theorem mentions_eq_of_boundary (bare : step.boundary = none) :
    step.mentions = step.conditions.flatMap ConditionDefinition.mentions := by
  rw [mentions, bare]
  rfl

theorem fits_iff_of_hasTag (tagged : step.HasTag) :
    step.Fits grammar resolve ↔ step.boundary = none ∧
      IsTag grammar (trim (step.tag.getD (defaultTag grammar))) (!step.conditions.isEmpty) ∧
        ∀ condition ∈ step.conditions, condition.Fits grammar resolve := by
  constructor
  · rintro ⟨wellFormed, resolves⟩
    have bare : step.boundary = none := by
      simpa [tagged.2] using wellFormed.limited
    refine ⟨bare, wellFormed.tagged tagged, fun condition member => ?_⟩
    refine ⟨wellFormed.supported condition member, wellFormed.named condition member, ?_⟩
    intro mentioned inCondition
    apply resolves
    rw [mentions_eq_of_boundary bare]
    exact List.mem_flatMap_of_mem member inCondition
  · rintro ⟨bare, good, fits⟩
    constructor
    · exact {
        bare := fun tagless => absurd tagged tagless
        limited := by simp [bare, tagged.2]
        supported := fun condition member => (fits condition member).supported
        tagged := fun _ => good
        named := fun condition member => (fits condition member).named }
    · rw [mentions_eq_of_boundary bare]
      intro mentioned member
      obtain ⟨condition, inStep, inCondition⟩ := List.mem_flatMap.1 member
      exact (fits condition inStep).resolves mentioned inCondition

theorem fits_iff_of_parent (parent : step.kind = .parent) :
    step.Fits grammar resolve ↔
      step.boundary = none ∧ step.tag = none ∧ step.conditions = [] := by
  have tagless : ¬ step.HasTag := fun tagged => tagged.1 parent
  constructor
  · rintro ⟨wellFormed, -⟩
    exact ⟨by simpa [parent] using wellFormed.limited, wellFormed.bare tagless⟩
  · rintro ⟨bare, untagged, unconditional⟩
    constructor
    · exact {
        bare := fun _ => ⟨untagged, unconditional⟩
        limited := by simp [bare, parent]
        supported := by simp [unconditional]
        tagged := fun tagged => absurd tagged tagless
        named := by simp [unconditional] }
    · simp [mentions, bare, unconditional]

theorem fits_iff_of_limitedBy (limit : step.kind = .limitedBy) :
    step.Fits grammar resolve ↔ (step.tag = none ∧ step.conditions = []) ∧
      ∃ entry, step.boundary = some entry ∧ Resolves resolve entry := by
  have tagless : ¬ step.HasTag := fun tagged => tagged.2 limit
  constructor
  · rintro ⟨wellFormed, resolves⟩
    obtain ⟨entry, named⟩ := Option.isSome_iff_exists.1 (wellFormed.limited.2 limit)
    exact ⟨wellFormed.bare tagless, entry, named, resolves entry (by simp [mentions, named])⟩
  · rintro ⟨⟨untagged, unconditional⟩, entry, named, resolved⟩
    constructor
    · exact {
        bare := fun _ => ⟨untagged, unconditional⟩
        limited := by simp [named, limit]
        supported := by simp [unconditional]
        tagged := fun tagged => absurd tagged tagless
        named := by simp [unconditional] }
    · simpa [mentions, named, unconditional] using resolved

end StepDefinition

section Element

variable {Native : Type} {grammar : Grammar} {step : StepDefinition}

theorem shaped_render_iff {toGrammar : Leaf → Except Fault (Condition Native)}
    {render : Condition Native → Except Fault String} {write : ConditionDefinition → String}
    (tagged : step.HasTag)
    (decides : ∀ definition text,
      (do
        let leaf ← definition.leaf resolve
        let condition ← toGrammar leaf
        render condition) = .ok text ↔ definition.Fits grammar resolve ∧ text = write definition)
    (finish : String → String) {text : String} :
    (step.checkShape = .ok () ∧ ∃ conditions,
      assembleConditions resolve toGrammar step.conditions = .ok conditions ∧
        IsTag grammar (trim (step.tag.getD (defaultTag grammar))) (!conditions.isEmpty) ∧
          ∃ others, (do return String.join (← conditions.mapM render)) = .ok others ∧
            text = finish others) ↔
      step.Fits grammar resolve ∧ text = finish (String.join (step.conditions.map write)) := by
  have decided {others : String} :
      (∃ conditions, assembleConditions resolve toGrammar step.conditions = .ok conditions ∧
        (do return String.join (← conditions.mapM render)) = .ok others) ↔
          (∀ condition ∈ step.conditions, condition.Fits grammar resolve) ∧
            others = String.join (step.conditions.map write) :=
    assembleConditions_render_iff decides
  rw [step.fits_iff_of_hasTag tagged, StepDefinition.checkShape_eq_ok_iff]
  constructor
  · rintro ⟨⟨-, bare⟩, conditions, assembled, good, others, rendered, rfl⟩
    rw [isEmpty_of_assembleConditions assembled] at good
    obtain ⟨fits, rfl⟩ := decided.1 ⟨conditions, assembled, rendered⟩
    exact ⟨⟨bare tagged.2, good, fits⟩, rfl⟩
  · rintro ⟨⟨bare, good, fits⟩, rfl⟩
    obtain ⟨conditions, assembled, rendered⟩ := decided.2 ⟨fits, rfl⟩
    rw [← isEmpty_of_assembleConditions assembled] at good
    exact ⟨⟨fun tagless => absurd tagged tagless, fun _ => bare⟩, conditions, assembled, good, _,
      rendered, rfl⟩

end Element

section Css

variable {step : StepDefinition} {text : String}

theorem cssStart_render_iff {kind : StepKind} {tag : String}
    {conditions : List (Condition Css.Native)} :
    (cssStart tag conditions kind >>= Css.Chain.render) = .ok text ↔
      kind ∈ startKinds .css ∧ Css.Compound tag conditions text := by
  cases kind with
  | page =>
      rw [cssStart, ok_bind, Css.Chain.render_page_eq_ok_iff]
      exact (and_iff_right (by decide)).symm
  | descendant =>
      rw [cssStart, ok_bind, Css.Chain.render_relative_eq_ok_iff]
      exact (and_iff_right (by decide)).symm
  | _ => simp [cssStart, startKinds]

theorem cssNext_render_iff {before : Css.Chain} {kind : StepKind} {tag : String}
    {conditions : List (Condition Css.Native)} :
    (cssNext before tag conditions kind >>= Css.Chain.render) = .ok text ↔
      kind ∈ laterKinds .css ∧ ∃ start, before.render = .ok start ∧
        ∃ compound, Css.Compound tag conditions compound ∧
          text = start ++ (if start = "" then "" else kind.combinator) ++ compound := by
  cases kind with
  | descendant | child | sibling | nextSibling =>
      rw [cssNext, ok_bind, Css.Chain.render_step_eq_ok_iff]
      exact (and_iff_right (by decide)).symm
  | _ => simp [cssNext, laterKinds]

theorem hasTag_of_mem_startKinds_css (starts : step.kind ∈ startKinds .css) : step.HasTag := by
  constructor <;> intro same <;> simp [same, startKinds] at starts

theorem hasTag_of_mem_laterKinds_css (continues : step.kind ∈ laterKinds .css) : step.HasTag := by
  constructor <;> intro same <;> simp [same, laterKinds] at continues

theorem compound_iff (tagged : step.HasTag) :
    (step.checkShape = .ok () ∧ ∃ conditions,
      assembleConditions resolve Leaf.toCss step.conditions = .ok conditions ∧
        Css.Compound step.cssTag conditions text) ↔
      step.Fits .css resolve ∧
        text = trim step.cssTag ++
          String.join (step.conditions.map ConditionDefinition.cssText) := by
  simp only [Css.Compound, Css.renderConditions_eq]
  exact shaped_render_iff tagged (fun _ _ => ConditionDefinition.css_eq_ok_iff)
    (trim step.cssTag ++ ·)

theorem startCss_render_iff :
    (startCss resolve step >>= Css.Chain.render) = .ok text ↔
      (step.kind ∈ startKinds .css ∧ step.Fits .css resolve) ∧ text = step.appendCss "" := by
  have appended : step.appendCss "" = trim step.cssTag ++
      String.join (step.conditions.map ConditionDefinition.cssText) := by
    simp only [StepDefinition.appendCss, if_true, String.empty_append]
    rfl
  simp only [startCss, settle_eq, bind_assoc]
  rw [guard_eq_ok_iff, bind_eq_ok_iff, appended]
  simp only [cssStart_render_iff]
  constructor
  · rintro ⟨shaped, conditions, assembled, starts, compound⟩
    obtain ⟨fits, rfl⟩ := (compound_iff (hasTag_of_mem_startKinds_css starts)).1
      ⟨shaped, conditions, assembled, compound⟩
    exact ⟨⟨starts, fits⟩, rfl⟩
  · rintro ⟨⟨starts, fits⟩, rfl⟩
    obtain ⟨shaped, conditions, assembled, compound⟩ :=
      (compound_iff (hasTag_of_mem_startKinds_css starts)).2 ⟨fits, rfl⟩
    exact ⟨shaped, conditions, assembled, starts, compound⟩

theorem continueCss_render_iff {before : Css.Chain} :
    (continueCss resolve before step >>= Css.Chain.render) = .ok text ↔
      ∃ start, before.render = .ok start ∧
        (step.kind ∈ laterKinds .css ∧ step.Fits .css resolve) ∧ text = step.appendCss start := by
  simp only [continueCss, settle_eq, bind_assoc]
  rw [guard_eq_ok_iff, bind_eq_ok_iff]
  simp only [cssNext_render_iff]
  constructor
  · rintro ⟨shaped, conditions, assembled, continues, start, rendered, compound, written, rfl⟩
    obtain ⟨fits, rfl⟩ := (compound_iff (hasTag_of_mem_laterKinds_css continues)).1
      ⟨shaped, conditions, assembled, written⟩
    refine ⟨start, rendered, ⟨continues, fits⟩, ?_⟩
    rw [← String.append_assoc]
    rfl
  · rintro ⟨start, rendered, ⟨continues, fits⟩, rfl⟩
    obtain ⟨shaped, conditions, assembled, compound⟩ :=
      (compound_iff (hasTag_of_mem_laterKinds_css continues)).2 ⟨fits, rfl⟩
    refine ⟨shaped, conditions, assembled, continues, start, rendered, _, compound, ?_⟩
    rw [← String.append_assoc]
    rfl

end Css

section XPath

variable {step : StepDefinition} {text : String}

def Written (kind : StepKind) (tag : String)
    (conditions : List (Condition (XPath.Native XPath.Chain))) (text : String) : Prop :=
  if kind = .parent then text = XPath.Relation.parent.token ++ anyTag
  else XPath.Element ("/" ++ kind.axis ++ "::") tag conditions text

theorem xpathStart_render_iff {kind : StepKind} {tag : String}
    {conditions : List (Condition (XPath.Native XPath.Chain))} :
    (xpathStart tag conditions kind >>= XPath.Chain.render) = .ok text ↔
      kind ∈ startKinds .xpath ∧ Written kind tag conditions text := by
  cases kind with
  | page =>
      rw [xpathStart, ok_bind, XPath.Chain.render_page, XPath.renderStep_element_eq_ok_iff]
      exact (and_iff_right (by decide)).symm
  | descendant | child | sibling | precedingSibling | following | preceding =>
      rw [xpathStart, ok_bind, XPath.Chain.render, XPath.renderStep_element_eq_ok_iff]
      exact (and_iff_right (by decide)).symm
  | parent =>
      rw [xpathStart, ok_bind, XPath.Chain.render, XPath.renderStep_parent_eq_ok_iff]
      exact (and_iff_right (by decide)).symm
  | _ => simp [xpathStart, startKinds]

theorem xpathNext_render_iff {before : XPath.Chain} {kind : StepKind} (ordinary : kind ≠ .limitedBy)
    {tag : String} {conditions : List (Condition (XPath.Native XPath.Chain))} :
    (xpathNext before tag conditions kind >>= XPath.Chain.render) = .ok text ↔
      kind ∈ laterKinds .xpath ∧ ∃ start, before.render = .ok start ∧
        ∃ written, Written kind tag conditions written ∧ text = start ++ written := by
  cases kind with
  | descendant | child | sibling | precedingSibling | following | preceding =>
      rw [xpathNext, ok_bind, XPath.Chain.render_step_eq_ok_iff]
      simp only [XPath.renderStep_element_eq_ok_iff]
      exact (and_iff_right (by decide)).symm
  | parent =>
      rw [xpathNext, ok_bind, XPath.Chain.render_step_eq_ok_iff]
      simp only [XPath.renderStep_parent_eq_ok_iff]
      exact (and_iff_right (by decide)).symm
  | limitedBy => exact absurd rfl ordinary
  | _ => simp [xpathNext, laterKinds]

theorem written_iff_of_parent (parent : step.kind = .parent) :
    (step.checkShape = .ok () ∧ ∃ conditions,
      assembleConditions resolve Leaf.toXPath step.conditions = .ok conditions ∧
        Written step.kind step.xpathTag conditions text) ↔
      step.Fits .xpath resolve ∧ text = step.appendXPath (limitText resolve) "" := by
  have tagless : ¬ step.HasTag := fun tagged => tagged.1 parent
  have appended (unconditional : step.conditions = []) :
      step.appendXPath (limitText resolve) "" = XPath.Relation.parent.token ++ anyTag := by
    simp only [StepDefinition.appendXPath, StepDefinition.writtenTag, parent, unconditional,
      reduceCtorEq, if_false, if_true, String.empty_append]
    rfl
  rw [StepDefinition.checkShape_eq_ok_iff, StepDefinition.fits_iff_of_parent parent]
  simp only [Written, if_pos parent]
  constructor
  · rintro ⟨⟨fieldless, bare⟩, -, -, rfl⟩
    have unconditional := (fieldless tagless).2
    exact ⟨⟨bare (by simp [parent]), fieldless tagless⟩, (appended unconditional).symm⟩
  · rintro ⟨⟨bare, fieldless⟩, rfl⟩
    refine ⟨⟨fun _ => fieldless, fun _ => bare⟩, [], ?_, appended fieldless.2⟩
    rw [fieldless.2]
    rfl

theorem written_iff (ordinary : step.kind ≠ .limitedBy) :
    (step.checkShape = .ok () ∧ ∃ conditions,
      assembleConditions resolve Leaf.toXPath step.conditions = .ok conditions ∧
        Written step.kind step.xpathTag conditions text) ↔
      step.Fits .xpath resolve ∧ text = step.appendXPath (limitText resolve) "" := by
  by_cases parent : step.kind = .parent
  · exact written_iff_of_parent parent
  · have appended : step.appendXPath (limitText resolve) "" =
        "/" ++ step.kind.axis ++ "::" ++ trim step.xpathTag ++
          String.join (step.conditions.map
            (ConditionDefinition.xpathText (limitText resolve))) := by
      simp only [StepDefinition.appendXPath, StepDefinition.writtenTag, if_neg ordinary,
        if_neg parent, String.empty_append]
      rfl
    rw [appended]
    simp only [Written, if_neg parent, XPath.Element, XPath.renderConditions_eq]
    exact shaped_render_iff ⟨parent, ordinary⟩ (fun _ _ => ConditionDefinition.xpath_eq_ok_iff)
      ("/" ++ step.kind.axis ++ "::" ++ trim step.xpathTag ++ ·)

theorem appendXPath_eq (limit : String → String) (ordinary : step.kind ≠ .limitedBy)
    (start : String) : step.appendXPath limit start = start ++ step.appendXPath limit "" := by
  simp only [StepDefinition.appendXPath, if_neg ordinary, String.empty_append, String.append_assoc]

theorem appendXPath_of_limitedBy (limit : String → String) (limited : step.kind = .limitedBy)
    {entry : String} (named : step.boundary = some entry) (start : String) :
    step.appendXPath limit start = start ++ XPath.predicate false (limit entry) := by
  rw [StepDefinition.appendXPath, if_pos limited, named]
  simp [XPath.predicate, String.append_assoc]

theorem startXPath_render_iff :
    (startXPath resolve step >>= XPath.Chain.render) = .ok text ↔
      (step.kind ∈ startKinds .xpath ∧ step.Fits .xpath resolve) ∧
        text = step.appendXPath (limitText resolve) "" := by
  have ordinary (starts : step.kind ∈ startKinds .xpath) : step.kind ≠ .limitedBy := by
    intro limited
    simp [limited, startKinds] at starts
  simp only [startXPath, settle_eq, bind_assoc]
  rw [guard_eq_ok_iff, bind_eq_ok_iff]
  simp only [xpathStart_render_iff]
  constructor
  · rintro ⟨shaped, conditions, assembled, starts, written⟩
    obtain ⟨fits, same⟩ := (written_iff (ordinary starts)).1
      ⟨shaped, conditions, assembled, written⟩
    exact ⟨⟨starts, fits⟩, same⟩
  · rintro ⟨⟨starts, fits⟩, same⟩
    obtain ⟨shaped, conditions, assembled, written⟩ :=
      (written_iff (ordinary starts)).2 ⟨fits, same⟩
    exact ⟨shaped, conditions, assembled, starts, written⟩

variable {before : XPath.Chain}

theorem continueXPath_render_iff_of_limitedBy (limited : step.kind = .limitedBy) :
    (continueXPath resolve before step >>= XPath.Chain.render) = .ok text ↔
      ∃ start, before.render = .ok start ∧
        (step.kind ∈ laterKinds .xpath ∧ step.Fits .xpath resolve) ∧
          text = step.appendXPath (limitText resolve) start := by
  have tagless : ¬ step.HasTag := fun tagged => tagged.2 limited
  simp only [continueXPath, settle_eq, bind_assoc, if_pos limited]
  rw [guard_eq_ok_iff, StepDefinition.checkShape_eq_ok_iff,
    StepDefinition.fits_iff_of_limitedBy limited]
  cases named : step.boundary with
  | none => simp
  | some entry =>
      simp only [bind_assoc, pure_bind, bind_eq_ok_iff, XPath.Chain.render_limitedBy_eq_ok_iff,
        appendXPath_of_limitedBy _ limited named]
      constructor
      · rintro ⟨⟨fieldless, -⟩, limit, resolved, start, rendered, test, tested, rfl⟩
        obtain ⟨resolves, rfl⟩ :=
          boundaryTest_resolved_iff.1 (bind_eq_ok_iff.2 ⟨limit, resolved, tested⟩)
        refine ⟨start, rendered, ⟨?_, fieldless tagless, entry, rfl, resolves⟩, rfl⟩
        rw [limited]
        decide
      · rintro ⟨start, rendered, ⟨-, fieldless, _, ⟨rfl⟩, resolves⟩, rfl⟩
        obtain ⟨limit, resolved, tested⟩ :=
          bind_eq_ok_iff.1 (boundaryTest_resolved_iff.2 ⟨resolves, rfl⟩)
        exact ⟨⟨fun _ => fieldless, fun other => absurd limited other⟩, limit, resolved, start,
          rendered, _, tested, rfl⟩

theorem continueXPath_render_iff :
    (continueXPath resolve before step >>= XPath.Chain.render) = .ok text ↔
      ∃ start, before.render = .ok start ∧
        (step.kind ∈ laterKinds .xpath ∧ step.Fits .xpath resolve) ∧
          text = step.appendXPath (limitText resolve) start := by
  by_cases limited : step.kind = .limitedBy
  · exact continueXPath_render_iff_of_limitedBy limited
  · simp only [continueXPath, settle_eq, bind_assoc, if_neg limited]
    rw [guard_eq_ok_iff, bind_eq_ok_iff]
    simp only [xpathNext_render_iff limited]
    constructor
    · rintro ⟨shaped, conditions, assembled, continues, start, rendered, _, written, rfl⟩
      obtain ⟨fits, rfl⟩ := (written_iff limited).1 ⟨shaped, conditions, assembled, written⟩
      exact ⟨start, rendered, ⟨continues, fits⟩, (appendXPath_eq _ limited start).symm⟩
    · rintro ⟨start, rendered, ⟨continues, fits⟩, rfl⟩
      obtain ⟨shaped, conditions, assembled, written⟩ := (written_iff limited).2 ⟨fits, rfl⟩
      exact ⟨shaped, conditions, assembled, continues, start, rendered, _, written,
        appendXPath_eq _ limited start⟩

end XPath

end PageSelectors.Catalog
