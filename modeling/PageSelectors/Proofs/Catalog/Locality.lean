import PageSelectors.Proofs.Catalog.DefinitionCompilation
import PageSelectors.Proofs.Faults
import PageSelectors.Proofs.Naming

/-!
Where the faults of a definition come from. Put together and compiled with other boundaries, a
definition behaves in the same way up to the first fault that one of the boundaries brings in. So
every fault is either borrowed from a boundary or the definition's own, and its own faults stay
whatever its boundaries stand for.
-/

namespace PageSelectors

open Outcome

theorem Fault.OfChain.isBare {fault : Fault} (ofChain : fault.OfChain) : fault.IsBare :=
  isBare_of ofChain (fun _ _ => id) (fun _ _ => id)

namespace Catalog

/-- How two runs compare of which the first may borrow faults: they have values in relation, they
have the same fault, or the first has a borrowed one. -/
inductive Agrees (borrowed : Fault → Prop) {α β : Type} (related : α → β → Prop) :
    Except Fault α → Except Fault β → Prop
  | value {left : α} {right : β} :
      related left right → Agrees borrowed related (.ok left) (.ok right)
  | own {fault : Fault} : fault.IsBare → Agrees borrowed related (.error fault) (.error fault)
  | borrowed {fault : Fault} {outcome : Except Fault β} :
      borrowed fault → Agrees borrowed related (.error fault) outcome

namespace Agrees

variable {borrowed : Fault → Prop} {α β γ δ : Type} {related : α → β → Prop}

theorem bind {results : γ → δ → Prop} {left : Except Fault α} {right : Except Fault β}
    {leftNext : α → Except Fault γ} {rightNext : β → Except Fault δ}
    (first : Agrees borrowed related left right)
    (rest : ∀ leftValue rightValue, related leftValue rightValue →
      Agrees borrowed results (leftNext leftValue) (rightNext rightValue)) :
    Agrees borrowed results (left >>= leftNext) (right >>= rightNext) := by
  cases first with
  | value both => exact rest _ _ both
  | own bare => exact .own bare
  | borrowed found => exact .borrowed found

/-- A check compares with itself if its faults are those of a chain, which name no entry. -/
theorem of_failsOnly {outcome : Except Fault α} (fails : FailsOnly Fault.OfChain outcome) :
    Agrees borrowed Eq outcome outcome := by
  cases outcome with
  | ok value => exact .value rfl
  | error fault => exact .own (fails fault rfl).isBare

/-- What is made of the values does not matter if any two results are in relation. -/
theorem bind_pure {left : Except Fault α} {right : Except Fault β} {leftMake : α → γ}
    {rightMake : β → δ} (first : Agrees borrowed related left right) :
    Agrees borrowed (fun _ _ => True) (do return leftMake (← left))
      (do return rightMake (← right)) :=
  first.bind fun _ _ _ => .value trivial

theorem weaken {weaker : α → β → Prop} {left : Except Fault α} {right : Except Fault β}
    (agrees : Agrees borrowed related left right)
    (implies : ∀ leftValue rightValue, related leftValue rightValue → weaker leftValue rightValue) :
    Agrees borrowed weaker left right := by
  cases agrees with
  | value both => exact .value (implies _ _ both)
  | own bare => exact .own bare
  | borrowed found => exact .borrowed found

theorem checkShape (step : StepDefinition) :
    Agrees borrowed Eq step.checkShape step.checkShape := by
  unfold StepDefinition.checkShape
  split
  · exact .own trivial
  · split
    · exact .own trivial
    · split
      · exact .own trivial
      · exact .value rfl

end Agrees

section Texts

variable (borrowed : Fault → Prop)

def BoundaryLike (left right : XPath.Chain) : Prop :=
  Agrees borrowed (fun _ _ => True) (XPath.boundaryTest left) (XPath.boundaryTest right)

inductive ConditionLike :
    Condition (XPath.Native XPath.Chain) → Condition (XPath.Native XPath.Chain) → Prop
  | shared (criterion : SharedCriterion) (negated : Bool) :
      ConditionLike ⟨.shared criterion, negated⟩ ⟨.shared criterion, negated⟩
  | text (op : TextOp) (operand : String) (negated : Bool) :
      ConditionLike ⟨.native (.text op operand), negated⟩ ⟨.native (.text op operand), negated⟩
  | place (place : XPath.Place) (negated : Bool) :
      ConditionLike ⟨.native (.place place), negated⟩ ⟨.native (.place place), negated⟩
  | boundary {left right : XPath.Chain} (negated : Bool) : BoundaryLike borrowed left right →
      ConditionLike ⟨.native (.boundary left), negated⟩ ⟨.native (.boundary right), negated⟩

inductive StepLike : XPath.Step XPath.Chain → XPath.Step XPath.Chain → Prop
  | element (axis : XPath.Axis) (tag : String)
      {left right : List (Condition (XPath.Native XPath.Chain))} :
      List.Forall₂ (ConditionLike borrowed) left right →
      StepLike (.element axis tag left) (.element axis tag right)
  | parent : StepLike .parent .parent

inductive ChainLike : XPath.Chain → XPath.Chain → Prop
  | raw (text : String) : ChainLike (.raw text) (.raw text)
  | page (tag : String) {left right : List (Condition (XPath.Native XPath.Chain))} :
      List.Forall₂ (ConditionLike borrowed) left right →
      ChainLike (.page tag left) (.page tag right)
  | relative {left right : XPath.Step XPath.Chain} :
      StepLike borrowed left right → ChainLike (.relative left) (.relative right)
  | step {before after : XPath.Chain} {left right : XPath.Step XPath.Chain} :
      ChainLike before after → StepLike borrowed left right →
      ChainLike (.step before left) (.step after right)
  | limitedBy {before after left right : XPath.Chain} :
      ChainLike before after → BoundaryLike borrowed left right →
      ChainLike (.limitedBy before left) (.limitedBy after right)

variable {borrowed}

theorem ConditionLike.criterionTests {left right : Condition (XPath.Native XPath.Chain)}
    (like : ConditionLike borrowed left right) :
    Agrees borrowed (fun _ _ => True) (XPath.criterionTests left.criterion)
      (XPath.criterionTests right.criterion) := by
  cases like with
  | shared criterion negated =>
      cases criterion with
      | «attribute» name op operand =>
          exact (Agrees.of_failsOnly (failsOnly_checkName "Attribute" name)).bind_pure
      | classes names =>
          exact (Agrees.of_failsOnly (reports_checkClasses names).failsOnly).bind_pure
  | text op operand negated => exact .value trivial
  | place place negated => exact (Agrees.of_failsOnly place.reports_test.failsOnly).bind_pure
  | boundary negated like => exact Agrees.bind_pure like

theorem agrees_renderConditions {left right : List (Condition (XPath.Native XPath.Chain))}
    (like : List.Forall₂ (ConditionLike borrowed) left right) :
    Agrees borrowed (fun _ _ => True) (XPath.renderConditions left)
      (XPath.renderConditions right) := by
  induction like with
  | nil =>
      rw [XPath.renderConditions]
      exact .value trivial
  | cons first _ ih =>
      rw [XPath.renderConditions, XPath.renderConditions, XPath.renderCondition_eq,
        XPath.renderCondition_eq]
      apply first.criterionTests.bind_pure.bind
      intro _ _ _
      exact ih.bind_pure

theorem agrees_renderElement (axis tag : String)
    {left right : List (Condition (XPath.Native XPath.Chain))}
    (like : List.Forall₂ (ConditionLike borrowed) left right) :
    Agrees borrowed (fun _ _ => True)
      (do
        checkTag .xpath (Text.trim tag) !left.isEmpty
        return axis ++ Text.trim tag ++ (← XPath.renderConditions left))
      (do
        checkTag .xpath (Text.trim tag) !right.isEmpty
        return axis ++ Text.trim tag ++ (← XPath.renderConditions right)) := by
  have sameLength : left.isEmpty = right.isEmpty := by
    cases like with
    | nil => rfl
    | cons _ _ => rfl
  rw [sameLength]
  apply (Agrees.of_failsOnly (failsOnly_checkTag .xpath (Text.trim tag) _)).bind
  intro _ _ _
  exact (agrees_renderConditions like).bind_pure

theorem StepLike.render {left right : XPath.Step XPath.Chain}
    (like : StepLike borrowed left right) :
    Agrees borrowed (fun _ _ => True) (XPath.renderStep left) (XPath.renderStep right) := by
  cases like with
  | element axis tag like =>
      rw [XPath.renderStep, XPath.renderStep]
      exact agrees_renderElement axis.token tag like
  | parent =>
      rw [XPath.renderStep]
      exact .value trivial

theorem ChainLike.render {left right : XPath.Chain} (like : ChainLike borrowed left right) :
    Agrees borrowed (fun _ _ => True) left.render right.render := by
  induction like with
  | raw text =>
      rw [XPath.Chain.render]
      exact .value trivial
  | page tag like =>
      rw [XPath.Chain.render, XPath.Chain.render]
      exact agrees_renderElement XPath.Relation.page.token tag like
  | relative like =>
      rw [XPath.Chain.render, XPath.Chain.render]
      exact like.render
  | step _ like ih =>
      rw [XPath.Chain.render, XPath.Chain.render]
      apply ih.bind
      intro _ _ _
      exact like.render.bind_pure
  | @limitedBy before after left right _ like ih =>
      rw [XPath.Chain.render_limitedBy, XPath.Chain.render_limitedBy]
      apply ih.bind
      intro _ _ _
      exact Agrees.bind_pure like

end Texts

section Assembly

variable {borrowed unresolved : Fault → Prop}
variable {left right : String → Except Fault XPath.Chain}

variable (borrowed) in
inductive LeafLike : Leaf → Leaf → Prop
  | shared (criterion : SharedCriterion) (negated : Bool) :
      LeafLike ⟨.shared criterion, negated⟩ ⟨.shared criterion, negated⟩
  | css (native : Css.Native) (negated : Bool) :
      LeafLike ⟨.css native, negated⟩ ⟨.css native, negated⟩
  | text (op : TextOp) (operand : String) (negated : Bool) :
      LeafLike ⟨.xpath (.text op operand), negated⟩ ⟨.xpath (.text op operand), negated⟩
  | place (place : XPath.Place) (negated : Bool) :
      LeafLike ⟨.xpath (.place place), negated⟩ ⟨.xpath (.place place), negated⟩
  | boundary {left right : XPath.Chain} (negated : Bool) : BoundaryLike borrowed left right →
      LeafLike ⟨.xpath (.boundary left), negated⟩ ⟨.xpath (.boundary right), negated⟩

theorem LeafLike.negate {first second : Leaf} (like : LeafLike borrowed first second) :
    LeafLike borrowed first.negate second.negate := by
  cases like with
  | shared criterion => exact .shared criterion true
  | css native => exact .css native true
  | text op operand => exact .text op operand true
  | place place => exact .place place true
  | boundary _ like => exact .boundary true like

theorem LeafLike.toCss {first second : Leaf} (like : LeafLike borrowed first second) :
    Agrees unresolved Eq first.toCss second.toCss := by
  cases like with
  | shared | css => exact .value rfl
  | text | place | boundary => exact .own trivial

theorem LeafLike.toXPath {first second : Leaf} (like : LeafLike borrowed first second) :
    Agrees unresolved (ConditionLike borrowed) first.toXPath second.toXPath := by
  cases like with
  | shared criterion negated => exact .value (.shared criterion negated)
  | css => exact .own trivial
  | text op operand negated => exact .value (.text op operand negated)
  | place place negated => exact .value (.place place negated)
  | boundary negated like => exact .value (.boundary negated like)

variable (borrowed unresolved left right) in
def ResolveAlike (name : String) : Prop :=
  Agrees unresolved (BoundaryLike borrowed) (left name) (right name)

theorem resolveAlike {name : String} (resolves : Resolves right name)
    (looks : ∀ fault, left name = .error fault → unresolved fault)
    (tests : ∀ chain fault, left name = .ok chain → XPath.boundaryTest chain = .error fault →
      borrowed fault) :
    ResolveAlike borrowed unresolved left right name := by
  obtain ⟨chain, resolved, passes⟩ :=
    bind_eq_ok_iff.1 (boundaryTest_resolved_iff.2 ⟨resolves, rfl⟩)
  unfold ResolveAlike
  rw [resolved]
  cases found : left name with
  | error fault => exact .borrowed (looks fault found)
  | ok other =>
      refine .value ?_
      unfold BoundaryLike
      rw [passes]
      cases tested : XPath.boundaryTest other with
      | error fault => exact .borrowed (tests other fault found tested)
      | ok test => exact .value trivial

theorem agrees_leaf {condition : ConditionDefinition}
    (alike : ∀ name ∈ condition.mentions, ResolveAlike borrowed unresolved left right name) :
    Agrees unresolved (LeafLike borrowed) (condition.leaf left) (condition.leaf right) := by
  induction condition with
  | tag name => exact .value (.css (.tag name) false)
  | id value => exact .value (.css (.id value) false)
  | «attribute» name op value => exact .value (.shared (.attribute name op value) false)
  | classes names => exact .value (.shared (.classes names) false)
  | text op value => exact .value (.text op value false)
  | place which => exact .value (.place which false)
  | pseudo which => exact .value (.css (.pseudo which) false)
  | boundary entry =>
      apply (alike entry (by simp [ConditionDefinition.mentions])).bind
      intro _ _ like
      exact .value (.boundary false like)
  | not condition ih =>
      apply (ih alike).bind
      intro _ _ like
      exact .value like.negate

theorem agrees_assembleConditions {Native : Type}
    {like : Condition Native → Condition Native → Prop}
    {toGrammar : Leaf → Except Fault (Condition Native)}
    (respects : ∀ first second, LeafLike borrowed first second →
      Agrees unresolved like (toGrammar first) (toGrammar second))
    {conditions : List ConditionDefinition}
    (alike : ∀ name ∈ conditions.flatMap ConditionDefinition.mentions,
      ResolveAlike borrowed unresolved left right name) :
    Agrees unresolved (List.Forall₂ like) (assembleConditions left toGrammar conditions)
      (assembleConditions right toGrammar conditions) := by
  induction conditions with
  | nil => exact .value .nil
  | cons condition rest ih =>
      rw [List.flatMap_cons, List.forall_mem_append] at alike
      simp only [assembleConditions, settle_eq]
      apply (agrees_leaf alike.1).bind
      intro first second leafLike
      apply (respects first second leafLike).bind
      intro _ _ conditionLike
      apply (ih alike.2).bind
      intro _ _ others
      exact .value (.cons conditionLike others)

/-- What a step is made of: its conditions are put together once its shape is checked. -/
theorem agrees_shaped {Native Chain : Type} {like : Condition Native → Condition Native → Prop}
    {chainLike : Chain → Chain → Prop} {toGrammar : Leaf → Except Fault (Condition Native)}
    (respects : ∀ first second, LeafLike borrowed first second →
      Agrees unresolved like (toGrammar first) (toGrammar second))
    {leftFinish rightFinish : List (Condition Native) → Except Fault Chain} {step : StepDefinition}
    (finishes : ∀ first second, List.Forall₂ like first second →
      Agrees unresolved chainLike (leftFinish first) (rightFinish second))
    (alike : ∀ name ∈ step.mentions, ResolveAlike borrowed unresolved left right name) :
    Agrees unresolved chainLike
      (do
        settle step.checkShape
        let conditions ← assembleConditions left toGrammar step.conditions
        settle (leftFinish conditions))
      (do
        settle step.checkShape
        let conditions ← assembleConditions right toGrammar step.conditions
        settle (rightFinish conditions)) := by
  simp only [settle_eq]
  apply (Agrees.checkShape step).bind
  intro _ _ _
  have alikeConditions : ∀ name ∈ step.conditions.flatMap ConditionDefinition.mentions,
      ResolveAlike borrowed unresolved left right name :=
    fun name member => alike name (List.mem_append_right _ member)
  apply (agrees_assembleConditions respects alikeConditions).bind
  exact finishes

theorem agrees_startCss {step : StepDefinition}
    (alike : ∀ name ∈ step.mentions, ResolveAlike borrowed unresolved left right name) :
    Agrees unresolved Eq (startCss left step) (startCss right step) := by
  apply agrees_shaped (fun _ _ => LeafLike.toCss) _ alike
  intro first second same
  rw [List.forall₂_eq_eq_eq] at same
  subst same
  cases step.kind with
  | page | descendant => exact .value rfl
  | _ => exact .own trivial

theorem agrees_continueCss {before : Css.Chain} {step : StepDefinition}
    (alike : ∀ name ∈ step.mentions, ResolveAlike borrowed unresolved left right name) :
    Agrees unresolved Eq (continueCss left before step) (continueCss right before step) := by
  apply agrees_shaped (fun _ _ => LeafLike.toCss) _ alike
  intro first second same
  rw [List.forall₂_eq_eq_eq] at same
  subst same
  cases step.kind with
  | descendant | child | sibling | nextSibling => exact .value rfl
  | _ => exact .own trivial

theorem agrees_startXPath {step : StepDefinition}
    (alike : ∀ name ∈ step.mentions, ResolveAlike borrowed unresolved left right name) :
    Agrees unresolved (ChainLike borrowed) (startXPath left step) (startXPath right step) := by
  apply agrees_shaped (fun _ _ => LeafLike.toXPath) _ alike
  intro first second like
  cases step.kind with
  | page => exact .value (.page step.xpathTag like)
  | descendant | child | sibling | precedingSibling | following | preceding =>
      exact .value (.relative (.element _ step.xpathTag like))
  | parent => exact .value (.relative .parent)
  | _ => exact .own trivial

theorem agrees_continueXPath {before after : XPath.Chain}
    (chainLike : ChainLike borrowed before after)
    {step : StepDefinition}
    (alike : ∀ name ∈ step.mentions, ResolveAlike borrowed unresolved left right name) :
    Agrees unresolved (ChainLike borrowed) (continueXPath left before step)
      (continueXPath right after step) := by
  by_cases limited : step.kind = .limitedBy
  · simp only [continueXPath, settle_eq, if_pos limited]
    apply (Agrees.checkShape step).bind
    intro _ _ _
    cases named : step.boundary with
    | none => exact .own trivial
    | some entry =>
        apply (alike entry (by simp [StepDefinition.mentions, named])).bind
        intro _ _ like
        exact .value (.limitedBy chainLike like)
  · simp only [continueXPath, if_neg limited]
    apply agrees_shaped (fun _ _ => LeafLike.toXPath) _ alike
    intro first second like
    cases step.kind with
    | descendant | child | sibling | precedingSibling | following | preceding =>
        exact .value (.step chainLike (.element _ step.xpathTag like))
    | parent => exact .value (.step chainLike .parent)
    | _ => exact .own trivial

section Steps

variable {Chain : Type} {chainLike : Chain → Chain → Prop}
variable {leftNext rightNext : Chain → StepDefinition → Except Fault Chain}

theorem agrees_foldlM {steps : List StepDefinition}
    (continues : ∀ before after step, step ∈ steps → chainLike before after →
      Agrees unresolved chainLike (leftNext before step) (rightNext after step))
    {before after : Chain} (like : chainLike before after) :
    Agrees unresolved chainLike (steps.foldlM leftNext before) (steps.foldlM rightNext after) := by
  induction steps generalizing before after with
  | nil => exact .value like
  | cons step rest ih =>
      rw [List.foldlM_cons, List.foldlM_cons]
      apply (continues before after step List.mem_cons_self like).bind
      intro _ _ like
      apply ih _ like
      intro before after step member
      exact continues before after step (List.mem_cons_of_mem _ member)

theorem agrees_assembleSteps {raw : String → Chain}
    {leftStart rightStart : StepDefinition → Except Fault Chain} {definition : Definition}
    (raws : ∀ text, chainLike (raw text) (raw text))
    (starts : ∀ step ∈ definition.steps,
      Agrees unresolved chainLike (leftStart step) (rightStart step))
    (continues : ∀ before after step, step ∈ definition.steps → chainLike before after →
      Agrees unresolved chainLike (leftNext before step) (rightNext after step)) :
    Agrees unresolved chainLike (assembleSteps raw leftStart leftNext definition)
      (assembleSteps raw rightStart rightNext definition) := by
  unfold assembleSteps
  cases definition.raw with
  | some text => exact agrees_foldlM continues (raws text)
  | none =>
      cases given : definition.steps with
      | nil => exact .own trivial
      | cons first rest =>
          rw [given] at starts continues
          apply (starts first List.mem_cons_self).bind
          intro _ _ like
          apply agrees_foldlM _ like
          intro before after step member
          exact continues before after step (List.mem_cons_of_mem _ member)

end Steps

variable (borrowed) in
inductive SelectorLike : Selector → Selector → Prop
  | css (chain : Css.Chain) : SelectorLike (.css chain) (.css chain)
  | xpath {left right : XPath.Chain} :
      ChainLike borrowed left right → SelectorLike (.xpath left) (.xpath right)

theorem SelectorLike.render {first second : Selector} (like : SelectorLike borrowed first second) :
    Agrees borrowed (fun _ _ => True) first.render second.render := by
  cases like with
  | css chain => exact (Agrees.of_failsOnly chain.reports_render.failsOnly).weaken fun _ _ _ => trivial
  | xpath like => exact like.render

theorem agrees_assemble {definition : Definition}
    (alike : ∀ name ∈ definition.mentions, ResolveAlike borrowed unresolved left right name) :
    Agrees unresolved (SelectorLike borrowed) (definition.assemble left)
      (definition.assemble right) := by
  have inStep {step : StepDefinition} (member : step ∈ definition.steps) :
      ∀ name ∈ step.mentions, ResolveAlike borrowed unresolved left right name :=
    fun name mentioned => alike name (List.mem_flatMap_of_mem member mentioned)
  unfold Definition.assemble
  cases definition.grammar with
  | css =>
      have chains : Agrees unresolved Eq
          (assembleSteps .raw (startCss left) (continueCss left) definition)
          (assembleSteps .raw (startCss right) (continueCss right) definition) := by
        apply agrees_assembleSteps
        · exact fun _ => rfl
        · exact fun step member => agrees_startCss (inStep member)
        · rintro before _ step member rfl
          exact agrees_continueCss (inStep member)
      apply chains.bind
      rintro chain _ rfl
      exact .value (.css chain)
  | xpath =>
      have chains : Agrees unresolved (ChainLike borrowed)
          (assembleSteps .raw (startXPath left) (continueXPath left) definition)
          (assembleSteps .raw (startXPath right) (continueXPath right) definition) := by
        apply agrees_assembleSteps
        · exact fun text => .raw text
        · exact fun step member => agrees_startXPath (inStep member)
        · exact fun _ _ step member like => agrees_continueXPath like (inStep member)
      apply chains.bind
      intro _ _ like
      exact .value (.xpath like)

end Assembly

end Catalog

end PageSelectors
