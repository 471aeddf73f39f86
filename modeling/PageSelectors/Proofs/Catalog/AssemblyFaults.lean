import PageSelectors.Proofs.Catalog.Locality

/-!
Which faults come of putting a definition together: those of its own, which say that it is not valid
or not of its grammar, and those that looking up what it mentions brings in.
-/

namespace PageSelectors

open Outcome

def Fault.OfSelector : Fault → Prop
  | .grammarMismatch _ _ => True
  | fault => fault.OfChain

theorem Fault.OfChain.ofSelector {fault : Fault} (ofChain : fault.OfChain) : fault.OfSelector := by
  cases fault with
  | grammarMismatch => trivial
  | _ => exact ofChain

theorem Fault.OfSelector.isBare {fault : Fault} (ofSelector : fault.OfSelector) :
    fault.IsBare :=
  isBare_of ofSelector (fun _ _ => id) (fun _ _ => id)

theorem Fault.OfSelector.mismatch_or_isValidation {fault : Fault} (ofSelector : fault.OfSelector) :
    (∃ what grammar, fault = .grammarMismatch what grammar) ∨ fault.isValidation = true := by
  cases fault with
  | grammarMismatch what grammar => exact .inl ⟨what, grammar, rfl⟩
  | _ => exact .inr (Fault.OfChain.isValidation ofSelector)

namespace Catalog

variable {faults : Fault → Prop} (own : ∀ fault : Fault, fault.OfSelector → faults fault)
variable {resolve : String → Except Fault XPath.Chain}

include own

theorem failsOnly_checkShape (step : StepDefinition) : FailsOnly faults step.checkShape := by
  unfold StepDefinition.checkShape
  split
  · exact .fault (own _ trivial)
  · split
    · exact .fault (own _ trivial)
    · split
      · exact .fault (own _ trivial)
      · exact .value ()

theorem failsOnly_toCss (leaf : Leaf) : FailsOnly faults leaf.toCss := by
  obtain ⟨kind, negated⟩ := leaf
  cases kind with
  | shared | css => exact .value _
  | xpath native => exact .fault (own _ trivial)

theorem failsOnly_toXPath (leaf : Leaf) : FailsOnly faults leaf.toXPath := by
  obtain ⟨kind, negated⟩ := leaf
  cases kind with
  | shared | xpath => exact .value _
  | css native => exact .fault (own _ trivial)

theorem failsOnly_cssStart (tag : String) (conditions : List (Condition Css.Native))
    (kind : StepKind) : FailsOnly faults (cssStart tag conditions kind) := by
  cases kind with
  | page | descendant => exact .value _
  | _ => exact .fault (own _ trivial)

theorem failsOnly_cssNext (before : Css.Chain) (tag : String)
    (conditions : List (Condition Css.Native)) (kind : StepKind) :
    FailsOnly faults (cssNext before tag conditions kind) := by
  cases kind with
  | descendant | child | sibling | nextSibling => exact .value _
  | _ => exact .fault (own _ trivial)

theorem failsOnly_xpathStart (tag : String)
    (conditions : List (Condition (XPath.Native XPath.Chain))) (kind : StepKind) :
    FailsOnly faults (xpathStart tag conditions kind) := by
  cases kind with
  | nextSibling | limitedBy => exact .fault (own _ trivial)
  | _ => exact .value _

theorem failsOnly_xpathNext (before : XPath.Chain) (tag : String)
    (conditions : List (Condition (XPath.Native XPath.Chain))) (kind : StepKind) :
    FailsOnly faults (xpathNext before tag conditions kind) := by
  cases kind with
  | page | nextSibling | limitedBy => exact .fault (own _ trivial)
  | _ => exact .value _

omit own in
theorem failsOnly_leaf {condition : ConditionDefinition}
    (resolves : ∀ name ∈ condition.mentions, FailsOnly faults (resolve name)) :
    FailsOnly faults (condition.leaf resolve) := by
  induction condition with
  | boundary entry => exact (resolves entry (by simp [ConditionDefinition.mentions])).make
  | not condition ih => exact (ih resolves).make
  | _ => exact .value _

omit own in
theorem failsOnly_assembleConditions {Native : Type}
    {toGrammar : Leaf → Except Fault (Condition Native)}
    (converts : ∀ leaf, FailsOnly faults (toGrammar leaf)) {conditions : List ConditionDefinition}
    (resolves : ∀ name ∈ conditions.flatMap ConditionDefinition.mentions,
      FailsOnly faults (resolve name)) :
    FailsOnly faults (assembleConditions resolve toGrammar conditions) := by
  induction conditions with
  | nil => exact .value []
  | cons condition rest ih =>
      rw [List.flatMap_cons, List.forall_mem_append] at resolves
      simp only [assembleConditions, settle_eq]
      apply (failsOnly_leaf resolves.1).bind
      intro leaf
      apply (converts leaf).bind
      intro _
      exact (ih resolves.2).make

theorem failsOnly_shaped {Native Chain : Type}
    {toGrammar : Leaf → Except Fault (Condition Native)}
    (converts : ∀ leaf, FailsOnly faults (toGrammar leaf))
    {finish : List (Condition Native) → Except Fault Chain}
    (finishes : ∀ conditions, FailsOnly faults (finish conditions)) {step : StepDefinition}
    (resolves : ∀ name ∈ step.mentions, FailsOnly faults (resolve name)) :
    FailsOnly faults (do
      settle step.checkShape
      let conditions ← assembleConditions resolve toGrammar step.conditions
      settle (finish conditions)) := by
  simp only [settle_eq]
  apply (failsOnly_checkShape own step).bind
  intro _
  have resolvesConditions : ∀ name ∈ step.conditions.flatMap ConditionDefinition.mentions,
      FailsOnly faults (resolve name) :=
    fun name member => resolves name (List.mem_append_right _ member)
  exact (failsOnly_assembleConditions converts resolvesConditions).bind finishes

theorem failsOnly_continueXPath (before : XPath.Chain) {step : StepDefinition}
    (resolves : ∀ name ∈ step.mentions, FailsOnly faults (resolve name)) :
    FailsOnly faults (continueXPath resolve before step) := by
  by_cases limited : step.kind = .limitedBy
  · simp only [continueXPath, settle_eq, if_pos limited]
    apply (failsOnly_checkShape own step).bind
    intro _
    cases named : step.boundary with
    | none => exact .fault (own _ trivial)
    | some entry => exact (resolves entry (by simp [StepDefinition.mentions, named])).make
  · simp only [continueXPath, if_neg limited]
    exact failsOnly_shaped own (failsOnly_toXPath own)
      (fun conditions => failsOnly_xpathNext own before step.xpathTag conditions step.kind) resolves

omit own in
theorem failsOnly_foldlM {Chain : Type} {next : Chain → StepDefinition → Except Fault Chain}
    {steps : List StepDefinition}
    (continues : ∀ before, ∀ step ∈ steps, FailsOnly faults (next before step)) (before : Chain) :
    FailsOnly faults (steps.foldlM next before) := by
  induction steps generalizing before with
  | nil => exact .value before
  | cons step rest ih =>
      rw [List.foldlM_cons]
      apply (continues before step List.mem_cons_self).bind
      intro after
      exact ih (fun before step member => continues before step (List.mem_cons_of_mem _ member)) after

theorem failsOnly_assembleSteps {Chain : Type} {raw : String → Chain}
    {start : StepDefinition → Except Fault Chain}
    {next : Chain → StepDefinition → Except Fault Chain} {definition : Definition}
    (starts : ∀ step ∈ definition.steps, FailsOnly faults (start step))
    (continues : ∀ before, ∀ step ∈ definition.steps, FailsOnly faults (next before step)) :
    FailsOnly faults (assembleSteps raw start next definition) := by
  unfold assembleSteps
  cases definition.raw with
  | some text => exact failsOnly_foldlM continues (raw text)
  | none =>
      cases given : definition.steps with
      | nil => exact .fault (own _ trivial)
      | cons first rest =>
          rw [given] at starts continues
          apply (starts first List.mem_cons_self).bind
          intro chain
          apply failsOnly_foldlM
          exact fun before step member => continues before step (List.mem_cons_of_mem _ member)

/-- Nothing comes of putting a definition together but faults of its own and those that looking up
what it mentions brings in. -/
theorem Definition.failsOnly_assemble {definition : Definition}
    (resolves : ∀ mentioned ∈ definition.mentions, FailsOnly faults (resolve mentioned)) :
    FailsOnly faults (definition.assemble resolve) := by
  have inStep {step : StepDefinition} (member : step ∈ definition.steps) :
      ∀ name ∈ step.mentions, FailsOnly faults (resolve name) :=
    fun name mentioned => resolves name (List.mem_flatMap_of_mem member mentioned)
  unfold Definition.assemble
  cases definition.grammar with
  | css =>
      apply FailsOnly.make
      apply failsOnly_assembleSteps own
      · intro step member
        exact failsOnly_shaped own (failsOnly_toCss own)
          (fun conditions => failsOnly_cssStart own step.cssTag conditions step.kind)
          (inStep member)
      · intro before step member
        exact failsOnly_shaped own (failsOnly_toCss own)
          (fun conditions => failsOnly_cssNext own before step.cssTag conditions step.kind)
          (inStep member)
  | xpath =>
      apply FailsOnly.make
      apply failsOnly_assembleSteps own
      · intro step member
        exact failsOnly_shaped own (failsOnly_toXPath own)
          (fun conditions => failsOnly_xpathStart own step.xpathTag conditions step.kind)
          (inStep member)
      · exact fun before step member => failsOnly_continueXPath own before (inStep member)

end Catalog

end PageSelectors
