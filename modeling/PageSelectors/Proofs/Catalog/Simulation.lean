import PageSelectors.Catalog.Assembly

/-!
A definition is put together in the same way in every monad. So whatever relation two monads keep
for values, faults and sequences, and for what boundary names stand for, they keep for the selector
of a definition.
-/

namespace PageSelectors.Catalog

/-- A relation between the computations of two monads that holds for equal values and equal faults
and is kept by sequences. -/
structure Simulation (m n : Type → Type) [Monad m] [MonadExceptOf Fault m] [Monad n]
    [MonadExceptOf Fault n] where
  Relates {α : Type} : m α → n α → Prop
  value {α : Type} (result : α) : Relates (pure result) (pure result)
  fault {α : Type} (reason : Fault) : Relates (α := α) (throw reason) (throw reason)
  sequence {α β : Type} {left : m α} {right : n α} {leftNext : α → m β} {rightNext : α → n β} :
    Relates left right → (∀ result, Relates (leftNext result) (rightNext result)) →
      Relates (left >>= leftNext) (right >>= rightNext)

namespace Simulation

variable {m n : Type → Type} [Monad m] [MonadExceptOf Fault m] [Monad n] [MonadExceptOf Fault n]
variable (simulation : Simulation m n)
variable {leftResolve : String → m XPath.Chain} {rightResolve : String → n XPath.Chain}

theorem settle {α : Type} (outcome : Except Fault α) :
    simulation.Relates (Catalog.settle outcome) (Catalog.settle outcome) := by
  cases outcome with
  | error reason => exact simulation.fault reason
  | ok result => exact simulation.value result

theorem leaf (resolves : ∀ name, simulation.Relates (leftResolve name) (rightResolve name))
    (condition : ConditionDefinition) :
    simulation.Relates (condition.leaf leftResolve) (condition.leaf rightResolve) := by
  induction condition with
  | boundary entry =>
      exact simulation.sequence (resolves entry) fun chain => simulation.value _
  | not condition ih => exact simulation.sequence ih fun leaf => simulation.value _
  | _ => exact simulation.value _

theorem assembleConditions {Native : Type}
    (resolves : ∀ name, simulation.Relates (leftResolve name) (rightResolve name))
    (toGrammar : Leaf → Except Fault (Condition Native)) (conditions : List ConditionDefinition) :
    simulation.Relates (Catalog.assembleConditions leftResolve toGrammar conditions)
      (Catalog.assembleConditions rightResolve toGrammar conditions) := by
  induction conditions with
  | nil => exact simulation.value _
  | cons condition rest ih =>
      apply simulation.sequence (simulation.leaf resolves condition)
      intro leaf
      apply simulation.sequence (simulation.settle _)
      intro condition
      exact simulation.sequence ih fun others => simulation.value _

theorem shapedConditions {Native α : Type}
    (resolves : ∀ name, simulation.Relates (leftResolve name) (rightResolve name))
    (toGrammar : Leaf → Except Fault (Condition Native))
    (finish : List (Condition Native) → Except Fault α) (step : StepDefinition) :
    simulation.Relates
      (do
        Catalog.settle step.checkShape
        let conditions ← Catalog.assembleConditions leftResolve toGrammar step.conditions
        Catalog.settle (finish conditions))
      (do
        Catalog.settle step.checkShape
        let conditions ← Catalog.assembleConditions rightResolve toGrammar step.conditions
        Catalog.settle (finish conditions)) := by
  apply simulation.sequence (simulation.settle _)
  intro _
  apply simulation.sequence (simulation.assembleConditions resolves _ _)
  intro conditions
  exact simulation.settle _

theorem startCss (resolves : ∀ name, simulation.Relates (leftResolve name) (rightResolve name))
    (step : StepDefinition) :
    simulation.Relates (Catalog.startCss leftResolve step) (Catalog.startCss rightResolve step) :=
  simulation.shapedConditions resolves _ _ step

theorem continueCss (resolves : ∀ name, simulation.Relates (leftResolve name) (rightResolve name))
    (before : Css.Chain) (step : StepDefinition) :
    simulation.Relates (Catalog.continueCss leftResolve before step)
      (Catalog.continueCss rightResolve before step) :=
  simulation.shapedConditions resolves _ _ step

theorem startXPath (resolves : ∀ name, simulation.Relates (leftResolve name) (rightResolve name))
    (step : StepDefinition) :
    simulation.Relates (Catalog.startXPath leftResolve step)
      (Catalog.startXPath rightResolve step) :=
  simulation.shapedConditions resolves _ _ step

theorem continueXPath
    (resolves : ∀ name, simulation.Relates (leftResolve name) (rightResolve name))
    (before : XPath.Chain) (step : StepDefinition) :
    simulation.Relates (Catalog.continueXPath leftResolve before step)
      (Catalog.continueXPath rightResolve before step) := by
  apply simulation.sequence (simulation.settle _)
  intro _
  split
  · split
    · next entry _ => exact simulation.sequence (resolves entry) fun chain => simulation.value _
    · exact simulation.fault _
  · apply simulation.sequence (simulation.assembleConditions resolves _ _)
    intro conditions
    exact simulation.settle _

theorem foldlM {State Item : Type} {leftNext : State → Item → m State}
    {rightNext : State → Item → n State}
    (next : ∀ state item, simulation.Relates (leftNext state item) (rightNext state item))
    (items : List Item) (state : State) :
    simulation.Relates (items.foldlM leftNext state) (items.foldlM rightNext state) := by
  induction items generalizing state with
  | nil => exact simulation.value state
  | cons item rest ih => exact simulation.sequence (next state item) ih

theorem assembleSteps {Chain : Type} (raw : String → Chain)
    {leftStart : StepDefinition → m Chain} {rightStart : StepDefinition → n Chain}
    {leftNext : Chain → StepDefinition → m Chain} {rightNext : Chain → StepDefinition → n Chain}
    (starts : ∀ step, simulation.Relates (leftStart step) (rightStart step))
    (continues : ∀ before step, simulation.Relates (leftNext before step) (rightNext before step))
    (definition : Definition) :
    simulation.Relates (Catalog.assembleSteps raw leftStart leftNext definition)
      (Catalog.assembleSteps raw rightStart rightNext definition) := by
  unfold Catalog.assembleSteps
  split
  · exact simulation.foldlM continues _ _
  · next first rest _ _ =>
      exact simulation.sequence (starts first) fun chain => simulation.foldlM continues rest chain
  · exact simulation.fault _

/-- Resolvers that are related name by name make related selectors of a definition. -/
theorem assemble (resolves : ∀ name, simulation.Relates (leftResolve name) (rightResolve name))
    (definition : Definition) :
    simulation.Relates (definition.assemble leftResolve) (definition.assemble rightResolve) := by
  unfold Definition.assemble
  split
  · apply simulation.sequence
    · exact simulation.assembleSteps .raw (simulation.startCss resolves)
        (simulation.continueCss resolves) definition
    · exact fun chain => simulation.value _
  · apply simulation.sequence
    · exact simulation.assembleSteps .raw (simulation.startXPath resolves)
        (simulation.continueXPath resolves) definition
    · exact fun chain => simulation.value _

end Simulation

end PageSelectors.Catalog
