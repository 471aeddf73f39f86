import Mathlib.Logic.Relation
import PageSelectors.Catalog.Definition
import PageSelectors.Proofs.Css.Rendering
import PageSelectors.Proofs.XPath.Rendering

/-!
What a catalog file must be like to make a catalog, said on its definitions alone: which kinds of
step stand where, which conditions a grammar has, which names and tags are good, and which entries
can be mentioned as boundaries.
-/

namespace PageSelectors.Catalog

open Text (trim)

def startKinds : Grammar → List StepKind
  | .css => [.page, .descendant]
  | .xpath =>
      [.page, .descendant, .child, .sibling, .precedingSibling, .following, .preceding, .parent]

def laterKinds : Grammar → List StepKind
  | .css => [.descendant, .child, .sibling, .nextSibling]
  | .xpath =>
      [.descendant, .child, .sibling, .precedingSibling, .following, .preceding, .parent,
        .limitedBy]

def defaultTag : Grammar → String
  | .css => ""
  | .xpath => anyTag

namespace ConditionDefinition

def Supported (grammar : Grammar) : ConditionDefinition → Prop
  | .tag _ | .id _ | .pseudo _ => grammar = .css
  | .text _ _ | .place _ | .boundary _ => grammar = .xpath
  | .attribute _ _ _ | .classes _ => True
  | .not condition => condition.Supported grammar

def WellNamed : ConditionDefinition → Prop
  | .tag name | .id name | .attribute name _ _ => IsName name
  | .classes names => names ≠ [] ∧ ∀ name ∈ names, IsName name
  | .text _ _ | .boundary _ => True
  | .place which => which.InRange
  | .pseudo which => which.InRange
  | .not condition => condition.WellNamed

def mentions : ConditionDefinition → List String
  | .boundary entry => [entry]
  | .not condition => condition.mentions
  | _ => []

end ConditionDefinition

namespace StepDefinition

def mentions (step : StepDefinition) : List String :=
  step.boundary.toList ++ step.conditions.flatMap ConditionDefinition.mentions

def HasTag (step : StepDefinition) : Prop :=
  step.kind ≠ .parent ∧ step.kind ≠ .limitedBy

structure WellFormed (grammar : Grammar) (step : StepDefinition) : Prop where
  /-- A parent or a limit takes neither a tag nor conditions. -/
  bare : ¬ step.HasTag → step.tag = none ∧ step.conditions = []
  /-- A limit, and nothing else, names a boundary. -/
  limited : step.boundary.isSome ↔ step.kind = .limitedBy
  supported : ∀ condition ∈ step.conditions, condition.Supported grammar
  tagged : step.HasTag →
    IsTag grammar (trim (step.tag.getD (defaultTag grammar))) !step.conditions.isEmpty
  named : ∀ condition ∈ step.conditions, condition.WellNamed

end StepDefinition

namespace Definition

def laterSteps (definition : Definition) : List StepDefinition :=
  match definition.raw with
  | some _ => definition.steps
  | none => definition.steps.tail

def mentions (definition : Definition) : List String :=
  definition.steps.flatMap StepDefinition.mentions

def isPageRooted (definition : Definition) : Bool :=
  definition.raw.isNone && definition.steps.head?.any (·.kind = .page)

structure WellFormed (definition : Definition) : Prop where
  nonempty : definition.raw.isSome ∨ definition.steps ≠ []
  starts : definition.raw = none → ∀ first ∈ definition.steps.head?,
    first.kind ∈ startKinds definition.grammar
  continues : ∀ step ∈ definition.laterSteps, step.kind ∈ laterKinds definition.grammar
  steps : ∀ step ∈ definition.steps, step.WellFormed definition.grammar

end Definition

def Mentions (definitions : Table Definition) (name mentioned : String) : Prop :=
  ∃ definition, definitions.get? name = some definition ∧ mentioned ∈ definition.mentions

def IsBoundary (definitions : Table Definition) (name : String) : Prop :=
  ∃ definition, definitions.get? name = some definition ∧
    definition.grammar = .xpath ∧ definition.isPageRooted = true

structure Acceptable (definitions : Table Definition) (name : String) (definition : Definition) :
    Prop where
  wellFormed : definition.WellFormed
  boundaries : ∀ mentioned ∈ definition.mentions, IsBoundary definitions mentioned
  /-- No walk along boundaries leads from the entry back to it. -/
  acyclic : ¬ Relation.TransGen (Mentions definitions) name name

end PageSelectors.Catalog
