import PageSelectors.Catalog.Definition
import PageSelectors.Leaf
import PageSelectors.Selector

/-!
From a definition to a selector. What a boundary name stands for is a parameter, so a definition is
put together in the same way whether its boundaries are looked up in a table, built afresh or given
by hand.
-/

namespace PageSelectors.Catalog

variable {m : Type → Type} [Monad m] [MonadExceptOf Fault m]

def settle {α : Type} : Except Fault α → m α
  | .ok value => pure value
  | .error fault => throw fault

def ConditionDefinition.leaf (resolve : String → m XPath.Chain) : ConditionDefinition → m Leaf
  | .tag name => pure ⟨.css (.tag name), false⟩
  | .id value => pure ⟨.css (.id value), false⟩
  | .attribute name op value => pure ⟨.shared (.attribute name op value), false⟩
  | .classes names => pure ⟨.shared (.classes names), false⟩
  | .text op value => pure ⟨.xpath (.text op value), false⟩
  | .place which => pure ⟨.xpath (.place which), false⟩
  | .pseudo which => pure ⟨.css (.pseudo which), false⟩
  | .boundary entry => do return ⟨.xpath (.boundary (← resolve entry)), false⟩
  | .not condition => do return (← condition.leaf resolve).negate

def assembleConditions {Native : Type} (resolve : String → m XPath.Chain)
    (toGrammar : Leaf → Except Fault (Condition Native)) :
    List ConditionDefinition → m (List (Condition Native))
  | [] => pure []
  | definition :: rest => do
      let condition ← settle (toGrammar (← definition.leaf resolve))
      return condition :: (← assembleConditions resolve toGrammar rest)

def StepDefinition.checkShape (step : StepDefinition) : Except Fault Unit :=
  if step.kind = .limitedBy ∧ (step.tag.isSome ∨ step.conditions ≠ []) then
    .error (.invalid .limitedByFields)
  else if step.kind = .parent ∧ (step.tag.isSome ∨ step.conditions ≠ []) then
    .error (.invalid .parentFields)
  else if step.kind ≠ .limitedBy ∧ step.boundary.isSome then
    .error (.invalid (.misplacedBoundary step.kind))
  else .ok ()

def StepKind.mismatch (kind : StepKind) (grammar : Grammar) : Fault :=
  .grammarMismatch (kind.title ++ " step") grammar

def cssStart (tag : String) (conditions : List (Condition Css.Native)) :
    StepKind → Except Fault Css.Chain
  | .page => .ok (.page tag conditions)
  | .descendant => .ok (.relative tag conditions)
  | .limitedBy => .error (.invalid .limitedByFirst)
  | .child | .sibling | .nextSibling => .error (.invalid .cssStart)
  | kind => .error (kind.mismatch .css)

def cssNext (before : Css.Chain) (tag : String) (conditions : List (Condition Css.Native)) :
    StepKind → Except Fault Css.Chain
  | .descendant => .ok (before.step .descendant tag conditions)
  | .child => .ok (before.step .child tag conditions)
  | .sibling => .ok (before.step .sibling tag conditions)
  | .nextSibling => .ok (before.step .nextSibling tag conditions)
  | .page => .error (.invalid .pageNotFirst)
  | kind => .error (kind.mismatch .css)

def xpathStart (tag : String) (conditions : List (Condition (XPath.Native XPath.Chain))) :
    StepKind → Except Fault XPath.Chain
  | .page => .ok (.page tag conditions)
  | .descendant => .ok (.relative (.element .descendant tag conditions))
  | .child => .ok (.relative (.element .child tag conditions))
  | .sibling => .ok (.relative (.element .sibling tag conditions))
  | .precedingSibling => .ok (.relative (.element .precedingSibling tag conditions))
  | .following => .ok (.relative (.element .following tag conditions))
  | .preceding => .ok (.relative (.element .preceding tag conditions))
  | .parent => .ok (.relative .parent)
  | .limitedBy => .error (.invalid .limitedByFirst)
  | kind => .error (kind.mismatch .xpath)

def xpathNext (before : XPath.Chain) (tag : String)
    (conditions : List (Condition (XPath.Native XPath.Chain))) :
    StepKind → Except Fault XPath.Chain
  | .descendant => .ok (before.step (.element .descendant tag conditions))
  | .child => .ok (before.step (.element .child tag conditions))
  | .sibling => .ok (before.step (.element .sibling tag conditions))
  | .precedingSibling => .ok (before.step (.element .precedingSibling tag conditions))
  | .following => .ok (before.step (.element .following tag conditions))
  | .preceding => .ok (before.step (.element .preceding tag conditions))
  | .parent => .ok (before.step .parent)
  | .page => .error (.invalid .pageNotFirst)
  | kind => .error (kind.mismatch .xpath)

def StepDefinition.cssTag (step : StepDefinition) : String :=
  step.tag.getD ""

def StepDefinition.xpathTag (step : StepDefinition) : String :=
  step.tag.getD anyTag

def startCss (resolve : String → m XPath.Chain) (step : StepDefinition) : m Css.Chain := do
  settle step.checkShape
  let conditions ← assembleConditions resolve Leaf.toCss step.conditions
  settle (cssStart step.cssTag conditions step.kind)

def continueCss (resolve : String → m XPath.Chain) (before : Css.Chain) (step : StepDefinition) :
    m Css.Chain := do
  settle step.checkShape
  let conditions ← assembleConditions resolve Leaf.toCss step.conditions
  settle (cssNext before step.cssTag conditions step.kind)

def startXPath (resolve : String → m XPath.Chain) (step : StepDefinition) : m XPath.Chain := do
  settle step.checkShape
  let conditions ← assembleConditions resolve Leaf.toXPath step.conditions
  settle (xpathStart step.xpathTag conditions step.kind)

def continueXPath (resolve : String → m XPath.Chain) (before : XPath.Chain)
    (step : StepDefinition) : m XPath.Chain := do
  settle step.checkShape
  if step.kind = .limitedBy then
    match step.boundary with
    | some entry => return before.limitedBy (← resolve entry)
    | none => throw (.invalid .missingBoundary)
  else
    let conditions ← assembleConditions resolve Leaf.toXPath step.conditions
    settle (xpathNext before step.xpathTag conditions step.kind)

def assembleSteps {Chain : Type} (raw : String → Chain) (start : StepDefinition → m Chain)
    (next : Chain → StepDefinition → m Chain) (definition : Definition) : m Chain :=
  match definition.raw, definition.steps with
  | some text, steps => steps.foldlM next (raw text)
  | none, first :: rest => do rest.foldlM next (← start first)
  | none, [] => throw (.invalid .noSteps)

def Definition.assemble (resolve : String → m XPath.Chain) (definition : Definition) :
    m Selector :=
  match definition.grammar with
  | .css => do
      return .css (← assembleSteps .raw (startCss resolve) (continueCss resolve) definition)
  | .xpath => do
      return .xpath (← assembleSteps .raw (startXPath resolve) (continueXPath resolve) definition)

end PageSelectors.Catalog
