import PageSelectors.Proofs.Catalog.Requirements

/-!
The query text that a definition stands for, read off its steps from the first to the last, and the
text of an entry, in which every boundary stands for the text of the entry it names. Nothing is
checked here: an acceptable file has exactly these texts.
-/

namespace PageSelectors

open Text (trim)

namespace Catalog

namespace ConditionDefinition

def core : ConditionDefinition → ConditionDefinition
  | .not condition => condition.core
  | condition => condition

def isNegated : ConditionDefinition → Bool
  | .not _ => true
  | _ => false

def cssAttribute (name : String) : AttributeOp → String → String
  | .isPresent, _ => "[" ++ name ++ "]"
  | .compare .is, value => "[" ++ name ++ "=" ++ Css.quote value ++ "]"
  | .compare .contains, value => "[" ++ name ++ "*=" ++ Css.quote value ++ "]"
  | .compare .startsWith, value => "[" ++ name ++ "^=" ++ Css.quote value ++ "]"
  | .compare .endsWith, value => "[" ++ name ++ "$=" ++ Css.quote value ++ "]"
  | .compare .wholeWord, value => "[" ++ name ++ "~=" ++ Css.quote value ++ "]"

def cssCriterion : ConditionDefinition → String
  | .tag name => trim name
  | .id value => cssAttribute "id" (.compare .is) (trim value)
  | .attribute name op value => cssAttribute (trim name) op value
  | .classes names => String.join (names.map fun name => "." ++ trim name)
  | .pseudo which => which.text
  | _ => ""

def cssText (condition : ConditionDefinition) : String :=
  if condition.isNegated then ":not(" ++ condition.core.cssCriterion ++ ")"
  else condition.core.cssCriterion

def xpathComparison (subject : String) : TextOp → String → String
  | .is, value => subject ++ "=" ++ XPath.quote value
  | .contains, value => "contains(" ++ subject ++ "," ++ XPath.quote value ++ ")"
  | .startsWith, value => "starts-with(" ++ subject ++ "," ++ XPath.quote value ++ ")"
  | .endsWith, value =>
      "substring(" ++ subject ++ ", string-length(" ++ subject ++ ") - string-length(" ++
        XPath.quote value ++ ")+1) = " ++ XPath.quote value
  | .wholeWord, value =>
      "contains(concat(' ', normalize-space(" ++ subject ++ "), ' '), " ++
        XPath.quote (" " ++ value ++ " ") ++ ")"

def xpathAttribute (name : String) : AttributeOp → String → String
  | .isPresent, _ => "@" ++ name
  | .compare op, value => xpathComparison ("@" ++ name) op value

def xpathTests (limit : String → String) : ConditionDefinition → List String
  | .attribute name op value => [xpathAttribute (trim name) op value]
  | .classes names => names.map fun name => xpathComparison "@class" .wholeWord (trim name)
  | .text op value => [xpathComparison "text()" op value]
  | .place which => [which.text]
  | .boundary entry => [limit entry]
  | _ => []

/-- The text of a condition in XPath, a predicate for each test. However many negations there are,
each predicate is negated once. -/
def xpathText (limit : String → String) (condition : ConditionDefinition) : String :=
  String.join ((condition.core.xpathTests limit).map fun test =>
    if condition.isNegated then "[not(" ++ test ++ ")]" else "[" ++ test ++ "]")

end ConditionDefinition

def StepKind.combinator : StepKind → String
  | .child => " > "
  | .sibling => " ~ "
  | .nextSibling => " + "
  | _ => " "

def StepKind.axis : StepKind → String
  | .page | .descendant => "descendant"
  | .child => "child"
  | .sibling => "following-sibling"
  | .precedingSibling => "preceding-sibling"
  | .following => "following"
  | .preceding => "preceding"
  | .parent => "parent"
  | .nextSibling | .limitedBy => ""

namespace StepDefinition

def writtenTag (step : StepDefinition) : String :=
  if step.kind = .parent then anyTag else trim (step.tag.getD (defaultTag .xpath))

def appendCss (text : String) (step : StepDefinition) : String :=
  text ++ (if text = "" then "" else step.kind.combinator) ++
    trim (step.tag.getD (defaultTag .css)) ++
      String.join (step.conditions.map ConditionDefinition.cssText)

def appendXPath (limit : String → String) (text : String) (step : StepDefinition) : String :=
  if step.kind = .limitedBy then text ++ "[" ++ step.boundary.elim "" limit ++ "]"
  else
    text ++ "/" ++ step.kind.axis ++ "::" ++ step.writtenTag ++
      String.join (step.conditions.map (ConditionDefinition.xpathText limit))

end StepDefinition

def Definition.text (limit : String → String) (definition : Definition) : String :=
  match definition.grammar with
  | .css => definition.steps.foldl StepDefinition.appendCss (definition.raw.getD "")
  | .xpath => definition.steps.foldl (StepDefinition.appendXPath limit) (definition.raw.getD "")

def followingText (text : String) : String :=
  match "/descendant".toList.isPrefixOf? text.toList with
  | some rest => "following" ++ String.ofList rest
  | none => text

/-- The texts of entries, by recursion over what they mention: an entry has the text of its
definition if every entry it mentions has the text that is used for it. -/
inductive HasText (definitions : Table Definition) : String → String → Prop
  | entry {name : String} {definition : Definition} (texts : String → String) :
      definitions.get? name = some definition →
      (∀ mentioned ∈ definition.mentions, HasText definitions mentioned (texts mentioned)) →
      HasText definitions name (definition.text fun mentioned => followingText (texts mentioned))

end Catalog

end PageSelectors
