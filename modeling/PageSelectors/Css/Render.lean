import PageSelectors.Css.Chain
import PageSelectors.Css.Quoting
import PageSelectors.Name

/-!
The text of a CSS chain. A step checks its own tag first, then the chain before it is compiled, then
its conditions follow in order; so of two faulty tags the one nearest the end is reported.
-/

namespace PageSelectors.Css

open Text (trim)

def Pseudo.render : Pseudo → Except Fault String
  | firstChild => .ok ":first-child"
  | lastChild => .ok ":last-child"
  | firstOfType => .ok ":first-of-type"
  | lastOfType => .ok ":last-of-type"
  | nthChild index => do return ":nth-child(" ++ toString (← ordinal index) ++ ")"
  | nthLastChild index => do return ":nth-last-child(" ++ toString (← ordinal index) ++ ")"
  | nthOfType index => do return ":nth-of-type(" ++ toString (← ordinal index) ++ ")"
  | nthLastOfType index => do return ":nth-last-of-type(" ++ toString (← ordinal index) ++ ")"

def comparison : TextOp → String
  | .is => "="
  | .contains => "*="
  | .startsWith => "^="
  | .endsWith => "$="
  | .wholeWord => "~="

def attributeSelector (name : String) : AttributeOp → String → String
  | .isPresent, _ => "[" ++ name ++ "]"
  | .compare op, operand => "[" ++ name ++ comparison op ++ quote operand ++ "]"

def renderCriterion : Criterion Native → Except Fault String
  | .shared (.attribute name op operand) => do
      return attributeSelector (← checkName "Attribute" name) op operand
  | .shared (.classes names) => do
      return String.join ((← checkClasses names).map ("." ++ ·))
  | .native (.tag name) => checkName "Tag" name
  | .native (.id value) => do
      return attributeSelector "id" (.compare .is) (← checkName "ID" value)
  | .native (.pseudo pseudo) => pseudo.render

def renderCondition (condition : Condition Native) : Except Fault String := do
  let text ← renderCriterion condition.criterion
  return if condition.negated then ":not(" ++ text ++ ")" else text

def renderConditions : List (Condition Native) → Except Fault String
  | [] => .ok ""
  | condition :: rest => do
      let text ← renderCondition condition
      return text ++ (← renderConditions rest)

namespace Chain

def render : Chain → Except Fault String
  | raw text => .ok text
  | page tag conditions | relative tag conditions => do
      checkTag .css (trim tag) !conditions.isEmpty
      return trim tag ++ (← renderConditions conditions)
  | step before combinator tag conditions => do
      checkTag .css (trim tag) !conditions.isEmpty
      let text ← before.render
      let joint := if text = "" then "" else combinator.token
      return text ++ joint ++ trim tag ++ (← renderConditions conditions)

end Chain

end PageSelectors.Css
