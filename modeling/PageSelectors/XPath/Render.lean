import PageSelectors.XPath.Chain
import PageSelectors.XPath.Quoting
import PageSelectors.Name

/-!
The text of an XPath chain. The chain before a step is compiled first, then the step's tag is
checked, then its conditions follow in order, each as one or more predicates. A boundary must start
at the page; its root axis is replaced, so that it looks for a match after the element.
-/

namespace PageSelectors.XPath

open Text (trim)

def comparison (subject : String) (op : TextOp) (operand : String) : String :=
  match op with
  | .is => subject ++ "=" ++ quote operand
  | .contains => "contains(" ++ subject ++ "," ++ quote operand ++ ")"
  | .startsWith => "starts-with(" ++ subject ++ "," ++ quote operand ++ ")"
  | .endsWith =>
      "substring(" ++ subject ++ ", string-length(" ++ subject ++ ") - string-length(" ++
        quote operand ++ ")+1) = " ++ quote operand
  | .wholeWord =>
      "contains(concat(' ', normalize-space(" ++ subject ++ "), ' '), " ++
        quote (" " ++ operand ++ " ") ++ ")"

def attributeTest (name : String) : AttributeOp → String → String
  | .isPresent, _ => "@" ++ name
  | .compare op, operand => comparison ("@" ++ name) op operand

def Place.test : Place → Except Fault String
  | exactly index => do return "position() = " ++ toString (← ordinal index)
  | atLeast index => do return "position() >= " ++ toString (← ordinal index)
  | atMost index => do return "position() <= " ++ toString (← ordinal index)
  | last => .ok "last()"

def predicate (negated : Bool) (test : String) : String :=
  if negated then "[not(" ++ test ++ ")]" else "[" ++ test ++ "]"

/-- The predicates of a shared criterion. Each class has a predicate of its own, so that a name is
only found as a whole word. -/
def renderShared (negated : Bool) : SharedCriterion → Except Fault String
  | .attribute name op operand => do
      return predicate negated (attributeTest (← checkName "Attribute" name) op operand)
  | .classes names => do
      return String.join
        ((← checkClasses names).map fun name =>
          predicate negated (comparison "@class" .wholeWord name))

def isAxisChar (c : Char) : Bool :=
  ('a' ≤ c && c ≤ 'z') || c == '-'

def replaceRoot : List Char → List Char
  | '/' :: rest =>
      if (rest.takeWhile isAxisChar).isEmpty then '/' :: rest
      else "following".toList ++ rest.dropWhile isAxisChar
  | text => text

def followingTest (absolute : Bool) (text : String) : Except Fault String :=
  if absolute then .ok (String.ofList (replaceRoot text.toList))
  else .error (.relativeBoundary text)

mutual

def Chain.render : Chain → Except Fault String
  | .raw text => .ok text
  | .page tag conditions => do
      checkTag .xpath (trim tag) !conditions.isEmpty
      return Relation.page.token ++ trim tag ++ (← renderConditions conditions)
  | .relative step => renderStep step
  | .step before step => do
      let text ← before.render
      return text ++ (← renderStep step)
  | .limitedBy before boundary => do
      let text ← before.render
      let limit ← boundary.render
      return text ++ predicate false (← followingTest boundary.isAbsolute limit)

def renderStep : Step Chain → Except Fault String
  | .element axis tag conditions => do
      checkTag .xpath (trim tag) !conditions.isEmpty
      return axis.token ++ trim tag ++ (← renderConditions conditions)
  | .parent => .ok (Relation.parent.token ++ anyTag)

def renderConditions : List (Condition (Native Chain)) → Except Fault String
  | [] => .ok ""
  | condition :: rest => do
      let text ← renderCondition condition
      return text ++ (← renderConditions rest)

def renderCondition : Condition (Native Chain) → Except Fault String
  | ⟨.shared criterion, negated⟩ => renderShared negated criterion
  | ⟨.native (.text op operand), negated⟩ =>
      .ok (predicate negated (comparison "text()" op operand))
  | ⟨.native (.place place), negated⟩ => do return predicate negated (← place.test)
  | ⟨.native (.boundary chain), negated⟩ => do
      let text ← chain.render
      return predicate negated (← followingTest chain.isAbsolute text)

end

end PageSelectors.XPath
