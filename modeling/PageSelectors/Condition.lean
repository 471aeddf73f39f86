import PageSelectors.Grammar

/-!
Conditions on elements. Some criteria exist in both grammars, the others are native to one of them;
a condition is a criterion or its negation.
-/

namespace PageSelectors

inductive TextOp where
  | is
  | contains
  | startsWith
  | endsWith
  | wholeWord
  deriving DecidableEq, Repr

inductive AttributeOp where
  | isPresent
  | compare (op : TextOp)
  deriving DecidableEq, Repr

inductive SharedCriterion where
  | attribute (name : String) (op : AttributeOp) (operand : String)
  | classes (names : List String)
  deriving DecidableEq, Repr

/-- A criterion of one grammar: a shared one, or one that is native to it. -/
inductive Criterion (Native : Type) where
  | shared (criterion : SharedCriterion)
  | native (criterion : Native)

structure Condition (Native : Type) where
  criterion : Criterion Native
  negated : Bool

end PageSelectors
