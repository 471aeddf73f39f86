import PageSelectors.Catalog.Definition
import PageSelectors.Document.Source

/-!
The words that catalogs use for comparisons, places, pseudo-classes and kinds of step.
-/

namespace PageSelectors

def TextOp.word : TextOp → String
  | is => "is"
  | contains => "contains"
  | startsWith => "starts_with"
  | endsWith => "ends_with"
  | wholeWord => "whole_word"

def TextOp.words : List (String × TextOp) :=
  [is, contains, startsWith, endsWith, wholeWord].map fun op => (op.word, op)

def AttributeOp.word : AttributeOp → String
  | isPresent => "is_present"
  | compare op => op.word

def AttributeOp.words : List (String × AttributeOp) :=
  (isPresent :: [.is, .contains, .startsWith, .endsWith, .wholeWord].map compare).map
    fun op => (op.word, op)

def Catalog.StepKind.words : List (String × Catalog.StepKind) :=
  all.map fun kind => (kind.word, kind)

def XPath.Place.word : XPath.Place → String × Option Nat
  | exactly index => ("at", some index)
  | atLeast index => ("from", some index)
  | atMost index => ("to", some index)
  | last => ("last", none)

def XPath.Place.indexed : List (String × (Nat → XPath.Place)) :=
  [("at", exactly), ("from", atLeast), ("to", atMost)]

def XPath.Place.plain : List (String × XPath.Place) :=
  [("last", last)]

def Css.Pseudo.word : Css.Pseudo → String × Option Nat
  | firstChild => ("first_child", none)
  | lastChild => ("last_child", none)
  | firstOfType => ("first_of_type", none)
  | lastOfType => ("last_of_type", none)
  | nthChild index => ("nth_child", some index)
  | nthLastChild index => ("nth_last_child", some index)
  | nthOfType index => ("nth_of_type", some index)
  | nthLastOfType index => ("nth_last_of_type", some index)

def Css.Pseudo.indexed : List (String × (Nat → Css.Pseudo)) :=
  [("nth_child", nthChild), ("nth_last_child", nthLastChild), ("nth_of_type", nthOfType),
    ("nth_last_of_type", nthLastOfType)]

def Css.Pseudo.plain : List (String × Css.Pseudo) :=
  [("first_child", firstChild), ("last_child", lastChild), ("first_of_type", firstOfType),
    ("last_of_type", lastOfType)]

end PageSelectors
