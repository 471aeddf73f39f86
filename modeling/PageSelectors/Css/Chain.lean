import PageSelectors.Condition

/-!
CSS chains: raw text or a first compound selector, followed by compound selectors that are each
joined by a combinator.
-/

namespace PageSelectors.Css

/-- Structural pseudo-classes. Indices count from zero. -/
inductive Pseudo where
  | firstChild
  | lastChild
  | firstOfType
  | lastOfType
  | nthChild (index : Nat)
  | nthLastChild (index : Nat)
  | nthOfType (index : Nat)
  | nthLastOfType (index : Nat)
  deriving DecidableEq, Repr

inductive Native where
  | tag (name : String)
  | id (value : String)
  | pseudo (pseudo : Pseudo)
  deriving DecidableEq, Repr

inductive Combinator where
  | descendant
  | child
  | sibling
  | nextSibling
  deriving DecidableEq, Repr

inductive Chain where
  | raw (text : String)
  | page (tag : String) (conditions : List (Condition Native))
  /-- The first step of a chain that starts at a context element. -/
  | relative (tag : String) (conditions : List (Condition Native))
  | step (before : Chain) (combinator : Combinator) (tag : String)
      (conditions : List (Condition Native))

inductive Relation where
  | page
  | combinator (joint : Combinator)
  deriving DecidableEq, Repr

def Combinator.token : Combinator → String
  | descendant => " "
  | child => " > "
  | sibling => " ~ "
  | nextSibling => " + "

def Combinator.word : Combinator → String
  | descendant => "descendant"
  | child => "child"
  | sibling => "sibling"
  | nextSibling => "next_sibling"

def Relation.token : Relation → String
  | page => ""
  | combinator joint => joint.token

def Relation.word : Relation → String
  | page => "page"
  | combinator joint => joint.word

namespace Chain

def isAbsolute : Chain → Bool
  | raw _ => false
  | page _ _ => true
  | relative _ _ => false
  | step before _ _ _ => before.isAbsolute

def before? : Chain → Option Chain
  | step before _ _ _ => some before
  | _ => none

def relation? : Chain → Option Relation
  | raw _ => none
  | page _ _ => some .page
  | relative _ _ => some (.combinator .descendant)
  | step _ combinator _ _ => some (.combinator combinator)

end Chain

end PageSelectors.Css
