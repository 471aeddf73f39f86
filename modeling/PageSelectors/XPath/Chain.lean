import PageSelectors.Condition

/-!
XPath chains: raw text or a first step, followed by steps along an axis and by boundaries that keep
only what has a match of another chain after it. A condition may hold a chain as well, so chains and
conditions are nested in each other.
-/

namespace PageSelectors.XPath

/-- A place among the matches of a step. Indices count from zero. -/
inductive Place where
  | exactly (index : Nat)
  | atLeast (index : Nat)
  | atMost (index : Nat)
  | last
  deriving DecidableEq, Repr

inductive Native (Chain : Type) where
  | text (op : TextOp) (operand : String)
  | place (place : Place)
  | boundary (chain : Chain)

inductive Axis where
  | descendant
  | child
  | sibling
  | precedingSibling
  | following
  | preceding
  deriving DecidableEq, Repr

inductive Step (Chain : Type) where
  | element (axis : Axis) (tag : String) (conditions : List (Condition (Native Chain)))
  | parent

inductive Chain where
  | raw (text : String)
  | page (tag : String) (conditions : List (Condition (Native Chain)))
  /-- The first step of a chain that starts at a context element. -/
  | relative (step : Step Chain)
  | step (before : Chain) (step : Step Chain)
  /-- The elements of a chain that have a match of the boundary after them. -/
  | limitedBy (before boundary : Chain)

inductive Relation where
  | page
  | axis (along : Axis)
  | parent
  deriving DecidableEq, Repr

def Axis.token : Axis → String
  | descendant => "/descendant::"
  | child => "/child::"
  | sibling => "/following-sibling::"
  | precedingSibling => "/preceding-sibling::"
  | following => "/following::"
  | preceding => "/preceding::"

def Axis.word : Axis → String
  | descendant => "descendant"
  | child => "child"
  | sibling => "sibling"
  | precedingSibling => "preceding_sibling"
  | following => "following"
  | preceding => "preceding"

def Relation.token : Relation → String
  | page => Axis.descendant.token
  | axis along => along.token
  | parent => "/parent::"

def Relation.word : Relation → String
  | page => "page"
  | axis along => along.word
  | parent => "parent"

def Step.relation {Chain : Type} : Step Chain → Relation
  | element axis _ _ => .axis axis
  | parent => .parent

namespace Chain

def isAbsolute : Chain → Bool
  | raw _ => false
  | page _ _ => true
  | relative _ => false
  | step before _ => before.isAbsolute
  | limitedBy before _ => before.isAbsolute

def before? : Chain → Option Chain
  | step before _ => some before
  | limitedBy before _ => some before
  | _ => none

def relation? : Chain → Option Relation
  | raw _ => none
  | page _ _ => some .page
  | relative last => some last.relation
  | step _ last => some last.relation
  | limitedBy _ _ => none

end Chain

end PageSelectors.XPath
