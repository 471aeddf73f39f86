/-!
The kinds of step a catalog can name. Each grammar accepts some of them.
-/

namespace PageSelectors.Catalog

inductive StepKind where
  | page
  | descendant
  | child
  | sibling
  | nextSibling
  | precedingSibling
  | following
  | preceding
  | parent
  | limitedBy
  deriving DecidableEq, Repr

namespace StepKind

def all : List StepKind :=
  [page, descendant, child, sibling, nextSibling, precedingSibling, following, preceding, parent,
    limitedBy]

def word : StepKind → String
  | page => "page"
  | descendant => "descendant"
  | child => "child"
  | sibling => "sibling"
  | nextSibling => "next_sibling"
  | precedingSibling => "preceding_sibling"
  | following => "following"
  | preceding => "preceding"
  | parent => "parent"
  | limitedBy => "limited_by"

def title : StepKind → String
  | page => "Page"
  | descendant => "Descendant"
  | child => "Child"
  | sibling => "Sibling"
  | nextSibling => "NextSibling"
  | precedingSibling => "PrecedingSibling"
  | following => "Following"
  | preceding => "Preceding"
  | parent => "Parent"
  | limitedBy => "LimitedBy"

end StepKind

end PageSelectors.Catalog
