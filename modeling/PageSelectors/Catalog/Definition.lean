import PageSelectors.Catalog.StepKind
import PageSelectors.Css.Chain
import PageSelectors.Table
import PageSelectors.XPath.Chain

/-!
Catalog files as they are written: named definitions of selectors, each a list of steps with
conditions. A definition may mention other entries of the file as boundaries.
-/

namespace PageSelectors.Catalog

inductive ConditionDefinition where
  | tag (name : String)
  | id (value : String)
  | attribute (name : String) (op : AttributeOp) (value : String)
  | classes (names : List String)
  | text (op : TextOp) (value : String)
  | place (place : XPath.Place)
  | pseudo (pseudo : Css.Pseudo)
  | boundary (entry : String)
  | not (condition : ConditionDefinition)
  deriving DecidableEq, Repr

structure StepDefinition where
  kind : StepKind
  tag : Option String
  conditions : List ConditionDefinition
  /-- The name of the entry that limits the step before. -/
  boundary : Option String
  deriving DecidableEq, Repr

structure Definition where
  grammar : Grammar
  description : Option String
  /-- Text that the steps go on from. -/
  raw : Option String
  steps : List StepDefinition
  deriving DecidableEq, Repr

structure File where
  selectors : Table Definition

end PageSelectors.Catalog
