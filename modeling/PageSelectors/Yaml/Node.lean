import PageSelectors.Yaml.Token

/-!
YAML nodes. Anchors have names of a given type, so that the same trees hold documents as they are
written and documents whose aliases have been linked to their anchors.
-/

namespace PageSelectors.Yaml

structure Properties (Name : Type) where
  anchor : Option Name
  tag : Option Address
  deriving DecidableEq, Repr

inductive Node (Name : Type) where
  | scalar (properties : Properties Name) (style : Style) (text : String)
  | sequence (properties : Properties Name) (items : List (Node Name))
  | mapping (properties : Properties Name) (members : List (Node Name × Node Name))
  | reference (name : Name)

namespace Properties

variable {Name : Type}

def none : Properties Name :=
  ⟨.none, .none⟩

def isNone (properties : Properties Name) : Bool :=
  properties.anchor.isNone && properties.tag.isNone

def ownName? (properties : Properties Name) : Option String :=
  properties.tag.bind Address.ownName?

end Properties

namespace Node

variable {Name : Type}

def empty : Node Name :=
  scalar .none .plain ""

mutual

/-- The number of marks that a reader of the node passes: one for a scalar or alias, and two for the
ends of a collection. -/
def size : Node Name → Nat
  | scalar .. => 1
  | reference _ => 1
  | sequence _ items => 2 + sizeItems items
  | mapping _ members => 2 + sizeMembers members

def sizeItems : List (Node Name) → Nat
  | [] => 0
  | node :: rest => node.size + sizeItems rest

def sizeMembers : List (Node Name × Node Name) → Nat
  | [] => 0
  | (key, value) :: rest => key.size + value.size + sizeMembers rest

end

end Node

end PageSelectors.Yaml
