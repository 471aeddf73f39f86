import PageSelectors.Yaml.Node.Reader
import PageSelectors.Yaml.Token.Lexer

/-!
YAML documents with their aliases linked. Anchors are numbered, and an alias has the number of the
anchor that its name meant when it came. A new name has the number of names before it; a name that
is set again moves to the number of all names so far, where the next new name goes too. Of the nodes
with one number the last is meant by all aliases.
-/

namespace PageSelectors.Yaml

abbrev AnchorNumbers := List (String × Nat)

/-- A computation that numbers anchors. An alias without an anchor before it makes it fail. -/
abbrev Linking := StateT AnchorNumbers Option

def numberAnchor (name : String) : Linking Nat := do
  let known ← get
  set ((name, known.length) :: known.filter (·.1 ≠ name))
  return known.length

def numberOf (name : String) : Linking Nat := do
  match (← get).lookup name with
  | some number => return number
  | .none => failure

def Properties.link (properties : Properties String) : Linking (Properties Nat) := do
  match properties.anchor with
  | some name => return ⟨some (← numberAnchor name), properties.tag⟩
  | .none => return ⟨.none, properties.tag⟩

namespace Node

mutual

def link : Node String → Linking (Node Nat)
  | scalar properties style text => do return scalar (← properties.link) style text
  | sequence properties items => do
      let properties ← properties.link
      return sequence properties (← linkItems items)
  | mapping properties members => do
      let properties ← properties.link
      return mapping properties (← linkMembers members)
  | reference name => do return reference (← numberOf name)

def linkItems : List (Node String) → Linking (List (Node Nat))
  | [] => return []
  | node :: rest => do
      let node ← node.link
      return node :: (← linkItems rest)

def linkMembers : List (Node String × Node String) → Linking (List (Node Nat × Node Nat))
  | [] => return []
  | (key, value) :: rest => do
      let key ← key.link
      let value ← value.link
      return (key, value) :: (← linkMembers rest)

end

def anchored (properties : Properties Nat) (node : Node Nat) : List (Nat × Node Nat) :=
  (properties.anchor.map fun number => (number, node)).toList

mutual

def anchors : Node Nat → List (Nat × Node Nat)
  | scalar properties style text => anchored properties (scalar properties style text)
  | sequence properties items =>
      anchored properties (sequence properties items) ++ anchorsOfItems items
  | mapping properties members =>
      anchored properties (mapping properties members) ++ anchorsOfMembers members
  | reference _ => []

def anchorsOfItems : List (Node Nat) → List (Nat × Node Nat)
  | [] => []
  | node :: rest => node.anchors ++ anchorsOfItems rest

def anchorsOfMembers : List (Node Nat × Node Nat) → List (Nat × Node Nat)
  | [] => []
  | (key, value) :: rest => key.anchors ++ value.anchors ++ anchorsOfMembers rest

end

end Node

structure Document where
  root : Node Nat

namespace Document

def ofText? (text : String) : Option Document := do
  let node ← Node.ofTokens? (← Token.ofText? text)
  return ⟨← node.link.run' []⟩

def anchors (document : Document) : List (Nat × Node Nat) :=
  document.root.anchors.reverse

def aliasBudget (document : Document) : Nat :=
  100 * document.root.size

end Document

end PageSelectors.Yaml
