import PageSelectors.Document.Source
import PageSelectors.Yaml.Document
import PageSelectors.Yaml.Scalar.Schema

/-!
YAML documents as sources of records. Aliases are followed where they are read. A text may be any
scalar, but nothing and truth values are plain ones. There are two ways to write a choice that
carries something: as a mapping with one member, or as a tag.
-/

namespace PageSelectors.Yaml

structure Cursor where
  depth : Nat
  node : Node Nat

def depthLimit : Nat := 128

namespace Cursor

def follow (anchors : List (Nat × Node Nat)) (cursor : Cursor) : Reading Cursor :=
  match cursor.node with
  | .reference number => fun budget =>
      match budget, anchors.lookup number with
      | budget + 1, some node => some (⟨cursor.depth, node⟩, budget)
      | _, _ => none
  | _ => pure cursor

def enter (cursor : Cursor) : Reading Nat :=
  match cursor.depth with
  | 0 => unreadable
  | depth + 1 => pure depth

variable (anchors : List (Nat × Node Nat))

def text (cursor : Cursor) : Reading String := do
  match (← cursor.follow anchors).node with
  | .scalar _ _ text => return text
  | _ => unreadable

/-- The text of a scalar that is plain, or literal with the tag of what is wanted. -/
def core (word : String) (cursor : Cursor) : Reading String := do
  match (← cursor.follow anchors).node with
  | .scalar properties style text =>
      if style == .plain || (style == .literal && properties.tag == some (.core word)) then
        return text
      else unreadable
  | _ => unreadable

def flag (cursor : Cursor) : Reading Bool := do
  match boolWords.lookup (← cursor.core anchors "bool") with
  | some value => return value
  | none => unreadable

def index (cursor : Cursor) : Reading Nat := do
  match natural? (← cursor.core anchors "int") with
  | some value => if value < indexBound then return value else unreadable
  | none => unreadable

/-- A plain scalar says that there is nothing if it is empty or a null word. With the tag of nothing
it must be a null word, with another tag it is a text. -/
def optional (cursor : Cursor) : Reading (Option Cursor) := do
  let target ← cursor.follow anchors
  match target.node with
  | .scalar properties .plain text =>
      match properties.tag with
      | none => if text.isEmpty || text ∈ nullWords then return none else return some target
      | some tag =>
          if tag ≠ .core "null" then return some target
          else if text ∈ nullWords then return none
          else unreadable
  | _ => return some target

def items (cursor : Cursor) : Reading (List Cursor) := do
  let target ← cursor.follow anchors
  match target.node with
  | .sequence _ items =>
      let depth ← target.enter
      return items.map (Cursor.mk depth)
  | .scalar _ .plain "" => return []
  | _ => unreadable

def namedMembers (depth : Nat) :
    List (Node Nat × Node Nat) → Reading (List (String × Cursor))
  | [] => return []
  | (key, value) :: rest => do
      let name ← text anchors ⟨depth, key⟩
      return (name, ⟨depth, value⟩) :: (← namedMembers depth rest)

def members (cursor : Cursor) : Reading (List (String × Cursor)) := do
  let target ← cursor.follow anchors
  match target.node with
  | .mapping _ members => namedMembers anchors (← target.enter) members
  | .scalar _ .plain "" => return []
  | _ => unreadable

def fields (names : List String) (closed : Bool) (cursor : Cursor) :
    Reading (List (String × Cursor)) := do
  Source.select names closed (← cursor.members anchors)

def valueTags : List Address :=
  ["null", "bool", "int", "float"].map .core

def keyedChoice (cursor : Cursor) : Reading (String × Option Cursor) := do
  let target ← cursor.follow anchors
  match target.node with
  | .scalar properties _ text =>
      if properties.ownName?.isSome || properties.tag.any (· ∈ valueTags) then unreadable
      else return (text, none)
  | .mapping properties members =>
      if properties.ownName?.isSome then unreadable
      else match ← namedMembers anchors (← target.enter) members with
        | [(word, payload)] => return (word, some payload)
        | _ => unreadable
  | _ => unreadable

def taggedChoice (cursor : Cursor) : Reading (String × Option Cursor) := do
  let target ← cursor.follow anchors
  match target.node with
  | .scalar properties _ text =>
      match properties.ownName? with
      | some word => return (word, some target)
      | none => return (text, none)
  | _ => unreadable

def keyedBare : Option Cursor → Reading Unit
  | none => return ()
  | some _ => unreadable

def taggedBare : Option Cursor → Reading Unit
  | none => return ()
  | some cursor =>
      match cursor.node with
      | .scalar _ .plain text => if text.isEmpty || text ∈ nullWords then return () else unreadable
      | _ => unreadable

end Cursor

def source (anchors : List (Nat × Node Nat)) : Source Cursor where
  text := Cursor.text anchors
  flag := Cursor.flag anchors
  index := Cursor.index anchors
  optional := Cursor.optional anchors
  items := Cursor.items anchors
  members := Cursor.members anchors
  fields := Cursor.fields anchors
  choice := Cursor.keyedChoice anchors
  bare := Cursor.keyedBare

def taggedSource (anchors : List (Nat × Node Nat)) : Source Cursor :=
  { source anchors with choice := Cursor.taggedChoice anchors, bare := Cursor.taggedBare }

def read? {α : Type} (source : List (Nat × Node Nat) → Source Cursor)
    (read : Source Cursor → Cursor → Reading α) (text : String) : Option α := do
  let document ← Document.ofText? text
  (read (source document.anchors) ⟨depthLimit, document.root⟩).run' document.aliasBudget

end PageSelectors.Yaml
