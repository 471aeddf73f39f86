import PageSelectors.Name

/-!
What a document format offers to those who read records out of it. Each format says how its nodes
stand for texts, numbers, lists, records and choices; the readers of catalogs, queries and settings
are written once for all formats.
-/

namespace PageSelectors

/-- A computation that reads a document. It may fail, for no stated reason, and it has a budget for
following references inside the document. -/
abbrev Reading := StateT Nat Option

def unreadable {α : Type} : Reading α :=
  fun _ => none

structure Source (Node : Type) where
  text : Node → Reading String
  flag : Node → Reading Bool
  /-- A natural number below the bound of indices. -/
  index : Node → Reading Nat
  /-- The node, unless it says that there is nothing. -/
  optional : Node → Reading (Option Node)
  items : Node → Reading (List Node)
  members : Node → Reading (List (String × Node))
  /-- The fields of a record that has the given names, none of them twice. In a closed record any
  other name is refused, in an open one it is passed over. -/
  fields : (names : List String) → (closed : Bool) → Node → Reading (List (String × Node))
  choice : Node → Reading (String × Option Node)
  /-- The check of what comes with a choice that carries nothing. -/
  bare : Option Node → Reading Unit

namespace Source

variable {Node α : Type}

def select (names : List String) (closed : Bool) :
    List (String × Node) → Reading (List (String × Node))
  | [] => pure []
  | (name, node) :: rest => do
      let fields ← select names closed rest
      if name ∈ names then
        if (fields.lookup name).isSome then unreadable else return (name, node) :: fields
      else if closed then unreadable
      else return fields

def required (fields : List (String × Node)) (name : String) (read : Node → Reading α) :
    Reading α :=
  match fields.lookup name with
  | some node => read node
  | none => unreadable

def defaulted (fields : List (String × Node)) (name : String) (default : α)
    (read : Node → Reading α) : Reading α :=
  match fields.lookup name with
  | some node => read node
  | none => pure default

def text? (source : Source Node) (node : Node) : Reading (Option String) := do
  match ← source.optional node with
  | some node => return some (← source.text node)
  | none => return none

def word (source : Source Node) (words : List (String × α)) (node : Node) : Reading α := do
  let (word, payload) ← source.choice node
  match words.lookup word with
  | some value => source.bare payload; return value
  | none => unreadable

end Source

end PageSelectors
