import PageSelectors.Document.Source
import PageSelectors.Json.Value

/-!
JSON documents as a source of records. A record is an object, or an array with its fields in order;
a choice is its word, or an object with the word as its only name. Arrays and objects nest to a
limited depth; what is passed over may nest deeper.
-/

namespace PageSelectors.Json

/-- A part of a document, and how many levels of arrays and objects may still be entered. -/
structure Cursor where
  depth : Nat
  value : Value

def depthLimit : Nat := 127

namespace Cursor

def enter (cursor : Cursor) : Reading Nat :=
  match cursor.depth with
  | 0 => unreadable
  | depth + 1 => pure depth

def text (cursor : Cursor) : Reading String :=
  match cursor.value with
  | .string text => pure text
  | _ => unreadable

def flag (cursor : Cursor) : Reading Bool :=
  match cursor.value with
  | .bool value => pure value
  | _ => unreadable

def index (cursor : Cursor) : Reading Nat :=
  match cursor.value with
  | .natural value => if value < indexBound then pure value else unreadable
  | _ => unreadable

def optional (cursor : Cursor) : Reading (Option Cursor) :=
  match cursor.value with
  | .null => pure none
  | _ => pure (some cursor)

def items (cursor : Cursor) : Reading (List Cursor) :=
  match cursor.value with
  | .array items => do
      let depth ← cursor.enter
      return items.map (Cursor.mk depth)
  | _ => unreadable

def namedMembers (depth : Nat) : List (Option String × Value) → Reading (List (String × Cursor))
  | [] => pure []
  | (some name, value) :: rest => do return (name, ⟨depth, value⟩) :: (← namedMembers depth rest)
  | (none, _) :: _ => unreadable

def members (cursor : Cursor) : Reading (List (String × Cursor)) :=
  match cursor.value with
  | .object members => do namedMembers (← cursor.enter) members
  | _ => unreadable

def fields (names : List String) (closed : Bool) (cursor : Cursor) :
    Reading (List (String × Cursor)) :=
  match cursor.value with
  | .array items => do
      let depth ← cursor.enter
      if items.length ≤ names.length then
        return names.zip (items.map (Cursor.mk depth))
      else unreadable
  | _ => do Source.select names closed (← cursor.members)

def choice (cursor : Cursor) : Reading (String × Option Cursor) :=
  match cursor.value with
  | .string word => pure (word, none)
  | .object [(some word, value)] => do return (word, some ⟨← cursor.enter, value⟩)
  | _ => unreadable

def bare : Option Cursor → Reading Unit
  | none => pure ()
  | some ⟨_, .null⟩ => pure ()
  | some _ => unreadable

end Cursor

def source : Source Cursor where
  text := Cursor.text
  flag := Cursor.flag
  index := Cursor.index
  optional := Cursor.optional
  items := Cursor.items
  members := Cursor.members
  fields := Cursor.fields
  choice := Cursor.choice
  bare := Cursor.bare

def Value.readWithin? {α : Type} (depth : Nat) (read : Cursor → Reading α) (value : Value) :
    Option α :=
  (read ⟨depth, value⟩).run' 0

end PageSelectors.Json
