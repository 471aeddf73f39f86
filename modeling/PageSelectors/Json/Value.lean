/-!
JSON documents as trees. Of numbers only the natural ones are told apart; a string or a member name
with an unpaired surrogate is kept in its place, but it is no text.
-/

namespace PageSelectors.Json

inductive Value where
  | null
  | bool (value : Bool)
  /-- A number without sign, fraction and exponent. -/
  | natural (value : Nat)
  | otherNumber (literal : String)
  | string (text : String)
  /-- A string with an unpaired surrogate. -/
  | brokenString
  | array (items : List Value)
  | object (members : List (Option String × Value))

namespace Value

def ofMembers (members : List (String × Value)) : Value :=
  .object (members.map fun (name, value) => (some name, value))

def ofText? : Option String → Value
  | some text => .string text
  | none => .null

end Value

end PageSelectors.Json
