import PageSelectors.Json.Quoting
import PageSelectors.Json.Value

/-!
Writing JSON, either without any blanks or with one member or item a line.
-/

namespace PageSelectors.Json

def quoteName (name : Option String) : String :=
  quote (name.getD "")

namespace Value

mutual

def compact : Value → String
  | null => "null"
  | bool value => toString value
  | natural value => toString value
  | otherNumber literal => literal
  | string text => quote text
  | brokenString => quote ""
  | array items => "[" ++ String.intercalate "," (compactItems items) ++ "]"
  | object members => "\x7b" ++ String.intercalate "," (compactMembers members) ++ "\x7d"

def compactItems : List Value → List String
  | [] => []
  | item :: rest => item.compact :: compactItems rest

def compactMembers : List (Option String × Value) → List String
  | [] => []
  | (name, value) :: rest => (quoteName name ++ ":" ++ value.compact) :: compactMembers rest

end

def block (indent opening closing : String) (lines : List String) : String :=
  if lines.isEmpty then opening ++ closing
  else
    opening ++ "\n" ++ String.intercalate ",\n" (lines.map (indent ++ "  " ++ ·)) ++ "\n" ++
      indent ++ closing

mutual

def indented (indent : String) : Value → String
  | array items => block indent "[" "]" (indentedItems (indent ++ "  ") items)
  | object members => block indent "\x7b" "\x7d" (indentedMembers (indent ++ "  ") members)
  | value => value.compact

def indentedItems (indent : String) : List Value → List String
  | [] => []
  | item :: rest => item.indented indent :: indentedItems indent rest

def indentedMembers (indent : String) : List (Option String × Value) → List String
  | [] => []
  | (name, value) :: rest =>
      (quoteName name ++ ": " ++ value.indented indent) :: indentedMembers indent rest

end

def pretty (value : Value) : String :=
  value.indented ""

end Value

end PageSelectors.Json
