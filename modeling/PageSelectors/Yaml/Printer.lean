import PageSelectors.Yaml.Scalar.Writing

/-!
Writing settings as YAML: nested block mappings with flags and texts in them.
-/

namespace PageSelectors.Yaml

inductive Outline where
  | flag (value : Bool)
  | text (text : String)
  | record (fields : List (String × Outline))

namespace Outline

mutual

def write (indent : Nat) : Outline → List Char
  | flag value => (if value then " true\n" else " false\n").toList
  | text value => writeText (indent + 2) value
  | record fields => '\n' :: writeFields (indent + 2) fields

def writeFields (indent : Nat) : List (String × Outline) → List Char
  | [] => []
  | (key, value) :: rest =>
      List.replicate indent ' ' ++ key.toList ++ ':' :: write indent value ++
        writeFields indent rest

end

def print (fields : List (String × Outline)) : String :=
  String.ofList (writeFields 0 fields)

end Outline

end PageSelectors.Yaml
