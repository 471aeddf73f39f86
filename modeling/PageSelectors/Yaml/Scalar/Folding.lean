import PageSelectors.Yaml.Mark

/-!
Folding of line breaks inside scalars. A single line break stands for a space, further ones for
themselves; blanks around breaks are dropped, blanks within a line are kept.
-/

namespace PageSelectors.Yaml

/-- What has been passed since the last character of a scalar. -/
structure Gap where
  blanks : List Char
  broken : Bool
  /-- The first line break; there is none where it was escaped. -/
  first : Option Char
  /-- The line breaks after the first, the last one first. -/
  others : List Char

namespace Gap

def none : Gap :=
  ⟨[], false, .none, []⟩

def escaped : Gap :=
  ⟨[], true, .none, []⟩

def isNone (gap : Gap) : Bool :=
  gap.blanks.isEmpty && !gap.broken

/-- A gap with one more blank. Only blanks within the first line count. -/
def blank (c : Char) (gap : Gap) : Gap :=
  if gap.broken then gap else { gap with blanks := c :: gap.blanks }

def lineBreak (c : Char) (gap : Gap) : Gap :=
  if gap.broken then { gap with others := c :: gap.others } else ⟨[], true, some c, []⟩

def folded (gap : Gap) : List Char :=
  if gap.broken then
    match gap.first with
    | some '\n' => if gap.others.isEmpty then [' '] else gap.others
    | first => gap.others ++ first.toList
  else gap.blanks

end Gap

end PageSelectors.Yaml
