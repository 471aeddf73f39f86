/-!
CSS strings. An operand is written between single quotes, with a backslash before each single quote
and each backslash.
-/

namespace PageSelectors.Css

def escape : List Char → List Char
  | [] => []
  | c :: rest =>
      if c = '\'' ∨ c = '\\' then '\\' :: c :: escape rest else c :: escape rest

def quote (value : String) : String :=
  String.ofList ('\'' :: escape value.toList ++ ['\''])

end PageSelectors.Css
