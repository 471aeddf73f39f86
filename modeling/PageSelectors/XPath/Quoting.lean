/-!
XPath string literals. XPath has no escapes, so an operand is written between whichever quotes it
does not hold; one that holds both kinds is cut at its single quotes and put together by `concat`.
-/

namespace PageSelectors.XPath

/-- The parts of a list of characters between its single quotes. -/
def segments : List Char → List (List Char)
  | [] => [[]]
  | c :: rest =>
      if c = '\'' then [] :: segments rest
      else match segments rest with
        | [] => [[c]]
        | first :: others => (c :: first) :: others

def quoteChars (cs : List Char) : List Char :=
  if '\'' ∉ cs then '\'' :: cs ++ ['\'']
  else if '"' ∉ cs then '"' :: cs ++ ['"']
  else
    "concat(".toList
      ++ List.intercalate ", \"'\", ".toList
          ((segments cs).map fun part => '\'' :: part ++ ['\''])
      ++ [')']

def quote (value : String) : String :=
  String.ofList (quoteChars value.toList)

end PageSelectors.XPath
