/-!
The two query grammars a selector can be compiled into.
-/

namespace PageSelectors

inductive Grammar where
  | css
  | xpath
  deriving DecidableEq, Repr

namespace Grammar

def name : Grammar → String
  | css => "css"
  | xpath => "xpath"

def title : Grammar → String
  | css => "CSS"
  | xpath => "XPath"

def words : List (String × Grammar) :=
  [css, xpath].map fun grammar => (grammar.name, grammar)

end Grammar

end PageSelectors
