import PageSelectors.Css.Render
import PageSelectors.XPath.Render

/-!
Selectors of either grammar. Two selectors count as the same if they belong to one grammar and
compile to one text; all selectors of a grammar that do not compile count as the same.
-/

namespace PageSelectors

inductive Selector where
  | css (chain : Css.Chain)
  | xpath (chain : XPath.Chain)

namespace Selector

def grammar : Selector → Grammar
  | css _ => .css
  | xpath _ => .xpath

def render : Selector → Except Fault String
  | css chain => chain.render
  | xpath chain => chain.render

def isAbsolute : Selector → Bool
  | css chain => chain.isAbsolute
  | xpath chain => chain.isAbsolute

def before? : Selector → Option Selector
  | css chain => chain.before?.map css
  | xpath chain => chain.before?.map xpath

def build (selector : Selector) (grammar : Grammar) : Except Fault String :=
  if grammar = selector.grammar then selector.render
  else .error (.grammarMismatch (selector.grammar.title ++ " expression") grammar)

def text? (selector : Selector) : Option String :=
  selector.render.toOption

instance : BEq Selector where
  beq left right := left.grammar == right.grammar && left.text? == right.text?

end Selector

end PageSelectors
