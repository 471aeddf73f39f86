import PageSelectors.Graph.Node
import PageSelectors.Selector

/-!
Graphs of shared nodes, and the calls that a program makes on them. Nodes are numbered in the order
they are made in and link to earlier ones only, so no walk along links comes back. Nodes of the two
grammars never link to each other.
-/

namespace PageSelectors

structure Graph where
  cssSize : Nat
  xpathSize : Nat
  css : (number : Fin cssSize) → Graph.CssNode (Fin number)
  xpath : (number : Fin xpathSize) → Graph.XPathNode (Fin number)

namespace Graph

open Compiling (memoized)

inductive Vertex (graph : Graph) where
  | css (number : Fin graph.cssSize)
  | xpath (number : Fin graph.xpathSize)
  deriving DecidableEq

def target {size : Nat} {number : Fin size} (link : Fin number) : Fin size :=
  link.castLE (Nat.le_of_lt number.isLt)

variable (graph : Graph)

def cssChain (number : Fin graph.cssSize) : Css.Chain :=
  (graph.css number).chain fun link => cssChain (target link)
termination_by number.val
decreasing_by exact link.isLt

def xpathChain (number : Fin graph.xpathSize) : XPath.Chain :=
  (graph.xpath number).chain fun link => xpathChain (target link)
termination_by number.val
decreasing_by exact link.isLt

/-- The selector that a node stands for, with everything it links to written out. -/
def selector : graph.Vertex → Selector
  | .css number => .css (graph.cssChain number)
  | .xpath number => .xpath (graph.xpathChain number)

def isAbsolute (number : Fin graph.xpathSize) : Bool :=
  (graph.xpath number).startsAtPage fun link => isAbsolute (target link)
termination_by number.val
decreasing_by exact link.isLt

def renderCss (number : Fin graph.cssSize) : Compiling graph.Vertex String :=
  memoized (.css number) <| (graph.css number).compile fun link => renderCss (target link)
termination_by number.val
decreasing_by exact link.isLt

def renderXPath (number : Fin graph.xpathSize) : Compiling graph.Vertex String :=
  memoized (.xpath number) <|
    (graph.xpath number).compile (fun link => renderXPath (target link))
      fun link => graph.isAbsolute (target link)
termination_by number.val
decreasing_by exact link.isLt

def render : graph.Vertex → Compiling graph.Vertex String
  | .css number => graph.renderCss number
  | .xpath number => graph.renderXPath number

inductive Call where
  | render (vertex : graph.Vertex)
  | build (vertex : graph.Vertex) (grammar : Grammar)
  | equal (left right : graph.Vertex)
  | hash (vertex : graph.Vertex)

inductive Answer where
  | text (outcome : Except Fault String)
  | equal (same : Bool)
  | hash (text : Option String)

def Vertex.grammar {graph : Graph} : graph.Vertex → Grammar
  | css _ => .css
  | xpath _ => .xpath

def text? (vertex : graph.Vertex) : StateM (Cells graph.Vertex) (Option String) := do
  return (← (graph.render vertex).run).toOption

def answer : graph.Call → StateM (Cells graph.Vertex) Answer
  | .render vertex => return .text (← (graph.render vertex).run)
  | .build vertex grammar =>
      if grammar = vertex.grammar then return .text (← (graph.render vertex).run)
      else
        return .text
          (.error (.grammarMismatch (vertex.grammar.title ++ " expression") grammar))
  | .equal left right =>
      if left.grammar = right.grammar then
        return .equal ((← graph.text? left) == (← graph.text? right))
      else return .equal false
  | .hash vertex => return .hash (← graph.text? vertex)

def run (calls : List graph.Call) : List Answer × Cells graph.Vertex :=
  (calls.mapM graph.answer).run fun _ => none

def plainAnswer : graph.Call → Answer
  | .render vertex => .text (graph.selector vertex).render
  | .build vertex grammar => .text ((graph.selector vertex).build grammar)
  | .equal left right => .equal (graph.selector left == graph.selector right)
  | .hash vertex => .hash (graph.selector vertex).text?

end Graph

end PageSelectors
