import PageSelectors.Css.Render
import PageSelectors.XPath.Render

/-!
Nodes that chains share. A node links to the node before it and to the nodes that its boundaries
stand for. It has a cell, into which its text is written when it first compiles and from which it is
read afterwards. A fault is not written down, so a node at fault is compiled again each time.
-/

namespace PageSelectors.Graph

open Text (trim)

abbrev Cells (Vertex : Type) := Vertex → Option String

/-- A compilation that reads and writes cells. What is written outlives a fault. -/
abbrev Compiling (Vertex : Type) := ExceptT Fault (StateM (Cells Vertex))

def Cells.write {Vertex : Type} [DecidableEq Vertex] (vertex : Vertex) (text : String)
    (cells : Cells Vertex) : Cells Vertex :=
  fun other => if other = vertex then some text else cells other

namespace Compiling

variable {Vertex α : Type}

def checked (outcome : Except Fault α) : Compiling Vertex α :=
  ExceptT.mk (pure outcome)

variable [DecidableEq Vertex]

def writeOnce (vertex : Vertex) (text : String) : Compiling Vertex String := do
  match (← get) vertex with
  | some written => return written
  | none =>
    modify (Cells.write vertex text)
    return text

def memoized (vertex : Vertex) (compile : Compiling Vertex String) : Compiling Vertex String := do
  match (← get) vertex with
  | some text => return text
  | none => writeOnce vertex (← compile)

end Compiling

open Compiling (checked)

inductive CssNode (Link : Type) where
  | raw (text : String)
  | page (tag : String) (conditions : List (Condition Css.Native))
  | relative (tag : String) (conditions : List (Condition Css.Native))
  | step (before : Link) (combinator : Css.Combinator) (tag : String)
      (conditions : List (Condition Css.Native))

inductive XPathNode (Link : Type) where
  | raw (text : String)
  | page (tag : String) (conditions : List (Condition (XPath.Native Link)))
  | relative (step : XPath.Step Link)
  | step (before : Link) (step : XPath.Step Link)
  | limitedBy (before boundary : Link)

variable {Link Vertex : Type}

namespace CssNode

def compile (render : Link → Compiling Vertex String) : CssNode Link → Compiling Vertex String
  | raw text => return text
  | page tag conditions | relative tag conditions => do
      checked (checkTag .css (trim tag) !conditions.isEmpty)
      return trim tag ++ (← checked (Css.renderConditions conditions))
  | step before combinator tag conditions => do
      checked (checkTag .css (trim tag) !conditions.isEmpty)
      let text ← render before
      let joint := if text = "" then "" else combinator.token
      return text ++ joint ++ trim tag ++ (← checked (Css.renderConditions conditions))

def chain (links : Link → Css.Chain) : CssNode Link → Css.Chain
  | raw text => .raw text
  | page tag conditions => .page tag conditions
  | relative tag conditions => .relative tag conditions
  | step before combinator tag conditions => .step (links before) combinator tag conditions

end CssNode

namespace XPathNode

section Compiling

variable (render : Link → Compiling Vertex String) (isAbsolute : Link → Bool)

def compileTest (boundary : Link) : Compiling Vertex String := do
  let text ← render boundary
  checked (XPath.followingTest (isAbsolute boundary) text)

def compileCondition : Condition (XPath.Native Link) → Compiling Vertex String
  | ⟨.shared criterion, negated⟩ => checked (XPath.renderShared negated criterion)
  | ⟨.native (.text op operand), negated⟩ =>
      return XPath.predicate negated (XPath.comparison "text()" op operand)
  | ⟨.native (.place place), negated⟩ => do
      return XPath.predicate negated (← checked place.test)
  | ⟨.native (.boundary boundary), negated⟩ => do
      return XPath.predicate negated (← compileTest render isAbsolute boundary)

def compileConditions : List (Condition (XPath.Native Link)) → Compiling Vertex String
  | [] => return ""
  | condition :: rest => do
      let text ← compileCondition render isAbsolute condition
      return text ++ (← compileConditions rest)

def compileElement (axis tag : String) (conditions : List (Condition (XPath.Native Link))) :
    Compiling Vertex String := do
  checked (checkTag .xpath (trim tag) !conditions.isEmpty)
  return axis ++ trim tag ++ (← compileConditions render isAbsolute conditions)

def compileStep : XPath.Step Link → Compiling Vertex String
  | .element axis tag conditions => compileElement render isAbsolute axis.token tag conditions
  | .parent => return XPath.Relation.parent.token ++ anyTag

def compile : XPathNode Link → Compiling Vertex String
  | raw text => return text
  | page tag conditions =>
      compileElement render isAbsolute XPath.Relation.page.token tag conditions
  | relative first => compileStep render isAbsolute first
  | step before last => do
      let text ← render before
      return text ++ (← compileStep render isAbsolute last)
  | limitedBy before boundary => do
      let text ← render before
      return text ++ XPath.predicate false (← compileTest render isAbsolute boundary)

end Compiling

def before? : XPathNode Link → Option Link
  | step before _ => some before
  | limitedBy before _ => some before
  | _ => none

def startsAtPage (isAbsolute : Link → Bool) : XPathNode Link → Bool
  | raw _ => false
  | page _ _ => true
  | relative _ => false
  | step before _ => isAbsolute before
  | limitedBy before _ => isAbsolute before

section Chains

variable (links : Link → XPath.Chain)

def chainCondition : Condition (XPath.Native Link) → Condition (XPath.Native XPath.Chain)
  | ⟨.shared criterion, negated⟩ => ⟨.shared criterion, negated⟩
  | ⟨.native (.text op operand), negated⟩ => ⟨.native (.text op operand), negated⟩
  | ⟨.native (.place place), negated⟩ => ⟨.native (.place place), negated⟩
  | ⟨.native (.boundary boundary), negated⟩ => ⟨.native (.boundary (links boundary)), negated⟩

def chainStep : XPath.Step Link → XPath.Step XPath.Chain
  | .element axis tag conditions => .element axis tag (conditions.map (chainCondition links))
  | .parent => .parent

def chain : XPathNode Link → XPath.Chain
  | raw text => .raw text
  | page tag conditions => .page tag (conditions.map (chainCondition links))
  | relative first => .relative (chainStep links first)
  | step before last => .step (links before) (chainStep links last)
  | limitedBy before boundary => .limitedBy (links before) (links boundary)

end Chains

end XPathNode

end PageSelectors.Graph
