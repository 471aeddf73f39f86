import PageSelectors.Css.Render
import PageSelectors.XPath.Render

/-!
Leaves: conditions before it is settled which grammar they are for. A leaf becomes a condition of a
grammar exactly if its kind exists there.
-/

namespace PageSelectors

inductive LeafKind where
  | shared (criterion : SharedCriterion)
  | css (native : Css.Native)
  | xpath (native : XPath.Native XPath.Chain)

structure Leaf where
  kind : LeafKind
  negated : Bool := false

def LeafKind.describe : LeafKind → String
  | shared (.attribute _ _ _) => "attribute condition"
  | shared (.classes _) => "CSS classes condition"
  | css (.tag _) => "tag condition"
  | css (.id _) => "id condition"
  | css (.pseudo _) => "structural pseudo-class"
  | xpath (.text _ _) => "text condition"
  | xpath (.place _) => "index condition"
  | xpath (.boundary _) => "boundary condition"

def LeafKind.supports : LeafKind → Grammar → Bool
  | shared _, _ => true
  | css _, grammar => grammar == .css
  | xpath _, grammar => grammar == .xpath

namespace Leaf

/-- The negation of a leaf. Negation is set, never undone. -/
def negate (leaf : Leaf) : Leaf :=
  ⟨leaf.kind, true⟩

def toCss (leaf : Leaf) : Except Fault (Condition Css.Native) :=
  match leaf.kind with
  | .shared criterion => .ok ⟨.shared criterion, leaf.negated⟩
  | .css native => .ok ⟨.native native, leaf.negated⟩
  | .xpath _ => .error (.grammarMismatch leaf.kind.describe .css)

def toXPath (leaf : Leaf) : Except Fault (Condition (XPath.Native XPath.Chain)) :=
  match leaf.kind with
  | .shared criterion => .ok ⟨.shared criterion, leaf.negated⟩
  | .css _ => .error (.grammarMismatch leaf.kind.describe .xpath)
  | .xpath native => .ok ⟨.native native, leaf.negated⟩

def renderCss (leaf : Leaf) : Except Fault String :=
  match leaf.kind with
  | .shared criterion => Css.renderCondition ⟨.shared criterion, leaf.negated⟩
  | .css native => Css.renderCondition ⟨.native native, leaf.negated⟩
  | .xpath _ => .error (.grammarMismatch leaf.kind.describe .css)

def renderXPath (leaf : Leaf) : Except Fault String :=
  match leaf.kind with
  | .shared criterion => XPath.renderCondition ⟨.shared criterion, leaf.negated⟩
  | .css _ => .error (.grammarMismatch leaf.kind.describe .xpath)
  | .xpath native => XPath.renderCondition ⟨.native native, leaf.negated⟩

def render (leaf : Leaf) : Grammar → Except Fault String
  | .css => leaf.renderCss
  | .xpath => leaf.renderXPath

theorem render_css (leaf : Leaf) : leaf.render .css = leaf.toCss >>= Css.renderCondition := by
  obtain ⟨kind, negated⟩ := leaf
  cases kind <;> rfl

theorem render_xpath (leaf : Leaf) :
    leaf.render .xpath = leaf.toXPath >>= XPath.renderCondition := by
  obtain ⟨kind, negated⟩ := leaf
  cases kind <;> rfl

end Leaf

end PageSelectors
