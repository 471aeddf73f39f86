import PageSelectors.Locator.Search
import PageSelectors.Proofs.XPath.Rendering

/-!
What can be put in the place of a selector. A text and whether it starts at the page are all that
anything built from a selector takes over from it. So a selector can be replaced by any other of
which the two are the same, wherever it stands: before further steps, as a limit, or as the boundary
of a condition, plain or negated.
-/

namespace PageSelectors

open Outcome

namespace Css

inductive Context where
  | hole
  | step (before : Context) (combinator : Combinator) (tag : String)
      (conditions : List (Condition Native))

def Context.fill (chain : Chain) : Context → Chain
  | hole => chain
  | step before combinator tag conditions =>
      .step (before.fill chain) combinator tag conditions

theorem fill_alike {first second : Chain} (render : first.render = second.render)
    (isAbsolute : first.isAbsolute = second.isAbsolute) (context : Context) :
    (context.fill first).render = (context.fill second).render ∧
      (context.fill first).isAbsolute = (context.fill second).isAbsolute := by
  induction context with
  | hole => exact ⟨render, isAbsolute⟩
  | step before combinator tag conditions ih =>
      refine ⟨?_, ih.2⟩
      rw [Context.fill, Context.fill, Chain.render, Chain.render, ih.1]

end Css

namespace XPath

/-- An XPath chain with holes. A hole can stand wherever a chain can: at the start, as a limit, and
as the boundary of a condition at any depth. -/
inductive Context where
  | hole
  | raw (text : String)
  | page (tag : String) (conditions : List (Condition (Native Context)))
  | relative (first : Step Context)
  | step (before : Context) (last : Step Context)
  | limitedBy (before boundary : Context)

section Fill

variable (chain : Chain)

mutual

def Context.fill : Context → Chain
  | .hole => chain
  | .raw text => .raw text
  | .page tag conditions => .page tag (fillConditions conditions)
  | .relative first => .relative (fillStep first)
  | .step before last => .step before.fill (fillStep last)
  | .limitedBy before boundary => .limitedBy before.fill boundary.fill

def fillStep : Step Context → Step Chain
  | .element axis tag conditions => .element axis tag (fillConditions conditions)
  | .parent => .parent

def fillConditions : List (Condition (Native Context)) → List (Condition (Native Chain))
  | [] => []
  | condition :: rest => fillCondition condition :: fillConditions rest

def fillCondition : Condition (Native Context) → Condition (Native Chain)
  | ⟨.shared criterion, negated⟩ => ⟨.shared criterion, negated⟩
  | ⟨.native (.text op operand), negated⟩ => ⟨.native (.text op operand), negated⟩
  | ⟨.native (.place place), negated⟩ => ⟨.native (.place place), negated⟩
  | ⟨.native (.boundary context), negated⟩ => ⟨.native (.boundary context.fill), negated⟩

end

end Fill

structure Chain.Alike (first second : Chain) : Prop where
  render : first.render = second.render
  isAbsolute : first.isAbsolute = second.isAbsolute

theorem Chain.Alike.boundaryTest {first second : Chain} (alike : first.Alike second) :
    boundaryTest first = boundaryTest second := by
  rw [XPath.boundaryTest, XPath.boundaryTest, alike.render, alike.isAbsolute]

theorem isEmpty_fillConditions (chain : Chain) (conditions : List (Condition (Native Context))) :
    (fillConditions chain conditions).isEmpty = conditions.isEmpty := by
  cases conditions with
  | nil =>
      rw [fillConditions]
      rfl
  | cons condition rest =>
      rw [fillConditions]
      rfl

theorem alike_fill {first second : Chain} (alike : first.Alike second) :
    (∀ context : Context, (context.fill first).Alike (context.fill second)) ∧
      (∀ step, renderStep (fillStep first step) = renderStep (fillStep second step)) ∧
      (∀ conditions, renderConditions (fillConditions first conditions) =
        renderConditions (fillConditions second conditions)) ∧
      ∀ condition, renderCondition (fillCondition first condition) =
        renderCondition (fillCondition second condition) := by
  refine Context.fill.mutual_induct _ _ _ _ ?hole ?raw ?page ?relative ?step ?limitedBy ?none ?more
    ?element ?parent ?shared ?text ?place ?boundary
  case hole =>
    simpa only [Context.fill] using alike
  case raw =>
    intro text
    simp only [Context.fill]
    exact ⟨rfl, rfl⟩
  case page =>
    intro tag conditions ih
    simp only [Context.fill]
    refine ⟨?_, rfl⟩
    rw [Chain.render, Chain.render, isEmpty_fillConditions, isEmpty_fillConditions, ih]
  case relative =>
    intro last ih
    simp only [Context.fill]
    refine ⟨?_, rfl⟩
    rw [Chain.render, Chain.render, ih]
  case step =>
    intro before last ihBefore ihLast
    simp only [Context.fill]
    refine ⟨?_, ihBefore.isAbsolute⟩
    rw [Chain.render, Chain.render, ihBefore.render, ihLast]
  case limitedBy =>
    intro before boundary ihBefore ihBoundary
    simp only [Context.fill]
    refine ⟨?_, ihBefore.isAbsolute⟩
    rw [Chain.render_limitedBy, Chain.render_limitedBy, ihBefore.render, ihBoundary.boundaryTest]
  case element =>
    intro axis tag conditions ih
    rw [fillStep, fillStep, renderStep, renderStep, isEmpty_fillConditions, isEmpty_fillConditions,
      ih]
  case parent => rw [fillStep, fillStep]
  case none => rw [fillConditions, fillConditions]
  case more =>
    intro condition rest ihCondition ihRest
    rw [fillConditions, fillConditions, renderConditions, renderConditions, ihCondition, ihRest]
  case shared =>
    intro criterion negated
    rw [fillCondition, fillCondition]
  case text =>
    intro op operand negated
    rw [fillCondition, fillCondition]
  case place =>
    intro place negated
    rw [fillCondition, fillCondition]
  case boundary =>
    intro context negated ih
    rw [fillCondition, fillCondition, renderCondition_boundary, renderCondition_boundary,
      ih.boundaryTest]

end XPath

namespace Selector

/-- Selectors that two selectors turn into when they are built on, or embedded, in one way. -/
inductive BuiltAlike : Selector → Selector → Selector → Selector → Prop
  | css (first second : Css.Chain) (context : Css.Context) :
      BuiltAlike (.css first) (.css second) (.css (context.fill first)) (.css (context.fill second))
  | xpath (first second : XPath.Chain) (context : XPath.Context) :
      BuiltAlike (.xpath first) (.xpath second) (.xpath (context.fill first))
        (.xpath (context.fill second))

/-- Whether two selectors cannot be told apart by anything that a selector is used for. -/
structure Indistinguishable (left right : Selector) : Prop where
  render : left.render = right.render
  isAbsolute : left.isAbsolute = right.isAbsolute
  equal : (left == right) = true
  query : ∀ settings, Query.compileWith settings left = Query.compileWith settings right
  resolve : ∀ (m : Type → Type) [Monad m] (Element : Type) (engine : Locator.Engine m Element)
    (context : Option Element) (settings : Locator.Settings),
    Locator.resolve engine context left settings = Locator.resolve engine context right settings ∧
      Locator.resolveOne engine context left settings =
        Locator.resolveOne engine context right settings

theorem indistinguishable_of_eq {left right : Selector} (grammar : left.grammar = right.grammar)
    (render : left.render = right.render) (isAbsolute : left.isAbsolute = right.isAbsolute) :
    left.Indistinguishable right := by
  have query (settings : Locator.Settings) :
      Query.compileWith settings left = Query.compileWith settings right := by
    rw [Query.compileWith, Query.compileWith, render, grammar, isAbsolute]
  have resolve {m : Type → Type} [Monad m] {Element : Type} (engine : Locator.Engine m Element)
      (context : Option Element) (settings : Locator.Settings) :
      Locator.resolve engine context left settings =
        Locator.resolve engine context right settings := by
    rw [Locator.resolve, Locator.resolve, query]
  refine ⟨render, isAbsolute, ?equal, query, ?resolve⟩
  case equal =>
    change (left.grammar == right.grammar && left.text? == right.text?) = true
    rw [text?, text?, render, grammar, beq_self_eq_true, beq_self_eq_true, Bool.and_self]
  case resolve =>
    intro m _ Element engine context settings
    refine ⟨resolve engine context settings, ?_⟩
    rw [Locator.resolveOne, Locator.resolveOne, resolve, render]

/-- A text and an anchor are all that matters of a selector. Two selectors of one grammar that have
the same text and the same anchor can stand for each other in everything that is built from them:
whatever becomes of the one cannot be told from what becomes of the other. -/
theorem indistinguishable_of_text {first second left right : Selector} {text : String}
    (rendered : first.render = .ok text) (renderedOther : second.render = .ok text)
    (anchored : first.isAbsolute = second.isAbsolute)
    (built : BuiltAlike first second left right) : left.Indistinguishable right := by
  have render : first.render = second.render := rendered.trans renderedOther.symm
  cases built with
  | css firstChain secondChain context =>
      obtain ⟨filled, isAbsolute⟩ := Css.fill_alike render anchored context
      exact indistinguishable_of_eq rfl filled isAbsolute
  | xpath firstChain secondChain context =>
      have alike : firstChain.Alike secondChain := ⟨render, anchored⟩
      obtain ⟨filled, isAbsolute⟩ := (XPath.alike_fill alike).1 context
      exact indistinguishable_of_eq rfl filled isAbsolute

def limitedRows : XPath.Chain :=
  .limitedBy (.page "tr" []) (.page "td" [])

def boundedRows : XPath.Chain :=
  .page " tr " [⟨.native (.boundary (.page "td" [])), false⟩]

def rowContext : XPath.Context :=
  .limitedBy
    (.step (.page "table" [⟨.native (.boundary .hole), true⟩])
      (.element .child "p" [⟨.native (.place .last), false⟩]))
    (.step .hole .parent)

theorem indistinguishable_rows :
    (Selector.xpath limitedRows).render = .ok "/descendant::tr[following::td]" ∧
      (Selector.xpath boundedRows).render = .ok "/descendant::tr[following::td]" ∧
        Indistinguishable (.xpath (rowContext.fill limitedRows))
          (.xpath (rowContext.fill boundedRows)) := by
  have limited : (Selector.xpath limitedRows).render = .ok "/descendant::tr[following::td]" := by
    decide +kernel
  have bounded : (Selector.xpath boundedRows).render = .ok "/descendant::tr[following::td]" := by
    decide +kernel
  exact ⟨limited, bounded,
    indistinguishable_of_text limited bounded rfl (.xpath limitedRows boundedRows rowContext)⟩

example :
    (XPath.Chain.page "td" []).render = (XPath.Chain.relative (.element .descendant "td" [])).render ∧
      (XPath.Chain.limitedBy (.page "tr" []) (.page "td" [])).render ≠
        (XPath.Chain.limitedBy (.page "tr" []) (.relative (.element .descendant "td" []))).render := by
  decide +kernel

end Selector

end PageSelectors
