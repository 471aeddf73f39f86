import PageSelectors.Leaf
import PageSelectors.Proofs.XPath.Paths

/-!
Negated conditions. The predicate of a negated leaf keeps the nodes that the predicate of the plain
leaf drops, unless the test of the leaf is a number: a number is a place to a predicate, but only
true or false to `not`.
-/

namespace PageSelectors.XPath

open Outcome

variable {Node : Type} {document : Document Node} {node : Node} {place size : Nat}

/-- Whether the one predicate that a text is read as keeps a node at a place among a number of
nodes. -/
def keeps? (text : String) (document : Document Node) (node : Node) (place size : Nat) :
    Option Bool :=
  match predicates? text with
  | some [predicate] => (predicate.eval? document node place size).map (Value.holdsAt place)
  | _ => none

theorem keeps?_predicate {test : String} {expression : Expression} {value : Value Node}
    (expresses : Expresses 0 test expression)
    (evaluated : expression.eval? document node place size = some value) (negated : Bool) :
    keeps? (predicate negated test) document node place size =
      some ((if negated then .boolean !value.truth else value : Value Node).holdsAt place) := by
  have read := predicates?_join (.cons (encloses_predicate expresses negated) .nil)
  rw [String.join_cons, String.join_nil, String.append_empty] at read
  rw [keeps?, read]
  simp only [eval?_predicateExpression evaluated, Option.map_some]

theorem keeps?_negated_of_isTest {test : String} {expression : Expression}
    (expresses : Expresses 0 test expression) (isTest : IsTest expression)
    (document : Document Node) (node : Node) (place size : Nat) :
    ∃ kept, keeps? (predicate false test) document node place size = some kept ∧
      keeps? (predicate true test) document node place size = some !kept := by
  obtain ⟨value, evaluated, other⟩ := isTest Node document node place size
  have truth := value.holdsAt_of_ne_number other place
  refine ⟨value.truth, ?_, ?_⟩
  · rw [keeps?_predicate expresses evaluated]
    exact congrArg some truth
  · rw [keeps?_predicate expresses evaluated]
    rfl

/-- The last place is kept by its own predicate, and by the negated one nothing is. -/
theorem keeps?_last (document : Document Node) (node : Node) (place : Nat) {size : Nat}
    (some_ : 0 < size) :
    keeps? (predicate false Place.last.text) document node place size =
        some (decide (place = size)) ∧
      keeps? (predicate true Place.last.text) document node place size = some false := by
  have evaluated : Place.last.expression.eval? document node place size = some (.number size) := rfl
  have here : (size : Int) = place ↔ place = size := by omega
  have filled : (size : Int) ≠ 0 := by omega
  rw [keeps?_predicate (expresses_place .last) evaluated,
    keeps?_predicate (expresses_place .last) evaluated]
  constructor
  · simp only [Bool.false_eq_true, ↓reduceIte, Value.holdsAt, here]
  · simp only [↓reduceIte, Value.holdsAt, Value.truth, filled, ne_eq, not_false_eq_true,
      decide_true, Bool.not_true]

/-- A criterion other than that of classes has one test, which has a value other than a number if
it is not that of the last place. -/
theorem exists_test {criterion : Criterion (Native Chain)} {tests : List String}
    (single : ∀ names, criterion ≠ .shared (.classes names))
    (named : NamedCondition ⟨criterion, false⟩) (tested : criterionTests criterion = .ok tests)
    (other : criterion ≠ .native (.place .last)) :
    ∃ test expression, tests = [test] ∧ Expresses 0 test expression ∧ IsTest expression := by
  cases criterion with
  | shared criterion =>
      cases criterion with
      | «attribute» name op operand =>
          obtain ⟨-, rfl⟩ := (criterionTests_shared_eq_ok_iff _).1 tested
          rw [NamedCondition] at named
          exact ⟨_, _, rfl, expresses_attributeTest named op operand,
            isTest_attributeExpression _ op operand⟩
      | classes names => exact (single names rfl).elim
  | native criterion =>
      cases criterion with
      | text op operand =>
          rw [criterionTests] at tested
          exact ⟨_, _, (Except.ok.inj tested).symm,
            expresses_comparison expresses_textPath op operand, isTest_textExpression op operand⟩
      | place place =>
          obtain ⟨-, rfl⟩ := criterionTests_place_eq_ok_iff.1 tested
          have inner : place ≠ .last := fun last => other (last ▸ rfl)
          exact ⟨_, _, rfl, expresses_place place, isTest_placeExpression inner⟩
      | boundary chain =>
          rw [NamedCondition] at named
          rw [criterionTests] at tested
          obtain ⟨test, testedChain, rfl⟩ := bind_pure_eq_ok_iff.1 tested
          obtain ⟨steps, expresses, total⟩ := (named.limitReads test testedChain).expresses
          exact ⟨_, _, rfl, expresses, isTest_path total⟩

end PageSelectors.XPath

namespace PageSelectors.Leaf

open XPath
open Outcome

theorem toXPath_negate {leaf : Leaf} {criterion : Criterion (Native Chain)} {negated : Bool}
    (converts : leaf.toXPath = .ok ⟨criterion, negated⟩) :
    leaf.negate.toXPath = .ok ⟨criterion, true⟩ := by
  obtain ⟨kind, negated⟩ := leaf
  cases kind with
  | shared | xpath =>
      obtain ⟨rfl, -⟩ := Condition.mk.inj (Except.ok.inj converts)
      rfl
  | css => simp [toXPath] at converts

theorem render_xpath_eq {leaf : Leaf} {condition : Condition (Native Chain)}
    (converts : leaf.toXPath = .ok condition) :
    leaf.render .xpath = do
      return predicates condition.negated (← criterionTests condition.criterion) := by
  rw [render_xpath, converts, ok_bind, renderCondition_eq]

/-- If a leaf of an attribute, a text, a place or a boundary renders, so does its negation, and both
have values everywhere. The negation keeps exactly what the leaf drops, but for the last place:
there it drops the other places as well. -/
theorem keeps?_negate {leaf : Leaf} {criterion : Criterion (Native Chain)} {plain : String}
    (converts : leaf.toXPath = .ok ⟨criterion, false⟩)
    (single : ∀ names, criterion ≠ .shared (.classes names))
    (named : NamedCondition ⟨criterion, false⟩) (rendered : leaf.render .xpath = .ok plain) :
    ∃ negated, leaf.negate.render .xpath = .ok negated ∧
      ∀ (Node : Type) (document : Document Node) (node : Node) (place size : Nat),
        1 ≤ place → place ≤ size →
          ∃ kept keptNegated, keeps? plain document node place size = some kept ∧
            keeps? negated document node place size = some keptNegated ∧
            ((keptNegated = !kept) ↔ criterion ≠ .native (.place .last) ∨ place = size) := by
  rw [render_xpath_eq converts] at rendered
  obtain ⟨tests, tested, rfl⟩ := bind_pure_eq_ok_iff.1 rendered
  have renderedNegated : leaf.negate.render .xpath = .ok (predicates true tests) := by
    rw [render_xpath_eq (toXPath_negate converts), tested]
    rfl
  refine ⟨_, renderedNegated, fun Node document node place size first within => ?_⟩
  by_cases last : criterion = .native (.place .last)
  · -- The value is a number here, and to `not` every place but zero is true.
    subst last
    obtain ⟨-, rfl⟩ := criterionTests_place_eq_ok_iff.1 tested
    rw [predicates_singleton, predicates_singleton]
    obtain ⟨kept, keptNegated⟩ :=
      keeps?_last document node place (Nat.lt_of_lt_of_le first within)
    exact ⟨_, _, kept, keptNegated, by simp⟩
  · obtain ⟨test, expression, rfl, expresses, isTest⟩ := exists_test single named tested last
    rw [predicates_singleton, predicates_singleton]
    obtain ⟨kept, keeps, keepsNegated⟩ :=
      keeps?_negated_of_isTest expresses isTest document node place size
    exact ⟨kept, !kept, keeps, keepsNegated, by simp [last]⟩

def nestedBoundary : Chain :=
  .limitedBy
    (.page "tr" [⟨.native (.text .contains "Total's \"sum\""), true⟩,
      ⟨.native (.place (.exactly 1)), false⟩])
    (.page "tfoot" [⟨.shared (.attribute " id " (.compare .is) "end"), false⟩])

def nestedLeaf : Leaf :=
  ⟨.xpath (.boundary nestedBoundary), false⟩

def nestedText : String :=
  "[following::tr[not(contains(text(),concat('Total', \"'\", 's \"sum\"')))]" ++
    "[position() = 2][following::tfoot[@id='end']]]"

theorem named_nestedBoundary : NamedCondition ⟨.native (.boundary nestedBoundary), false⟩ := by
  refine ⟨⟨by decide, trivial, trivial, trivial⟩, by decide, ?_, trivial⟩
  exact (by decide : IsRun (Text.trim " id "))

theorem keeps?_negate_nestedLeaf :
    ∃ negated, nestedLeaf.negate.render .xpath = .ok negated ∧
      ∀ (Node : Type) (document : Document Node) (node : Node) (place size : Nat),
        1 ≤ place → place ≤ size →
          ∃ kept keptNegated, keeps? nestedText document node place size = some kept ∧
            keeps? negated document node place size = some keptNegated ∧
            ((keptNegated = !kept) ↔
              Criterion.native (Native.boundary nestedBoundary) ≠ .native (.place .last) ∨
                place = size) :=
  keeps?_negate (rfl : nestedLeaf.toXPath = .ok ⟨.native (.boundary nestedBoundary), false⟩) nofun
    named_nestedBoundary (by decide +kernel)

/-- Of two nodes, the first is neither the last one nor kept as one that is not. -/
theorem keeps?_negated_last_of_two :
    (Leaf.mk (.xpath (.place .last)) false).render .xpath = .ok "[last()]" ∧
      (Leaf.mk (.xpath (.place .last)) false).negate.render .xpath = .ok "[not(last())]" ∧
      ∀ (Node : Type) (document : Document Node) (node : Node),
        keeps? "[last()]" document node 1 2 = some false ∧
          keeps? "[not(last())]" document node 1 2 = some false :=
  ⟨rfl, rfl, fun _ document node => keeps?_last document node 1 (by decide)⟩

end PageSelectors.Leaf
