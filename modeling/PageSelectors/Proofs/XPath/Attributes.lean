import PageSelectors.Proofs.AttributeTest
import PageSelectors.Proofs.XPath.Values

/-!
What the predicates of shared conditions keep. They look at nothing but the attributes of a node,
so each of them keeps the same nodes of a list, wherever in it they are.
-/

namespace PageSelectors.XPath

open Text (trim)
open Outcome

section Evaluation

variable {Node : Type} {document : Document Node}

def Document.attributes (document : Document Node) (node : Node) : Attributes := fun name =>
  (document.select .attribute (.name name) node).head?.map document.value

def Document.Single (document : Document Node) : Prop :=
  ∀ name node, (document.select .attribute (.name name) node).length ≤ 1

/-- Whether a comparison with the value of an attribute holds. An attribute that is missing counts
as empty, except for equality. -/
def accepts (op : TextOp) (operand : String) (value? : Option String) : Bool :=
  let text := value?.getD ""
  match op with
  | .is => value? = some operand
  | .contains => operand.toList <:+: text.toList
  | .startsWith => operand.toList <+: text.toList
  | .endsWith => operand.toList <:+ text.toList
  | .wholeWord =>
      ' ' :: operand.toList ++ [' '] <:+:
        ' ' :: [' '].intercalate (Text.words isBlank text.toList) ++ [' ']

def meets (attributes : Attributes) (test : AttributeTest) : Bool :=
  match test.op with
  | .isPresent => (attributes test.name).isSome
  | .compare op => accepts op test.operand (attributes test.name)

theorem comparisonHolds_of_length_le_one {nodes : List Node} (single : nodes.length ≤ 1)
    (op : TextOp) (operand : String) :
    comparisonHolds document nodes op operand =
      accepts op operand (nodes.head?.map document.value) := by
  match nodes with
  | [] => cases op <;> rfl
  | [only] =>
      cases op with
      | is => simp [comparisonHolds, accepts]
      | contains | startsWith | endsWith | wholeWord => rfl
  | _ :: _ :: _ => simp at single

theorem eval?_attributePath (name : String) (node : Node) (place size : Nat) :
    (attributePath name).eval? document node place size =
      some (.nodes (document.select .attribute (.name name) node)) := by
  simp [attributePath, Expression.eval?, walk?, filter?]

def AttributeTest.expression (test : AttributeTest) : Expression :=
  attributeExpression test.name test.op test.operand

/-- The test of an attribute has a value that is true exactly if the attributes of the node meet
it. -/
theorem exists_eval?_attributeTest (single : document.Single) (test : AttributeTest) (node : Node)
    (place size : Nat) :
    ∃ value, (AttributeTest.expression test).eval? document node place size = some value ∧
      (∀ number, value ≠ .number number) ∧
        value.truth = meets (document.attributes node) test := by
  obtain ⟨name, op, operand⟩ := test
  have evaluated : (attributePath name).eval? document node place size = some (.nodes _) :=
    eval?_attributePath name node place size
  cases op with
  | isPresent =>
      refine ⟨_, evaluated, by simp, ?_⟩
      cases found : document.select .attribute (.name name) node <;>
        simp [Value.truth, meets, Document.attributes, found]
  | compare op =>
      refine ⟨_, eval?_comparisonExpression evaluated op operand, by simp, ?_⟩
      exact comparisonHolds_of_length_le_one (single name node) op operand

end Evaluation

section Filtering

variable {Node : Type} {document : Document Node}

theorem flatten_map_keep (keeps : Node → Bool) (nodes : List Node) :
    (nodes.map fun node => if keeps node then [node] else []).flatten = nodes.filter keeps := by
  induction nodes with
  | nil => rfl
  | cons node nodes ih =>
      rw [List.map_cons, List.flatten_cons, ih, List.filter_cons]
      split <;> rfl

/-- Predicates whose verdict on a node does not depend on its place filter the nodes by it. -/
theorem filter?_map {Item : Type} {make : Item → Expression} {keeps : Node → Item → Bool}
    (decides : ∀ item node place size, ∃ value,
      (make item).eval? document node place size = some value ∧
        value.holdsAt place = keeps node item)
    (items : List Item) (nodes : List Node) :
    filter? document (items.map make) nodes =
      some (nodes.filter fun node => items.all (keeps node)) := by
  induction items generalizing nodes with
  | nil => simp [filter?]
  | cons item items ih =>
      have verdict (entry : Node × Nat) :
          ((make item).eval? document entry.1 (entry.2 + 1) nodes.length).map
              (Value.keep entry.1 (entry.2 + 1)) =
            some (if keeps entry.1 item then [entry.1] else []) := by
        obtain ⟨value, evaluated, holds⟩ := decides item entry.1 (entry.2 + 1) nodes.length
        rw [evaluated, Option.map_some, Value.keep, holds]
      have kept :
          (nodes.zipIdx.map fun entry => if keeps entry.1 item then [entry.1] else []).flatten =
            nodes.filter fun node => keeps node item := by
        have listed : nodes.zipIdx.map Prod.fst = nodes := List.zipIdx_map_fst 0 nodes
        rw [← flatten_map_keep]
        conv => rhs; rw [← listed, List.map_map]
        rfl
      have step : nodes.zipIdx.mapM (fun entry =>
          ((make item).eval? document entry.1 (entry.2 + 1) nodes.length).map
            (Value.keep entry.1 (entry.2 + 1))) =
          some (nodes.zipIdx.map fun entry => if keeps entry.1 item then [entry.1] else []) := by
        simp only [verdict]
        exact List.mapM_pure
      rw [List.map_cons, filter?, step, Option.bind_eq_bind, Option.bind_some, kept, ih,
        List.filter_filter]
      simp only [List.all_cons, Bool.and_comm]

end Filtering

section Conditions

def selected? {Node : Type} (document : Document Node) (text : String) (nodes : List Node) :
    Option (List Node) := do
  filter? document (← predicates? text) nodes

theorem sharedTests_eq (criterion : SharedCriterion) :
    sharedTests criterion =
      criterion.tests.map fun test => attributeTest test.name test.op test.operand := by
  cases criterion with
  | «attribute» name op operand => rfl
  | classes names =>
      rw [sharedTests, SharedCriterion.tests, List.map_map]
      rfl

theorem predicates?_of_renderCondition {criterion : SharedCriterion} {negated : Bool}
    {text : String} (rendered : renderCondition ⟨.shared criterion, negated⟩ = .ok text)
    (named : ∀ test ∈ criterion.tests, IsRun test.name) :
    predicates? text = some (criterion.tests.map fun test =>
      predicateExpression negated (AttributeTest.expression test)) := by
  rw [renderCondition_eq] at rendered
  obtain ⟨tests, tested, rfl⟩ := bind_pure_eq_ok_iff.1 rendered
  obtain ⟨-, rfl⟩ := (criterionTests_shared_eq_ok_iff criterion).1 tested
  apply predicates?_join
  rw [sharedTests_eq, List.map_map, List.forall₂_map_left_iff, List.forall₂_map_right_iff,
    List.forall₂_same]
  intro test member
  have expresses := expresses_attributeTest (named test member) test.op test.operand
  exact encloses_predicate expresses negated

/-- What a shared condition renders to keeps the nodes whose attributes meet all of its tests, and
if it is negated those whose attributes meet none of them. -/
theorem selected?_of_renderCondition {criterion : SharedCriterion} {negated : Bool}
    {text : String} (rendered : renderCondition ⟨.shared criterion, negated⟩ = .ok text)
    (named : ∀ test ∈ criterion.tests, IsRun test.name) {Node : Type} {document : Document Node}
    (single : document.Single) (nodes : List Node) :
    selected? document text nodes = some (nodes.filter fun node =>
      criterion.tests.all fun test => negated ^^ meets (document.attributes node) test) := by
  rw [selected?, predicates?_of_renderCondition rendered named, Option.bind_eq_bind,
    Option.bind_some]
  apply filter?_map
  intro test node place size
  obtain ⟨value, evaluated, other, truth⟩ :=
    exists_eval?_attributeTest single test node place size
  refine ⟨_, eval?_predicateExpression evaluated negated, ?_⟩
  cases negated with
  | false => simpa [Value.holdsAt_of_ne_number other] using truth
  | true =>
      rw [Bool.true_xor, ← truth]
      rfl

theorem exists_selected?_of_renderCondition {criterion : SharedCriterion} {negated : Bool}
    {text : String} (rendered : renderCondition ⟨.shared criterion, negated⟩ = .ok text)
    (named : ∀ test ∈ criterion.tests, IsRun test.name) {Node : Type} (document : Document Node)
    (nodes : List Node) : ∃ kept, selected? document text nodes = some kept := by
  rw [selected?, predicates?_of_renderCondition rendered named]
  apply exists_filter?
  intro predicate member
  obtain ⟨test, -, rfl⟩ := List.mem_map.1 member
  exact total_predicateExpression
    (isTest_attributeExpression test.name test.op test.operand).total negated

end Conditions

end PageSelectors.XPath
