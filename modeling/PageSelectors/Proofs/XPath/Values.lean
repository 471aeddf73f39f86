import PageSelectors.Proofs.XPath.Tests

/-!
The values of tests. Every test has one in every document, and the value of a comparison depends on
nothing but the strings of the nodes it is about.
-/

namespace PageSelectors.XPath

def Total (expression : Expression) : Prop :=
  ∀ (Node : Type) (document : Document Node) (node : Node) (place size : Nat),
    ∃ value, expression.eval? document node place size = some value

def IsTest (expression : Expression) : Prop :=
  ∀ (Node : Type) (document : Document Node) (node : Node) (place size : Nat),
    ∃ value, expression.eval? document node place size = some value ∧
      ∀ number, value ≠ .number number

theorem IsTest.total {expression : Expression} (isTest : IsTest expression) : Total expression := by
  intro Node document node place size
  obtain ⟨value, evaluated, -⟩ := isTest Node document node place size
  exact ⟨value, evaluated⟩

def PathStep.Total : PathStep → Prop
  | .along _ _ predicates => ∀ predicate ∈ predicates, XPath.Total predicate

theorem exists_mapM {α β : Type} {read : α → Option β} {items : List α}
    (all : ∀ item ∈ items, ∃ result, read item = some result) :
    ∃ results, items.mapM read = some results := by
  induction items with
  | nil => exact ⟨[], rfl⟩
  | cons item rest ih =>
      obtain ⟨first, others⟩ := List.forall_mem_cons.1 all
      obtain ⟨result, found⟩ := first
      obtain ⟨results, foundOthers⟩ := ih others
      exact ⟨result :: results, by rw [List.mapM_cons, found, foundOthers]; rfl⟩

variable {Node : Type} {document : Document Node} {node : Node} {place size : Nat}

theorem exists_filter? {predicates : List Expression}
    (total : ∀ predicate ∈ predicates, Total predicate) (nodes : List Node) :
    ∃ kept, filter? document predicates nodes = some kept := by
  induction predicates generalizing nodes with
  | nil => exact ⟨nodes, rfl⟩
  | cons predicate rest ih =>
      obtain ⟨first, others⟩ := List.forall_mem_cons.1 total
      have all : ∀ item ∈ nodes.zipIdx, ∃ kept,
          (predicate.eval? document item.1 (item.2 + 1) nodes.length).map
            (Value.keep item.1 (item.2 + 1)) = some kept := by
        intro item _
        obtain ⟨value, evaluated⟩ := first Node document item.1 (item.2 + 1) nodes.length
        exact ⟨_, by rw [evaluated]; rfl⟩
      obtain ⟨kept, keeps⟩ := exists_mapM all
      rw [filter?, keeps]
      exact ih others kept.flatten

theorem exists_walk? {steps : List PathStep} (total : ∀ step ∈ steps, step.Total)
    (nodes : List Node) : ∃ found, walk? document steps nodes = some found := by
  induction steps generalizing nodes with
  | nil => exact ⟨nodes, rfl⟩
  | cons step rest ih =>
      obtain ⟨direction, test, predicates⟩ := step
      obtain ⟨first, others⟩ := List.forall_mem_cons.1 total
      have all : ∀ node ∈ nodes, ∃ found,
          filter? document predicates (document.select direction test node) = some found :=
        fun node _ => exists_filter? first _
      obtain ⟨found, finds⟩ := exists_mapM all
      rw [walk?, finds]
      exact ih others found.flatten

theorem exists_eval?_path {steps : List PathStep} (total : ∀ step ∈ steps, step.Total) :
    ∃ nodes, (Expression.path steps).eval? document node place size = some (.nodes nodes) := by
  obtain ⟨nodes, found⟩ : ∃ nodes, walk? document steps [node] = some nodes :=
    exists_walk? total [node]
  exact ⟨nodes, by rw [Expression.eval?, found]; rfl⟩

theorem isTest_path {steps : List PathStep} (total : ∀ step ∈ steps, step.Total) :
    IsTest (.path steps) := by
  intro Node document node place size
  obtain ⟨nodes, evaluated⟩ := exists_eval?_path total
  exact ⟨_, evaluated, by simp⟩

def comparisonHolds (document : Document Node) (nodes : List Node) (op : TextOp)
    (operand : String) : Bool :=
  let text := (nodes.argmin document.rank).elim "" document.value
  match op with
  | .is => nodes.any fun node => document.value node = operand
  | .contains => operand.toList <:+: text.toList
  | .startsWith => operand.toList <+: text.toList
  | .endsWith => operand.toList <:+ text.toList
  | .wholeWord =>
      ' ' :: operand.toList ++ [' '] <:+:
        ' ' :: [' '].intercalate (Text.words isBlank text.toList) ++ [' ']

theorem ofList_drop_eq_iff (text operand : String) :
    String.ofList (text.toList.drop (text.length - operand.length)) = operand ↔
      operand.toList <:+ text.toList := by
  rw [List.suffix_iff_eq_drop, ← String.toList_inj, String.toList_ofList, eq_comm,
    String.length_toList, String.length_toList]

theorem eval?_comparisonExpression {subject : Expression} {nodes : List Node}
    (evaluated : subject.eval? document node place size = some (.nodes nodes)) (op : TextOp)
    (operand : String) :
    (comparisonExpression subject op operand).eval? document node place size =
      some (.boolean (comparisonHolds document nodes op operand)) := by
  cases op with
  | is =>
      simp [comparisonExpression, Expression.eval?, evaluated, Operator.apply?, Value.equals?,
        comparisonHolds]
  | contains | startsWith =>
      simp [comparisonExpression, Expression.eval?, evalAll?, evaluated, Function.apply?,
        Value.text?, comparisonHolds]
  | endsWith =>
      have start (text : String) :
          ((text.length : Int) - operand.length + ((1 : Nat) : Int) - 1).toNat =
            text.length - operand.length := by
        omega
      simp only [comparisonExpression, Expression.eval?, evalAll?, evaluated,
        eval?_literalExpression, Function.apply?, Operator.apply?, Value.number?, Value.equals?,
        Value.text?, comparisonHolds, Option.bind_eq_bind, Option.bind_some, Option.pure_def,
        start, ofList_drop_eq_iff]
  | wholeWord =>
      simp [comparisonExpression, Expression.eval?, evalAll?, evaluated, Function.apply?,
        Value.text?, comparisonHolds, String.join_cons]

theorem isTest_comparisonExpression {steps : List PathStep}
    (total : ∀ step ∈ steps, step.Total) (op : TextOp) (operand : String) :
    IsTest (comparisonExpression (.path steps) op operand) := by
  intro Node document node place size
  obtain ⟨nodes, evaluated⟩ := exists_eval?_path total
  exact ⟨_, eval?_comparisonExpression evaluated op operand, by simp⟩

theorem total_along {direction : Direction} {test : Test} :
    ∀ step ∈ [PathStep.along direction test []], step.Total := by
  simp [PathStep.Total]

theorem isTest_attributeExpression (name : String) (op : AttributeOp) (operand : String) :
    IsTest (attributeExpression name op operand) := by
  cases op with
  | isPresent => exact isTest_path total_along
  | compare op => exact isTest_comparisonExpression total_along op operand

theorem isTest_textExpression (op : TextOp) (operand : String) :
    IsTest (comparisonExpression textPath op operand) :=
  isTest_comparisonExpression total_along op operand

/-- The tests of places are about the position, but for the last one, which is a number itself. -/
theorem isTest_placeExpression {place : Place} (other : place ≠ .last) :
    IsTest place.expression := by
  intro Node document node position size
  cases place with
  | exactly | atLeast | atMost =>
      simp [Place.expression, Expression.eval?, evalAll?, Function.apply?, Operator.apply?,
        Value.equals?, Value.number?]
  | last => exact (other rfl).elim

theorem total_placeExpression (place : Place) : Total place.expression := by
  by_cases last : place = .last
  · subst last
    intro Node document node position size
    exact ⟨.number size, rfl⟩
  · exact (isTest_placeExpression last).total

theorem Value.holdsAt_of_ne_number {value : Value Node} (other : ∀ number, value ≠ .number number)
    (place : Nat) : value.holdsAt place = value.truth := by
  cases value with
  | number number => exact (other number rfl).elim
  | nodes | boolean | string => rfl

theorem eval?_predicateExpression {test : Expression} {value : Value Node}
    (evaluated : test.eval? document node place size = some value) (negated : Bool) :
    (predicateExpression negated test).eval? document node place size =
      some (if negated then .boolean !value.truth else value) := by
  cases negated with
  | false => exact evaluated
  | true => simp [predicateExpression, Expression.eval?, evalAll?, evaluated, Function.apply?]

theorem total_predicateExpression {test : Expression} (total : Total test) (negated : Bool) :
    Total (predicateExpression negated test) := by
  intro Node document node place size
  obtain ⟨value, evaluated⟩ := total Node document node place size
  exact ⟨_, eval?_predicateExpression evaluated negated⟩

end PageSelectors.XPath
