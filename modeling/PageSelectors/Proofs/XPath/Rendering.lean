import PageSelectors.Proofs.Name
import PageSelectors.Proofs.XPath.Root

/-!
Which XPath criteria and chains render, and to which steps and predicates.
-/

namespace PageSelectors.XPath

open Text (trim)
open Outcome

namespace Place

def InRange : Place → Prop
  | .exactly index | .atLeast index | .atMost index => HasOrdinal index
  | .last => True

def text : Place → String
  | .exactly index => "position() = " ++ toString (index + 1)
  | .atLeast index => "position() >= " ++ toString (index + 1)
  | .atMost index => "position() <= " ++ toString (index + 1)
  | .last => "last()"

theorem test_eq_ok_iff {place : Place} {result : String} :
    place.test = .ok result ↔ place.InRange ∧ result = place.text := by
  cases place with
  | exactly | atLeast | atMost => exact numbered_eq_ok_iff
  | last =>
      constructor
      · intro same
        exact ⟨trivial, (Except.ok.inj same).symm⟩
      · rintro ⟨-, rfl⟩
        rfl

end Place

def boundaryTest (chain : Chain) : Except Fault String := do
  let text ← chain.render
  followingTest chain.isAbsolute text

def criterionTests : Criterion (Native Chain) → Except Fault (List String)
  | .shared (.attribute name op operand) => do
      return [attributeTest (← checkName "Attribute" name) op operand]
  | .shared (.classes names) => do
      return (← checkClasses names).map (comparison "@class" .wholeWord)
  | .native (.text op operand) => .ok [comparison "text()" op operand]
  | .native (.place place) => do return [← place.test]
  | .native (.boundary chain) => do return [← boundaryTest chain]

def predicates (negated : Bool) (tests : List String) : String :=
  String.join (tests.map (predicate negated))

theorem predicates_singleton (negated : Bool) (test : String) :
    predicates negated [test] = predicate negated test := by
  simp [predicates]

theorem renderCondition_eq (condition : Condition (Native Chain)) :
    renderCondition condition = do
      return predicates condition.negated (← criterionTests condition.criterion) := by
  match condition with
  | ⟨.shared (.attribute name op operand), negated⟩ =>
      rw [renderCondition, renderShared, criterionTests]
      cases checkName "Attribute" name with
      | error fault => rfl
      | ok checked => simp [predicates_singleton]
  | ⟨.shared (.classes names), negated⟩ =>
      rw [renderCondition, renderShared, criterionTests]
      cases checkClasses names with
      | error fault => rfl
      | ok checked =>
          simp only [ok_bind, pure_bind, predicates, List.map_map]
          rfl
  | ⟨.native (.text op operand), negated⟩ =>
      rw [renderCondition, criterionTests, ok_bind, predicates_singleton]
      rfl
  | ⟨.native (.place place), negated⟩ =>
      rw [renderCondition, criterionTests]
      cases place.test with
      | error fault => rfl
      | ok test => simp [predicates_singleton]
  | ⟨.native (.boundary chain), negated⟩ =>
      rw [renderCondition, criterionTests, boundaryTest]
      cases chain.render with
      | error fault => rfl
      | ok text =>
          simp only [ok_bind]
          cases followingTest chain.isAbsolute text with
          | error fault => rfl
          | ok test => simp [predicates_singleton]

theorem renderCondition_boundary (chain : Chain) (negated : Bool) :
    renderCondition ⟨.native (.boundary chain), negated⟩ = do
      return predicate negated (← boundaryTest chain) := by
  rw [renderCondition, boundaryTest, bind_assoc]

def sharedTests : SharedCriterion → List String
  | .attribute name op operand => [attributeTest (trim name) op operand]
  | .classes names => names.map fun name => comparison "@class" .wholeWord (trim name)

theorem criterionTests_shared_eq_ok_iff {tests : List String}
    (criterion : SharedCriterion) :
    criterionTests (.shared criterion) = .ok tests ↔
      criterion.WellNamed ∧ tests = sharedTests criterion := by
  cases criterion with
  | «attribute» name op operand =>
      exact bind_pure_eq_ok_iff_of (fun checked => [attributeTest checked op operand])
        fun _ => checkName_eq_ok_iff
  | classes names =>
      have mapped : sharedTests (.classes names) =
          (names.map trim).map (comparison "@class" .wholeWord) := by
        rw [sharedTests, List.map_map]
        rfl
      rw [mapped]
      exact bind_pure_eq_ok_iff_of (List.map (comparison "@class" .wholeWord))
        fun _ => checkClasses_eq_ok_iff

theorem criterionTests_place_eq_ok_iff {place : Place} {tests : List String} :
    criterionTests (.native (.place place)) = .ok tests ↔
      place.InRange ∧ tests = [place.text] :=
  bind_pure_eq_ok_iff_of (fun test => [test]) fun _ => Place.test_eq_ok_iff

theorem renderConditions_eq (conditions : List (Condition (Native Chain))) :
    renderConditions conditions = do return String.join (← conditions.mapM renderCondition) := by
  induction conditions with
  | nil => rw [renderConditions]; rfl
  | cons condition rest ih =>
      rw [renderConditions, ih, List.mapM_cons]
      cases renderCondition condition with
      | error fault => rfl
      | ok text =>
          cases rest.mapM renderCondition with
          | error fault => rfl
          | ok others => simp

def Element (axis tag : String) (conditions : List (Condition (Native Chain))) (text : String) :
    Prop :=
  IsTag .xpath (trim tag) (!conditions.isEmpty) ∧
    ∃ others, renderConditions conditions = .ok others ∧ text = axis ++ trim tag ++ others

theorem renderStep_element_eq_ok_iff {axis : Axis} {tag text : String}
    {conditions : List (Condition (Native Chain))} :
    renderStep (.element axis tag conditions) = .ok text ↔
      Element axis.token tag conditions text := by
  rw [renderStep, guard_eq_ok_iff, checkTag_eq_ok_iff, bind_pure_eq_ok_iff, Element]
  exact and_congr_right fun _ => exists_congr fun _ => and_congr_right fun _ => eq_comm

theorem renderStep_parent_eq_ok_iff {text : String} :
    renderStep .parent = .ok text ↔ text = Relation.parent.token ++ anyTag := by
  rw [renderStep]
  exact ⟨fun same => (Except.ok.inj same).symm, fun same => by rw [same]⟩

namespace Chain

theorem render_page (tag : String) (conditions : List (Condition (Native Chain))) :
    (page tag conditions).render = renderStep (.element .descendant tag conditions) := by
  rw [render, renderStep]
  rfl

theorem render_step_eq_ok_iff {before : Chain} {last : Step Chain} {text : String} :
    (step before last).render = .ok text ↔
      ∃ start, before.render = .ok start ∧ ∃ written, renderStep last = .ok written ∧
        text = start ++ written := by
  rw [render, bind_eq_ok_iff]
  simp only [bind_pure_eq_ok_iff]
  exact exists_congr fun _ => and_congr_right fun _ => exists_congr fun _ =>
    and_congr_right fun _ => eq_comm

theorem render_limitedBy (before boundary : Chain) :
    (limitedBy before boundary).render = do
      let text ← before.render
      return text ++ predicate false (← boundaryTest boundary) := by
  rw [render, boundaryTest]
  simp only [bind_assoc]

theorem render_limitedBy_eq_ok_iff {before boundary : Chain} {text : String} :
    (limitedBy before boundary).render = .ok text ↔
      ∃ start, before.render = .ok start ∧ ∃ test, boundaryTest boundary = .ok test ∧
        text = start ++ predicate false test := by
  simp only [render, boundaryTest, bind_eq_ok_iff, pure_eq_ok_iff]
  constructor
  · rintro ⟨start, rendered, limit, renderedLimit, test, tested, rfl⟩
    exact ⟨start, rendered, test, ⟨limit, renderedLimit, tested⟩, rfl⟩
  · rintro ⟨start, rendered, test, ⟨limit, renderedLimit, tested⟩, rfl⟩
    exact ⟨start, rendered, limit, renderedLimit, test, tested, rfl⟩

end Chain

end PageSelectors.XPath
