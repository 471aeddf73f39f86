import PageSelectors.Css.Render
import PageSelectors.Proofs.Name

/-!
Which CSS criteria and chains render, and to what text.
-/

namespace PageSelectors.Css

open Text (trim)
open Outcome

namespace Pseudo

def InRange : Pseudo → Prop
  | .firstChild | .lastChild | .firstOfType | .lastOfType => True
  | .nthChild index | .nthLastChild index | .nthOfType index | .nthLastOfType index =>
      HasOrdinal index

def numbered (opening : String) (index : Nat) : String :=
  opening ++ toString (index + 1) ++ ")"

def text : Pseudo → String
  | .firstChild => ":first-child"
  | .lastChild => ":last-child"
  | .firstOfType => ":first-of-type"
  | .lastOfType => ":last-of-type"
  | .nthChild index => numbered ":nth-child(" index
  | .nthLastChild index => numbered ":nth-last-child(" index
  | .nthOfType index => numbered ":nth-of-type(" index
  | .nthLastOfType index => numbered ":nth-last-of-type(" index

theorem render_eq_ok_iff {pseudo : Pseudo} {result : String} :
    pseudo.render = .ok result ↔ pseudo.InRange ∧ result = pseudo.text := by
  cases pseudo with
  | firstChild | lastChild | firstOfType | lastOfType =>
      simp [render, text, InRange, eq_comm]
  | nthChild | nthLastChild | nthOfType | nthLastOfType => exact numbered_eq_ok_iff

end Pseudo

def WellNamed : Criterion Native → Prop
  | .shared criterion => criterion.WellNamed
  | .native (.tag name) | .native (.id name) => IsName name
  | .native (.pseudo pseudo) => pseudo.InRange

def criterionText : Criterion Native → String
  | .shared (.attribute name op operand) => attributeSelector (trim name) op operand
  | .shared (.classes names) => String.join (names.map fun name => "." ++ trim name)
  | .native (.tag name) => trim name
  | .native (.id value) => attributeSelector "id" (.compare .is) (trim value)
  | .native (.pseudo pseudo) => pseudo.text

def conditionText (condition : Condition Native) : String :=
  if condition.negated then ":not(" ++ criterionText condition.criterion ++ ")"
  else criterionText condition.criterion

theorem renderCriterion_eq_ok_iff {criterion : Criterion Native} {text : String} :
    renderCriterion criterion = .ok text ↔
      WellNamed criterion ∧ text = criterionText criterion := by
  match criterion with
  | .shared (.attribute name op operand) =>
      exact bind_pure_eq_ok_iff_of (fun checked => attributeSelector checked op operand)
        fun _ => checkName_eq_ok_iff
  | .shared (.classes names) =>
      have joined : criterionText (.shared (.classes names)) =
          String.join ((names.map trim).map ("." ++ ·)) := by
        rw [criterionText, List.map_map]
        rfl
      rw [joined]
      exact bind_pure_eq_ok_iff_of (fun checked => String.join (checked.map ("." ++ ·)))
        fun _ => checkClasses_eq_ok_iff
  | .native (.tag name) => exact checkName_eq_ok_iff
  | .native (.id value) =>
      exact bind_pure_eq_ok_iff_of (attributeSelector "id" (.compare .is))
        fun _ => checkName_eq_ok_iff
  | .native (.pseudo pseudo) => exact Pseudo.render_eq_ok_iff

theorem renderCondition_eq_ok_iff {text : String} (condition : Condition Native) :
    renderCondition condition = .ok text ↔
      WellNamed condition.criterion ∧ text = conditionText condition :=
  bind_pure_eq_ok_iff_of (fun text => if condition.negated then ":not(" ++ text ++ ")" else text)
    fun _ => renderCriterion_eq_ok_iff

theorem renderConditions_eq (conditions : List (Condition Native)) :
    renderConditions conditions = do return String.join (← conditions.mapM renderCondition) := by
  induction conditions with
  | nil => rfl
  | cons condition rest ih =>
      rw [renderConditions, ih, List.mapM_cons]
      cases renderCondition condition with
      | error fault => rfl
      | ok text =>
          cases rest.mapM renderCondition with
          | error fault => rfl
          | ok others => simp

def Compound (tag : String) (conditions : List (Condition Native)) (text : String) : Prop :=
  IsTag .css (trim tag) !conditions.isEmpty ∧
    ∃ others, renderConditions conditions = .ok others ∧ text = trim tag ++ others

namespace Chain

theorem render_page_eq_ok_iff {tag text : String} {conditions : List (Condition Native)} :
    (page tag conditions).render = .ok text ↔ Compound tag conditions text := by
  rw [render, guard_eq_ok_iff, checkTag_eq_ok_iff, Compound, bind_pure_eq_ok_iff]
  exact and_congr_right fun _ => exists_congr fun _ => and_congr_right fun _ => eq_comm

theorem render_relative_eq_ok_iff {tag text : String} {conditions : List (Condition Native)} :
    (relative tag conditions).render = .ok text ↔ Compound tag conditions text :=
  render_page_eq_ok_iff

theorem render_step_eq_ok_iff {before : Chain} {combinator : Combinator} {tag text : String}
    {conditions : List (Condition Native)} :
    (step before combinator tag conditions).render = .ok text ↔
      ∃ start, before.render = .ok start ∧ ∃ compound, Compound tag conditions compound ∧
        text = start ++ (if start = "" then "" else combinator.token) ++ compound := by
  rw [render, guard_eq_ok_iff, checkTag_eq_ok_iff]
  simp only [bind_eq_ok_iff, pure_eq_ok_iff]
  constructor
  · rintro ⟨good, start, rendered, others, renderedOthers, rfl⟩
    exact ⟨start, rendered, _, ⟨good, others, renderedOthers, rfl⟩, by simp [String.append_assoc]⟩
  · rintro ⟨start, rendered, _, ⟨good, others, renderedOthers, rfl⟩, rfl⟩
    exact ⟨good, start, rendered, others, renderedOthers, by simp [String.append_assoc]⟩

end Chain

end PageSelectors.Css
