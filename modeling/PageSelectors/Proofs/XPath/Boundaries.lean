import PageSelectors.Proofs.XPath.Rendering

/-!
Boundaries. As a boundary, a chain that starts at the page keeps its text but for the root axis, and
any other chain is refused. Limiting a step by a boundary comes to the same as giving the step the
boundary as its last condition.
-/

namespace PageSelectors.XPath

open Text (trim)
open Outcome

section Tests

variable {chain : Chain} {text : String}

theorem boundaryTest_of_isAbsolute (absolute : chain.isAbsolute = true)
    (rendered : chain.render = .ok text) :
    ∃ rest, text = "/descendant::" ++ rest ∧
      boundaryTest chain = .ok ("following::" ++ rest) := by
  obtain ⟨rest, rfl⟩ := Chain.render_of_isAbsolute absolute rendered
  have replaced : String.ofList (replaceRoot ("/descendant::" ++ rest).toList) =
      "following::" ++ rest := by
    rw [String.toList_append, replaceRoot_descendant, ← String.toList_append, String.ofList_toList]
  refine ⟨rest, rfl, ?_⟩
  rw [boundaryTest, rendered, ok_bind, followingTest, if_pos absolute, replaced]

theorem boundaryTest_of_relative (relative : chain.isAbsolute = false)
    (rendered : chain.render = .ok text) :
    boundaryTest chain = .error (.relativeBoundary text) := by
  rw [boundaryTest, rendered, ok_bind, followingTest, relative]
  rfl

end Tests

inductive Origin where
  | page
  | context (axis : Axis)
  | chain (before : Chain) (axis : Axis)

namespace Origin

variable (origin : Origin) (tag : String) (conditions : List (Condition (Native Chain)))

def step : Chain :=
  match origin with
  | page => .page tag conditions
  | context axis => .relative (.element axis tag conditions)
  | chain before axis => .step before (.element axis tag conditions)

def render : Except Fault String :=
  match origin with
  | page | context _ => .ok ""
  | chain before _ => before.render

def relation : Relation :=
  match origin with
  | page => .page
  | context axis | chain _ axis => .axis axis

theorem isAbsolute_step : (origin.step tag conditions).isAbsolute =
    match origin with
    | page => true
    | context _ => false
    | chain before _ => before.isAbsolute := by
  cases origin with
  | page | context | chain => rfl

theorem render_step : (origin.step tag conditions).render = do
    let start ← origin.render
    checkTag .xpath (trim tag) !conditions.isEmpty
    return start ++ origin.relation.token ++ trim tag ++ (← renderConditions conditions) := by
  cases origin with
  | page =>
      rw [step, Chain.render, render, ok_bind]
      simp only [relation, String.empty_append]
  | context axis =>
      rw [step, Chain.render, renderStep, render, ok_bind]
      simp only [relation, Relation.token, String.empty_append]
  | chain before axis =>
      rw [step, Chain.render]
      simp only [renderStep, bind_assoc, pure_bind, String.append_assoc]
      rfl

end Origin

theorem renderConditions_concat (conditions : List (Condition (Native Chain)))
    (last : Condition (Native Chain)) :
    renderConditions (conditions ++ [last]) = do
      let text ← renderConditions conditions
      return text ++ (← renderCondition last) := by
  induction conditions with
  | nil =>
      simp only [List.nil_append, renderConditions, ok_bind]
      cases renderCondition last with
      | error fault => rfl
      | ok text => simp
  | cons condition rest ih =>
      rw [List.cons_append, renderConditions, renderConditions, ih]
      simp only [bind_assoc, pure_bind, String.append_assoc]

def boundaryCondition (boundary : Chain) : Condition (Native Chain) :=
  ⟨.native (.boundary boundary), false⟩

theorem Origin.render_limitedBy {origin : Origin} {tag text : String}
    {conditions : List (Condition (Native Chain))}
    (rendered : (origin.step tag conditions).render = .ok text) (boundary : Chain) :
    ((origin.step tag conditions).limitedBy boundary).render =
      (origin.step tag (conditions ++ [boundaryCondition boundary])).render := by
  rw [Chain.render_limitedBy, rendered, ok_bind]
  rw [render_step] at rendered ⊢
  obtain ⟨start, started, rendered⟩ := bind_eq_ok_iff.1 rendered
  obtain ⟨checked, rendered⟩ := guard_eq_ok_iff.1 rendered
  obtain ⟨others, written, rfl⟩ := bind_pure_eq_ok_iff.1 rendered
  have rechecked : checkTag .xpath (trim tag)
      (!(conditions ++ [boundaryCondition boundary]).isEmpty) = .ok () := by
    obtain ⟨unbroken, present, -⟩ := checkTag_eq_ok_iff.1 checked
    exact checkTag_eq_ok_iff.2 ⟨unbroken, present, fun _ => by simp⟩
  rw [started, ok_bind, rechecked, ok_bind, renderConditions_concat, written, ok_bind,
    boundaryCondition, renderCondition_boundary]
  cases boundaryTest boundary with
  | error fault => rfl
  | ok test => simp [String.append_assoc]

/-- A boundary that starts at the page has its root axis replaced and nothing else of its text; any
other boundary is refused with its text. Attached to a step that renders, by a limit or by the last
of the conditions, it gives the same text or the same fault, and a chain that is absolute in both
ways or in neither. -/
theorem boundary_rewritten_and_attached :
    (∀ (boundary : Chain) (text : String), boundary.render = .ok text →
      (boundary.isAbsolute = true → ∃ rest, text = "/descendant::" ++ rest ∧
        boundaryTest boundary = .ok ("following::" ++ rest)) ∧
      (boundary.isAbsolute = false →
        boundaryTest boundary = .error (.relativeBoundary text))) ∧
      ∀ (origin : Origin) (tag : String) (conditions : List (Condition (Native Chain)))
        (text : String), (origin.step tag conditions).render = .ok text →
        ∀ boundary : Chain,
          ((origin.step tag conditions).limitedBy boundary).render =
              (origin.step tag (conditions ++ [boundaryCondition boundary])).render ∧
            ((origin.step tag conditions).limitedBy boundary).isAbsolute =
              (origin.step tag (conditions ++ [boundaryCondition boundary])).isAbsolute := by
  refine ⟨?rewritten, ?attached⟩
  case rewritten =>
    intro boundary text rendered
    exact ⟨fun absolute => boundaryTest_of_isAbsolute absolute rendered,
      fun relative => boundaryTest_of_relative relative rendered⟩
  case attached =>
    intro origin tag conditions text rendered boundary
    refine ⟨origin.render_limitedBy rendered boundary, ?_⟩
    rw [Chain.isAbsolute, origin.isAbsolute_step, origin.isAbsolute_step]

def axisLikeBoundary : Chain :=
  .limitedBy
    (.page "tr" [⟨.native (.text .is "/descendant::td"), false⟩])
    (.page "tfoot" [])

/-- Raw text is no start at the page, whatever it looks like. -/
theorem boundary_rewritten_and_attached_axisLike :
    (∃ rest, "/descendant::tr[text()='/descendant::td'][following::tfoot]" =
        "/descendant::" ++ rest ∧
      boundaryTest axisLikeBoundary = .ok ("following::" ++ rest)) ∧
      boundaryTest (.raw "/descendant::tr") = .error (.relativeBoundary "/descendant::tr") ∧
      (((Origin.context .child).step "td" []).limitedBy axisLikeBoundary).render =
        ((Origin.context .child).step "td" [boundaryCondition axisLikeBoundary]).render := by
  have rendered : axisLikeBoundary.render =
      .ok "/descendant::tr[text()='/descendant::td'][following::tfoot]" := by
    decide +kernel
  have raw : (Chain.raw "/descendant::tr").render = .ok "/descendant::tr" := by decide +kernel
  have cell : ((Origin.context .child).step "td" []).render = .ok "/child::td" := by
    decide +kernel
  exact ⟨(boundary_rewritten_and_attached.1 _ _ rendered).1 rfl,
    (boundary_rewritten_and_attached.1 _ _ raw).2 rfl,
    (boundary_rewritten_and_attached.2 _ _ _ _ cell axisLikeBoundary).1⟩

end PageSelectors.XPath
