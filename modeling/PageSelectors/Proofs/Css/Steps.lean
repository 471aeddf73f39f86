import PageSelectors.Proofs.Css.Rendering

/-!
The steps of a CSS chain, each by itself, and what the chain starts with. No step has an empty text.
So the text of a chain is the text of its start with each combinator and each step after it, and a
combinator is left out only right behind raw text that is empty.
-/

namespace PageSelectors.Css

open Text (trim)
open Outcome

structure Step where
  tag : String
  conditions : List (Condition Native)

inductive Root where
  | raw (text : String)
  | step (first : Step)

namespace Chain

def root : Chain → Root
  | raw text => .raw text
  | page tag conditions | relative tag conditions => .step ⟨tag, conditions⟩
  | step before _ _ _ => before.root

def joined : Chain → List (Combinator × Step)
  | step before combinator tag conditions => before.joined ++ [(combinator, ⟨tag, conditions⟩)]
  | _ => []

end Chain

def Step.render (step : Step) : Except Fault String := do
  return trim step.tag ++ (← renderConditions step.conditions)

def Step.Writes (step : Step) (fragment : String) : Prop :=
  step.render = .ok fragment ∧ fragment ≠ ""

def Root.Writes : Root → String → Prop
  | raw text, start => start = text
  | step first, start => first.Writes start

theorem Root.Writes.eq_empty_iff {root : Root} {start : String} (writes : root.Writes start) :
    start = "" ↔ root = .raw "" := by
  cases root with
  | raw text =>
      obtain rfl : start = text := writes
      simp
  | step first => simp [writes.2]

def JoinWrites (step : Combinator × Step) (joint : Combinator × String) : Prop :=
  joint.1 = step.1 ∧ step.2.Writes joint.2

def piece (joint : Combinator × String) : String :=
  joint.1.token ++ joint.2

/-- What is written behind a start: each combinator and its step, where the first combinator is left
out if nothing stands before it. -/
def piecesAfter (start : String) (joints : List (Combinator × String)) : List String :=
  if start = "" then (joints.take 1).map Prod.snd ++ (joints.drop 1).map piece
  else joints.map piece

theorem criterionText_ne_empty {criterion : Criterion Native} (wellNamed : WellNamed criterion) :
    criterionText criterion ≠ "" := by
  match criterion with
  | .shared (.attribute name op operand) => cases op <;> simp [criterionText, attributeSelector]
  | .shared (.classes names) =>
      obtain ⟨first, rest, rfl⟩ := List.exists_cons_of_ne_nil wellNamed.1
      simp [criterionText]
  | .native (.tag name) => exact wellNamed.1
  | .native (.id value) => simp [criterionText, attributeSelector]
  | .native (.pseudo pseudo) => cases pseudo <;> simp [criterionText, Pseudo.text, Pseudo.numbered]

theorem renderCondition_ne_empty {condition : Condition Native} {text : String}
    (rendered : renderCondition condition = .ok text) : text ≠ "" := by
  obtain ⟨wellNamed, rfl⟩ := (renderCondition_eq_ok_iff condition).1 rendered
  unfold conditionText
  split
  · simp
  · exact criterionText_ne_empty wellNamed

theorem renderConditions_ne_empty {conditions : List (Condition Native)} {text : String}
    (some : conditions ≠ []) (rendered : renderConditions conditions = .ok text) : text ≠ "" := by
  obtain ⟨first, rest, rfl⟩ := List.exists_cons_of_ne_nil some
  obtain ⟨firstText, renderedFirst, rendered⟩ := bind_eq_ok_iff.1 rendered
  obtain ⟨others, -, rfl⟩ := bind_pure_eq_ok_iff.1 rendered
  simp [renderCondition_ne_empty renderedFirst]

theorem Compound.writes {tag text : String} {conditions : List (Condition Native)}
    (compound : Compound tag conditions text) : Step.Writes ⟨tag, conditions⟩ text := by
  obtain ⟨good, others, rendered, rfl⟩ := compound
  refine ⟨bind_pure_eq_ok_iff.2 ⟨others, rendered, rfl⟩, ?_⟩
  by_cases untagged : trim tag = ""
  · have constrained : conditions ≠ [] := by
      simpa using good.narrowed (.inl untagged)
    simp [renderConditions_ne_empty constrained rendered]
  · simp [untagged]

/-- The combinator of the last step is written unless nothing at all stands before it. -/
theorem join_piecesAfter_concat {start fragment : String} {combinator : Combinator}
    {joints : List (Combinator × String)} (written : ∀ joint ∈ joints, joint.2 ≠ "") :
    start ++ String.join (piecesAfter start (joints ++ [(combinator, fragment)])) =
      let text := start ++ String.join (piecesAfter start joints)
      text ++ (if text = "" then "" else combinator.token) ++ fragment := by
  unfold piecesAfter
  by_cases empty : start = ""
  · cases joints with
    | nil => simp [empty]
    | cons first rest =>
        have firstWritten := written first List.mem_cons_self
        simp [empty, firstWritten, piece, String.append_assoc]
  · simp [empty, piece, String.append_assoc]

theorem JoinWrites.ne_empty {steps : List (Combinator × Step)}
    {joints : List (Combinator × String)} (writes : List.Forall₂ JoinWrites steps joints) :
    ∀ joint ∈ joints, joint.2 ≠ "" := by
  intro joint member
  obtain ⟨step, -, -, -, written⟩ := exists_of_mem_right writes member
  exact written

theorem Chain.exists_fragments {chain : Chain} {text : String}
    (rendered : chain.render = .ok text) :
    ∃ start joints, chain.root.Writes start ∧ List.Forall₂ JoinWrites chain.joined joints ∧
      text = start ++ String.join (piecesAfter start joints) := by
  induction chain generalizing text with
  | raw raw =>
      cases rendered
      exact ⟨raw, [], rfl, .nil, by simp [piecesAfter]⟩
  | page tag conditions | relative tag conditions =>
      have writes := (render_page_eq_ok_iff.1 rendered).writes
      exact ⟨text, [], writes, .nil, by simp [piecesAfter]⟩
  | step before combinator tag conditions ih =>
      obtain ⟨_, renderedBefore, fragment, compound, rfl⟩ := render_step_eq_ok_iff.1 rendered
      obtain ⟨start, joints, starts, writes, rfl⟩ := ih renderedBefore
      refine ⟨start, joints ++ [(combinator, fragment)], starts, ?_, ?_⟩
      · exact List.rel_append writes (.cons ⟨rfl, compound.writes⟩ .nil)
      · rw [join_piecesAfter_concat (JoinWrites.ne_empty writes)]

theorem Chain.exists_added {chain before : Chain} (previous : chain.before? = some before)
    {text : String} (rendered : chain.render = .ok text) :
    ∃ start added, before.render = .ok start ∧ added ≠ "" ∧ text = start ++ added := by
  cases chain with
  | raw | page | relative => simp [before?] at previous
  | step start combinator tag conditions =>
      obtain rfl : start = before := Option.some.inj previous
      obtain ⟨startText, renderedStart, fragment, compound, rfl⟩ := render_step_eq_ok_iff.1 rendered
      refine ⟨startText, _, renderedStart, ?_, String.append_assoc⟩
      simp [compound.writes.2]

end PageSelectors.Css
