import PageSelectors.Catalog.Assembly
import PageSelectors.Proofs.Catalog.ReferenceText
import PageSelectors.Proofs.XPath.Root

/-!
Conditions, from the definition to the text. A condition is put together and rendered exactly if its
grammar has its kind, its names are good and its boundary resolves, and its text is the one read off
the definition.
-/

namespace PageSelectors

open Text (trim)
open Outcome

namespace Catalog

@[simp] theorem settle_eq {α : Type} (outcome : Except Fault α) :
    (settle outcome : Except Fault α) = outcome := by
  cases outcome with
  | error fault => rfl
  | ok value => rfl

def Resolves (resolve : String → Except Fault XPath.Chain) (name : String) : Prop :=
  ∃ chain text, resolve name = .ok chain ∧ chain.isAbsolute = true ∧ chain.render = .ok text

def resolvedText (resolve : String → Except Fault XPath.Chain) (name : String) : String :=
  match resolve name >>= XPath.Chain.render with
  | .ok text => text
  | .error _ => ""

def limitText (resolve : String → Except Fault XPath.Chain) (name : String) : String :=
  followingText (resolvedText resolve name)

theorem followingText_descendant (rest : String) :
    followingText ("/descendant::" ++ rest) = "following::" ++ rest := by
  have found : "/descendant".toList.isPrefixOf? ("/descendant::" ++ rest).toList =
      some ("::".toList ++ rest.toList) := by
    rw [String.toList_append]
    simp [List.isPrefixOf?]
  rw [followingText, found]
  simp [← String.toList_inj]

/-- What a resolved name contributes as a boundary is its text after the following axis. -/
theorem boundaryTest_resolved_iff {resolve : String → Except Fault XPath.Chain}
    {name test : String} :
    (resolve name >>= XPath.boundaryTest) = .ok test ↔
      Resolves resolve name ∧ test = limitText resolve name := by
  have written {chain : XPath.Chain} {text : String} (absolute : chain.isAbsolute)
      (rendered : chain.render = .ok text) :
      String.ofList (XPath.replaceRoot text.toList) = followingText text := by
    obtain ⟨rest, rfl⟩ := XPath.Chain.render_of_isAbsolute absolute rendered
    rw [followingText_descendant, String.toList_append, XPath.replaceRoot_descendant,
      ← String.toList_append, String.ofList_toList]
  simp only [XPath.boundaryTest, bind_eq_ok_iff, XPath.followingTest_eq_ok_iff]
  constructor
  · rintro ⟨chain, resolved, text, rendered, absolute, rfl⟩
    refine ⟨⟨chain, text, resolved, absolute, rendered⟩, ?_⟩
    rw [written absolute rendered, limitText, resolvedText, resolved, ok_bind, rendered]
  · rintro ⟨⟨chain, text, resolved, absolute, rendered⟩, rfl⟩
    refine ⟨chain, resolved, text, rendered, absolute, ?_⟩
    rw [written absolute rendered, limitText, resolvedText, resolved, ok_bind, rendered]

namespace ConditionDefinition

structure Fits (grammar : Grammar) (resolve : String → Except Fault XPath.Chain)
    (condition : ConditionDefinition) : Prop where
  supported : condition.Supported grammar
  named : condition.WellNamed
  resolves : ∀ mentioned ∈ condition.mentions, Resolves resolve mentioned

theorem fits_iff {grammar : Grammar} {resolve : String → Except Fault XPath.Chain}
    {condition : ConditionDefinition} :
    condition.Fits grammar resolve ↔ condition.Supported grammar ∧ condition.WellNamed ∧
      ∀ mentioned ∈ condition.mentions, Resolves resolve mentioned :=
  ⟨fun fits => ⟨fits.supported, fits.named, fits.resolves⟩,
    fun ⟨supported, named, resolves⟩ => ⟨supported, named, resolves⟩⟩

theorem core_cases (condition : ConditionDefinition) :
    condition.core.isNegated = false ∧
      (∀ grammar, condition.Supported grammar ↔ condition.core.Supported grammar) ∧
      (condition.WellNamed ↔ condition.core.WellNamed) ∧
      condition.mentions = condition.core.mentions := by
  induction condition with
  | not condition ih => exact ih
  | _ => exact ⟨rfl, fun _ => Iff.rfl, Iff.rfl, rfl⟩

theorem fits_core_iff {grammar : Grammar} {resolve : String → Except Fault XPath.Chain}
    {condition : ConditionDefinition} :
    condition.Fits grammar resolve ↔ condition.core.Fits grammar resolve := by
  obtain ⟨-, supported, named, mentions⟩ := condition.core_cases
  rw [fits_iff, fits_iff, supported, named, mentions]

theorem leaf_eq {resolve : String → Except Fault XPath.Chain} (condition : ConditionDefinition) :
    condition.leaf resolve = do
      let leaf ← condition.core.leaf resolve
      return ⟨leaf.kind, condition.isNegated⟩ := by
  induction condition with
  | not condition ih =>
      rw [leaf, ih, core]
      cases condition.core.leaf resolve with
      | error fault => rfl
      | ok leaf => rfl
  | boundary entry =>
      simp only [core, leaf]
      cases resolve entry with
      | error fault => rfl
      | ok chain => rfl
  | _ => rfl

theorem cssAttribute_eq (name : String) (op : AttributeOp) (value : String) :
    cssAttribute name op value = Css.attributeSelector name op value := by
  cases op with
  | isPresent => rfl
  | compare op => cases op <;> rfl

theorem xpathComparison_eq (subject : String) (op : TextOp) (value : String) :
    xpathComparison subject op value = XPath.comparison subject op value := by
  cases op <;> rfl

theorem xpathAttribute_eq (name : String) (op : AttributeOp) (value : String) :
    xpathAttribute name op value = XPath.attributeTest name op value := by
  cases op with
  | isPresent => rfl
  | compare op => exact xpathComparison_eq _ op value

theorem css_eq_ok_iff_of_plain {resolve : String → Except Fault XPath.Chain}
    {condition : ConditionDefinition} (plain : condition.isNegated = false) {negated : Bool}
    {text : String} :
    (do
      let leaf ← condition.leaf resolve
      let condition ← Leaf.toCss ⟨leaf.kind, negated⟩
      Css.renderCondition condition) = .ok text ↔
      condition.Fits .css resolve ∧
        text = if negated then ":not(" ++ condition.cssCriterion ++ ")"
          else condition.cssCriterion := by
  rw [fits_iff]
  cases condition with
  | tag name | id name | «attribute» name op value | classes names | pseudo which =>
      simp only [leaf, Leaf.toCss, pure_bind, ok_bind, Supported, WellNamed, mentions,
        List.not_mem_nil, false_imp_iff, implies_true, and_true, true_and, cssCriterion,
        cssAttribute_eq]
      exact Css.renderCondition_eq_ok_iff _
  | text op value | place which =>
      simp [Supported, leaf, Leaf.toCss]
  | boundary entry =>
      cases resolved : resolve entry with
      | error fault => simp [Supported, leaf, resolved]
      | ok chain => simp [Supported, leaf, resolved, Leaf.toCss]
  | not condition => simp [isNegated] at plain

def leafTests (leaf : Leaf) : Except Fault (List String) := do
  let condition ← leaf.toXPath
  XPath.criterionTests condition.criterion

theorem renderCondition_toXPath (leaf : Leaf) (negated : Bool) :
    (Leaf.toXPath ⟨leaf.kind, negated⟩ >>= XPath.renderCondition) = do
      return XPath.predicates negated (← leafTests leaf) := by
  unfold leafTests Leaf.toXPath
  cases leaf.kind with
  | css native => rfl
  | shared criterion => exact XPath.renderCondition_eq _
  | xpath native => exact XPath.renderCondition_eq _

theorem tests_eq_ok_iff_of_plain {resolve : String → Except Fault XPath.Chain}
    {condition : ConditionDefinition} (plain : condition.isNegated = false) {tests : List String} :
    (condition.leaf resolve >>= leafTests) = .ok tests ↔
      condition.Fits .xpath resolve ∧ tests = condition.xpathTests (limitText resolve) := by
  rw [fits_iff]
  cases condition with
  | «attribute» name op value | classes names =>
      simp only [leaf, leafTests, Leaf.toXPath, pure_bind, ok_bind, Supported, WellNamed, mentions,
        List.not_mem_nil, false_imp_iff, implies_true, and_true, true_and, xpathTests,
        xpathAttribute_eq, xpathComparison_eq]
      exact XPath.criterionTests_shared_eq_ok_iff _
  | tag name | id name | pseudo which =>
      simp [Supported, leaf, leafTests, Leaf.toXPath]
  | text op value =>
      simp [Supported, WellNamed, mentions, leaf, leafTests, Leaf.toXPath, XPath.criterionTests,
        xpathTests, xpathComparison_eq, eq_comm]
  | place which =>
      simp only [leaf, leafTests, Leaf.toXPath, pure_bind, ok_bind, Supported, WellNamed, mentions,
        List.not_mem_nil, false_imp_iff, implies_true, and_true, true_and]
      exact XPath.criterionTests_place_eq_ok_iff
  | boundary entry =>
      simp only [Supported, WellNamed, mentions, List.mem_singleton, forall_eq, true_and]
      have tested : ((boundary entry).leaf resolve >>= leafTests) = do
          return [← resolve entry >>= XPath.boundaryTest] := by
        rw [leaf]
        cases resolve entry with
        | error fault => rfl
        | ok chain => rfl
      rw [tested]
      exact bind_pure_eq_ok_iff_of (fun test => [test]) fun _ => boundaryTest_resolved_iff
  | not condition => simp [isNegated] at plain

/-- A condition renders in XPath exactly if it fits, to the text read off its definition. -/
theorem xpath_eq_ok_iff {resolve : String → Except Fault XPath.Chain}
    {condition : ConditionDefinition} {text : String} :
    (do
      let leaf ← condition.leaf resolve
      let condition ← leaf.toXPath
      XPath.renderCondition condition) = .ok text ↔
      condition.Fits .xpath resolve ∧ text = condition.xpathText (limitText resolve) := by
  have rendered : (do
      let leaf ← condition.leaf resolve
      let condition ← leaf.toXPath
      XPath.renderCondition condition) = do
        let tests ← condition.core.leaf resolve >>= leafTests
        return XPath.predicates condition.isNegated tests := by
    rw [leaf_eq]
    cases condition.core.leaf resolve with
    | error fault => rfl
    | ok leaf => exact renderCondition_toXPath leaf condition.isNegated
  rw [rendered, fits_core_iff]
  exact bind_pure_eq_ok_iff_of (XPath.predicates condition.isNegated)
    fun _ => tests_eq_ok_iff_of_plain condition.core_cases.1

theorem css_eq_ok_iff {resolve : String → Except Fault XPath.Chain}
    {condition : ConditionDefinition} {text : String} :
    (do
      let leaf ← condition.leaf resolve
      let condition ← leaf.toCss
      Css.renderCondition condition) = .ok text ↔
      condition.Fits .css resolve ∧ text = condition.cssText := by
  have rendered : (do
      let leaf ← condition.leaf resolve
      let condition ← leaf.toCss
      Css.renderCondition condition) = (do
        let leaf ← condition.core.leaf resolve
        let condition ← Leaf.toCss ⟨leaf.kind, condition.isNegated⟩
        Css.renderCondition condition) := by
    rw [leaf_eq]
    cases condition.core.leaf resolve with
    | error fault => rfl
    | ok leaf => rfl
  rw [rendered, fits_core_iff]
  exact css_eq_ok_iff_of_plain condition.core_cases.1

end ConditionDefinition

end Catalog

end PageSelectors
