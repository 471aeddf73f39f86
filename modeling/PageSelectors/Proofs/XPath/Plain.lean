import PageSelectors.Proofs.XPath.Literals

/-!
Chains with plain names. If the tags and attribute names of a chain hold no quotes, brackets or
slashes, its text is balanced, whatever the operands are.
-/

namespace PageSelectors.XPath

open Text (trim)
open Outcome

def IsPlain (name : String) : Prop :=
  ∀ c ∈ name.toList, isPlainChar c = true ∧ c ≠ '/'

instance (name : String) : Decidable (IsPlain name) :=
  List.decidableBAll _ name.toList

mutual

def Chain.Plain : Chain → Prop
  | .raw _ => True
  | .page tag conditions => IsPlain tag ∧ PlainConditions conditions
  | .relative step => PlainStep step
  | .step before step => before.Plain ∧ PlainStep step
  | .limitedBy before boundary => before.Plain ∧ boundary.Plain

def PlainStep : Step Chain → Prop
  | .element _ tag conditions => IsPlain tag ∧ PlainConditions conditions
  | .parent => True

def PlainConditions : List (Condition (Native Chain)) → Prop
  | [] => True
  | condition :: rest => PlainCondition condition ∧ PlainConditions rest

def PlainCondition : Condition (Native Chain) → Prop
  | ⟨.shared (.attribute name _ _), _⟩ => IsPlain name
  | ⟨.native (.boundary chain), _⟩ => chain.Plain
  | _ => True

end

def Chain.isRaw : Chain → Bool
  | .raw _ => true
  | .page _ _ | .relative _ => false
  | .step before _ | .limitedBy before _ => before.isRaw

theorem Chain.isRaw_of_isAbsolute {chain : Chain} (absolute : chain.isAbsolute) :
    chain.isRaw = false := by
  induction chain using Chain.isAbsolute.induct with
  | case1 raw => simp [isAbsolute] at absolute
  | case2 tag conditions => rfl
  | case3 step => rfl
  | case4 before step ih => exact ih absolute
  | case5 before boundary ih => exact ih absolute

theorem mem_of_mem_trim {c : Char} {name : String} (member : c ∈ (trim name).toList) :
    c ∈ name.toList := by
  rw [trim, String.toList_ofList, Text.trimChars, List.mem_reverse] at member
  have kept := List.mem_reverse.1 ((List.dropWhile_sublist _).subset member)
  exact (List.dropWhile_sublist _).subset kept

theorem IsPlain.trimmed {name : String} (plain : IsPlain name) : IsPlain (trim name) :=
  fun c member => plain c (mem_of_mem_trim member)

theorem IsPlain.append {left right : String} (first : IsPlain left) (second : IsPlain right) :
    IsPlain (left ++ right) := by
  intro c member
  rw [String.toList_append] at member
  exact (List.mem_append.1 member).elim (first c) (second c)

theorem IsPlain.balanced {name : String} (plain : IsPlain name) : Balanced (trim name).toList :=
  .of_plain fun c member => (plain c (mem_of_mem_trim member)).1

theorem balanced_axis (axis : Axis) : Balanced axis.token.toList := by
  cases axis <;> decide

section Balances

def Chain.Balances (chain : Chain) : Prop :=
  ∀ text, chain.render = .ok text → Balanced text.toList

def StepBalances (step : Step Chain) : Prop :=
  ∀ text, renderStep step = .ok text → Balanced text.toList

def ConditionsBalance (conditions : List (Condition (Native Chain))) : Prop :=
  ∀ text, renderConditions conditions = .ok text → Balanced text.toList

def ConditionBalances (condition : Condition (Native Chain)) : Prop :=
  ∀ tests, criterionTests condition.criterion = .ok tests → ∀ test ∈ tests, Balanced test.toList

variable {before boundary chain : Chain} {tag : String}
variable {conditions : List (Condition (Native Chain))}

theorem balanced_boundaryTest {test : String} (balances : chain.isRaw = false → chain.Balances)
    (tested : boundaryTest chain = .ok test) : Balanced test.toList := by
  obtain ⟨text, rendered, tested⟩ := bind_eq_ok_iff.1 tested
  obtain ⟨absolute, rfl⟩ := followingTest_eq_ok_iff.1 tested
  obtain ⟨rest, rfl⟩ := Chain.render_of_isAbsolute absolute rendered
  have whole := balances (Chain.isRaw_of_isAbsolute absolute) _ rendered
  have root : Balanced "/descendant::".toList := by decide
  have following : Balanced "following::".toList := by decide
  rw [String.toList_append] at whole ⊢
  rw [String.toList_ofList, replaceRoot_descendant]
  exact following.append (whole.of_append root)

theorem balances_element {axis : Axis} (plain : IsPlain tag)
    (balance : ConditionsBalance conditions) : StepBalances (.element axis tag conditions) := by
  intro text rendered
  obtain ⟨-, others, renderedOthers, rfl⟩ := renderStep_element_eq_ok_iff.1 rendered
  exact ((balanced_axis axis).text_append plain.balanced).text_append
    (balance others renderedOthers)

theorem balances_parent : StepBalances .parent := by
  intro text rendered
  rw [renderStep_parent_eq_ok_iff.1 rendered]
  decide

theorem balances_page (plain : IsPlain tag) (balance : ConditionsBalance conditions) :
    (Chain.page tag conditions).Balances := by
  intro text rendered
  rw [Chain.render_page] at rendered
  exact balances_element plain balance text rendered

theorem balances_step {last : Step Chain} (first : before.Balances) (balances : StepBalances last) :
    (before.step last).Balances := by
  intro text rendered
  obtain ⟨start, renderedStart, written, renderedLast, rfl⟩ :=
    Chain.render_step_eq_ok_iff.1 rendered
  exact (first start renderedStart).text_append (balances written renderedLast)

theorem balances_limitedBy (first : before.Balances)
    (balances : boundary.isRaw = false → boundary.Balances) :
    (before.limitedBy boundary).Balances := by
  intro text rendered
  obtain ⟨start, renderedStart, test, tested, rfl⟩ := Chain.render_limitedBy_eq_ok_iff.1 rendered
  have limit := (balanced_boundaryTest balances tested).isGroup_predicate false
  exact (first start renderedStart).text_append limit.balanced

theorem balances_cons {condition : Condition (Native Chain)}
    (balances : ConditionBalances condition) (balance : ConditionsBalance conditions) :
    ConditionsBalance (condition :: conditions) := by
  intro text rendered
  rw [renderConditions, renderCondition_eq] at rendered
  obtain ⟨written, renderedFirst, rendered⟩ := bind_eq_ok_iff.1 rendered
  obtain ⟨others, renderedOthers, rfl⟩ := bind_pure_eq_ok_iff.1 rendered
  obtain ⟨tests, tested, rfl⟩ := bind_pure_eq_ok_iff.1 renderedFirst
  have first : Balanced (predicates condition.negated tests).toList := by
    apply Balanced.join
    intro group member
    obtain ⟨test, inside, rfl⟩ := List.mem_map.1 member
    exact ((balances tests tested test inside).isGroup_predicate condition.negated).balanced
  exact first.text_append (balance others renderedOthers)

theorem balances_shared {criterion : SharedCriterion} {negated : Bool}
    (plain : PlainCondition ⟨.shared criterion, negated⟩) :
    ConditionBalances ⟨.shared criterion, negated⟩ := by
  intro tests tested test member
  obtain ⟨-, rfl⟩ := (criterionTests_shared_eq_ok_iff criterion).1 tested
  cases criterion with
  | «attribute» name op operand =>
      rw [PlainCondition] at plain
      rw [List.mem_singleton.1 member]
      exact plain.balanced.attributeTest op operand
  | classes names =>
      obtain ⟨name, -, rfl⟩ := List.mem_map.1 member
      exact Balanced.comparison (by decide) .wholeWord (trim name)

theorem balances_text {op : TextOp} {operand : String} {negated : Bool} :
    ConditionBalances ⟨.native (.text op operand), negated⟩ := by
  intro tests tested test member
  rw [criterionTests] at tested
  rw [← Except.ok.inj tested, List.mem_singleton] at member
  rw [member]
  exact Balanced.comparison (by decide) op operand

theorem balances_place {place : Place} {negated : Bool} :
    ConditionBalances ⟨.native (.place place), negated⟩ := by
  intro tests tested test member
  obtain ⟨-, rfl⟩ := criterionTests_place_eq_ok_iff.1 tested
  rw [List.mem_singleton.1 member]
  exact Balanced.placeText place

theorem balances_boundary {negated : Bool} (balances : chain.isRaw = false → chain.Balances) :
    ConditionBalances ⟨.native (.boundary chain), negated⟩ := by
  intro tests tested test member
  rw [criterionTests] at tested
  obtain ⟨only, testedChain, rfl⟩ := bind_pure_eq_ok_iff.1 tested
  rw [List.mem_singleton.1 member]
  exact balanced_boundaryTest balances testedChain

/-- Texts of plain chains are balanced, by induction on how chains and conditions are nested. -/
theorem balances_of_plain :
    (∀ chain : Chain, chain.Plain → chain.isRaw = false → chain.Balances) ∧
      (∀ step, PlainStep step → StepBalances step) ∧
      (∀ conditions, PlainConditions conditions → ConditionsBalance conditions) ∧
      (∀ condition, PlainCondition condition → ConditionBalances condition) := by
  refine Chain.render.mutual_induct _ _ _ _ ?raw ?page ?relative ?step ?limitedBy ?none ?more
    ?element ?parent ?shared ?text ?place ?boundary
  case raw =>
    intro text _ unrooted
    simp [Chain.isRaw] at unrooted
  case page =>
    intro tag conditions ih plain _
    rw [Chain.Plain] at plain
    exact balances_page plain.1 (ih plain.2)
  case relative =>
    intro step ih plain _ text rendered
    rw [Chain.Plain] at plain
    rw [Chain.render] at rendered
    exact ih plain text rendered
  case step =>
    intro before step ihBefore ihStep plain unrooted
    rw [Chain.Plain] at plain
    exact balances_step (ihBefore plain.1 unrooted) (ihStep plain.2)
  case limitedBy =>
    intro before boundary ihBefore ihBoundary plain unrooted
    rw [Chain.Plain] at plain
    exact balances_limitedBy (ihBefore plain.1 unrooted) (ihBoundary plain.2)
  case none =>
    intro _ text rendered
    rw [renderConditions] at rendered
    rw [← Except.ok.inj rendered]
    decide
  case more =>
    intro condition rest ihCondition ihRest plain
    rw [PlainConditions] at plain
    exact balances_cons (ihCondition plain.1) (ihRest plain.2)
  case element =>
    intro axis tag conditions ih plain
    rw [PlainStep] at plain
    exact balances_element plain.1 (ih plain.2)
  case parent => exact fun _ => balances_parent
  case shared => exact fun _ _ => balances_shared
  case text => exact fun _ _ _ _ => balances_text
  case place => exact fun _ _ _ => balances_place
  case boundary =>
    intro chain negated ih plain
    rw [PlainCondition] at plain
    exact balances_boundary (ih plain)

end Balances

end PageSelectors.XPath
