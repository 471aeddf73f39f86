import PageSelectors.Leaf
import PageSelectors.Proofs.Css.Steps
import PageSelectors.Proofs.XPath.Boundaries
import PageSelectors.Selector

/-!
Selectors in which one condition is left open. The condition can be one of any step, and in XPath it
can also be one of a limit or of the boundary of another condition, at any depth. Whatever stands
around it, the text of a selector shows what is written for that condition.
-/

namespace PageSelectors

open Outcome

theorem exists_of_mapM_split {α β ε : Type} {write : α → Except ε β} {before after : List α}
    {item : α} {results : List β} (done : (before ++ item :: after).mapM write = .ok results) :
    ∃ left own right, before.mapM write = .ok left ∧ write item = .ok own ∧
      after.mapM write = .ok right ∧ results = left ++ own :: right := by
  rw [List.mapM_append, List.mapM_cons] at done
  obtain ⟨left, leftDone, done⟩ := bind_eq_ok_iff.1 done
  obtain ⟨_, doneLater, rfl⟩ := bind_pure_eq_ok_iff.1 done
  obtain ⟨own, ownDone, doneLater⟩ := bind_eq_ok_iff.1 doneLater
  obtain ⟨right, rightDone, rfl⟩ := bind_pure_eq_ok_iff.1 doneLater
  exact ⟨left, own, right, leftDone, ownDone, rightDone, rfl⟩

/-- Of lists that differ in one item at most and are written alike, the items are written alike. -/
theorem exists_item_text {α ε : Type} {write : α → Except ε String} {before after : List α}
    {first second : α} {text : String}
    (joined : (do return String.join (← (before ++ first :: after).mapM write)) = .ok text)
    (joinedOther : (do return String.join (← (before ++ second :: after).mapM write)) = .ok text) :
    ∃ own, write first = .ok own ∧ write second = .ok own := by
  obtain ⟨texts, written, rfl⟩ := bind_pure_eq_ok_iff.1 joined
  obtain ⟨textsOther, writtenOther, same⟩ := bind_pure_eq_ok_iff.1 joinedOther
  obtain ⟨left, own, right, leftWritten, ownWritten, rightWritten, rfl⟩ :=
    exists_of_mapM_split written
  obtain ⟨left', other, right', leftWritten', otherWritten, rightWritten', rfl⟩ :=
    exists_of_mapM_split writtenOther
  obtain rfl := Except.ok.inj (leftWritten.symm.trans leftWritten')
  obtain rfl := Except.ok.inj (rightWritten.symm.trans rightWritten')
  obtain rfl : other = own := by
    simpa [String.append_right_inj, String.append_left_inj] using same
  exact ⟨other, ownWritten, otherWritten⟩

namespace Css

inductive Slot where
  | page (tag : String) (before after : List (Condition Native))
  | relative (tag : String) (before after : List (Condition Native))
  | step (chain : Chain) (combinator : Combinator) (tag : String)
      (before after : List (Condition Native))
  | earlier (slot : Slot) (combinator : Combinator) (tag : String)
      (conditions : List (Condition Native))

namespace Slot

def fill (condition : Condition Native) : Slot → Chain
  | page tag before after => .page tag (before ++ condition :: after)
  | relative tag before after => .relative tag (before ++ condition :: after)
  | step chain combinator tag before after =>
      .step chain combinator tag (before ++ condition :: after)
  | earlier slot combinator tag conditions =>
      .step (slot.fill condition) combinator tag conditions

variable {first second : Condition Native} {slot : Slot} {text : String}

theorem render_fill_ne_empty {condition : Condition Native}
    (rendered : (slot.fill condition).render = .ok text) : text ≠ "" := by
  cases slot with
  | page | relative => exact (Chain.render_page_eq_ok_iff.1 rendered).writes.2
  | step | earlier =>
      obtain ⟨start, -, fragment, compound, rfl⟩ := Chain.render_step_eq_ok_iff.1 rendered
      simp [compound.writes.2]

theorem exists_condition_text_of_compound {tag : String} {before after : List (Condition Native)}
    (compound : Compound tag (before ++ first :: after) text)
    (compoundOther : Compound tag (before ++ second :: after) text) :
    ∃ own, renderCondition first = .ok own ∧ renderCondition second = .ok own := by
  obtain ⟨-, written, rendered, rfl⟩ := compound
  obtain ⟨-, other, renderedOther, same⟩ := compoundOther
  obtain rfl := (String.append_right_inj _).1 same
  rw [renderConditions_eq] at rendered renderedOther
  exact exists_item_text rendered renderedOther

theorem exists_condition_text (rendered : (slot.fill first).render = .ok text)
    (renderedOther : (slot.fill second).render = .ok text) :
    ∃ own, renderCondition first = .ok own ∧ renderCondition second = .ok own := by
  induction slot generalizing text with
  | page tag before after | relative tag before after =>
      exact exists_condition_text_of_compound (Chain.render_page_eq_ok_iff.1 rendered)
        (Chain.render_page_eq_ok_iff.1 renderedOther)
  | step chain combinator tag before after =>
      obtain ⟨start, started, fragment, compound, rfl⟩ := Chain.render_step_eq_ok_iff.1 rendered
      obtain ⟨start', started', fragment', compoundOther, same⟩ :=
        Chain.render_step_eq_ok_iff.1 renderedOther
      obtain rfl := Except.ok.inj (started.symm.trans started')
      obtain rfl := (String.append_right_inj _).1 same
      exact exists_condition_text_of_compound compound compoundOther
  | earlier slot combinator tag conditions ih =>
      obtain ⟨start, started, fragment, compound, rfl⟩ := Chain.render_step_eq_ok_iff.1 rendered
      obtain ⟨other, startedOther, fragment', compound', same⟩ :=
        Chain.render_step_eq_ok_iff.1 renderedOther
      obtain rfl := Except.ok.inj (compound.writes.1.symm.trans compound'.writes.1)
      -- A chain with a condition is not empty, so the combinator is written either way.
      rw [if_neg (render_fill_ne_empty started), if_neg (render_fill_ne_empty startedOther),
        String.append_left_inj, String.append_left_inj] at same
      subst same
      exact ih started startedOther

end Slot

end Css

namespace XPath

theorem predicate_inj {negated : Bool} {test other : String} :
    predicate negated test = predicate negated other ↔ test = other := by
  cases negated with
  | false | true => simp [predicate, String.append_left_inj, String.append_right_inj]

theorem render_of_boundaryTest {boundary : Chain} {test : String}
    (tested : boundaryTest boundary = .ok test) :
    ∃ rest, boundary.render = .ok ("/descendant::" ++ rest) ∧ test = "following::" ++ rest := by
  obtain ⟨text, rendered, -⟩ := bind_eq_ok_iff.1 tested
  by_cases absolute : boundary.isAbsolute = true
  · obtain ⟨rest, rfl, follows⟩ := boundaryTest_of_isAbsolute absolute rendered
    exact ⟨rest, rendered, Except.ok.inj (tested.symm.trans follows)⟩
  · have refused := boundaryTest_of_relative (by simpa using absolute) rendered
    rw [tested] at refused
    cases refused

/-- Boundaries with one test have one text, as nothing but the root axis is replaced in it. -/
theorem exists_boundary_text {first second : Chain} {test : String}
    (tested : boundaryTest first = .ok test) (testedOther : boundaryTest second = .ok test) :
    ∃ text, first.render = .ok text ∧ second.render = .ok text := by
  obtain ⟨rest, rendered, rfl⟩ := render_of_boundaryTest tested
  obtain ⟨other, renderedOther, same⟩ := render_of_boundaryTest testedOther
  obtain rfl := (String.append_right_inj _).1 same
  exact ⟨_, rendered, renderedOther⟩

inductive Slot where
  | step (origin : Origin) (tag : String) (before after : List (Condition (Native Chain)))
  | within (origin : Origin) (tag : String) (before : List (Condition (Native Chain)))
      (boundary : Slot) (negated : Bool) (after : List (Condition (Native Chain)))
  | earlier (slot : Slot) (last : Step Chain)
  | limited (slot : Slot) (boundary : Chain)
  | limit (before : Chain) (boundary : Slot)

namespace Slot

def fill (condition : Condition (Native Chain)) : Slot → Chain
  | step origin tag before after => origin.step tag (before ++ condition :: after)
  | within origin tag before boundary negated after =>
      origin.step tag
        (before ++ ⟨.native (.boundary (boundary.fill condition)), negated⟩ :: after)
  | earlier slot last => .step (slot.fill condition) last
  | limited slot boundary => .limitedBy (slot.fill condition) boundary
  | limit before boundary => .limitedBy before (boundary.fill condition)

variable {first second : Condition (Native Chain)} {slot : Slot} {text : String}

theorem exists_condition_text_of_step {origin : Origin} {tag : String}
    {before after : List (Condition (Native Chain))}
    (rendered : (origin.step tag (before ++ first :: after)).render = .ok text)
    (renderedOther : (origin.step tag (before ++ second :: after)).render = .ok text) :
    ∃ own, renderCondition first = .ok own ∧ renderCondition second = .ok own := by
  rw [Origin.render_step] at rendered renderedOther
  obtain ⟨start, started, rendered⟩ := bind_eq_ok_iff.1 rendered
  obtain ⟨start', started', renderedOther⟩ := bind_eq_ok_iff.1 renderedOther
  obtain rfl := Except.ok.inj (started.symm.trans started')
  obtain ⟨-, rendered⟩ := guard_eq_ok_iff.1 rendered
  obtain ⟨-, renderedOther⟩ := guard_eq_ok_iff.1 renderedOther
  obtain ⟨written, conditions, rfl⟩ := bind_pure_eq_ok_iff.1 rendered
  obtain ⟨other, conditionsOther, same⟩ := bind_pure_eq_ok_iff.1 renderedOther
  obtain rfl := (String.append_right_inj _).1 same
  rw [renderConditions_eq] at conditions conditionsOther
  exact exists_item_text conditions conditionsOther

theorem exists_condition_text (rendered : (slot.fill first).render = .ok text)
    (renderedOther : (slot.fill second).render = .ok text) :
    ∃ own, renderCondition first = .ok own ∧ renderCondition second = .ok own := by
  induction slot generalizing text with
  | step origin tag before after => exact exists_condition_text_of_step rendered renderedOther
  | within origin tag before boundary negated after ih =>
      obtain ⟨own, ownRendered, ownRenderedOther⟩ :=
        exists_condition_text_of_step rendered renderedOther
      rw [renderCondition_boundary] at ownRendered ownRenderedOther
      obtain ⟨test, tested, rfl⟩ := bind_pure_eq_ok_iff.1 ownRendered
      obtain ⟨other, testedOther, same⟩ := bind_pure_eq_ok_iff.1 ownRenderedOther
      obtain rfl := predicate_inj.1 same
      obtain ⟨inner, renderedInner, renderedInnerOther⟩ := exists_boundary_text tested testedOther
      exact ih renderedInner renderedInnerOther
  | earlier slot last ih =>
      obtain ⟨start, started, written, renderedLast, rfl⟩ :=
        Chain.render_step_eq_ok_iff.1 rendered
      obtain ⟨other, startedOther, written', renderedLast', same⟩ :=
        Chain.render_step_eq_ok_iff.1 renderedOther
      obtain rfl := Except.ok.inj (renderedLast.symm.trans renderedLast')
      obtain rfl := (String.append_left_inj _).1 same
      exact ih started startedOther
  | limited slot boundary ih =>
      obtain ⟨start, started, test, tested, rfl⟩ := Chain.render_limitedBy_eq_ok_iff.1 rendered
      obtain ⟨other, startedOther, test', tested', same⟩ :=
        Chain.render_limitedBy_eq_ok_iff.1 renderedOther
      obtain rfl := Except.ok.inj (tested.symm.trans tested')
      obtain rfl := (String.append_left_inj _).1 same
      exact ih started startedOther
  | limit before boundary ih =>
      obtain ⟨start, started, test, tested, rfl⟩ := Chain.render_limitedBy_eq_ok_iff.1 rendered
      obtain ⟨start', started', other, testedOther, same⟩ :=
        Chain.render_limitedBy_eq_ok_iff.1 renderedOther
      obtain rfl := Except.ok.inj (started.symm.trans started')
      obtain rfl := predicate_inj.1 ((String.append_right_inj _).1 same)
      obtain ⟨inner, renderedInner, renderedInnerOther⟩ := exists_boundary_text tested testedOther
      exact ih renderedInner renderedInnerOther

end Slot

end XPath

namespace Selector

inductive Slot where
  | css (slot : Css.Slot)
  | xpath (slot : XPath.Slot)

namespace Slot

def grammar : Slot → Grammar
  | css _ => .css
  | xpath _ => .xpath

/-- A leaf can only be put into a selector of a grammar that has its kind. -/
def fill (leaf : Leaf) : Slot → Except Fault Selector
  | css slot => do return .css (slot.fill (← leaf.toCss))
  | xpath slot => do return .xpath (slot.fill (← leaf.toXPath))

theorem exists_leaf_text {slot : Slot} {first second : Leaf} {left right : Selector} {text : String}
    (filled : slot.fill first = .ok left) (filledOther : slot.fill second = .ok right)
    (rendered : left.render = .ok text) (renderedOther : right.render = .ok text) :
    ∃ own, first.render slot.grammar = .ok own ∧ second.render slot.grammar = .ok own := by
  cases slot with
  | css slot =>
      obtain ⟨condition, converted, rfl⟩ := bind_pure_eq_ok_iff.1 filled
      obtain ⟨other, convertedOther, rfl⟩ := bind_pure_eq_ok_iff.1 filledOther
      obtain ⟨own, ownRendered, ownRenderedOther⟩ :=
        Css.Slot.exists_condition_text rendered renderedOther
      rw [grammar, Leaf.render_css, Leaf.render_css]
      exact ⟨own, bind_eq_ok_iff.2 ⟨condition, converted, ownRendered⟩,
        bind_eq_ok_iff.2 ⟨other, convertedOther, ownRenderedOther⟩⟩
  | xpath slot =>
      obtain ⟨condition, converted, rfl⟩ := bind_pure_eq_ok_iff.1 filled
      obtain ⟨other, convertedOther, rfl⟩ := bind_pure_eq_ok_iff.1 filledOther
      obtain ⟨own, ownRendered, ownRenderedOther⟩ :=
        XPath.Slot.exists_condition_text rendered renderedOther
      rw [grammar, Leaf.render_xpath, Leaf.render_xpath]
      exact ⟨own, bind_eq_ok_iff.2 ⟨condition, converted, ownRendered⟩,
        bind_eq_ok_iff.2 ⟨other, convertedOther, ownRenderedOther⟩⟩

end Slot

end Selector

end PageSelectors
