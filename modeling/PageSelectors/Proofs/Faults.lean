import PageSelectors.Leaf
import PageSelectors.Selector
import PageSelectors.Proofs.FaultOrder

/-!
What can go wrong in a selector. A leaf becomes a condition of a grammar exactly if its kind exists
there, so no chain holds a condition of the other grammar. What is left to go wrong are tags, names,
indices and boundaries that are not valid.
-/

namespace PageSelectors

open Text (trim)

namespace Outcome

variable {ε α β : Type}

def FailsOnly (faults : ε → Prop) (outcome : Except ε α) : Prop :=
  ∀ fault, outcome = .error fault → faults fault

namespace FailsOnly

variable {faults : ε → Prop}

theorem value (result : α) : FailsOnly faults (.ok result : Except ε α) := by
  intro fault failed
  cases failed

theorem fault {reason : ε} (given : faults reason) :
    FailsOnly faults (.error reason : Except ε α) := by
  intro fault failed
  cases failed
  exact given

theorem bind {outcome : Except ε α} {next : α → Except ε β} (first : FailsOnly faults outcome)
    (rest : ∀ result, FailsOnly faults (next result)) : FailsOnly faults (outcome >>= next) := by
  cases outcome with
  | error reason => exact fault (first reason rfl)
  | ok result => exact rest result

theorem make {outcome : Except ε α} {result : α → β} (first : FailsOnly faults outcome) :
    FailsOnly faults (do return result (← outcome)) :=
  first.bind fun _ => value _

end FailsOnly

end Outcome

open Outcome

def Fault.OfChain : Fault → Prop
  | .unconstrained _ | .emptyTag _ | .whitespace _ _ | .relativeBoundary _ | .invalid _ => True
  | _ => False

theorem Fault.OfChain.isValidation {fault : Fault} (ofChain : fault.OfChain) :
    fault.isValidation = true := by
  cases fault with
  | unconstrained | emptyTag | whitespace | relativeBoundary | invalid => rfl
  | _ => exact ofChain.elim

theorem failsOnly_checkName (what name : String) :
    FailsOnly Fault.OfChain (checkName what name) := by
  unfold checkName
  dsimp only
  split
  · exact .fault trivial
  · split
    · exact .fault trivial
    · exact .value _

theorem failsOnly_checkTag (grammar : Grammar) (tag : String) (constrained : Bool) :
    FailsOnly Fault.OfChain (checkTag grammar tag constrained) := by
  unfold checkTag
  split
  · exact .fault trivial
  · split
    · exact .fault trivial
    · split
      · exact .fault trivial
      · exact .value ()

theorem failsOnly_ordinal (index : Nat) : FailsOnly Fault.OfChain (ordinal index) := by
  unfold ordinal
  split
  · exact .value _
  · exact .fault trivial

/-- Whatever is checked, what can fail is that the chain is not valid. -/
theorem Check.ofChain {check : Check} {fault : Fault} (failed : check.fault? = some fault) :
    fault.OfChain := by
  cases check with
  | tag grammar name constrained =>
      exact failsOnly_checkTag grammar (trim name) constrained fault (fault?_eq_some_iff.1 failed)
  | named what name => exact failsOnly_checkName what name fault (fault?_eq_some_iff.1 failed)
  | inRange index => exact failsOnly_ordinal index fault (fault?_eq_some_iff.1 failed)
  | someClass names =>
      obtain ⟨-, ⟨⟩⟩ := Option.ite_none_right_eq_some.1 failed
      trivial
  | rooted boundary =>
      obtain ⟨-, failed⟩ := Option.ite_none_left_eq_some.1 failed
      obtain ⟨text, -, rfl⟩ := Option.map_eq_some_iff.1 failed
      trivial

theorem Reports.failsOnly {α : Type} {checks : List Check} {outcome : Except Fault α}
    (reports : Reports checks outcome) : FailsOnly Fault.OfChain outcome := by
  intro fault failed
  obtain ⟨check, -, failed⟩ := List.exists_of_findSome?_eq_some ((reports.eq_error_iff fault).1 failed)
  exact Check.ofChain failed

theorem Selector.failsOnly_render (selector : Selector) :
    FailsOnly Fault.OfChain selector.render := by
  cases selector with
  | css chain => exact chain.reports_render.failsOnly
  | xpath chain => exact (XPath.reports_render.1 chain).failsOnly

namespace Leaf

def Converts (leaf : Leaf) : Grammar → Prop
  | .css => ∃ condition, leaf.toCss = .ok condition
  | .xpath => ∃ condition, leaf.toXPath = .ok condition

theorem converts_iff (leaf : Leaf) (grammar : Grammar) :
    leaf.Converts grammar ↔ leaf.kind.supports grammar = true := by
  obtain ⟨kind, negated⟩ := leaf
  cases grammar with
  | css =>
      cases kind with
      | shared | css => exact ⟨fun _ => rfl, fun _ => ⟨_, rfl⟩⟩
      | xpath native => simp [Converts, toCss, LeafKind.supports]
  | xpath =>
      cases kind with
      | shared | xpath => exact ⟨fun _ => rfl, fun _ => ⟨_, rfl⟩⟩
      | css native => simp [Converts, toXPath, LeafKind.supports]

theorem render_of_not_supports {leaf : Leaf} {grammar : Grammar}
    (unsupported : ¬leaf.kind.supports grammar = true) :
    leaf.render grammar = .error (.grammarMismatch leaf.kind.describe grammar) := by
  obtain ⟨kind, negated⟩ := leaf
  cases grammar with
  | css =>
      cases kind with
      | shared | css => exact (unsupported rfl).elim
      | xpath native => rfl
  | xpath =>
      cases kind with
      | shared | xpath => exact (unsupported rfl).elim
      | css native => rfl

theorem failsOnly_render {leaf : Leaf} {grammar : Grammar} (converts : leaf.Converts grammar) :
    FailsOnly Fault.OfChain (leaf.render grammar) := by
  cases grammar with
  | css =>
      obtain ⟨condition, converted⟩ := converts
      rw [render_css, converted]
      exact (Css.reports_renderCondition condition).failsOnly
  | xpath =>
      obtain ⟨condition, converted⟩ := converts
      rw [render_xpath, converted]
      exact (XPath.reports_render.2.2.2 condition).failsOnly

theorem render_ne_mismatch_iff (leaf : Leaf) (grammar : Grammar) :
    (∀ what other, leaf.render grammar ≠ .error (.grammarMismatch what other)) ↔
      leaf.kind.supports grammar = true := by
  constructor
  · intro renders
    by_contra unsupported
    exact renders _ _ (render_of_not_supports unsupported)
  · intro supported what other failed
    exact failsOnly_render ((converts_iff leaf grammar).2 supported) _ failed

end Leaf

/-- The grammar of a condition is decided once. A leaf becomes a condition of a grammar exactly if
its kind is one of that grammar, and exactly then its text is not refused for the grammar's sake. A
selector has a text or a fault of its chain, and is built exactly for its own grammar. -/
theorem supports_decides :
    (∀ (leaf : Leaf) (grammar : Grammar),
      (leaf.Converts grammar ↔ leaf.kind.supports grammar = true) ∧
        (leaf.kind.supports grammar = true ↔
          ∀ what other, leaf.render grammar ≠ .error (.grammarMismatch what other))) ∧
      (∀ selector : Selector, (∃ text, selector.render = .ok text) ∨
        ∃ fault, selector.render = .error fault ∧ fault.OfChain ∧ fault.isValidation = true) ∧
      ∀ (selector : Selector) (grammar : Grammar),
        (∃ what other, selector.build grammar = .error (.grammarMismatch what other)) ↔
          grammar ≠ selector.grammar := by
  refine ⟨?leaves, ?selectors, ?builds⟩
  case leaves =>
    intro leaf grammar
    exact ⟨leaf.converts_iff grammar, (leaf.render_ne_mismatch_iff grammar).symm⟩
  case selectors =>
    intro selector
    cases rendered : selector.render with
    | ok text => exact .inl ⟨text, rfl⟩
    | error fault =>
        have ofChain := selector.failsOnly_render fault rendered
        exact .inr ⟨fault, rfl, ofChain, ofChain.isValidation⟩
  case builds =>
    intro selector grammar
    unfold Selector.build
    split
    · next same =>
      refine ⟨?_, fun different => absurd same different⟩
      rintro ⟨what, other, failed⟩
      exact (selector.failsOnly_render _ failed).elim
    · next different => exact ⟨fun _ => different, fun _ => ⟨_, _, rfl⟩⟩

end PageSelectors
