import PageSelectors.Proofs.Css.Steps
import PageSelectors.Proofs.XPath.Links
import PageSelectors.Selector

/-!
The text of a selector is made of the texts of its nodes. Each node adds to the chain before it and
changes nothing of what is written there, and whether the chain is absolute is settled at its root.
-/

namespace PageSelectors.Selector

theorem exists_added {selector before : Selector} (previous : selector.before? = some before)
    {text : String} (rendered : selector.render = .ok text) :
    ∃ start added, before.render = .ok start ∧ added ≠ "" ∧ text = start ++ added := by
  cases selector with
  | css chain =>
      obtain ⟨chainBefore, found, rfl⟩ := Option.map_eq_some_iff.1 previous
      exact Css.Chain.exists_added found rendered
  | xpath chain =>
      obtain ⟨chainBefore, found, rfl⟩ := Option.map_eq_some_iff.1 previous
      exact XPath.Chain.exists_added found rendered

theorem isAbsolute_before {selector before : Selector}
    (previous : selector.before? = some before) : selector.isAbsolute = before.isAbsolute := by
  cases selector with
  | css chain =>
      obtain ⟨chainBefore, found, rfl⟩ := Option.map_eq_some_iff.1 previous
      cases chain with
      | raw | page | relative => simp [Css.Chain.before?] at found
      | step start combinator tag conditions =>
          cases found
          rfl
  | xpath chain =>
      obtain ⟨chainBefore, found, rfl⟩ := Option.map_eq_some_iff.1 previous
      cases chain with
      | raw | page | relative => simp [XPath.Chain.before?] at found
      | step | limitedBy =>
          cases found
          rfl

/-- A chain that renders is written as its steps by themselves, one after another. The text of a
step is its trimmed tag with its conditions, and is never empty. In CSS each step has its combinator
before it; only behind raw text that is empty the first combinator is left out. In XPath each step
has its axis before it, and each limit is a predicate. So a chain goes on from the text of the chain
before it, adds something to it, and is absolute exactly if that one is. -/
theorem text_of_fragments :
    (∀ (chain : Css.Chain) (text : String), chain.render = .ok text →
      ∃ start joints, chain.root.Writes start ∧ (start = "" ↔ chain.root = .raw "") ∧
        List.Forall₂ Css.JoinWrites chain.joined joints ∧
        text = start ++ String.join (Css.piecesAfter start joints)) ∧
      (∀ (chain : XPath.Chain) (text : String), chain.render = .ok text →
        ∃ texts, List.Forall₂ XPath.Link.Writes chain.links texts ∧ text = String.join texts) ∧
      ∀ selector before : Selector, selector.before? = some before →
        selector.isAbsolute = before.isAbsolute ∧
          ∀ text, selector.render = .ok text →
            ∃ start added, before.render = .ok start ∧ added ≠ "" ∧ text = start ++ added := by
  refine ⟨?css, ?xpath, ?growth⟩
  case css =>
    intro chain text rendered
    obtain ⟨start, joints, starts, writes, written⟩ := chain.exists_fragments rendered
    exact ⟨start, joints, starts, starts.eq_empty_iff, writes, written⟩
  case xpath =>
    intro chain text rendered
    exact chain.exists_linkTexts rendered
  case growth =>
    intro selector before previous
    exact ⟨isAbsolute_before previous, fun text rendered => exists_added previous rendered⟩

def itemChain : Css.Chain :=
  ((Css.Chain.raw "").step .child " li " []).step .nextSibling "" [⟨.shared (.classes ["on"]), false⟩]

def cellChain : XPath.Chain :=
  .limitedBy
    (.step (.page "td" [⟨.native (.place (.atLeast 0)), true⟩]) .parent)
    (.page "tfoot" [])

theorem text_of_fragments_itemChain :
    (∃ start joints, itemChain.root.Writes start ∧ (start = "" ↔ itemChain.root = .raw "") ∧
        List.Forall₂ Css.JoinWrites itemChain.joined joints ∧
        "li + .on" = start ++ String.join (Css.piecesAfter start joints)) ∧
      (∃ texts, List.Forall₂ XPath.Link.Writes cellChain.links texts ∧
        "/descendant::td[not(position() >= 1)]/parent::*[following::tfoot]" =
          String.join texts) ∧
      ∃ start added, (xpath (.step (.page "td" [⟨.native (.place (.atLeast 0)), true⟩])
          .parent)).render = .ok start ∧ added ≠ "" ∧
        "/descendant::td[not(position() >= 1)]/parent::*[following::tfoot]" = start ++ added := by
  have item : itemChain.render = .ok "li + .on" := by decide +kernel
  have cell : cellChain.render =
      .ok "/descendant::td[not(position() >= 1)]/parent::*[following::tfoot]" := by
    decide +kernel
  exact ⟨text_of_fragments.1 itemChain _ item, text_of_fragments.2.1 cellChain _ cell,
    (text_of_fragments.2.2 (.xpath cellChain) _ rfl).2 _ cell⟩

end PageSelectors.Selector
