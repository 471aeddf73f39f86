import PageSelectors.Proofs.XPath.Rendering

/-!
The links of an XPath chain: its raw text, its steps and its limits, each by itself. The text of a
chain is the texts of its links one after another, and no link but raw text can be empty.
-/

namespace PageSelectors.XPath

open Text (trim)
open Outcome

inductive Link where
  | raw (text : String)
  | step (relation : Relation) (tag : String) (conditions : List (Condition (Native Chain)))
  | limit (boundary : Chain)

def Step.link : Step Chain → Link
  | .element axis tag conditions => .step (.axis axis) tag conditions
  | .parent => .step .parent anyTag []

def Chain.links : Chain → List Link
  | raw text => [.raw text]
  | page tag conditions => [.step .page tag conditions]
  | relative first => [first.link]
  | step before last => before.links ++ [last.link]
  | limitedBy before boundary => before.links ++ [.limit boundary]

def fragment (tag : String) (conditions : List (Condition (Native Chain))) :
    Except Fault String := do
  return trim tag ++ (← renderConditions conditions)

/-- Whether a text is what a link adds to a chain: a step adds its axis and its fragment, which is
not empty, and a limit adds a predicate. -/
def Link.Writes : Link → String → Prop
  | raw text, written => written = text
  | step relation tag conditions, written =>
      ∃ own, fragment tag conditions = .ok own ∧ own ≠ "" ∧ written = relation.token ++ own
  | limit boundary, written =>
      ∃ test, boundaryTest boundary = .ok test ∧ written = "[" ++ test ++ "]"

theorem Element.writes {relation : Relation} {tag text : String}
    {conditions : List (Condition (Native Chain))}
    (element : Element relation.token tag conditions text) :
    (Link.step relation tag conditions).Writes text := by
  obtain ⟨good, others, rendered, rfl⟩ := element
  refine ⟨trim tag ++ others, bind_pure_eq_ok_iff.2 ⟨others, rendered, rfl⟩, ?_, ?_⟩
  · simp [good.present rfl]
  · rw [String.append_assoc]

theorem Step.link_writes {last : Step Chain} {text : String}
    (rendered : renderStep last = .ok text) : last.link.Writes text := by
  cases last with
  | element axis tag conditions =>
      have element : Element (Relation.axis axis).token tag conditions text :=
        renderStep_element_eq_ok_iff.1 rendered
      exact element.writes
  | parent =>
      have any : fragment anyTag [] = .ok anyTag := by
        rw [fragment, renderConditions]
        decide +kernel
      exact ⟨anyTag, any, by decide, renderStep_parent_eq_ok_iff.1 rendered⟩

theorem renderStep_ne_empty {last : Step Chain} {text : String}
    (rendered : renderStep last = .ok text) : text ≠ "" := by
  have writes := Step.link_writes rendered
  cases last with
  | element | parent =>
      obtain ⟨own, -, filled, rfl⟩ := writes
      simp [filled]

namespace Chain

theorem exists_linkTexts {chain : Chain} {text : String} (rendered : chain.render = .ok text) :
    ∃ texts, List.Forall₂ Link.Writes chain.links texts ∧ text = String.join texts := by
  induction chain using Chain.isAbsolute.induct generalizing text with
  | case1 raw =>
      rw [Chain.render] at rendered
      cases rendered
      exact ⟨[raw], .cons rfl .nil, by simp⟩
  | case2 tag conditions =>
      rw [render_page, renderStep_element_eq_ok_iff] at rendered
      have element : Element Relation.page.token tag conditions text := rendered
      exact ⟨[text], .cons element.writes .nil, by simp⟩
  | case3 first =>
      rw [Chain.render] at rendered
      exact ⟨[text], .cons (Step.link_writes rendered) .nil, by simp⟩
  | case4 before last ih =>
      obtain ⟨start, renderedStart, written, renderedLast, rfl⟩ :=
        render_step_eq_ok_iff.1 rendered
      obtain ⟨texts, writes, rfl⟩ := ih renderedStart
      exact ⟨texts ++ [written], List.rel_append writes (.cons (Step.link_writes renderedLast) .nil),
        by simp⟩
  | case5 before boundary ih =>
      obtain ⟨start, renderedStart, test, tested, rfl⟩ := render_limitedBy_eq_ok_iff.1 rendered
      obtain ⟨texts, writes, rfl⟩ := ih renderedStart
      have limits : (Link.limit boundary).Writes (predicate false test) := ⟨test, tested, rfl⟩
      exact ⟨texts ++ [predicate false test], List.rel_append writes (.cons limits .nil), by simp⟩

theorem exists_added {chain before : Chain} (previous : chain.before? = some before) {text : String}
    (rendered : chain.render = .ok text) :
    ∃ start added, before.render = .ok start ∧ added ≠ "" ∧ text = start ++ added := by
  cases chain with
  | raw | page | relative => simp [before?] at previous
  | step start last =>
      obtain rfl : start = before := Option.some.inj previous
      obtain ⟨startText, renderedStart, written, renderedLast, rfl⟩ :=
        render_step_eq_ok_iff.1 rendered
      exact ⟨startText, written, renderedStart, renderStep_ne_empty renderedLast, rfl⟩
  | limitedBy start boundary =>
      obtain rfl : start = before := Option.some.inj previous
      obtain ⟨startText, renderedStart, test, -, rfl⟩ := render_limitedBy_eq_ok_iff.1 rendered
      exact ⟨startText, predicate false test, renderedStart, by simp [predicate], rfl⟩

end Chain

end PageSelectors.XPath
