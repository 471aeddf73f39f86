import PageSelectors.Proofs.AttributeTest
import PageSelectors.Proofs.Css.Compound
import PageSelectors.Proofs.Words

/-!
What compound selectors match. Class and attribute selectors and their negations are decided by the
attributes of an element; selectors that ask for anything else have no verdict here.
-/

namespace PageSelectors.Css

open Text (trim)

section Matching

/-- Whether an attribute selector accepts a value. The empty operand is part of nothing, and a
word holds no white space. -/
def accepts (op : TextOp) (operand value : String) : Bool :=
  match op with
  | .is => value = operand
  | .contains => operand ≠ "" ∧ operand.toList <:+: value.toList
  | .startsWith => operand ≠ "" ∧ operand.toList <+: value.toList
  | .endsWith => operand ≠ "" ∧ operand.toList <:+ value.toList
  | .wholeWord => operand.toList ∈ Text.words isSpace value.toList

variable (attributes : Attributes)

def Simple.matches? : Simple → Option Bool
  | .universal => some true
  | .class name => some ((attributes "class").any (accepts .wholeWord name))
  | .attribute name none => some (attributes name).isSome
  | .attribute name (some (op, operand)) => some ((attributes name).any (accepts op operand))
  | .type _ | .pseudo _ _ => none

def Part.matches? : Part → Option Bool
  | .simple selector => selector.matches? attributes
  | .not selectors => do return !(← selectors.mapM (Simple.matches? attributes)).all id

def matches? (text : String) : Option Bool := do
  return (← (← compound? text).mapM (Part.matches? attributes)).all id

def meets (test : AttributeTest) : Bool :=
  match test.op with
  | .isPresent => (attributes test.name).isSome
  | .compare op => (attributes test.name).any (accepts op test.operand)

end Matching

section Identifiers

def IsIdentifier (name : String) : Prop :=
  '\\' ∉ name.toList ∧ (identifier? name).isSome

instance (name : String) : Decidable (IsIdentifier name) :=
  inferInstanceAs (Decidable (_ ∧ _))

theorem symbols_of_unescaped {text : List Char} (unescaped : '\\' ∉ text) :
    symbols text = text.map .plain := by
  simpa using symbols_append_of_unescaped unescaped []

theorem IsIdentifier.identifier?_eq {name : String} (identifies : IsIdentifier name) :
    identifier? name = some name := by
  obtain ⟨unescaped, isSome⟩ := identifies
  obtain ⟨value, found⟩ := Option.isSome_iff_exists.1 isSome
  obtain ⟨-, -, same⟩ := identifier?_eq_some_iff.1 found
  have chars : (name.toList.map Symbol.plain).map Symbol.char = name.toList := by
    rw [List.map_map]
    exact List.map_id _
  rw [found, same, symbols_of_unescaped unescaped, chars, String.ofList_toList]

theorem IsIdentifier.isNameChar {name : String} (identifies : IsIdentifier name) :
    ∀ c ∈ name.toList, isNameChar c := by
  intro c member
  obtain ⟨-, all, -⟩ := identifier?_eq_some_iff.1 identifies.identifier?_eq
  rw [symbols_of_unescaped identifies.1] at all
  exact all _ (List.mem_map_of_mem member)

theorem IsIdentifier.ne_empty {name : String} (identifies : IsIdentifier name) : name ≠ "" := by
  rintro rfl
  exact absurd identifies (by decide)

theorem not_isSpace_of_isNameChar {c : Char} (inner : isNameChar c = true) :
    isSpace c = false := by
  rw [Bool.eq_false_iff]
  intro space
  simp only [isSpace, isLineEnd, Bool.or_eq_true, beq_iff_eq] at space
  rcases space with (rfl | rfl) | (rfl | rfl) | rfl <;> exact absurd inner (by decide)

theorem IsIdentifier.isWord {name : String} (identifies : IsIdentifier name) :
    Text.IsWord isSpace name.toList :=
  ⟨fun empty => identifies.ne_empty (String.toList_eq_nil_iff.1 empty),
    fun c member => not_isSpace_of_isNameChar (identifies.isNameChar c member)⟩

theorem IsIdentifier.isClean {name : String} (identifies : IsIdentifier name) : IsClean name := by
  intro c member
  have solid := identifies.isWord.2 c member
  rw [isSpace, Bool.or_eq_false_iff] at solid
  refine ⟨solid.2, ?_⟩
  rintro rfl
  exact absurd (identifies.isNameChar _ member) (by decide)

def Identified : SharedCriterion → Prop
  | .attribute name _ _ => IsIdentifier (trim name)
  | .classes names => ∀ name ∈ names, IsIdentifier (trim name)

instance (criterion : SharedCriterion) : Decidable (Identified criterion) :=
  match criterion with
  | .attribute name _ _ => inferInstanceAs (Decidable (IsIdentifier (trim name)))
  | .classes names => inferInstanceAs (Decidable (∀ name ∈ names, IsIdentifier (trim name)))

end Identifiers

def sharedSelectors : SharedCriterion → List Simple
  | .attribute name op operand => [.attribute (trim name) (testOf op operand)]
  | .classes names => names.map fun name => .class (trim name)

theorem criterionSelectors?_shared {criterion : SharedCriterion}
    (identified : Identified criterion) :
    criterionSelectors? (.shared criterion) = some (sharedSelectors criterion) := by
  cases criterion with
  | «attribute» name op operand =>
      rw [criterionSelectors?, IsIdentifier.identifier?_eq identified]
      rfl
  | classes names =>
      have all : names.mapM (fun name => identifier? (trim name)) = some (names.map trim) := by
        induction names with
        | nil => rfl
        | cons name names ih =>
            obtain ⟨first, others⟩ := List.forall_mem_cons.1 identified
            exact mapM_cons_eq_some_iff.2 ⟨_, first.identifier?_eq, _, ih others, rfl⟩
      rw [criterionSelectors?, all, Option.map_some, List.map_map]
      rfl

theorem mapM_matches?_sharedSelectors (attributes : Attributes) (criterion : SharedCriterion) :
    (sharedSelectors criterion).mapM (Simple.matches? attributes) =
      some (criterion.tests.map (meets attributes)) := by
  cases criterion with
  | «attribute» name op operand => cases op <;> rfl
  | classes names =>
      rw [sharedSelectors, SharedCriterion.tests, List.mapM_map, List.map_map]
      exact List.mapM_pure

/-- What a shared condition renders to matches the elements that meet all of its tests, and if it is
negated the other elements. -/
theorem matches?_of_renderCondition {criterion : SharedCriterion} {negated : Bool} {text : String}
    (rendered : renderCondition ⟨.shared criterion, negated⟩ = .ok text)
    (identified : Identified criterion) (clean : Clean (.shared criterion))
    (attributes : Attributes) :
    matches? attributes text = some (negated ^^ criterion.tests.all (meets attributes)) := by
  obtain ⟨named, rfl⟩ := (renderCondition_eq_ok_iff _).1 rendered
  have selects := criterionSelectors?_shared identified
  have stand : conditionParts? ⟨.shared criterion, negated⟩ = some
      (if negated then [.not (sharedSelectors criterion)]
        else (sharedSelectors criterion).map .simple) := by
    rw [conditionParts?, selects]
    rfl
  have headless : Leads "".toList none := .nothing
  have read := compound?_of_spells headless (spells_condition named stand clean id)
    (by simpa using conditionParts?_ne_nil named stand)
  have verdicts := mapM_matches?_sharedSelectors attributes criterion
  rw [String.empty_append] at read
  rw [matches?, read]
  cases negated with
  | false =>
      have simple : ((sharedSelectors criterion).map Part.simple).mapM (Part.matches? attributes) =
          some (criterion.tests.map (meets attributes)) := by
        rw [List.mapM_map]
        exact verdicts
      simp [simple, List.all_map]
  | true => simp [Part.matches?, verdicts, List.all_map]

example : matches? (fun _ => some "wide  open") ":not(.open.shut)" = some true := by decide

end PageSelectors.Css
