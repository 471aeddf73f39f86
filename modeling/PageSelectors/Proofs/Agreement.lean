import PageSelectors.Leaf
import PageSelectors.Proofs.Css.Semantics
import PageSelectors.Proofs.XPath.Attributes

/-!
Where the two grammars agree on a shared condition. They differ on empty operands, on operands of
several words, and on negated lists of different classes, and on nothing else.
-/

namespace PageSelectors

open Text (trim)

def Attributes.Clean (attributes : Attributes) : Prop :=
  ∀ name, ∀ value ∈ attributes name, Css.IsClean value

def IsPhrase (operand : String) : Prop :=
  ∃ words : List (List Char), 2 ≤ words.length ∧
    (∀ word ∈ words, word ≠ [] ∧ ' ' ∉ word ∧ '\t' ∉ word) ∧
      operand.toList = [' '].intercalate words

def TextOp.Agrees : TextOp → String → Prop
  | .is, _ => True
  | .contains, operand | .startsWith, operand | .endsWith, operand => operand ≠ ""
  | .wholeWord, operand => operand ≠ "" ∧ ¬ IsPhrase operand

def AttributeOp.Agrees : AttributeOp → String → Prop
  | .isPresent, _ => True
  | .compare op, operand => op.Agrees operand

/-- Whether the grammars agree on a shared criterion, or on its negation. -/
def SharedCriterion.Agrees : SharedCriterion → Bool → Prop
  | .attribute _ op operand, _ => op.Agrees operand
  | .classes names, negated =>
      negated = true → ∀ first ∈ names, ∀ second ∈ names, trim first = trim second

section Comparisons

variable {operand : String}

def SameValues (op : TextOp) (operand : String) : Prop :=
  ∀ value? : Option String, (∀ value ∈ value?, Css.IsClean value) →
    value?.any (Css.accepts op operand) = XPath.accepts op operand value?

theorem sameValues_is : SameValues .is operand := by
  intro value? _
  cases value? <;> simp [Css.accepts, XPath.accepts]

theorem IsPhrase.space_mem (isPhrase : IsPhrase operand) : ' ' ∈ operand.toList := by
  obtain ⟨words, many, -, written⟩ := isPhrase
  match words, many with
  | first :: second :: others, _ => simp [written, List.intercalate_cons_cons]

/-- Comparisons that ask for the operand in a part of the value. All of them find the empty operand
in the text that stands for a missing attribute, and no other operand. -/
theorem sameValues_part_iff {op : TextOp} {within : List Char → List Char → Prop}
    [∀ part whole, Decidable (within part whole)]
    (css : ∀ value, Css.accepts op operand value =
      decide (operand ≠ "" ∧ within operand.toList value.toList))
    (xpath : ∀ value?, XPath.accepts op operand value? =
      decide (within operand.toList (value?.getD "").toList))
    (empty : within [] []) (onlyEmpty : ∀ part, within part [] → part = []) :
    SameValues op operand ↔ operand ≠ "" := by
  constructor
  · rintro same rfl
    have missing := same none (by simp)
    rw [xpath] at missing
    simp [empty] at missing
  · intro filled value? _
    cases value? with
    | none =>
        have outside : ¬ within operand.toList [] := by
          intro inside
          exact filled (String.toList_eq_nil_iff.1 (onlyEmpty _ inside))
        rw [xpath]
        simp [outside]
    | some value =>
        rw [xpath, Option.any_some, css]
        simp [filled]

theorem isBlank_iff_of_isLineEnd {c : Char} (sameLine : Css.isLineEnd c = false) :
    XPath.isBlank c = true ↔ c = ' ' ∨ c = '\t' := by
  simp only [Css.isLineEnd, Bool.or_eq_false_iff, beq_eq_false_iff_ne] at sameLine
  simp [XPath.isBlank, sameLine]

theorem isSpace_eq_isBlank {c : Char} (sameLine : Css.isLineEnd c = false) :
    Css.isSpace c = XPath.isBlank c := by
  rw [Bool.eq_iff_iff, isBlank_iff_of_isLineEnd sameLine]
  simp [Css.isSpace, sameLine]

theorem words_isSpace {text : String} (clean : Css.IsClean text) :
    Text.words Css.isSpace text.toList = Text.words XPath.isBlank text.toList :=
  Text.words_congr fun c member => isSpace_eq_isBlank (clean c member).1

/-- As a whole word, an operand is found exactly if it is put together of words of the text that
follow each other, or if there is nothing in both of them. -/
theorem accepts_wholeWord_iff {value? : Option String} :
    XPath.accepts .wholeWord operand value? = true ↔
      (operand = "" ∧ Text.words XPath.isBlank (value?.getD "").toList = []) ∨
        ∃ run, run ≠ [] ∧ run <:+: Text.words XPath.isBlank (value?.getD "").toList ∧
          operand.toList = [' '].intercalate run := by
  simp only [XPath.accepts, decide_eq_true_eq]
  cases listed : Text.words XPath.isBlank (value?.getD "").toList with
  | nil =>
      constructor
      · intro inside
        have short := inside.length_le
        have none : operand.toList = [] := by
          simp only [List.length_append, List.length_cons, List.length_nil,
            List.intercalate_nil] at short
          exact List.length_eq_zero_iff.1 (by omega)
        exact .inl ⟨String.toList_eq_nil_iff.1 none, rfl⟩
      · rintro (⟨rfl, -⟩ | ⟨run, nonempty, within, -⟩)
        · exact List.infix_rfl
        · exact (nonempty (List.infix_nil.1 within)).elim
  | cons first others =>
      have solid : ∀ word ∈ first :: others, ' ' ∉ word := fun word member =>
        (Text.isWord_of_mem_words (listed ▸ member)).not_mem rfl
      rw [← Text.padded_eq_intercalate (List.cons_ne_nil first others),
        Text.infix_padded_iff solid]
      simp

theorem accepts_wholeWord_iff_mem (filled : operand ≠ "") (single : ¬ IsPhrase operand)
    (value? : Option String) :
    XPath.accepts .wholeWord operand value? = true ↔
      operand.toList ∈ Text.words XPath.isBlank (value?.getD "").toList := by
  rw [accepts_wholeWord_iff]
  constructor
  · rintro (⟨empty, -⟩ | ⟨run, nonempty, within, written⟩)
    · exact (filled empty).elim
    · cases run with
      | nil => exact (nonempty rfl).elim
      | cons word run =>
          cases run with
          | nil =>
              rw [List.intercalate_singleton] at written
              exact written ▸ within.subset List.mem_cons_self
          | cons next run =>
              refine (single ⟨word :: next :: run, by simp, fun part member => ?_, written⟩).elim
              have isWord := Text.isWord_of_mem_words (within.subset member)
              exact ⟨isWord.1, isWord.not_mem rfl, isWord.not_mem rfl⟩
  · intro member
    refine .inr ⟨[operand.toList], by simp, ?_, List.intercalate_singleton.symm⟩
    obtain ⟨before, after, listed⟩ := List.append_of_mem member
    exact ⟨before, after, by simp [listed]⟩

theorem sameValues_wholeWord_iff (clean : Css.IsClean operand) :
    SameValues .wholeWord operand ↔ operand ≠ "" ∧ ¬ IsPhrase operand := by
  constructor
  · intro same
    constructor
    · rintro rfl
      have missing := same none (by simp)
      rw [Option.any_none] at missing
      have found : XPath.accepts .wholeWord "" none = true :=
        accepts_wholeWord_iff.2 (.inl ⟨rfl, Text.words_nil⟩)
      rw [found] at missing
      simp at missing
    · intro isPhrase
      have spaced := isPhrase.space_mem
      obtain ⟨words, many, solid, written⟩ := isPhrase
      have isWord : ∀ word ∈ words, Text.IsWord XPath.isBlank word := by
        intro word member
        obtain ⟨nonempty, noSpace, noTab⟩ := solid word member
        refine ⟨nonempty, fun c inside => ?_⟩
        have sameLine := (clean c (written ▸ Text.subset_intercalate member inside)).1
        rw [Bool.eq_false_iff, ne_eq, isBlank_iff_of_isLineEnd sameLine]
        rintro (rfl | rfl)
        · exact noSpace inside
        · exact noTab inside
      have listed : Text.words XPath.isBlank operand.toList = words := by
        rw [written, Text.words_intercalate rfl isWord]
      have nonempty : words ≠ [] := List.length_pos_iff.1 (by omega)
      have found : XPath.accepts .wholeWord operand (some operand) = true :=
        accepts_wholeWord_iff.2 (.inr ⟨words, nonempty, listed ▸ List.infix_rfl, written⟩)
      have agreed := same (some operand) (by simpa using clean)
      rw [found, Option.any_some, Css.accepts, decide_eq_true_eq, words_isSpace clean,
        listed] at agreed
      exact (solid _ agreed).2.1 spaced
  · rintro ⟨filled, single⟩ value? cleanValue
    rw [Bool.eq_iff_iff, accepts_wholeWord_iff_mem filled single]
    cases value? with
    | none =>
        simp [Text.words_nil]
    | some value =>
        simp [Css.accepts, words_isSpace (cleanValue value rfl)]

theorem sameValues_iff {op : TextOp} (clean : Css.IsClean operand) :
    SameValues op operand ↔ op.Agrees operand := by
  cases op with
  | is => exact iff_of_true sameValues_is trivial
  | contains =>
      exact sameValues_part_iff (fun _ => rfl) (fun _ => rfl) List.infix_rfl
        fun _ => List.infix_nil.1
  | startsWith =>
      exact sameValues_part_iff (fun _ => rfl) (fun _ => rfl) List.prefix_rfl
        fun _ => List.prefix_nil.1
  | endsWith =>
      exact sameValues_part_iff (fun _ => rfl) (fun _ => rfl) List.suffix_rfl
        fun _ => List.suffix_nil.1
  | wholeWord => exact sameValues_wholeWord_iff clean

end Comparisons

section Tests

def uniform (value? : Option String) : Attributes :=
  fun _ => value?

theorem clean_uniform {value? : Option String} (clean : ∀ value ∈ value?, Css.IsClean value) :
    (uniform value?).Clean :=
  fun _ => clean

theorem meets_eq_iff (name : String) {op : AttributeOp} {operand : String}
    (clean : Css.IsClean operand) :
    (∀ attributes : Attributes, attributes.Clean →
      Css.meets attributes ⟨name, op, operand⟩ = XPath.meets attributes ⟨name, op, operand⟩) ↔
        op.Agrees operand := by
  cases op with
  | isPresent => exact iff_of_true (fun _ _ => rfl) trivial
  | compare op =>
      refine Iff.trans ?_ (sameValues_iff clean)
      constructor
      · exact fun same value? cleanValue => same (uniform value?) (clean_uniform cleanValue)
      · exact fun same attributes cleanAll => same (attributes name) (cleanAll name)

variable {name : String}

theorem Css.IsIdentifier.not_isPhrase (identifies : Css.IsIdentifier name) : ¬ IsPhrase name :=
  fun isPhrase => identifies.isWord.not_mem rfl isPhrase.space_mem

theorem Css.IsIdentifier.isRun (identifies : Css.IsIdentifier name) : XPath.IsRun name := by
  refine ⟨identifies.ne_empty, fun c member => ?_⟩
  have inner := identifies.isNameChar c member
  simp only [Css.isNameChar, Bool.or_eq_true] at inner
  simp only [XPath.isNameChar, Bool.or_eq_true]
  tauto

theorem isRun_of_identified {criterion : SharedCriterion} (identified : Css.Identified criterion) :
    ∀ test ∈ criterion.tests, XPath.IsRun test.name := by
  cases criterion with
  | «attribute» name op operand =>
      intro test member
      rw [List.mem_singleton.1 member]
      exact Css.IsIdentifier.isRun identified
  | classes names =>
      intro test member
      obtain ⟨name, -, rfl⟩ := List.mem_map.1 member
      exact (by decide : XPath.IsRun "class")

end Tests

section Criteria

/-- Whether both grammars, given what they make of each test of a criterion, match the same elements
with the criterion or with its negation. -/
def SameElements (criterion : SharedCriterion) (negated : Bool) : Prop :=
  ∀ attributes : Attributes, attributes.Clean →
    (negated ^^ criterion.tests.all (Css.meets attributes)) =
      criterion.tests.all fun test => negated ^^ XPath.meets attributes test

theorem sameElements_attribute_iff {name operand : String} {op : AttributeOp} {negated : Bool}
    (clean : Css.IsClean operand) :
    SameElements (.attribute name op operand) negated ↔ op.Agrees operand := by
  rw [← meets_eq_iff (trim name) clean]
  refine forall_congr' fun attributes => imp_congr_right fun _ => ?_
  simp only [SharedCriterion.tests, List.all_cons, List.all_nil, Bool.and_true,
    Bool.xor_right_inj]

def hasClass (attributes : Attributes) (name : String) : Bool :=
  (attributes "class").any (Css.accepts .wholeWord (trim name))

theorem xpath_meets_class {name : String} (identifies : Css.IsIdentifier (trim name))
    {attributes : Attributes} (clean : attributes.Clean) :
    XPath.meets attributes ⟨"class", .compare .wholeWord, trim name⟩ =
      hasClass attributes name := by
  have agrees : AttributeOp.Agrees (.compare .wholeWord) (trim name) :=
    ⟨identifies.ne_empty, identifies.not_isPhrase⟩
  have same := (meets_eq_iff "class" identifies.isClean).2 agrees attributes clean
  exact same.symm

/-- An element whose class is an identifier has no other class. -/
theorem hasClass_uniform_iff {name other : String} (identifies : Css.IsIdentifier (trim name)) :
    hasClass (uniform (some (trim name))) other = true ↔ trim other = trim name := by
  simp [hasClass, uniform, Css.accepts, Text.words_of_isWord identifies.isWord,
    String.toList_inj]

theorem all_eq_of_forall {α : Type} {items : List α} {verdict : Bool} {passes : α → Bool}
    (nonempty : items ≠ []) (same : ∀ item ∈ items, passes item = verdict) :
    items.all passes = verdict := by
  obtain ⟨first, rest, rfl⟩ := List.exists_cons_of_ne_nil nonempty
  rw [Bool.eq_iff_iff, List.all_eq_true]
  constructor
  · intro all
    rw [← same first List.mem_cons_self]
    exact all first List.mem_cons_self
  · intro passed item member
    rw [same item member, passed]

/-- The negations of a list of classes differ on an element that has some of them: one grammar
negates the whole list, the other one each class. -/
theorem negated_classes_iff {names : List String} (nonempty : names ≠ [])
    (identified : ∀ name ∈ names, Css.IsIdentifier (trim name)) :
    (∀ attributes : Attributes, attributes.Clean →
        (!names.all (hasClass attributes)) = names.all fun name => !hasClass attributes name) ↔
      ∀ first ∈ names, ∀ second ∈ names, trim first = trim second := by
  constructor
  · intro agree first member second memberSecond
    have identifies := identified first member
    have here := agree (uniform (some (trim first)))
      (clean_uniform (by simpa using identifies.isClean))
    have has := (hasClass_uniform_iff identifies).2 (rfl : trim first = trim first)
    have notAll : names.all (fun name => !hasClass (uniform (some (trim first))) name) = false := by
      rw [List.all_eq_false]
      exact ⟨first, member, by simp [has]⟩
    rw [notAll, Bool.not_eq_false', List.all_eq_true] at here
    exact ((hasClass_uniform_iff identifies).1 (here second memberSecond)).symm
  · intro equal attributes _
    obtain ⟨first, rest, rfl⟩ := List.exists_cons_of_ne_nil nonempty
    have has : ∀ name ∈ first :: rest, hasClass attributes name = hasClass attributes first := by
      intro name member
      rw [hasClass, hasClass, equal name member first List.mem_cons_self]
    rw [all_eq_of_forall nonempty has,
      all_eq_of_forall nonempty fun name member => congrArg (!·) (has name member)]

theorem sameElements_classes_iff {names : List String} {negated : Bool} (nonempty : names ≠ [])
    (identified : ∀ name ∈ names, Css.IsIdentifier (trim name)) :
    SameElements (.classes names) negated ↔ SharedCriterion.Agrees (.classes names) negated := by
  have css (attributes : Attributes) :
      (SharedCriterion.classes names).tests.all (Css.meets attributes) =
        names.all (hasClass attributes) := by
    rw [SharedCriterion.tests, List.all_map]
    rfl
  have xpath (attributes : Attributes) (clean : attributes.Clean) :
      (SharedCriterion.classes names).tests.all
          (fun test => negated ^^ XPath.meets attributes test) =
        names.all fun name => negated ^^ hasClass attributes name := by
    rw [SharedCriterion.tests, List.all_map, Bool.eq_iff_iff, List.all_eq_true, List.all_eq_true]
    refine forall₂_congr fun name member => ?_
    rw [Function.comp_apply, xpath_meets_class (identified name member) clean]
  have eq_iff : SameElements (.classes names) negated ↔
      ∀ attributes : Attributes, attributes.Clean →
        (negated ^^ names.all (hasClass attributes)) =
          names.all fun name => negated ^^ hasClass attributes name :=
    forall₂_congr fun attributes clean => by rw [css attributes, xpath attributes clean]
  rw [eq_iff]
  cases negated with
  | false =>
      refine iff_of_true (fun _ _ => by simp) fun negated => ?_
      exact absurd negated Bool.false_ne_true
  | true =>
      simp only [SharedCriterion.Agrees, Bool.true_xor, forall_const]
      exact negated_classes_iff nonempty identified

/-- What a criterion holds that both grammars must read as it is meant: identifiers for names, and a
clean operand. -/
structure SharedCriterion.Legible (criterion : SharedCriterion) : Prop where
  identified : Css.Identified criterion
  clean : Css.Clean (.shared criterion)

theorem sameElements_iff {criterion : SharedCriterion} {negated : Bool}
    (wellNamed : criterion.WellNamed) (legible : criterion.Legible) :
    SameElements criterion negated ↔ criterion.Agrees negated := by
  cases criterion with
  | «attribute» name op operand => exact sameElements_attribute_iff (legible.clean _ rfl)
  | classes names => exact sameElements_classes_iff wellNamed.1 legible.identified

end Criteria

section Documents

structure Regular {Node : Type} (document : XPath.Document Node) : Prop where
  single : document.Single
  clean : ∀ node, (document.attributes node).Clean

/-- A document of one element with the given attributes, which are its other nodes. -/
def elementDocument (attributes : Attributes) : XPath.Document (Option String) where
  select
    | .attribute, .name name, none => (attributes name).toList.map some
    | _, _, _ => []
  value node := node.getD ""
  rank _ := 0

theorem attributes_elementDocument (attributes : Attributes) :
    (elementDocument attributes).attributes none = attributes := by
  funext name
  cases found : attributes name <;>
    simp [XPath.Document.attributes, elementDocument, found]

theorem regular_elementDocument {attributes : Attributes} (clean : attributes.Clean) :
    Regular (elementDocument attributes) where
  single name node := by
    cases node with
    | none => cases found : attributes name <;> simp [elementDocument, found]
    | some value => simp [elementDocument]
  clean node := by
    cases node with
    | none => rwa [attributes_elementDocument]
    | some value => simp [Attributes.Clean, XPath.Document.attributes, elementDocument]

theorem eq_of_filter_singleton {α : Type} {item : α} {first second : α → Bool}
    (same : [item].filter first = [item].filter second) : first item = second item := by
  cases one : first item <;> cases two : second item <;> simp [one, two] at same ⊢

theorem decide_some_eq_some_true (verdict : Bool) :
    decide (some verdict = some true) = verdict := by
  simp

/-- Both texts of a shared leaf are read and give verdicts everywhere, and they choose the same
nodes from all lists of nodes of all documents exactly if the grammars agree on the criterion. -/
theorem Leaf.selected?_eq_iff {criterion : SharedCriterion} {negated : Bool} {css xpath : String}
    (renderedCss : (Leaf.mk (.shared criterion) negated).render .css = .ok css)
    (renderedXPath : (Leaf.mk (.shared criterion) negated).render .xpath = .ok xpath)
    (legible : criterion.Legible) :
    (∀ attributes, (Css.matches? attributes css).isSome) ∧
      (∀ (Node : Type) (document : XPath.Document Node) (nodes : List Node),
        (XPath.selected? document xpath nodes).isSome) ∧
      ((∀ (Node : Type) (document : XPath.Document Node), Regular document →
          ∀ nodes : List Node, XPath.selected? document xpath nodes =
            some (nodes.filter fun node =>
              Css.matches? (document.attributes node) css = some true)) ↔
        criterion.Agrees negated) := by
  have named := isRun_of_identified legible.identified
  have onElement (attributes : Attributes) : Css.matches? attributes css =
      some (negated ^^ criterion.tests.all (Css.meets attributes)) :=
    Css.matches?_of_renderCondition renderedCss legible.identified legible.clean attributes
  obtain ⟨wellNamed, -⟩ := (Css.renderCondition_eq_ok_iff _).1 renderedCss
  refine ⟨fun attributes => by rw [onElement]; rfl, fun Node document nodes => ?_, ?_⟩
  · obtain ⟨kept, found⟩ :=
      XPath.exists_selected?_of_renderCondition renderedXPath named document nodes
    rw [found]
    rfl
  · rw [← sameElements_iff wellNamed legible]
    constructor
    · intro same attributes clean
      have regular := regular_elementDocument clean
      have here := same _ _ regular [none]
      rw [XPath.selected?_of_renderCondition renderedXPath named regular.single] at here
      have verdict := eq_of_filter_singleton (Option.some.inj here)
      rw [attributes_elementDocument, onElement, decide_some_eq_some_true] at verdict
      exact verdict.symm
    · intro same Node document regular nodes
      rw [XPath.selected?_of_renderCondition renderedXPath named regular.single]
      refine congrArg some (List.filter_congr fun node _ => ?_)
      rw [onElement, decide_some_eq_some_true]
      exact (same _ (regular.clean node)).symm

def phraseCriterion : SharedCriterion :=
  .attribute " title " (.compare .wholeWord) "it's \"so\""

def phraseCss : String :=
  ":not([title~='it\\'s \"so\"'])"

def phraseXPath : String :=
  "[not(contains(concat(' ', normalize-space(@title), ' '), concat(' it', \"'\", 's \"so\" ')))]"

/-- A whole word that is two words is read in both grammars, but not to the same effect. -/
theorem Leaf.selected?_ne_phraseCriterion :
    (∀ attributes, (Css.matches? attributes phraseCss).isSome) ∧
      ¬ ∀ (Node : Type) (document : XPath.Document Node), Regular document →
        ∀ nodes : List Node, XPath.selected? document phraseXPath nodes =
          some (nodes.filter fun node =>
            Css.matches? (document.attributes node) phraseCss = some true) := by
  have renderedCss : (Leaf.mk (.shared phraseCriterion) true).render .css = .ok phraseCss := by
    decide +kernel
  have renderedXPath :
      (Leaf.mk (.shared phraseCriterion) true).render .xpath = .ok phraseXPath := by
    decide +kernel
  have legible : phraseCriterion.Legible := ⟨by decide, by decide⟩
  obtain ⟨read, -, same⟩ := Leaf.selected?_eq_iff renderedCss renderedXPath legible
  have isPhrase : IsPhrase "it's \"so\"" :=
    ⟨["it's".toList, "\"so\"".toList], by decide, by decide, by decide⟩
  exact ⟨read, fun always => (same.1 always).2 isPhrase⟩

end Documents

end PageSelectors
