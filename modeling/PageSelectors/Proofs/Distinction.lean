import PageSelectors.Proofs.Css.Strings
import PageSelectors.Proofs.Slots
import PageSelectors.Proofs.XPath.Strings

/-!
What the text of a condition tells about it. Of conditions on one subject, which is an attribute or
the text of an element, no two are written alike unless they ask the same. In either grammar the
first character that two comparisons do not share settles which of them it is, and a quoted operand
can be read back. So selectors that differ in such a condition do not count as the same.
-/

namespace PageSelectors

open Text (trim hasBlank)
open Outcome

namespace Css

def attributeTail : AttributeOp → String → String
  | .isPresent, _ => "]"
  | .compare op, operand => comparison op ++ quote operand ++ "]"

def attributeMark : AttributeOp → Char
  | .isPresent => ']'
  | .compare .is => '='
  | .compare .contains => '*'
  | .compare .startsWith => '^'
  | .compare .endsWith => '$'
  | .compare .wholeWord => '~'

theorem attributeSelector_eq (name : String) (op : AttributeOp) (operand : String) :
    attributeSelector name op operand = "[" ++ name ++ attributeTail op operand := by
  cases op with
  | isPresent => rfl
  | compare op => simp only [attributeSelector, attributeTail, String.append_assoc]

theorem head?_attributeTail (op : AttributeOp) (operand : String) :
    (attributeTail op operand).toList.head? = some (attributeMark op) := by
  cases op with
  | isPresent => simp [attributeTail, attributeMark]
  | compare op => cases op <;> simp [attributeTail, comparison, attributeMark]

theorem attributeMark_injective : Function.Injective attributeMark := by
  intro op other same
  cases op with
  | isPresent =>
      cases other with
      | isPresent => rfl
      | compare other => cases other <;> simp [attributeMark] at same
  | compare op =>
      cases other with
      | isPresent => cases op <;> simp [attributeMark] at same
      | compare other => cases op <;> cases other <;> simp [attributeMark] at same ⊢

theorem attributeSelector_inj {name operand other : String} {op otherOp : AttributeOp} :
    attributeSelector name op operand = attributeSelector name otherOp other ↔
      op = otherOp ∧ (op ≠ .isPresent → operand = other) := by
  rw [attributeSelector_eq, attributeSelector_eq, String.append_right_inj]
  constructor
  · intro same
    have marks : some (attributeMark op) = some (attributeMark otherOp) := by
      rw [← head?_attributeTail op operand, ← head?_attributeTail otherOp other, same]
    obtain rfl : op = otherOp := attributeMark_injective (Option.some.inj marks)
    refine ⟨rfl, fun compared => ?_⟩
    cases op with
    | isPresent => exact (compared rfl).elim
    | compare op =>
        rw [attributeTail, attributeTail, String.append_left_inj, String.append_right_inj] at same
        exact quote_injective same
  · rintro ⟨rfl, same⟩
    cases op with
    | isPresent => rfl
    | compare op => rw [same (by simp)]

/-- A negation starts with a colon, and an attribute selector does not. -/
theorem conditionText_attribute_inj {name otherName operand other : String}
    {op otherOp : AttributeOp} {negated otherNegated : Bool} (named : trim name = trim otherName) :
    conditionText ⟨.shared (.attribute name op operand), negated⟩ =
        conditionText ⟨.shared (.attribute otherName otherOp other), otherNegated⟩ ↔
      negated = otherNegated ∧ op = otherOp ∧ (op ≠ .isPresent → operand = other) := by
  have plain (op : AttributeOp) (operand : String) (text : String) :
      attributeSelector (trim otherName) op operand ≠ ":not(" ++ text ++ ")" := by
    rw [attributeSelector_eq]
    simp [← String.toList_inj]
  rw [← @attributeSelector_inj (trim otherName)]
  simp only [conditionText, criterionText, named]
  cases negated with
  | false =>
      cases otherNegated with
      | false => simp
      | true => simp [plain]
  | true =>
      cases otherNegated with
      | false => simp [(plain _ _ _).symm]
      | true => simp

end Css

namespace XPath

/-- How a comparison starts, up to where it is clear which one it is if its subject starts with the
given character. -/
def opening (c : Char) : TextOp → List Char
  | .is => [c]
  | .contains => "contains(".toList ++ [c]
  | .startsWith => "starts-with(".toList
  | .endsWith => "substring(".toList
  | .wholeWord => "contains(concat(".toList

theorem append_twice_inj {start middle first second : String}
    (same : start ++ first ++ middle ++ first = start ++ second ++ middle ++ second) :
    first = second := by
  have chars := congrArg String.toList same
  simp only [String.toList_append, List.append_assoc, List.append_cancel_left_eq] at chars
  have lengths := congrArg List.length chars
  simp only [List.length_append] at lengths
  exact String.toList_inj.1 (List.append_inj chars (by omega)).1

section Comparisons

variable {subject operand other : String} {op otherOp : TextOp} {c : Char}

theorem comparison_is (subject operand : String) :
    comparison subject .is operand = subject ++ "=" ++ quote operand := rfl

theorem comparison_contains (subject operand : String) :
    comparison subject .contains operand =
      "contains(" ++ subject ++ "," ++ quote operand ++ ")" := rfl

theorem comparison_startsWith (subject operand : String) :
    comparison subject .startsWith operand =
      "starts-with(" ++ subject ++ "," ++ quote operand ++ ")" := rfl

theorem comparison_endsWith (subject operand : String) :
    comparison subject .endsWith operand =
      "substring(" ++ subject ++ ", string-length(" ++ subject ++ ") - string-length(" ++
        quote operand ++ ")+1) = " ++ quote operand := rfl

theorem comparison_wholeWord (subject operand : String) :
    comparison subject .wholeWord operand =
      "contains(concat(' ', normalize-space(" ++ subject ++ "), ' '), " ++
        quote (" " ++ operand ++ " ") ++ ")" := rfl

theorem opening_isPrefix (starts : subject.toList.head? = some c) (op : TextOp)
    (operand : String) : opening c op <+: (comparison subject op operand).toList := by
  obtain ⟨cs, rfl⟩ : ∃ cs, subject = String.ofList (c :: cs) := by
    obtain ⟨cs, chars⟩ := List.head?_eq_some_iff.1 starts
    exact ⟨cs, by rw [← chars, String.ofList_toList]⟩
  cases op with
  | is =>
      rw [comparison_is]
      change [c] <+: _
      simp
  | contains =>
      rw [comparison_contains]
      change "contains(".toList ++ [c] <+: _
      simp
  | startsWith =>
      rw [comparison_startsWith]
      change "starts-with(".toList <+: _
      simp
  | endsWith =>
      rw [comparison_endsWith]
      change "substring(".toList <+: _
      simp
  | wholeWord =>
      rw [comparison_wholeWord]
      change "contains(concat(".toList <+: _
      simp

theorem eq_of_opening_isPrefix (first : c = '@' ∨ c = 't') :
    opening c op <+: opening c otherOp → op = otherOp := by
  rcases first with rfl | rfl <;> cases op <;> cases otherOp <;> decide

theorem operand_of_comparison
    (same : comparison subject op operand = comparison subject op other) : operand = other := by
  cases op with
  | is =>
      rw [comparison_is, comparison_is, String.append_right_inj] at same
      exact quote_injective same
  | contains =>
      rw [comparison_contains, comparison_contains, String.append_left_inj,
        String.append_right_inj] at same
      exact quote_injective same
  | startsWith =>
      rw [comparison_startsWith, comparison_startsWith, String.append_left_inj,
        String.append_right_inj] at same
      exact quote_injective same
  | endsWith =>
      rw [comparison_endsWith, comparison_endsWith] at same
      exact quote_injective (append_twice_inj same)
  | wholeWord =>
      rw [comparison_wholeWord, comparison_wholeWord, String.append_left_inj,
        String.append_right_inj] at same
      have padded := quote_injective same
      rwa [String.append_left_inj, String.append_right_inj] at padded

theorem comparison_inj (starts : subject.toList.head? = some c) (first : c = '@' ∨ c = 't') :
    comparison subject op operand = comparison subject otherOp other ↔
      op = otherOp ∧ operand = other := by
  constructor
  · intro same
    have opens := opening_isPrefix starts op operand
    have opensOther := opening_isPrefix starts otherOp other
    rw [← same] at opensOther
    obtain rfl : op = otherOp := by
      rcases List.prefix_or_prefix_of_prefix opens opensOther with inside | inside
      · exact eq_of_opening_isPrefix first inside
      · exact (eq_of_opening_isPrefix first inside).symm
    exact ⟨rfl, operand_of_comparison same⟩
  · rintro ⟨rfl, rfl⟩
    rfl

theorem opening_ne_nil (first : c = '@' ∨ c = 't') (op : TextOp) : opening c op ≠ [] := by
  rcases first with rfl | rfl <;> cases op <;> decide

theorem head?_comparison (starts : subject.toList.head? = some c) (first : c = '@' ∨ c = 't')
    (op : TextOp) (operand : String) :
    (comparison subject op operand).toList.head? = (opening c op).head? := by
  obtain ⟨rest, chars⟩ := opening_isPrefix starts op operand
  rw [← chars, List.head?_append_of_ne_nil _ (opening_ne_nil first op)]

theorem head?_comparison_ne (starts : subject.toList.head? = some c) (first : c = '@' ∨ c = 't')
    (op : TextOp) (operand : String) :
    (comparison subject op operand).toList.head? ≠ some 'n' := by
  rw [head?_comparison starts first]
  rcases first with rfl | rfl <;> cases op <;> decide

end Comparisons

section Attributes

variable {name operand other : String} {op otherOp : AttributeOp}

theorem head?_at (name : String) : ("@" ++ name).toList.head? = some '@' := by
  simp

theorem is_of_head?_opening {op : TextOp} : (opening '@' op).head? = some '@' → op = .is := by
  cases op <;> decide

theorem comparison_ne_presence (name : String) (op : TextOp) (operand : String) :
    comparison ("@" ++ name) op operand ≠ "@" ++ name := by
  intro same
  have starts := head?_comparison (head?_at name) (.inl rfl) op operand
  rw [same, head?_at] at starts
  obtain rfl := is_of_head?_opening starts.symm
  rw [comparison_is] at same
  simp [← String.toList_inj] at same

theorem attributeTest_inj :
    attributeTest name op operand = attributeTest name otherOp other ↔
      op = otherOp ∧ (op ≠ .isPresent → operand = other) := by
  cases op with
  | isPresent =>
      cases otherOp with
      | isPresent => simp [attributeTest]
      | compare otherOp => simp [attributeTest, (comparison_ne_presence name otherOp other).symm]
  | compare op =>
      cases otherOp with
      | isPresent => simp [attributeTest, comparison_ne_presence name op operand]
      | compare otherOp =>
          rw [attributeTest, attributeTest, comparison_inj (head?_at name) (.inl rfl)]
          simp

theorem head?_attributeTest_ne (name : String) (op : AttributeOp) (operand : String) :
    (attributeTest name op operand).toList.head? ≠ some 'n' := by
  cases op with
  | isPresent => simp [attributeTest]
  | compare op => exact head?_comparison_ne (head?_at name) (.inl rfl) op operand

end Attributes

/-- A negation starts with an n, and the tests in question do not. -/
theorem predicate_eq_iff {negated otherNegated : Bool} {test other : String}
    (plain : test.toList.head? ≠ some 'n') (plainOther : other.toList.head? ≠ some 'n') :
    predicate negated test = predicate otherNegated other ↔
      negated = otherNegated ∧ test = other := by
  have apart {positive negative : String} (plain : positive.toList.head? ≠ some 'n') :
      predicate false positive ≠ predicate true negative := by
    intro same
    have inner : (positive ++ "]").toList = ("not(" ++ (negative ++ ")]")).toList := by
      simpa [predicate, ← String.toList_inj] using same
    cases chars : positive.toList with
    | nil => simp [chars] at inner
    | cons c cs =>
        obtain ⟨rfl, -⟩ : c = 'n' ∧ _ := by simpa [chars] using inner
        exact plain (by rw [chars, List.head?_cons])
  cases negated with
  | false =>
      cases otherNegated with
      | false => simp [predicate_inj]
      | true => simp [apart plain]
  | true =>
      cases otherNegated with
      | false => simp [(apart plainOther).symm]
      | true => simp [predicate_inj]

end XPath

inductive Subject where
  | «attribute» (name : String)
  | text
  deriving DecidableEq

structure Question where
  subject : Subject
  op : AttributeOp
  operand : String

def Question.Agrees (question other : Question) : Prop :=
  question.op = other.op ∧ (question.op ≠ .isPresent → question.operand = other.operand)

def Leaf.question? (leaf : Leaf) : Option Question :=
  match leaf.kind with
  | .shared (.attribute name op operand) => some ⟨.attribute (trim name), op, operand⟩
  | .xpath (.text op operand) => some ⟨.text, .compare op, operand⟩
  | _ => none

def Subject.In : Subject → Grammar → Prop
  | .attribute name, _ => name ≠ "" ∧ hasBlank name = false
  | .text, grammar => grammar = .xpath

section Questions

variable {name otherName operand other : String} {op otherOp : AttributeOp}
  {negated otherNegated : Bool}

theorem render_attribute_css (named : IsName name) :
    Leaf.render ⟨.shared (.attribute name op operand), negated⟩ .css =
      .ok (Css.conditionText ⟨.shared (.attribute name op operand), negated⟩) := by
  rw [Leaf.render_css, Leaf.toCss, ok_bind]
  exact (Css.renderCondition_eq_ok_iff _).2 ⟨named, rfl⟩

theorem render_attribute_xpath (named : IsName name) :
    Leaf.render ⟨.shared (.attribute name op operand), negated⟩ .xpath =
      .ok (XPath.predicate negated (XPath.attributeTest (trim name) op operand)) := by
  have rendered : Leaf.render ⟨.shared (.attribute name op operand), negated⟩ .xpath =
      XPath.renderShared negated (.attribute name op operand) := by
    rw [Leaf.render_xpath, Leaf.toXPath, ok_bind, XPath.renderCondition]
  rw [rendered, XPath.renderShared, checkName_eq_ok_iff.2 ⟨named, rfl⟩, ok_bind]
  rfl

theorem render_text_xpath (op : TextOp) (operand : String) (negated : Bool) :
    Leaf.render ⟨.xpath (.text op operand), negated⟩ .xpath =
      .ok (XPath.predicate negated (XPath.comparison "text()" op operand)) := by
  rw [Leaf.render_xpath, Leaf.toXPath, ok_bind, XPath.renderCondition]

theorem render_attribute_inj (named : IsName name) (same : trim name = trim otherName)
    (grammar : Grammar) :
    (∃ text, Leaf.render ⟨.shared (.attribute name op operand), negated⟩ grammar = .ok text) ∧
      (Leaf.render ⟨.shared (.attribute name op operand), negated⟩ grammar =
          Leaf.render ⟨.shared (.attribute otherName otherOp other), otherNegated⟩ grammar ↔
        negated = otherNegated ∧ op = otherOp ∧ (op ≠ .isPresent → operand = other)) := by
  have namedOther : IsName otherName := by rwa [IsName, ← same]
  cases grammar with
  | css =>
      rw [render_attribute_css named, render_attribute_css namedOther, Except.ok.injEq,
        Css.conditionText_attribute_inj same]
      exact ⟨⟨_, rfl⟩, Iff.rfl⟩
  | xpath =>
      rw [render_attribute_xpath named, render_attribute_xpath namedOther, Except.ok.injEq, same,
        XPath.predicate_eq_iff (XPath.head?_attributeTest_ne _ _ _)
          (XPath.head?_attributeTest_ne _ _ _), XPath.attributeTest_inj]
      exact ⟨⟨_, rfl⟩, Iff.rfl⟩

theorem render_text_inj {op otherOp : TextOp} :
    Leaf.render ⟨.xpath (.text op operand), negated⟩ .xpath =
        Leaf.render ⟨.xpath (.text otherOp other), otherNegated⟩ .xpath ↔
      negated = otherNegated ∧ op = otherOp ∧ operand = other := by
  have starts : "text()".toList.head? = some 't' := by decide
  have plain := XPath.head?_comparison_ne starts (.inr rfl)
  rw [render_text_xpath, render_text_xpath, Except.ok.injEq,
    XPath.predicate_eq_iff (plain _ _) (plain _ _), XPath.comparison_inj starts (.inr rfl)]

end Questions

section Leaves

variable {first second : Leaf} {question other : Question} {grammar : Grammar}

/-- A condition that asks a question is one on an attribute or one on the text. -/
theorem Leaf.kind_of_question? {leaf : Leaf} (asks : leaf.question? = some question) :
    (∃ name, leaf.kind = .shared (.attribute name question.op question.operand) ∧
        question.subject = .attribute (trim name)) ∨
      ∃ op, leaf.kind = .xpath (.text op question.operand) ∧ question.op = .compare op ∧
        question.subject = .text := by
  obtain ⟨kind, negated⟩ := leaf
  match kind with
  | .shared (.attribute name op operand) =>
      cases asks
      exact .inl ⟨name, rfl, rfl⟩
  | .xpath (.text op operand) =>
      cases asks
      exact .inr ⟨op, rfl, rfl, rfl⟩

theorem render_inj_of_question? (asks : first.question? = some question)
    (asksOther : second.question? = some other) (same : question.subject = other.subject)
    (inside : question.subject.In grammar) :
    (∃ text, first.render grammar = .ok text) ∧
      (first.render grammar = second.render grammar ↔
        first.negated = second.negated ∧ question.Agrees other) := by
  have kind := Leaf.kind_of_question? asks
  have kindOther := Leaf.kind_of_question? asksOther
  obtain ⟨_, negated⟩ := first
  obtain ⟨_, negatedOther⟩ := second
  obtain ⟨_, op, operand⟩ := question
  obtain ⟨_, opOther, operandOther⟩ := other
  rcases kind with ⟨name, rfl, rfl⟩ | ⟨op, rfl, rfl, rfl⟩
  · rcases kindOther with ⟨nameOther, rfl, rfl⟩ | ⟨_, rfl, rfl, rfl⟩
    · exact render_attribute_inj inside (Subject.attribute.inj same) grammar
    · cases same
  · rcases kindOther with ⟨nameOther, rfl, rfl⟩ | ⟨opOther, rfl, rfl, rfl⟩
    · cases same
    · obtain rfl : grammar = .xpath := inside
      refine ⟨⟨_, render_text_xpath op operand negated⟩, render_text_inj.trans ?_⟩
      simp [Question.Agrees]

theorem exists_fill_of_question? (asks : first.question? = some question) {slot : Selector.Slot}
    (inside : question.subject.In slot.grammar) : ∃ left, slot.fill first = .ok left := by
  obtain ⟨name, kind, -⟩ | ⟨op, kind, -, subject⟩ := Leaf.kind_of_question? asks
  · cases slot with
    | css slot => exact ⟨_, by rw [Selector.Slot.fill, Leaf.toCss, kind]; rfl⟩
    | xpath slot => exact ⟨_, by rw [Selector.Slot.fill, Leaf.toXPath, kind]; rfl⟩
  · rw [subject] at inside
    cases slot with
    | css slot => cases inside
    | xpath slot => exact ⟨_, by rw [Selector.Slot.fill, Leaf.toXPath, kind]; rfl⟩

theorem render_of_text? {left right : Selector} {text : String} (same : left.text? = right.text?)
    (rendered : left.render = .ok text) : right.render = .ok text := by
  have own : left.text? = some text := by rw [Selector.text?, rendered]; rfl
  rw [own] at same
  cases other : right.render with
  | error fault => simp [Selector.text?, other, Except.toOption] at same
  | ok otherText => simpa [Selector.text?, other, Except.toOption, eq_comm] using same

theorem grammar_of_fill {slot : Selector.Slot} {leaf : Leaf} {selector : Selector}
    (filled : slot.fill leaf = .ok selector) : selector.grammar = slot.grammar := by
  cases slot with
  | css slot =>
      obtain ⟨condition, -, rfl⟩ := bind_pure_eq_ok_iff.1 filled
      rfl
  | xpath slot =>
      obtain ⟨condition, -, rfl⟩ := bind_pure_eq_ok_iff.1 filled
      rfl

theorem beq_iff_of_grammar {left right : Selector} (same : left.grammar = right.grammar) :
    (left == right) = true ↔ left.text? = right.text? := by
  change (left.grammar == right.grammar && left.text? == right.text?) = true ↔ _
  simp [same]

/-- Two conditions on one subject that a grammar has are rendered in it, and to one text only if
both are negated or neither is, and they ask the same of the subject: by one operator and, unless
that is presence, with one operand. So selectors that have these conditions at one place and
everything else in common, which count as the same exactly if they have one text, do not have one if
either of them renders and the conditions differ. -/
theorem render_eq_iff_of_subject (asks : first.question? = some question)
    (asksOther : second.question? = some other) (same : question.subject = other.subject) :
    (∀ grammar, question.subject.In grammar →
      (∃ text, first.render grammar = .ok text) ∧
        (first.render grammar = second.render grammar ↔
          first.negated = second.negated ∧ question.Agrees other)) ∧
    ∀ slot : Selector.Slot, question.subject.In slot.grammar →
      ∃ left right, slot.fill first = .ok left ∧ slot.fill second = .ok right ∧
        ((left == right) = true ↔ left.text? = right.text?) ∧
        ((∃ text, left.render = .ok text) → left.text? = right.text? →
          first.negated = second.negated ∧ question.Agrees other) := by
  refine ⟨fun grammar inside => render_inj_of_question? asks asksOther same inside, ?_⟩
  intro slot inside
  obtain ⟨left, filled⟩ := exists_fill_of_question? asks inside
  obtain ⟨right, filledOther⟩ := exists_fill_of_question? asksOther (same ▸ inside)
  have grammars := (grammar_of_fill filled).trans (grammar_of_fill filledOther).symm
  refine ⟨left, right, filled, filledOther, beq_iff_of_grammar grammars, ?_⟩
  rintro ⟨text, rendered⟩ equal
  obtain ⟨own, ownText, ownTextOther⟩ :=
    Selector.Slot.exists_leaf_text filled filledOther rendered (render_of_text? equal rendered)
  exact (render_inj_of_question? asks asksOther same inside).2.1 (ownText.trans ownTextOther.symm)

end Leaves

def titleEnd (name operand : String) : Leaf :=
  ⟨.shared (.attribute name (.compare .endsWith) operand), true⟩

def nestedSlot : Selector.Slot :=
  .xpath (.limit (.page "tr" []) (.within .page "td" [] (.step .page "b" [] []) true []))

/-- The operands have quotes of both kinds, and one is the other written twice. -/
theorem render_eq_iff_of_subject_titleEnd :
    (titleEnd " title" "'\"").render .xpath ≠ (titleEnd "title " "'\"'\"").render .xpath ∧
      ∃ left right, nestedSlot.fill (titleEnd " title" "'\"") = .ok left ∧
        nestedSlot.fill (titleEnd "title " "'\"'\"") = .ok right ∧ (left == right) = false := by
  have title : trim " title" = "title" ∧ trim "title " = "title" := by decide +kernel
  have asks (name operand : String) : (titleEnd name operand).question? =
      some ⟨.attribute (trim name), .compare .endsWith, operand⟩ := rfl
  have inside : (Subject.attribute (trim " title")).In .xpath := by
    rw [title.1]
    exact ⟨by decide, by decide⟩
  obtain ⟨leaves, selectors⟩ := render_eq_iff_of_subject (asks " title" "'\"")
    (asks "title " "'\"'\"") (by rw [title.1, title.2])
  have different : "'\"" ≠ "'\"'\"" := by decide
  obtain ⟨left, right, filled, filledOther, counts, equal⟩ := selectors nestedSlot inside
  obtain ⟨text, rendered⟩ : ∃ text, left.render = .ok text := by
    have written : (do (← nestedSlot.fill (titleEnd " title" "'\"")).render).toOption.isSome := by
      decide +kernel
    rw [filled, ok_bind] at written
    cases rendered : left.render with
    | error fault => simp [rendered, Except.toOption] at written
    | ok text => exact ⟨text, rfl⟩
  refine ⟨fun same => ?_, left, right, filled, filledOther, ?_⟩
  · exact different (((leaves .xpath inside).2.1 same).2.2 (by simp))
  · rw [Bool.eq_false_iff]
    exact fun same => different ((equal ⟨text, rendered⟩ (counts.1 same)).2.2 (by simp))

end PageSelectors
