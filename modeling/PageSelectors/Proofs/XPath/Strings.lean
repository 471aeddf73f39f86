import Mathlib.Logic.Function.Basic
import PageSelectors.Proofs.XPath.Tests

/-!
What is written for an operand in XPath: a literal, or a call that puts literals together. Either
way it is an expression, and its value is the operand in every document. So different operands are
never written alike.
-/

namespace PageSelectors.XPath

def expression? (text : String) : Option Expression :=
  let tokens := tokens text.toList
  match readLevel (16 * tokens.length) 0 tokens with
  | some (expression, []) => some expression
  | _ => none

/-- Whether a text is an expression that has a string for its value in every document, for every
node and at every place. -/
def Denotes (text value : String) : Prop :=
  ∃ expression, expression? text = some expression ∧
    ∀ (Node : Type) (document : Document Node) (node : Node) (place size : Nat),
      expression.eval? document node place size = some (.string value)

/-- Whether a text is a string literal: characters between two quotes of a kind that is not among
them. -/
def IsLiteral (text : List Char) (value : String) : Prop :=
  ∃ mark, (mark = '\'' ∨ mark = '"') ∧ mark ∉ value.toList ∧
    text = mark :: value.toList ++ [mark]

section Expressions

theorem expression?_of_expresses {text : String} {expression : Expression}
    (expresses : Expresses 0 text expression) : expression? text = some expression := by
  obtain ⟨result, lexes, reads⟩ := expresses
  have lexed : tokens (text.toList ++ []) = result ++ tokens [] := lexes [] (by simp [Separates])
  have all : tokens text.toList = result := by
    rw [List.append_nil] at lexed
    rw [lexed]
    exact List.append_nil _
  have atEnd : Ends 0 [] := ⟨by simp [Rests], fun level _ => by simp [operator?]⟩
  have read := reads.read (16 * result.length) [] atEnd (Nat.le_refl _)
  rw [List.append_nil] at read
  simp only [expression?, all, read]

theorem expresses_quote (value : String) : Expresses 0 (quote value) (literalExpression value) := by
  obtain ⟨tokens, closes, reads⟩ := reads_quote value
  exact ⟨tokens, closes.lexes, reads.outermost⟩

theorem denotes_quote (value : String) : Denotes (quote value) value :=
  ⟨literalExpression value, expression?_of_expresses (expresses_quote value),
    fun _ _ _ _ _ => eval?_literalExpression value⟩

theorem Denotes.unique {text first second : String} (denotes : Denotes text first)
    (denotesOther : Denotes text second) : first = second := by
  obtain ⟨expression, read, value⟩ := denotes
  obtain ⟨other, readOther, valueOther⟩ := denotesOther
  obtain rfl : expression = other := Option.some.inj (read.symm.trans readOther)
  let blank : Document Unit := ⟨fun _ _ _ => [], fun _ => "", fun _ => 0⟩
  have same := (value Unit blank () 1 1).symm.trans (valueOther Unit blank () 1 1)
  exact Value.string.inj (Option.some.inj same)

theorem quote_injective : Function.Injective quote := by
  intro first second same
  exact (denotes_quote first).unique (same ▸ denotes_quote second)

end Expressions

section Forms

theorem intercalate_intersperse {α : Type} (separator item : List α) (parts : List (List α)) :
    List.intercalate (separator ++ item ++ separator) parts =
      List.intercalate separator (parts.intersperse item) := by
  induction parts with
  | nil => rfl
  | cons part parts ih =>
      cases parts with
      | nil => rfl
      | cons next parts =>
          obtain ⟨first, others, listed⟩ : ∃ first others,
              (next :: parts).intersperse item = first :: others := by
            cases parts <;> exact ⟨_, _, rfl⟩
          rw [List.intercalate_cons_cons, ih, List.intersperse_cons_cons, listed,
            List.intercalate_cons_cons, List.intercalate_cons_cons]
          simp only [List.append_assoc]

theorem isLiteral_single {part : List Char} (single : '\'' ∉ part) :
    IsLiteral ('\'' :: part ++ ['\'']) (String.ofList part) :=
  ⟨'\'', .inl rfl, by simpa using single, by simp⟩

theorem isLiteral_intersperse {parts : List (List Char)} (single : ∀ part ∈ parts, '\'' ∉ part) :
    List.Forall₂ IsLiteral
      ((parts.map fun part => '\'' :: part ++ ['\'']).intersperse "\"'\"".toList)
      (concatStrings parts) := by
  have quoteMark : IsLiteral "\"'\"".toList "'" := ⟨'"', .inr rfl, by decide, by decide⟩
  induction parts with
  | nil => exact .nil
  | cons part parts ih =>
      obtain ⟨first, others⟩ := List.forall_mem_cons.1 single
      cases parts with
      | nil => exact .cons (isLiteral_single first) .nil
      | cons next parts => exact .cons (isLiteral_single first) (.cons quoteMark (ih others))

theorem isLiteral_quote {value : String} (one : '\'' ∉ value.toList ∨ '"' ∉ value.toList) :
    IsLiteral (quote value).toList value := by
  rw [quote, String.toList_ofList, quoteChars]
  by_cases single : '\'' ∉ value.toList
  · rw [if_pos single]
    exact ⟨'\'', .inl rfl, single, rfl⟩
  · have double := one.resolve_left single
    rw [if_neg single, if_pos double]
    exact ⟨'"', .inr rfl, double, rfl⟩

/-- An operand with quotes of both kinds is cut into literals that a call puts together. -/
theorem exists_literals_quote {value : String}
    (both : ¬ ('\'' ∉ value.toList ∨ '"' ∉ value.toList)) :
    ∃ literals, List.Forall₂ IsLiteral literals (concatStrings (segments value.toList)) ∧
      2 ≤ literals.length ∧
      (quote value).toList =
        "concat(".toList ++ List.intercalate ", ".toList literals ++ [')'] := by
  obtain ⟨single, double⟩ := not_or.1 both
  have noQuotes : ∀ part ∈ segments value.toList, '\'' ∉ part := fun _ => segments_not_mem
  refine ⟨_, isLiteral_intersperse noQuotes, ?_, ?_⟩
  · match cut : segments value.toList with
    | [] => exact (segments_ne_nil _ cut).elim
    | [part] =>
        have whole := intercalate_segments value.toList
        rw [cut, List.intercalate_singleton] at whole
        exact (single (whole ▸ noQuotes part (by simp [cut]))).elim
    | part :: next :: parts => simp
  · have separator : ", \"'\", ".toList = ", ".toList ++ "\"'\"".toList ++ ", ".toList := by decide
    rw [quote, String.toList_ofList, quoteChars, if_neg single, if_neg double, separator,
      intercalate_intersperse]

end Forms

/-- What is written for an operand is one string literal, or a call of `concat` with two or more
arguments, all of them string literals; it is read as that, and the operand is its value in every
document. Different operands are written differently. The literal that the test of a whole word
looks for has the operand with a space on each side for its value. -/
theorem quote_denotes :
    (∀ value : String,
      (IsLiteral (quote value).toList value ∧ expression? (quote value) = some (.literal value) ∨
        ∃ literals strings, 2 ≤ literals.length ∧ List.Forall₂ IsLiteral literals strings ∧
          (quote value).toList =
            "concat(".toList ++ List.intercalate ", ".toList literals ++ [')'] ∧
          expression? (quote value) = some (.call .concat (strings.map .literal))) ∧
      Denotes (quote value) value) ∧
    Function.Injective quote ∧
    ∀ subject operand : String, ∃ padded,
      comparison subject .wholeWord operand =
        "contains(concat(' ', normalize-space(" ++ subject ++ "), ' '), " ++ padded ++ ")" ∧
      Denotes padded (" " ++ operand ++ " ") := by
  refine ⟨fun value => ⟨?form, denotes_quote value⟩, quote_injective, ?padded⟩
  case form =>
    have read := expression?_of_expresses (expresses_quote value)
    rw [literalExpression] at read
    by_cases one : '\'' ∉ value.toList ∨ '"' ∉ value.toList
    · rw [if_pos one] at read
      exact .inl ⟨isLiteral_quote one, read⟩
    · rw [if_neg one] at read
      obtain ⟨literals, each, enough, written⟩ := exists_literals_quote one
      exact .inr ⟨literals, _, enough, each, written, read⟩
  case padded =>
    intro subject operand
    exact ⟨quote (" " ++ operand ++ " "), rfl, denotes_quote _⟩

example : quote "''\"'" = "concat('', \"'\", '', \"'\", '\"', \"'\", '')" := by decide +kernel

end PageSelectors.XPath
