import PageSelectors.Proofs.XPath.Rendering
import PageSelectors.Proofs.XPath.Scanner

/-!
Operands inside XPath texts. Every literal is balanced whatever it stands for, so are the tests that
compare with it, and a balanced test makes a predicate that is one bracket group.
-/

namespace PageSelectors.XPath

theorem segments_not_mem {cs part : List Char} (member : part ∈ segments cs) : '\'' ∉ part := by
  induction cs generalizing part with
  | nil =>
      rw [List.mem_singleton.1 member]
      simp
  | cons c rest ih =>
      rw [segments] at member
      split at member
      · rcases List.mem_cons.1 member with rfl | member
        · simp
        · exact ih member
      · next other =>
        split at member
        · rw [List.mem_singleton.1 member]
          simpa using Ne.symm other
        · next first others cut =>
          rcases List.mem_cons.1 member with rfl | member
          · have inner : '\'' ∉ first := ih (by simp [cut])
            simpa [inner] using Ne.symm other
          · exact ih (by simp [cut, member])

namespace Balanced

theorem intercalate {separator : List Char} {parts : List (List Char)}
    (between : Balanced separator) (balanced : ∀ part ∈ parts, Balanced part) :
    Balanced (List.intercalate separator parts) := by
  induction parts with
  | nil => exact (by decide : Balanced [])
  | cons part rest ih =>
      obtain ⟨first, others⟩ := List.forall_mem_cons.1 balanced
      cases rest with
      | nil => simpa using first
      | cons next rest =>
          rw [List.intercalate_cons_cons]
          exact (first.append between).append (ih others)

theorem quote (operand : String) : Balanced (XPath.quote operand).toList := by
  rw [XPath.quote, String.toList_ofList, quoteChars]
  split
  · next single => exact .literal (.inl rfl) single
  · split
    · next double => exact .literal (.inr rfl) double
    · apply append
      · apply append
        · decide
        · apply intercalate
          · decide
          · intro literal member
            obtain ⟨part, inside, rfl⟩ := List.mem_map.1 member
            exact .literal (.inl rfl) (segments_not_mem inside)
      · decide

theorem text_append {left right : String} (first : Balanced left.toList)
    (second : Balanced right.toList) : Balanced (left ++ right).toList := by
  rw [String.toList_append]
  exact first.append second

theorem join {texts : List String} (balanced : ∀ text ∈ texts, Balanced text.toList) :
    Balanced (String.join texts).toList := by
  induction texts with
  | nil => exact (by decide : Balanced [])
  | cons text rest ih =>
      obtain ⟨first, others⟩ := List.forall_mem_cons.1 balanced
      rw [String.join_cons]
      exact first.text_append (ih others)

theorem comparison {subject : String} (balanced : Balanced subject.toList) (op : TextOp)
    (operand : String) : Balanced (XPath.comparison subject op operand).toList := by
  have literal := quote operand
  cases op with
  | is =>
      have equals : Balanced "=".toList := by decide
      exact (balanced.text_append equals).text_append literal
  | contains =>
      have opening : Balanced "contains(".toList := by decide
      have comma : Balanced ",".toList := by decide
      have closing : Balanced ")".toList := by decide
      exact (((opening.text_append balanced).text_append comma).text_append literal).text_append
        closing
  | startsWith =>
      have opening : Balanced "starts-with(".toList := by decide
      have comma : Balanced ",".toList := by decide
      have closing : Balanced ")".toList := by decide
      exact (((opening.text_append balanced).text_append comma).text_append literal).text_append
        closing
  | endsWith =>
      have opening : Balanced "substring(".toList := by decide
      have length : Balanced ", string-length(".toList := by decide
      have minus : Balanced ") - string-length(".toList := by decide
      have equals : Balanced ")+1) = ".toList := by decide
      have start := ((opening.text_append balanced).text_append length).text_append balanced
      exact (((start.text_append minus).text_append literal).text_append equals).text_append literal
  | wholeWord =>
      have opening : Balanced "contains(concat(' ', normalize-space(".toList := by decide
      have padding : Balanced "), ' '), ".toList := by decide
      have closing : Balanced ")".toList := by decide
      have padded := quote (" " ++ operand ++ " ")
      exact (((opening.text_append balanced).text_append padding).text_append padded).text_append
        closing

theorem attributeTest {name : String} (balanced : Balanced name.toList) (op : AttributeOp)
    (operand : String) : Balanced (XPath.attributeTest name op operand).toList := by
  have at_ : Balanced "@".toList := by decide
  cases op with
  | isPresent => exact at_.text_append balanced
  | compare op => exact comparison (at_.text_append balanced) op operand

theorem number (number : Nat) : Balanced (toString number).toList := by
  rw [Nat.toString_eq_ofList_toDigits, String.toList_ofList]
  apply of_plain
  intro c member
  have digit : c.isDigit := Nat.isDigit_of_mem_toDigits (by decide) (by decide) member
  simp only [isPlainChar, Bool.and_eq_true, decide_eq_true_eq]
  refine ⟨⟨⟨?_, ?_⟩, ?_⟩, ?_⟩
  all_goals
    rintro rfl
    exact absurd digit (by decide)

theorem placeText (place : Place) : Balanced place.text.toList := by
  cases place with
  | exactly index =>
      have opening : Balanced "position() = ".toList := by decide
      exact opening.text_append (number (index + 1))
  | atLeast index =>
      have opening : Balanced "position() >= ".toList := by decide
      exact opening.text_append (number (index + 1))
  | atMost index =>
      have opening : Balanced "position() <= ".toList := by decide
      exact opening.text_append (number (index + 1))
  | last => exact (by decide : Balanced "last()".toList)

theorem isGroup_predicate {test : String} (balanced : Balanced test.toList) (negated : Bool) :
    IsGroup (predicate negated test).toList := by
  cases negated with
  | false =>
      have written : (predicate false test).toList = '[' :: test.toList ++ [']'] := by
        simp [predicate]
      rw [written]
      exact balanced.isGroup
  | true =>
      have opening : Balanced "not(".toList := by decide
      have closing : Balanced ")".toList := by decide
      have written : (predicate true test).toList =
          '[' :: ("not(" ++ test ++ ")").toList ++ [']'] := by
        simp [predicate]
      rw [written]
      exact ((opening.text_append balanced).text_append closing).isGroup

end Balanced

end PageSelectors.XPath
