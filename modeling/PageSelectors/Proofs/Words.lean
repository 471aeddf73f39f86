import Mathlib.Data.List.Infix

/-!
The words of a text, and what can be found between two spaces in words that are put together with
single spaces: words that follow each other, with single spaces between them.
-/

namespace PageSelectors.Text

def words (blank : Char → Bool) (text : List Char) : List (List Char) :=
  (text.splitOnP blank).filter fun word => !word.isEmpty

def IsWord (blank : Char → Bool) (text : List Char) : Prop :=
  text ≠ [] ∧ ∀ c ∈ text, blank c = false

section Words

variable {blank : Char → Bool}

theorem IsWord.not_mem {word : List Char} (isWord : IsWord blank word) {c : Char}
    (isBlank : blank c = true) : c ∉ word := by
  intro member
  simp [isWord.2 c member] at isBlank

theorem not_blank_of_mem_splitOnP {text part : List Char} (member : part ∈ text.splitOnP blank) :
    ∀ c ∈ part, blank c = false := by
  induction text generalizing part with
  | nil =>
      rw [List.splitOnP_nil, List.mem_singleton] at member
      simp [member]
  | cons c text ih =>
      rw [List.splitOnP_cons_eq_if_modifyHead] at member
      split at member
      · rcases List.mem_cons.1 member with rfl | member
        · simp
        · exact ih member
      · next solid =>
        obtain ⟨first, others, cut⟩ :=
          List.exists_cons_of_ne_nil (List.splitOnP_ne_nil blank text)
        rw [cut] at member ih
        rw [List.modifyHead_cons] at member
        rcases List.mem_cons.1 member with rfl | member
        · exact List.forall_mem_cons.2 ⟨by simpa using solid, ih List.mem_cons_self⟩
        · exact ih (List.mem_cons_of_mem _ member)

theorem isWord_of_mem_words {text word : List Char} (member : word ∈ words blank text) :
    IsWord blank word := by
  obtain ⟨part, filled⟩ := List.mem_filter.1 member
  exact ⟨by simpa using filled, not_blank_of_mem_splitOnP part⟩

theorem words_append_cons {c : Char} (isBlank : blank c = true) (text rest : List Char) :
    words blank (text ++ c :: rest) = words blank text ++ words blank rest := by
  rw [words, List.splitOnP_append_cons text rest isBlank, List.filter_append]
  rfl

theorem words_of_isWord {word : List Char} (isWord : IsWord blank word) :
    words blank word = [word] := by
  rw [words, List.splitOnP_eq_singleton isWord.2]
  simp [isWord.1]

theorem words_nil : words blank [] = [] := by
  simp [words, List.splitOnP_nil]

theorem words_intercalate {c : Char} (isBlank : blank c = true) {parts : List (List Char)}
    (all : ∀ part ∈ parts, IsWord blank part) : words blank ([c].intercalate parts) = parts := by
  induction parts with
  | nil => exact words_nil
  | cons part parts ih =>
      obtain ⟨first, others⟩ := List.forall_mem_cons.1 all
      cases parts with
      | nil => rw [List.intercalate_singleton, words_of_isWord first]
      | cons next parts =>
          rw [List.intercalate_cons_cons, List.append_assoc, List.singleton_append,
            words_append_cons isBlank, words_of_isWord first, ih others, List.singleton_append]

theorem subset_intercalate {separator part : List Char} {parts : List (List Char)}
    (member : part ∈ parts) : part ⊆ separator.intercalate parts := by
  induction parts with
  | nil => simp at member
  | cons first parts ih =>
      cases parts with
      | nil => simp [List.mem_singleton.1 member]
      | cons next parts =>
          rw [List.intercalate_cons_cons, List.append_assoc]
          rcases List.mem_cons.1 member with rfl | member
          · exact List.subset_append_left _ _
          · exact List.Subset.trans (ih member)
              (List.subset_append_of_subset_right _ (List.subset_append_right _ _))

theorem words_congr {other : Char → Bool} {text : List Char}
    (same : ∀ c ∈ text, blank c = other c) : words blank text = words other text := by
  suffices split : text.splitOnP blank = text.splitOnP other by
    rw [words, words, split]
  induction text with
  | nil => rw [List.splitOnP_nil, List.splitOnP_nil]
  | cons c text ih =>
      obtain ⟨first, others⟩ := List.forall_mem_cons.1 same
      rw [List.splitOnP_cons_eq_if_modifyHead, List.splitOnP_cons_eq_if_modifyHead, first,
        ih others]

end Words

section Padding

def padded (parts : List (List Char)) : List Char :=
  parts.flatMap (' ' :: ·) ++ [' ']

theorem padded_cons (part : List Char) (parts : List (List Char)) :
    padded (part :: parts) = ' ' :: (part ++ padded parts) := by
  simp [padded]

theorem padded_append (parts others : List (List Char)) :
    padded (parts ++ others) = parts.flatMap (' ' :: ·) ++ padded others := by
  simp [padded]

theorem exists_padded_eq_cons (parts : List (List Char)) : ∃ rest, padded parts = ' ' :: rest := by
  cases parts with
  | nil => exact ⟨[], rfl⟩
  | cons part parts => exact ⟨_, padded_cons part parts⟩

theorem padded_eq_intercalate {parts : List (List Char)} (nonempty : parts ≠ []) :
    padded parts = ' ' :: [' '].intercalate parts ++ [' '] := by
  induction parts with
  | nil => exact (nonempty rfl).elim
  | cons part parts ih =>
      rw [padded_cons]
      cases parts with
      | nil => simp [padded]
      | cons next parts =>
          rw [ih (List.cons_ne_nil next parts), List.intercalate_cons_cons]
          simp only [List.cons_append, List.append_assoc, List.nil_append]

/-- What comes before a space at the start of a word and a space is the word, or goes on after
both. -/
theorem eq_or_exists_of_prefix {found part rest : List Char} (solid : ' ' ∉ part)
    (begins : found ++ [' '] <+: part ++ ' ' :: rest) :
    found = part ∨ ∃ more, found = part ++ ' ' :: more ∧ more ++ [' '] <+: rest := by
  induction part generalizing found with
  | nil =>
      cases found with
      | nil => exact .inl rfl
      | cons c more =>
          obtain ⟨rfl, goesOn⟩ := List.cons_prefix_cons.1 begins
          exact .inr ⟨more, rfl, goesOn⟩
  | cons c part ih =>
      have others := List.not_mem_of_not_mem_cons solid
      cases found with
      | nil => exact (List.ne_of_not_mem_cons solid (List.cons_prefix_cons.1 begins).1).elim
      | cons d found =>
          obtain ⟨rfl, later⟩ := List.cons_prefix_cons.1 begins
          rcases ih others later with rfl | ⟨more, rfl, goesOn⟩
          · exact .inl rfl
          · exact .inr ⟨more, rfl, goesOn⟩

theorem exists_run_of_prefix {found part : List Char} {parts : List (List Char)}
    (solid : ∀ other ∈ part :: parts, ' ' ∉ other)
    (begins : found ++ [' '] <+: part ++ padded parts) :
    ∃ run, run <+: parts ∧ found = [' '].intercalate (part :: run) := by
  induction parts generalizing found part with
  | nil =>
      have first := solid part List.mem_cons_self
      rcases eq_or_exists_of_prefix first begins with rfl | ⟨more, -, none⟩
      · exact ⟨[], List.nil_prefix, List.intercalate_singleton.symm⟩
      · simp at none
  | cons next parts ih =>
      obtain ⟨first, others⟩ := List.forall_mem_cons.1 solid
      rw [padded_cons] at begins
      rcases eq_or_exists_of_prefix first begins with rfl | ⟨more, rfl, goesOn⟩
      · exact ⟨[], List.nil_prefix, List.intercalate_singleton.symm⟩
      · obtain ⟨run, start, rfl⟩ := ih others goesOn
        refine ⟨next :: run, List.cons_prefix_cons.2 ⟨rfl, start⟩, ?_⟩
        rw [List.intercalate_cons_cons, List.append_assoc, List.singleton_append]

theorem infix_of_infix_append {found part rest : List Char} (solid : ' ' ∉ part)
    (inside : ' ' :: found <:+: part ++ rest) : ' ' :: found <:+: rest := by
  induction part with
  | nil => exact inside
  | cons c part ih =>
      rcases List.infix_cons_iff.1 inside with begins | later
      · exact (List.ne_of_not_mem_cons solid (List.cons_prefix_cons.1 begins).1).elim
      · exact ih (List.not_mem_of_not_mem_cons solid) later

/-- Between two spaces of padded words stand words that follow each other. -/
theorem infix_padded_iff {found : List Char} {parts : List (List Char)}
    (solid : ∀ part ∈ parts, ' ' ∉ part) :
    ' ' :: found ++ [' '] <:+: padded parts ↔
      ∃ run, run ≠ [] ∧ run <:+: parts ∧ found = [' '].intercalate run := by
  constructor
  · -- What is found starts at the space before the first word, or lies wholly after it.
    intro inside
    induction parts with
    | nil =>
        have short := inside.length_le
        simp [padded] at short
    | cons part parts ih =>
        obtain ⟨first, others⟩ := List.forall_mem_cons.1 solid
        rw [padded_cons] at inside
        rcases List.infix_cons_iff.1 inside with begins | later
        · obtain ⟨-, begins⟩ := List.cons_prefix_cons.1 begins
          obtain ⟨run, start, rfl⟩ := exists_run_of_prefix solid begins
          exact ⟨part :: run, List.cons_ne_nil part run,
            (List.cons_prefix_cons.2 ⟨rfl, start⟩).isInfix, rfl⟩
        · obtain ⟨run, nonempty, within, rfl⟩ := ih others (infix_of_infix_append first later)
          exact ⟨run, nonempty, List.infix_cons within, rfl⟩
  · rintro ⟨run, nonempty, ⟨before, after, rfl⟩, rfl⟩
    obtain ⟨rest, starts⟩ := exists_padded_eq_cons after
    have begins : padded run <+: padded (run ++ after) := by
      rw [padded_append, starts, padded]
      exact (List.prefix_append_right_inj _).2 (List.cons_prefix_cons.2 ⟨rfl, List.nil_prefix⟩)
    rw [← padded_eq_intercalate nonempty, List.append_assoc, padded_append]
    exact begins.isInfix.trans (List.suffix_append _ _).isInfix

end Padding

end PageSelectors.Text
