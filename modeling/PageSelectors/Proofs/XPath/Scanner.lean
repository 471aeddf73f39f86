import Mathlib.Data.List.Infix

/-!
Reading an XPath text from the left. A literal runs from a quote to the next quote of its kind;
outside literals, brackets are counted, and a slash at depth zero cuts the text.
-/

namespace PageSelectors.XPath

/-- Where a reader stands: how many brackets are open, and by which quote a literal is. -/
structure Scan where
  depth : Int
  literal : Option Char
  deriving DecidableEq, Repr

namespace Scan

def start : Scan :=
  ⟨0, none⟩

def next (state : Scan) (c : Char) : Scan :=
  match state.literal with
  | some mark => if c = mark then { state with literal := none } else state
  | none =>
      if c = '\'' ∨ c = '"' then { state with literal := some c }
      else if c = '[' then { state with depth := state.depth + 1 }
      else if c = ']' then { state with depth := state.depth - 1 }
      else state

def run (state : Scan) (text : List Char) : Scan :=
  text.foldl next state

variable {state : Scan} {text before after : List Char}

@[simp] theorem run_nil (state : Scan) : state.run [] = state := rfl

@[simp] theorem run_cons (state : Scan) (c : Char) (rest : List Char) :
    state.run (c :: rest) = (state.next c).run rest := rfl

@[simp] theorem run_append (state : Scan) (before after : List Char) :
    state.run (before ++ after) = (state.run before).run after :=
  List.foldl_append

theorem next_shift (depth : Int) (state : Scan) (c : Char) :
    (⟨depth + state.depth, state.literal⟩ : Scan).next c =
      ⟨depth + (state.next c).depth, (state.next c).literal⟩ := by
  obtain ⟨inner, literal⟩ := state
  unfold next
  cases literal with
  | some mark =>
      by_cases closes : c = mark
      · simp [closes]
      · simp [closes]
  | none =>
      by_cases quote : c = '\'' ∨ c = '"'
      · simp [quote]
      · by_cases opens : c = '['
        · simp [opens, Int.add_assoc]
        · by_cases closes : c = ']'
          · simp [closes, Int.add_sub_assoc]
          · simp [quote, opens, closes]

/-- Reading does not depend on how many brackets are open outside. -/
theorem run_shift (depth : Int) (state : Scan) (text : List Char) :
    (⟨depth + state.depth, state.literal⟩ : Scan).run text =
      ⟨depth + (state.run text).depth, (state.run text).literal⟩ := by
  induction text generalizing state with
  | nil => rfl
  | cons c rest ih =>
      rw [run_cons, run_cons, next_shift]
      exact ih (state.next c)

end Scan

/-- A text in which no bracket is closed that was not opened, and at whose end every bracket and
literal is closed. -/
structure Balanced (text : List Char) : Prop where
  above : ∀ before, before <+: text → 0 ≤ (Scan.start.run before).depth
  returns : Scan.start.run text = .start

/-- A bracket group: a bracket, and what stands up to where it is closed again. -/
structure IsGroup (group : List Char) : Prop where
  opens : group.head? = some '['
  inside : ∀ before, before <+: group → before ≠ [] → before ≠ group →
    0 < (Scan.start.run before).depth
  returns : Scan.start.run group = .start

def glue (text : List Char) : List (List Char) → List (List Char)
  | [] => [text]
  | first :: others => (text ++ first) :: others

def split (state : Scan) : List Char → List (List Char)
  | [] => [[]]
  | c :: rest =>
      if c = '/' ∧ state = .start then [] :: split state rest
      else glue [c] (split (state.next c) rest)

def isPlainChar (c : Char) : Bool :=
  c ≠ '\'' && c ≠ '"' && c ≠ '[' && c ≠ ']'

theorem prefix_append_iff {before left right : List Char} :
    before <+: left ++ right ↔
      before <+: left ∨ ∃ rest, rest <+: right ∧ before = left ++ rest := by
  constructor
  · intro initial
    rcases List.prefix_or_prefix_of_prefix initial (List.prefix_append left right) with
      inside | ⟨rest, rfl⟩
    · exact .inl inside
    · exact .inr ⟨rest, (List.prefix_append_right_inj left).1 initial, rfl⟩
  · rintro (inside | ⟨rest, inside, rfl⟩)
    · exact List.prefix_append_of_prefix inside
    · exact (List.prefix_append_right_inj left).2 inside

namespace Balanced

variable {left right text : List Char}

theorem append (first : Balanced left) (second : Balanced right) : Balanced (left ++ right) where
  above := by
    intro before initial
    rcases prefix_append_iff.1 initial with inside | ⟨rest, inside, rfl⟩
    · exact first.above before inside
    · rw [Scan.run_append, first.returns]
      exact second.above rest inside
  returns := by
    rw [Scan.run_append, first.returns, second.returns]

theorem of_append (whole : Balanced (left ++ right)) (first : Balanced left) : Balanced right where
  above := by
    intro before inside
    have initial : left ++ before <+: left ++ right := (List.prefix_append_right_inj left).2 inside
    simpa only [Scan.run_append, first.returns] using whole.above _ initial
  returns := by
    simpa only [Scan.run_append, first.returns] using whole.returns

theorem run_plain (depth : Int) (plain : ∀ c ∈ text, isPlainChar c = true) :
    (⟨depth, none⟩ : Scan).run text = ⟨depth, none⟩ := by
  induction text with
  | nil => rfl
  | cons c rest ih =>
      obtain ⟨first, others⟩ := List.forall_mem_cons.1 plain
      have stays : (⟨depth, none⟩ : Scan).next c = ⟨depth, none⟩ := by
        simp only [isPlainChar, Bool.and_eq_true, decide_eq_true_eq] at first
        simp [Scan.next, first]
      rw [Scan.run_cons, stays]
      exact ih others

theorem of_plain (plain : ∀ c ∈ text, isPlainChar c = true) : Balanced text where
  above := by
    intro before initial
    have stays := run_plain 0 fun c member => plain c (initial.subset member)
    exact Int.le_of_eq (congrArg Scan.depth stays).symm
  returns := run_plain 0 plain

theorem run_literal (depth : Int) {mark : Char} (inside : mark ∉ text) :
    (⟨depth, some mark⟩ : Scan).run text = ⟨depth, some mark⟩ := by
  induction text with
  | nil => rfl
  | cons c rest ih =>
      rw [List.mem_cons, not_or] at inside
      have stays : (⟨depth, some mark⟩ : Scan).next c = ⟨depth, some mark⟩ := by
        simp [Scan.next, Ne.symm inside.1]
      rw [Scan.run_cons, stays]
      exact ih inside.2

theorem literal {mark : Char} (quote : mark = '\'' ∨ mark = '"') (inside : mark ∉ text) :
    Balanced (mark :: text ++ [mark]) where
  above := by
    have opened : Scan.start.next mark = ⟨0, some mark⟩ := by
      simp [Scan.start, Scan.next, quote]
    intro before initial
    rw [List.cons_append, List.prefix_cons_iff] at initial
    rcases initial with rfl | ⟨rest, rfl, initial⟩
    · decide
    · rw [Scan.run_cons, opened]
      rcases List.prefix_concat_iff.1 initial with rfl | within
      · rw [Scan.run_append, run_literal 0 inside]
        simp [Scan.next]
      · have stays := run_literal 0 fun member => inside (within.subset member)
        exact Int.le_of_eq (congrArg Scan.depth stays).symm
  returns := by
    have opened : Scan.start.next mark = ⟨0, some mark⟩ := by
      simp [Scan.start, Scan.next, quote]
    rw [List.cons_append, Scan.run_cons, opened, Scan.run_append, run_literal 0 inside]
    simp [Scan.next, Scan.start]

theorem isGroup (inner : Balanced text) : IsGroup ('[' :: text ++ [']']) where
  opens := rfl
  inside := by
    intro before initial nonempty proper
    have deep {rest : List Char} (within : rest <+: text) :
        0 < (Scan.start.run ('[' :: rest)).depth := by
      have shifted := Scan.run_shift 1 .start rest
      have above := inner.above rest within
      have opened : Scan.start.next '[' = ⟨1 + Scan.start.depth, Scan.start.literal⟩ := by decide
      rw [Scan.run_cons, opened, shifted]
      dsimp only
      omega
    rw [List.cons_append, List.prefix_cons_iff] at initial
    rcases initial with rfl | ⟨rest, rfl, initial⟩
    · exact absurd rfl nonempty
    · rcases List.prefix_concat_iff.1 initial with rfl | within
      · exact absurd rfl proper
      · exact deep within
  returns := by
    have opened : Scan.start.next '[' = ⟨1 + Scan.start.depth, Scan.start.literal⟩ := by decide
    rw [List.cons_append, Scan.run_cons, opened, Scan.run_append, Scan.run_shift, inner.returns]
    decide

theorem iff_inits : Balanced text ↔
    (∀ before ∈ text.inits, 0 ≤ (Scan.start.run before).depth) ∧
      Scan.start.run text = .start := by
  simp only [List.mem_inits]
  exact ⟨fun balanced => ⟨balanced.above, balanced.returns⟩, fun ⟨above, returns⟩ =>
    ⟨above, returns⟩⟩

instance (text : List Char) : Decidable (Balanced text) :=
  decidable_of_iff _ iff_inits.symm

end Balanced

theorem IsGroup.balanced {group : List Char} (isGroup : IsGroup group) : Balanced group where
  above := by
    intro before initial
    by_cases empty : before = []
    · rw [empty]
      decide
    · by_cases whole : before = group
      · rw [whole, isGroup.returns]
        decide
      · exact Int.le_of_lt (isGroup.inside before initial empty whole)
  returns := isGroup.returns

def Uncut (text : List Char) : Prop :=
  ∀ before after, text = before ++ '/' :: after → Scan.start.run before ≠ .start

namespace Uncut

variable {left right text : List Char}

theorem of_not_mem (absent : '/' ∉ text) : Uncut text := by
  rintro before after rfl
  simp at absent

theorem of_isGroup (isGroup : IsGroup text) : Uncut text := by
  rintro before after rfl same
  have deep := isGroup.inside before (List.prefix_append _ _) ?_ (by simp)
  · rw [same] at deep
    exact absurd deep (by decide)
  · rintro rfl
    simpa using isGroup.opens

theorem append (balanced : Balanced left) (first : Uncut left) (second : Uncut right) :
    Uncut (left ++ right) := by
  intro before after same
  rcases List.append_eq_append_iff.1 same with ⟨rest, rfl, inside⟩ | ⟨rest, rfl, inside⟩
  · rw [Scan.run_append, balanced.returns]
    exact second rest after inside
  · cases rest with
    | nil =>
        rw [List.append_nil] at balanced
        exact absurd rfl (second [] after inside.symm)
    | cons c rest =>
        obtain ⟨rfl, rfl⟩ := List.cons.inj inside
        exact first before rest rfl

end Uncut

theorem split_ne_nil (state : Scan) (text : List Char) : split state text ≠ [] := by
  cases text with
  | nil => simp [split]
  | cons c rest =>
      rw [split]
      split
      · simp
      · cases split (state.next c) rest with
        | nil => simp [glue]
        | cons first others => simp [glue]

theorem split_append {state : Scan} {text rest : List Char}
    (uncut : ∀ before after, text = before ++ '/' :: after → state.run before ≠ .start) :
    split state (text ++ rest) = glue text (split (state.run text) rest) := by
  induction text generalizing state with
  | nil =>
      rw [List.nil_append, Scan.run_nil]
      cases pieces : split state rest with
      | nil => exact absurd pieces (split_ne_nil state rest)
      | cons first others => rfl
  | cons c tail ih =>
      have cuts : ¬ (c = '/' ∧ state = .start) := by
        rintro ⟨rfl, same⟩
        exact uncut [] tail rfl same
      rw [List.cons_append, split, if_neg cuts, ih, Scan.run_cons]
      · cases split ((state.next c).run tail) rest with
        | nil => rfl
        | cons first others => rfl
      · rintro before after rfl
        exact uncut (c :: before) after rfl

/-- Balanced pieces without a cut, each after a slash, are found again by splitting. -/
theorem split_pieces {pieces : List (List Char)}
    (solid : ∀ piece ∈ pieces, Balanced piece ∧ Uncut piece) :
    split .start (pieces.map ('/' :: ·)).flatten = [] :: pieces := by
  induction pieces with
  | nil => rfl
  | cons piece rest ih =>
      obtain ⟨⟨balanced, uncut⟩, others⟩ := List.forall_mem_cons.1 solid
      rw [List.map_cons, List.flatten_cons, List.cons_append, split, if_pos ⟨rfl, rfl⟩,
        split_append uncut, balanced.returns, ih others, glue, List.append_nil]

end PageSelectors.XPath
