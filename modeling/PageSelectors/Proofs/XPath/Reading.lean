import PageSelectors.Proofs.XPath.Grammar

/-!
How the readers of expressions go together. What reads as an expression of a level does so before
anything that does not go on an expression of that level, with fuel that its length allows.
-/

namespace PageSelectors.XPath

def Rests (rest : List Token) : Prop :=
  rest.head? ≠ some (.mark '[') ∧ rest.head? ≠ some (.mark '/')

structure Ends (level : Nat) (rest : List Token) : Prop where
  rests : Rests rest
  unjoined : ∀ other, level ≤ other → operator? other rest = none

theorem Ends.next {level : Nat} {rest : List Token} (ends : Ends level rest) :
    Ends (level + 1) rest :=
  ⟨ends.rests, fun other above => ends.unjoined other (Nat.le_of_succ_le above)⟩

def Joins (level : Nat) (sign : Token) (operator : Operator) : Prop :=
  ∀ rest, operator? level (sign :: rest) = some (operator, rest)

theorem Joins.ends {level : Nat} {sign : Token} {operator : Operator}
    (joins : Joins level sign operator) (rest : List Token) : Ends (level + 1) (sign :: rest) := by
  have joined := joins rest
  unfold operator? at joined
  split at joined
  case h_6 => simp at joined
  all_goals
    rename_i same
    obtain ⟨rfl, rfl⟩ := List.cons.inj same
    refine ⟨by simp [Rests], fun other above => ?_⟩
    unfold operator?
    split <;> simp_all

theorem ends_mark {c : Char} (closes : c ∈ [')', ']', ',']) (level : Nat) (rest : List Token) :
    Ends level (.mark c :: rest) := by
  simp only [List.mem_cons, List.not_mem_nil, or_false] at closes
  rcases closes with rfl | rfl | rfl
  all_goals
    refine ⟨by simp [Rests], fun other _ => ?_⟩
    unfold operator?
    split <;> simp_all

structure Reads (level : Nat) (tokens : List Token) (expression : Expression) : Prop where
  starts : ∃ first others, tokens = first :: others ∧ first ≠ .mark ')'
  read : ∀ fuel rest, Ends level rest → 16 * tokens.length ≤ fuel + level →
    readLevel fuel level (tokens ++ rest) = some (expression, rest)

namespace Reads

variable {level : Nat} {tokens left right : List Token} {expression first second : Expression}

theorem length_pos (reads : Reads level tokens expression) : 1 ≤ tokens.length := by
  obtain ⟨_, others, rfl, -⟩ := reads.starts
  simp

theorem starts_append (reads : Reads level tokens expression) (rest : List Token) :
    ∃ first others, tokens ++ rest = first :: others ∧ first ≠ .mark ')' := by
  obtain ⟨first, others, rfl, other⟩ := reads.starts
  exact ⟨first, others ++ rest, rfl, other⟩

theorem weaken (below : level < 3) (reads : Reads (level + 1) tokens expression) :
    Reads level tokens expression where
  starts := reads.starts
  read := by
    intro fuel rest ends enough
    have filled := reads.length_pos
    obtain ⟨fuel, rfl⟩ : ∃ less, fuel = less + 2 := ⟨fuel - 2, by omega⟩
    have readWhole := reads.read (fuel + 1) rest ends.next (by omega)
    rw [readLevel, if_pos below, readWhole]
    simp [readMore, ends.unjoined level (Nat.le_refl _)]

theorem lower {low : Nat} (reads : Reads level tokens expression) (below : low ≤ level)
    (bounded : level ≤ 3) : Reads low tokens expression := by
  induction level with
  | zero =>
      obtain rfl := Nat.le_zero.1 below
      exact reads
  | succ level ih =>
      rcases Nat.le_or_eq_of_le_succ below with lower | rfl
      · exact ih (reads.weaken bounded) lower (Nat.le_of_succ_le bounded)
      · exact reads

theorem outermost (reads : Reads 3 tokens expression) : Reads 0 tokens expression :=
  reads.lower (Nat.zero_le 3) (Nat.le_refl 3)

theorem binary {operator : Operator} {sign : Token} (below : level < 3)
    (readsLeft : Reads (level + 1) left first) (readsRight : Reads (level + 1) right second)
    (joins : Joins level sign operator) :
    Reads level (left ++ sign :: right) (.binary operator first second) where
  starts := readsLeft.starts_append _
  read := by
    intro fuel rest endsRest enough
    simp only [List.length_append, List.length_cons] at enough
    -- The level, the operator after the left side and the end after the right side take one each.
    obtain ⟨fuel, rfl⟩ : ∃ less, fuel = less + 3 := ⟨fuel - 3, by omega⟩
    have readLeft := readsLeft.read (fuel + 2) (sign :: (right ++ rest)) (joins.ends _)
      (by omega)
    have readRight := readsRight.read (fuel + 1) rest endsRest.next (by omega)
    rw [List.append_assoc, List.cons_append, readLevel, if_pos below, readLeft]
    simp [readMore, joins _, readRight, endsRest.unjoined level (Nat.le_refl _)]

theorem binary_binary {third : Expression} {middle : List Token} {inner outer : Operator}
    {sign last : Token} (below : level < 3) (readsLeft : Reads (level + 1) left first)
    (readsMiddle : Reads (level + 1) middle second) (readsRight : Reads (level + 1) right third)
    (joins : Joins level sign inner) (joinsLast : Joins level last outer) :
    Reads level (left ++ sign :: (middle ++ last :: right))
      (.binary outer (.binary inner first second) third) where
  starts := readsLeft.starts_append _
  read := by
    intro fuel rest endsRest enough
    simp only [List.length_append, List.length_cons] at enough
    obtain ⟨fuel, rfl⟩ : ∃ less, fuel = less + 4 := ⟨fuel - 4, by omega⟩
    have readLeft := readsLeft.read (fuel + 3) (sign :: (middle ++ last :: (right ++ rest)))
      (joins.ends _) (by omega)
    have readMiddle := readsMiddle.read (fuel + 2) (last :: (right ++ rest)) (joinsLast.ends _)
      (by omega)
    have readRight := readsRight.read (fuel + 1) rest endsRest.next (by omega)
    rw [List.append_assoc, List.cons_append, List.append_assoc, List.cons_append, readLevel,
      if_pos below, readLeft]
    simp [readMore, joins _, joinsLast _, readMiddle, readRight,
      endsRest.unjoined level (Nat.le_refl _)]

theorem literal (value : String) : Reads 3 [.literal value] (.literal value) where
  starts := ⟨_, [], rfl, by simp⟩
  read := by
    intro fuel rest _ enough
    simp only [List.length_singleton] at enough
    obtain ⟨fuel, rfl⟩ : ∃ less, fuel = less + 2 := ⟨fuel - 2, by omega⟩
    rfl

theorem number (value : Nat) : Reads 3 [.number value] (.number value) where
  starts := ⟨_, [], rfl, by simp⟩
  read := by
    intro fuel rest _ enough
    simp only [List.length_singleton] at enough
    obtain ⟨fuel, rfl⟩ : ∃ less, fuel = less + 2 := ⟨fuel - 2, by omega⟩
    rfl

end Reads

/-- Whether tokens, read after an argument, are the further arguments of a call and its bracket. -/
structure ReadsOthers (first : Expression) (tokens : List Token) (arguments : List Expression) :
    Prop where
  filled : 1 ≤ tokens.length
  ends : ∀ rest, Ends 0 (tokens ++ rest)
  read : ∀ fuel rest, 16 * tokens.length ≤ fuel →
    readOthers fuel first (tokens ++ rest) = some (arguments, rest)

def ReadsArguments (tokens : List Token) (arguments : List Expression) : Prop :=
  ∀ fuel rest, 16 * tokens.length ≤ fuel →
    readArguments fuel (tokens ++ rest) = some (arguments, rest)

section Calls

variable {tokens others : List Token} {first second : Expression} {arguments : List Expression}

theorem ReadsOthers.none (first : Expression) : ReadsOthers first [.mark ')'] [first] where
  filled := Nat.le_refl 1
  ends := ends_mark (by decide) 0
  read := by
    intro fuel rest enough
    simp only [List.length_singleton] at enough
    obtain ⟨fuel, rfl⟩ : ∃ less, fuel = less + 1 := ⟨fuel - 1, by omega⟩
    rfl

theorem ReadsOthers.more (reads : Reads 0 tokens second)
    (readsOthers : ReadsOthers second others arguments) :
    ReadsOthers first (.mark ',' :: (tokens ++ others)) (first :: arguments) where
  filled := by simp
  ends := fun rest => ends_mark (by decide) 0 _
  read := by
    intro fuel rest enough
    simp only [List.length_append, List.length_cons] at enough
    obtain ⟨fuel, rfl⟩ : ∃ less, fuel = less + 1 := ⟨fuel - 1, by omega⟩
    have readSecond := reads.read fuel (others ++ rest) (readsOthers.ends rest) (by omega)
    rw [List.cons_append, List.append_assoc, readOthers, readSecond]
    simp [readsOthers.read fuel rest (by omega)]

theorem ReadsArguments.none : ReadsArguments [.mark ')'] [] := by
  intro fuel rest enough
  simp only [List.length_singleton] at enough
  obtain ⟨fuel, rfl⟩ : ∃ less, fuel = less + 1 := ⟨fuel - 1, by omega⟩
  rfl

theorem ReadsArguments.some (reads : Reads 0 tokens first)
    (readsOthers : ReadsOthers first others arguments) :
    ReadsArguments (tokens ++ others) arguments := by
  intro fuel rest enough
  simp only [List.length_append] at enough
  have filled := reads.length_pos
  have filledOthers := readsOthers.filled
  obtain ⟨fuel, rfl⟩ : ∃ less, fuel = less + 1 := ⟨fuel - 1, by omega⟩
  have readFirst := reads.read fuel (others ++ rest) (readsOthers.ends rest) (by omega)
  have readRest := readsOthers.read fuel rest (by omega)
  obtain ⟨head, tail, same, other⟩ := reads.starts_append (others ++ rest)
  rw [List.append_assoc, readArguments, readFirst]
  · exact readRest
  · intro rest closes
    rw [same] at closes
    exact other (List.cons.inj closes).1

theorem Reads.call {name : String} {function : Function} (known : function? name = some function)
    (reads : ReadsArguments tokens arguments) :
    Reads 3 (.word name :: .mark '(' :: tokens) (.call function arguments) where
  starts := ⟨_, _, rfl, by simp⟩
  read := by
    intro fuel rest _ enough
    simp only [List.length_cons] at enough
    obtain ⟨fuel, rfl⟩ : ∃ less, fuel = less + 2 := ⟨fuel - 2, by omega⟩
    have called : call? (.word name :: .mark '(' :: (tokens ++ rest)) =
        some (function, tokens ++ rest) := by
      rw [call?, known]
      rfl
    have readAll := reads fuel rest (by omega)
    rw [List.cons_append, List.cons_append, readLevel, if_neg (by decide), readPrimary, called]
    · simp [readAll]
    all_goals simp

end Calls

section Paths

inductive Heads : List Token → Direction → Test → Prop where
  | attribute (name : String) : Heads [.mark '@', .name name] .attribute (.name name)
  | text : Heads [.word "text", .mark '(', .mark ')'] .child .text
  | name {axis : String} {direction : Direction} (known : direction? axis = some direction)
      (name : String) : Heads [.word axis, .along, .name name] direction (.name name)
  | any {axis : String} {direction : Direction} (known : direction? axis = some direction) :
      Heads [.word axis, .along, .mark '*'] direction .any

def ReadsPredicates (tokens : List Token) (predicates : List Expression) : Prop :=
  ∀ fuel rest, rest.head? ≠ some (.mark '[') → 16 * tokens.length < fuel →
    readPredicates fuel (tokens ++ rest) = some (predicates, rest)

structure ReadsSteps (tokens : List Token) (steps : List PathStep) : Prop where
  heads : ∃ head direction test others, Heads head direction test ∧ tokens = head ++ others
  read : ∀ fuel rest, Rests rest → 16 * tokens.length ≤ fuel + 5 →
    readSteps fuel (tokens ++ rest) = some (steps, rest)

variable {head tokens others : List Token} {direction : Direction} {test : Test}
variable {expression : Expression} {predicates : List Expression} {steps : List PathStep}

namespace Heads

theorem nodeTest?_append (heads : Heads head direction test) (rest : List Token) :
    nodeTest? (head ++ rest) = some ((direction, test), rest) := by
  cases heads with
  | «attribute» | text => rfl
  | name known | any known => simp [nodeTest?, known]

theorem call?_append (heads : Heads head direction test) (rest : List Token) :
    call? (head ++ rest) = none := by
  cases heads <;> rfl

theorem length_le (heads : Heads head direction test) : 2 ≤ head.length := by
  cases heads <;> simp

theorem starts (heads : Heads head direction test) (rest : List Token) :
    ∃ first others, head ++ rest = first :: others ∧ first ≠ .mark ')' ∧
      (∀ value, first ≠ .literal value) ∧ ∀ value, first ≠ .number value := by
  cases heads <;> exact ⟨_, _, rfl, by simp⟩

end Heads

theorem ReadsPredicates.nil : ReadsPredicates [] [] := by
  intro fuel rest other enough
  obtain ⟨fuel, rfl⟩ : ∃ less, fuel = less + 1 := ⟨fuel - 1, by omega⟩
  rw [List.nil_append, readPredicates]
  rintro rest rfl
  exact other rfl

theorem ReadsPredicates.cons (reads : Reads 0 tokens expression)
    (readsOthers : ReadsPredicates others predicates) :
    ReadsPredicates (.mark '[' :: (tokens ++ .mark ']' :: others)) (expression :: predicates) := by
  intro fuel rest other enough
  simp only [List.length_cons, List.length_append] at enough
  obtain ⟨fuel, rfl⟩ : ∃ less, fuel = less + 1 := ⟨fuel - 1, by omega⟩
  have readOne := reads.read fuel (.mark ']' :: (others ++ rest)) (ends_mark (by decide) 0 _)
    (by omega)
  have readRest := readsOthers fuel rest other (by omega)
  rw [List.cons_append, List.append_assoc, List.cons_append, readPredicates, readOne]
  simp [expect, readRest]

theorem ReadsSteps.last (heads : Heads head direction test)
    (reads : ReadsPredicates tokens predicates) :
    ReadsSteps (head ++ tokens) [.along direction test predicates] where
  heads := ⟨_, _, _, _, heads, rfl⟩
  read := by
    intro fuel rest rests enough
    have long := heads.length_le
    simp only [List.length_append] at enough
    obtain ⟨fuel, rfl⟩ : ∃ less, fuel = less + 1 := ⟨fuel - 1, by omega⟩
    have readAll := reads fuel rest rests.1 (by omega)
    rw [List.append_assoc, readSteps, heads.nodeTest?_append]
    simp only [Option.bind_eq_bind, Option.bind_some, readAll]
    split
    · next after => exact (rests.2 rfl).elim
    · rfl

theorem ReadsSteps.more (heads : Heads head direction test)
    (reads : ReadsPredicates tokens predicates) (readsSteps : ReadsSteps others steps) :
    ReadsSteps (head ++ (tokens ++ .mark '/' :: others))
      (.along direction test predicates :: steps) where
  heads := ⟨_, _, _, _, heads, rfl⟩
  read := by
    intro fuel rest rests enough
    have long := heads.length_le
    simp only [List.length_append, List.length_cons] at enough
    obtain ⟨fuel, rfl⟩ : ∃ less, fuel = less + 1 := ⟨fuel - 1, by omega⟩
    have readAll := reads fuel (.mark '/' :: (others ++ rest)) (by simp) (by omega)
    have readRest := readsSteps.read fuel rest rests (by omega)
    rw [List.append_assoc, readSteps, heads.nodeTest?_append, List.append_assoc, List.cons_append]
    simp [readAll, readRest]

theorem Reads.path (reads : ReadsSteps tokens steps) : Reads 3 tokens (.path steps) where
  starts := by
    obtain ⟨head, _, _, others, heads, rfl⟩ := reads.heads
    obtain ⟨first, others, same, other, -⟩ := heads.starts others
    exact ⟨first, others, same, other⟩
  read := by
    intro fuel rest ends enough
    obtain ⟨head, _, _, others, heads, rfl⟩ := reads.heads
    have long := heads.length_le
    simp only [List.length_append] at enough
    obtain ⟨fuel, rfl⟩ : ∃ less, fuel = less + 2 := ⟨fuel - 2, by omega⟩
    have readAll := reads.read fuel rest ends.rests (by simp only [List.length_append]; omega)
    obtain ⟨first, tail, same, -, noLiteral, noNumber⟩ := heads.starts (others ++ rest)
    rw [readLevel, if_neg (by decide)]
    rw [List.append_assoc] at readAll ⊢
    rw [readPrimary, heads.call?_append, readAll]
    · rfl
    · rintro value after whole
      rw [same] at whole
      exact noLiteral value (List.cons.inj whole).1
    · rintro value after whole
      rw [same] at whole
      exact noNumber value (List.cons.inj whole).1

end Paths

end PageSelectors.XPath
