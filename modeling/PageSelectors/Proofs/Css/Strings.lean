import PageSelectors.Leaf
import PageSelectors.Proofs.Css.Compound

/-!
Strings of the CSS syntax. A string goes on to the quote that it starts with, and a line end that is
not escaped makes it a bad string. What is written for an operand is one whole string that stands
for the operand, unless there is a line end in it: the first one cuts the string off.
-/

namespace PageSelectors.Css

open Text (trim hasBlank)
open Outcome

inductive StringToken where
  | closed (value : List Char) (rest : List Symbol)
  /-- A string that is cut off, and what stands there from the line end on. -/
  | bad (rest : List Symbol)
  | unclosed (value : List Char)
  deriving DecidableEq, Repr

namespace StringToken

def push (c : Char) : StringToken → StringToken
  | closed value rest => closed (c :: value) rest
  | bad rest => bad rest
  | unclosed value => unclosed (c :: value)

def read (close : Char) : List Symbol → StringToken
  | [] => unclosed []
  | .plain c :: rest =>
      if c = close then closed [] rest
      else if isLineEnd c then bad (.plain c :: rest)
      else (read close rest).push c
  | .escaped c :: rest => (read close rest).push c
  | .lineEnd :: rest => read close rest

def closed? : StringToken → Option (List Char × List Symbol)
  | closed value rest => some (value, rest)
  | _ => none

end StringToken

def stringToken? : List Symbol → Option StringToken
  | .plain c :: rest => if c = '\'' ∨ c = '"' then some (.read c rest) else none
  | _ => none

def prepareChar (c : Char) : Char :=
  if isLineEnd c then '\n' else if c = '\x00' then '\uFFFD' else c

/-- A text as the syntax takes it up: all line ends are newlines, and there are no nulls. -/
def prepare : List Char → List Char
  | [] => []
  | '\r' :: '\n' :: rest => '\n' :: prepare rest
  | c :: rest => prepareChar c :: prepare rest

def HasLineEnd (text : List Char) : Prop :=
  ∃ c ∈ text, isLineEnd c

instance (text : List Char) : Decidable (HasLineEnd text) :=
  inferInstanceAs (Decidable (∃ c ∈ text, _))

def fromLineEnd (text : List Char) : List Char :=
  text.dropWhile fun c => !isLineEnd c

section Reading

theorem hasLineEnd_cons {c : Char} {text : List Char} :
    HasLineEnd (c :: text) ↔ isLineEnd c ∨ HasLineEnd text := by
  simp [HasLineEnd]

theorem isLineEnd_of_special {c : Char} (special : c = '\'' ∨ c = '\\') : isLineEnd c = false := by
  rcases special with rfl | rfl <;> decide

theorem stringBody_eq (close : Char) (symbols : List Symbol) :
    stringBody close symbols = (StringToken.read close symbols).closed? := by
  have pushed (c : Char) (token : StringToken) :
      (token.push c).closed? = token.closed?.map fun read => (c :: read.1, read.2) := by
    cases token <;> rfl
  induction symbols with
  | nil => rfl
  | cons symbol symbols ih =>
      cases symbol with
      | plain c =>
          rw [stringBody, StringToken.read]
          split
          · rfl
          · split
            · rfl
            · rw [pushed, ih]
      | escaped c => rw [stringBody, StringToken.read, pushed, ih]
      | lineEnd => rw [stringBody, StringToken.read, ih]

/-- The reader of selectors takes a string only if it is closed. -/
theorem string?_eq (symbols : List Symbol) :
    string? symbols =
      ((stringToken? symbols).bind StringToken.closed?).map fun (value, rest) =>
        (String.ofList value, rest) := by
  match symbols with
  | [] | .escaped _ :: _ | .lineEnd :: _ => rfl
  | .plain c :: rest =>
      rw [string?, stringToken?]
      split
      · rw [stringBody_eq]
        rfl
      · rfl

/-- What is read from an operand as it is written, and from what stands after it. -/
theorem read_quoted (operand : List Char) (rest : List Symbol) :
    StringToken.read '\'' (operand.map quoted ++ .plain '\'' :: rest) =
      if HasLineEnd operand then
        .bad ((fromLineEnd operand).map quoted ++ .plain '\'' :: rest)
      else .closed operand rest := by
  induction operand with
  | nil =>
      have clean : ¬ HasLineEnd [] := by simp [HasLineEnd]
      rw [List.map_nil, List.nil_append, StringToken.read, if_pos rfl, if_neg clean]
  | cons c operand ih =>
      rw [List.map_cons, List.cons_append, fromLineEnd, List.dropWhile_cons]
      simp only [hasLineEnd_cons]
      by_cases special : c = '\'' ∨ c = '\\'
      · have inLine := isLineEnd_of_special special
        rw [quoted, if_pos special, StringToken.read, ih]
        simp only [inLine, Bool.not_false, ↓reduceIte, Bool.false_eq_true, false_or]
        split <;> rfl
      · have other : c ≠ '\'' := fun same => special (.inl same)
        rw [quoted, if_neg special, StringToken.read, if_neg other, ih]
        cases ends : isLineEnd c with
        | true => simp [quoted, special]
        | false =>
            simp only [Bool.not_false, ↓reduceIte, Bool.false_eq_true, false_or]
            split <;> rfl

theorem stringToken?_symbols_quote (operand : String) (rest : List Char) :
    stringToken? (symbols ((quote operand).toList ++ rest)) =
      some (if HasLineEnd operand.toList then
        .bad ((fromLineEnd operand.toList).map quoted ++ .plain '\'' :: symbols rest)
      else .closed operand.toList (symbols rest)) := by
  rw [symbols_quote, stringToken?, if_pos (.inl rfl), read_quoted]

theorem char_quoted (c : Char) : (quoted c).char = c := by
  unfold quoted
  split <;> rfl

theorem quote_injective : Function.Injective quote := by
  intro first second same
  have read : symbols ((quote first).toList ++ []) = symbols ((quote second).toList ++ []) := by
    rw [same]
  rw [symbols_quote, symbols_quote, symbols_nil] at read
  have inner : first.toList.map quoted = second.toList.map quoted :=
    List.append_cancel_right (List.cons.inj read).2
  have chars := congrArg (List.map Symbol.char) inner
  have back : Symbol.char ∘ quoted = id := funext char_quoted
  rw [List.map_map, List.map_map, back, List.map_id, List.map_id] at chars
  exact String.toList_inj.1 chars

end Reading

section Preparation

theorem prepare_cons {c : Char} {rest : List Char}
    (apart : c = '\r' → rest.head? ≠ some '\n') :
    prepare (c :: rest) = prepareChar c :: prepare rest := by
  rw [prepare]
  rintro tail rfl rfl
  exact apart rfl rfl

theorem head?_escape_append {operand rest : List Char} (other : operand.head? ≠ some '\n')
    (otherRest : rest.head? ≠ some '\n') : (escape operand ++ rest).head? ≠ some '\n' := by
  cases operand with
  | nil => exact otherRest
  | cons c operand =>
      rw [escape]
      split
      · simp
      · simpa using other

/-- Escapes and the preparation of a text do not meet. -/
theorem prepare_escape_append (operand : List Char) {rest : List Char}
    (other : rest.head? ≠ some '\n') :
    prepare (escape operand ++ rest) = escape (prepare operand) ++ prepare rest := by
  induction operand using prepare.induct with
  | case1 => rfl
  | case2 operand ih =>
      have newline : ¬('\n' = '\'' ∨ '\n' = '\\') := by decide
      have escaped : escape ('\r' :: '\n' :: operand) = '\r' :: '\n' :: escape operand := rfl
      rw [escaped, prepare, escape, if_neg newline, List.cons_append, List.cons_append, prepare, ih,
        List.cons_append]
  | case3 c operand apart ih =>
      have follows : c = '\r' → operand.head? ≠ some '\n' := by
        rintro rfl starts
        obtain ⟨tail, rfl⟩ : ∃ tail, operand = '\n' :: tail := by
          cases operand with
          | nil => simp at starts
          | cons d tail => exact ⟨tail, by simpa using starts⟩
        exact apart tail rfl rfl
      rw [prepare_cons follows]
      by_cases special : c = '\'' ∨ c = '\\'
      · have kept : prepareChar c = c := by
          rcases special with rfl | rfl <;> decide
        have noReturn : c ≠ '\r' := by
          rcases special with rfl | rfl <;> decide
        rw [kept, escape, if_pos special, escape, if_pos special, List.cons_append,
          List.cons_append, prepare_cons (by simp),
          prepare_cons (fun same => (noReturn same).elim), kept, ih]
        rfl
      · have plain : ¬(prepareChar c = '\'' ∨ prepareChar c = '\\') := by
          unfold prepareChar
          split
          · decide
          · split
            · decide
            · exact special
        rw [escape, if_neg special, escape, if_neg plain, List.cons_append,
          prepare_cons fun same => head?_escape_append (follows same) other, ih]
        rfl

theorem null_not_mem_prepare (text : List Char) : '\x00' ∉ prepare text := by
  induction text using prepare.induct with
  | case1 => simp [prepare]
  | case2 text ih => simp [prepare, ih]
  | case3 c text apart ih =>
      rw [prepare, List.mem_cons, not_or]
      · refine ⟨?_, ih⟩
        unfold prepareChar
        split
        · decide
        · split
          · decide
          · next other => exact Ne.symm other
      · exact apart

theorem prepare_eq_self {text : List Char} (clean : ∀ c ∈ text, isLineEnd c = false ∧ c ≠ '\x00') :
    prepare text = text := by
  induction text with
  | nil => rfl
  | cons c text ih =>
      obtain ⟨⟨sameLine, filled⟩, others⟩ := List.forall_mem_cons.1 clean
      have noReturn : c ≠ '\r' := by
        rintro rfl
        exact absurd sameLine (by decide)
      have kept : prepareChar c = c := by
        rw [prepareChar, sameLine, if_neg (by decide), if_neg filled]
      rw [prepare_cons fun same => (noReturn same).elim, kept, ih others]

theorem isClean_iff {operand : String} :
    IsClean operand ↔ ¬ HasLineEnd operand.toList ∧ '\x00' ∉ operand.toList := by
  constructor
  · intro clean
    refine ⟨?_, fun member => (clean _ member).2 rfl⟩
    rintro ⟨c, member, ends⟩
    simp [(clean c member).1] at ends
  · rintro ⟨sameLine, filled⟩ c member
    refine ⟨?_, fun null => filled (null ▸ member)⟩
    cases ends : isLineEnd c with
    | false => rfl
    | true => exact (sameLine ⟨c, member, ends⟩).elim

theorem prepare_quote (operand : String) :
    prepare (quote operand).toList = (quote (String.ofList (prepare operand.toList))).toList := by
  have opened (rest : List Char) : prepare ('\'' :: rest) = '\'' :: prepare rest :=
    prepare_cons (fun same => absurd same (by decide))
  rw [quote, quote, String.toList_ofList, String.toList_ofList, String.toList_ofList,
    List.cons_append, opened, prepare_escape_append _ (by decide)]
  rfl

theorem stringToken?_prepare_quote_eq_iff {operand : String} :
    stringToken? (symbols (prepare (quote operand).toList)) = some (.closed operand.toList []) ↔
      IsClean operand := by
  have read := stringToken?_symbols_quote (String.ofList (prepare operand.toList)) []
  rw [List.append_nil, String.toList_ofList] at read
  rw [prepare_quote, read, isClean_iff]
  constructor
  · intro closed
    split at closed
    · simp at closed
    · next sameLine =>
      have same : prepare operand.toList = operand.toList := by simpa using closed
      exact ⟨same ▸ sameLine, same ▸ null_not_mem_prepare operand.toList⟩
  · intro clean
    have same := prepare_eq_self (isClean_iff.2 clean)
    rw [same, if_neg clean.1, symbols_nil]

end Preparation

section Selectors

variable {text name operand : String}

theorem not_hasLineEnd_of_not_hasBlank (unbroken : hasBlank operand = false) :
    ¬ HasLineEnd operand.toList := by
  rintro ⟨c, member, ends⟩
  have solid : Text.isBlank c = false := by
    have all : ∀ c ∈ operand.toList, Text.isBlank c = false := by
      simpa [hasBlank] using unbroken
    exact all c member
  simp only [isLineEnd, Bool.or_eq_true, beq_iff_eq] at ends
  rcases ends with (rfl | rfl) | rfl <;> exact absurd solid (by decide)

theorem string?_quote_of_hasLineEnd (broken : HasLineEnd operand.toList) (rest : List Char) :
    string? (symbols ((quote operand).toList ++ rest)) = none := by
  rw [string?_eq, stringToken?_symbols_quote, if_pos broken]
  rfl

theorem simple?_attributeSelector_of_hasLineEnd (op : TextOp)
    (identifies : identifier? text = some name) (broken : HasLineEnd operand.toList)
    (rest : List Char) :
    simple? (symbols ((attributeSelector text (.compare op) operand).toList ++ rest)) =
      none := by
  have written : symbols ((attributeSelector text (.compare op) operand).toList ++ rest) =
      .plain '[' :: symbols (text.toList ++
        ((comparison op).toList ++ ((quote operand).toList ++ ']' :: rest))) := by
    simp only [attributeSelector, String.toList_append, List.append_assoc]
    rfl
  have noName : name? (symbols ((quote operand).toList ++ ']' :: rest)) = none := by
    rw [symbols_quote]
    rfl
  have noTest : test? (symbols ((comparison op).toList ++
      ((quote operand).toList ++ ']' :: rest))) = none := by
    rw [test?, comparison?_append]
    simp [string?_quote_of_hasLineEnd broken, noName]
  rw [written, simple?, name?_append identifies (stops_comparison op _)]
  simp [noTest]

theorem compound_of_unread {α : Type} {read : List Symbol → Option (α × List Symbol)}
    {part : Simple → α} {text : List Char} (opens : Opens text)
    (unread : read (symbols text) = none) :
    compound part read (symbols text) = ([], symbols text) := by
  rw [compound, element?_of_opens opens]
  cases (symbols text).length with
  | zero => rfl
  | succ fuel => simp [many, unread]

theorem compound?_eq_none_of_unread {text : String} (opens : Opens text.toList)
    (unread : part? (symbols text.toList) = none) : compound? text = none := by
  rw [compound?, compound_of_unread opens unread]

def quotedOperand? : Criterion Native → Option String
  | .shared (.attribute _ (.compare _) operand) => some operand
  | .native (.id value) => some (trim value)
  | _ => none

variable {condition : Condition Native}

theorem operand?_of_quotedOperand? (quotes : quotedOperand? condition.criterion = some operand) :
    operand? condition.criterion = some operand ∧ ¬ NamesElement condition := by
  obtain ⟨criterion, negated⟩ := condition
  match criterion with
  | .shared (.attribute _ (.compare _) _) | .native (.id _) => exact ⟨quotes, id⟩

theorem exists_attributeSelector {criterion : Criterion Native} {selectors : List Simple}
    (quotes : quotedOperand? criterion = some operand)
    (selects : criterionSelectors? criterion = some selectors) :
    ∃ text name op, identifier? text = some name ∧
      criterionText criterion = attributeSelector text (.compare op) operand := by
  cases criterion with
  | shared criterion =>
      cases criterion with
      | «attribute» label op value =>
          cases op with
          | isPresent => simp [quotedOperand?] at quotes
          | compare op =>
              rw [criterionSelectors?, Option.map_eq_some_iff] at selects
              obtain ⟨name, identifies, -⟩ := selects
              obtain rfl : value = operand := Option.some.inj quotes
              exact ⟨trim label, name, op, identifies, rfl⟩
      | classes => simp [quotedOperand?] at quotes
  | native criterion =>
      cases criterion with
      | id value =>
          obtain rfl : trim value = operand := Option.some.inj quotes
          exact ⟨"id", "id", .is, by decide, rfl⟩
      | tag | pseudo => simp [quotedOperand?] at quotes

theorem compound?_conditionText_of_hasLineEnd {parts : List Part}
    (quotes : quotedOperand? condition.criterion = some operand)
    (stand : conditionParts? condition = some parts) (broken : HasLineEnd operand.toList) :
    compound? (conditionText condition) = none := by
  obtain ⟨selectors, selects, -⟩ := Option.map_eq_some_iff.1 stand
  obtain ⟨text, name, op, identifies, written⟩ := exists_attributeSelector quotes selects
  have opens := opens_attribute text (.compare op) operand
  have unread := simple?_attributeSelector_of_hasLineEnd op identifies broken
  obtain ⟨criterion, negated⟩ := condition
  rw [conditionText, written]
  cases negated with
  | false =>
      apply compound?_eq_none_of_unread opens
      have noPart := unread []
      rw [List.append_nil] at noPart
      obtain ⟨rest, starts⟩ : ∃ rest, (attributeSelector text (.compare op) operand).toList =
          '[' :: rest := by
        simp only [attributeSelector, String.toList_append, List.append_assoc]
        exact ⟨_, rfl⟩
      rw [starts, symbols_cons _ (by decide)] at noPart
      rw [starts, symbols_cons _ (by decide), part?, noPart]
      · rfl
      · rintro _ ⟨⟩
  | true =>
      have split : (":not(" ++ attributeSelector text (.compare op) operand ++ ")").toList =
          ":not(".toList ++ ((attributeSelector text (.compare op) operand).toList ++ [')']) := by
        simp only [String.toList_append, List.append_assoc]
        rfl
      apply compound?_eq_none_of_unread
      · rw [if_pos rfl, split]
        exact opens_cons (by decide) _
      · have symbolsOf : symbols (":not(".toList ++
            ((attributeSelector text (.compare op) operand).toList ++ [')'])) =
            .plain ':' :: .plain 'n' :: .plain 'o' :: .plain 't' :: .plain '(' ::
              symbols ((attributeSelector text (.compare op) operand).toList ++ [')']) := rfl
        rw [if_pos rfl, split, symbolsOf, part?,
          compound_of_unread (opens.append _) (unread _)]
        rfl

theorem compound?_conditionText_of_isClean {parts : List Part}
    (quotes : quotedOperand? condition.criterion = some operand)
    (named : WellNamed condition.criterion) (stand : conditionParts? condition = some parts)
    (clean : IsClean operand) : compound? (conditionText condition) = some parts := by
  obtain ⟨held, nameless⟩ := operand?_of_quotedOperand? quotes
  have cleanAll : Clean condition.criterion := by
    intro other member
    rw [held] at member
    obtain rfl := Option.some.inj member
    exact clean
  have spells := spells_condition named stand cleanAll nameless
  have leads : Leads "".toList none := .nothing
  have read := compound?_of_spells leads spells
    (by simpa using conditionParts?_ne_nil named stand)
  rw [String.empty_append] at read
  exact read

end Selectors

/-- What is written for an operand is read as one string up to its last character, with the operand
for its value, exactly if the operand has no line end; else it is a bad string that is cut off at
the first line end. Taken up as the syntax says, the operand must have no null either. So with a
clean operand the text of an attribute condition or an id condition is read as the selector it
stands for; with a line end it is no selector at all. The value of an id never has one. -/
theorem stringToken?_quote (operand : String) :
    (∀ rest, stringToken? (symbols ((quote operand).toList ++ rest)) =
      some (if HasLineEnd operand.toList then
        .bad ((fromLineEnd operand.toList).map quoted ++ .plain '\'' :: symbols rest)
      else .closed operand.toList (symbols rest))) ∧
    (stringToken? (symbols (prepare (quote operand).toList)) = some (.closed operand.toList []) ↔
      IsClean operand) ∧
    (∀ condition text parts, quotedOperand? condition.criterion = some operand →
      renderCondition condition = .ok text → conditionParts? condition = some parts →
        (HasLineEnd operand.toList → compound? text = none) ∧
        (IsClean operand → compound? text = some parts)) ∧
    ∀ value negated text, operand = trim value →
      renderCondition ⟨.native (.id value), negated⟩ = .ok text →
        ¬ HasLineEnd operand.toList := by
  refine ⟨stringToken?_symbols_quote operand, stringToken?_prepare_quote_eq_iff, ?conditions, ?ids⟩
  case conditions =>
    intro condition text parts quotes rendered stand
    obtain ⟨named, rfl⟩ := (renderCondition_eq_ok_iff condition).1 rendered
    exact ⟨compound?_conditionText_of_hasLineEnd quotes stand,
      compound?_conditionText_of_isClean quotes named stand⟩
  case ids =>
    rintro value negated text rfl rendered
    obtain ⟨⟨-, unbroken⟩, -⟩ := (renderCondition_eq_ok_iff _).1 rendered
    exact not_hasLineEnd_of_not_hasBlank unbroken

def hostileOperand : String := "']\\'a\\41 \\"

def hostileCondition : Condition Native :=
  ⟨.shared (.attribute " data-x " (.compare .endsWith) hostileOperand), true⟩

theorem stringToken?_quote_hostileOperand :
    renderCondition hostileCondition = .ok ":not([data-x$='\\']\\\\\\'a\\\\41 \\\\'])" ∧
      compound? ":not([data-x$='\\']\\\\\\'a\\\\41 \\\\'])" =
        some [.not [.attribute "data-x" (some (.endsWith, hostileOperand))]] ∧
      ¬ HasLineEnd "x'y".toList := by
  have rendered : renderCondition hostileCondition =
      .ok ":not([data-x$='\\']\\\\\\'a\\\\41 \\\\'])" := by decide +kernel
  have read := (stringToken?_quote hostileOperand).2.2.1 hostileCondition _ _ rfl rendered rfl
  have id := (stringToken?_quote "x'y").2.2.2 " x'y" false "[id='x\\'y']" (by decide) (by decide)
  exact ⟨rendered, read.2 (by decide), id⟩

/-- A line end in an operand is written as it stands, and makes a bad string. -/
theorem stringToken?_quote_twoLines :
    (Leaf.mk (.shared (.attribute "title" (.compare .is) "a\nb")) false).render .css =
        .ok ("[title=" ++ quote "a\nb" ++ "]") ∧
      stringToken? (symbols (quote "a\nb").toList) =
        some (.bad [.plain '\n', .plain 'b', .plain '\'']) ∧
      compound? ("[title=" ++ quote "a\nb" ++ "]") = none := by
  refine ⟨rfl, by decide, by decide⟩

end PageSelectors.Css
