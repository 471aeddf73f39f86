import PageSelectors.Proofs.XPath.Reading

/-!
The tests of criteria as expressions. The text of a test is read as the expression it is meant to
be, whatever its operand is, and a literal has its operand for its value.
-/

namespace PageSelectors.XPath

def Expresses (level : Nat) (text : String) (expression : Expression) : Prop :=
  ∃ tokens, Lexes text.toList tokens ∧ Reads level tokens expression

section Literals

theorem segments_ne_nil (cs : List Char) : segments cs ≠ [] := by
  cases cs with
  | nil => simp [segments]
  | cons c rest =>
      rw [segments]
      split
      · simp
      · split <;> simp

theorem intercalate_segments (cs : List Char) : ['\''].intercalate (segments cs) = cs := by
  induction cs with
  | nil => rfl
  | cons c rest ih =>
      rw [segments]
      split
      · next quote =>
        obtain ⟨first, others, cut⟩ := List.exists_cons_of_ne_nil (segments_ne_nil rest)
        rw [cut] at ih ⊢
        rw [List.intercalate_cons_cons, ih, quote]
        rfl
      · split
        · next cut => exact (segments_ne_nil rest cut).elim
        · next first others cut =>
          rw [cut] at ih
          cases others with
          | nil => simpa using ih
          | cons second others =>
              rw [List.intercalate_cons_cons] at ih ⊢
              rw [← ih]
              rfl

def concatStrings (parts : List (List Char)) : List String :=
  (parts.map String.ofList).intersperse "'"

def concatArguments (parts : List (List Char)) : List Expression :=
  (concatStrings parts).map .literal

def literalExpression (value : String) : Expression :=
  if '\'' ∉ value.toList ∨ '"' ∉ value.toList then .literal value
  else .call .concat (concatArguments (segments value.toList))

def concatText (parts : List (List Char)) : List Char :=
  List.intercalate ", \"'\", ".toList (parts.map fun part => '\'' :: part ++ ['\'']) ++ [')']

theorem concatText_cons {part next : List Char} {parts : List (List Char)} :
    concatText (part :: next :: parts) =
      ('\'' :: part ++ ['\'']) ++ (", \"'\", ".toList ++ concatText (next :: parts)) := by
  simp [concatText, List.intercalate_cons_cons]

theorem readsOthers_concat {part : List Char} {parts : List (List Char)}
    (single : ∀ other ∈ part :: parts, '\'' ∉ other) :
    ∃ tokens, Closes (concatText (part :: parts)) (.literal (String.ofList part) :: tokens) ∧
      ReadsOthers (.literal (String.ofList part)) tokens (concatArguments (part :: parts)) := by
  induction parts generalizing part with
  | nil =>
      have closing : Closes [')'] [.mark ')'] := fun rest => rfl
      have written : concatText [part] = ('\'' :: part ++ ['\'']) ++ [')'] := by
        simp [concatText]
      rw [written]
      exact ⟨_, (closes_literal (.inl rfl) (single _ List.mem_cons_self)).append closing, .none _⟩
  | cons next parts ih =>
      obtain ⟨first, others⟩ := List.forall_mem_cons.1 single
      obtain ⟨tokens, closes, reads⟩ := ih others
      have between : Closes ", \"'\", ".toList [.mark ',', .literal "'", .mark ','] :=
        fun rest => rfl
      have readsNext : ReadsOthers (.literal "'")
          (.mark ',' :: .literal (String.ofList next) :: tokens)
          (.literal "'" :: concatArguments (next :: parts)) :=
        .more (Reads.literal _).outermost reads
      have readsQuote : ReadsOthers (.literal (String.ofList part))
          (.mark ',' :: .literal "'" :: .mark ',' :: .literal (String.ofList next) :: tokens)
          (.literal (String.ofList part) :: .literal "'" :: concatArguments (next :: parts)) :=
        .more (Reads.literal _).outermost readsNext
      rw [concatText_cons]
      exact ⟨_, (closes_literal (.inl rfl) first).append (between.append closes), readsQuote⟩

theorem reads_quote (value : String) :
    ∃ tokens, Closes (quote value).toList tokens ∧ Reads 3 tokens (literalExpression value) := by
  rw [quote, String.toList_ofList, quoteChars, literalExpression]
  by_cases single : '\'' ∉ value.toList
  · rw [if_pos single, if_pos (.inl single)]
    refine ⟨_, closes_literal (.inl rfl) single, ?_⟩
    rw [String.ofList_toList]
    exact .literal value
  · rw [if_neg single]
    by_cases double : '"' ∉ value.toList
    · rw [if_pos double, if_pos (.inr double)]
      refine ⟨_, closes_literal (.inr rfl) double, ?_⟩
      rw [String.ofList_toList]
      exact .literal value
    · rw [if_neg double, if_neg (not_or.2 ⟨single, double⟩)]
      have noQuotes : ∀ part ∈ segments value.toList, '\'' ∉ part :=
        fun part member => segments_not_mem member
      cases cut : segments value.toList with
      | nil => exact (segments_ne_nil _ cut).elim
      | cons part parts =>
          rw [cut] at noQuotes
          obtain ⟨tokens, closes, reads⟩ := readsOthers_concat noQuotes
          have opening : Closes "concat(".toList [.word "concat", .mark '('] := fun rest => rfl
          refine ⟨_, ?_, Reads.call (rfl : function? "concat" = some .concat)
            (.some (Reads.literal _).outermost reads)⟩
          rw [List.append_assoc]
          exact opening.append closes

theorem join_concatStrings (parts : List (List Char)) :
    String.join (concatStrings parts) = String.ofList (['\''].intercalate parts) := by
  induction parts with
  | nil => rfl
  | cons part parts ih =>
      cases parts with
      | nil => simp [concatStrings]
      | cons next parts =>
          have split : concatStrings (part :: next :: parts) =
              String.ofList part :: "'" :: concatStrings (next :: parts) := rfl
          rw [split, String.join_cons, String.join_cons, ih, List.intercalate_cons_cons,
            String.ofList_append, String.ofList_append, String.append_assoc]

variable {Node : Type} {document : Document Node} {node : Node} {place size : Nat}

theorem evalAll?_literals (texts : List String) :
    evalAll? document (texts.map .literal) node place size = some (texts.map .string) := by
  induction texts with
  | nil => rfl
  | cons text texts ih =>
      rw [List.map_cons, evalAll?, Expression.eval?, ih]
      rfl

theorem mapM_text?_strings (texts : List String) :
    (texts.map Value.string).mapM (Value.text? document) = some texts := by
  induction texts with
  | nil => rfl
  | cons text texts ih =>
      rw [List.map_cons, List.mapM_cons, ih]
      rfl

@[simp] theorem eval?_literalExpression (value : String) :
    (literalExpression value).eval? document node place size = some (.string value) := by
  rw [literalExpression]
  split
  · rfl
  · next both =>
    have whole := intercalate_segments value.toList
    rw [Expression.eval?, concatArguments, evalAll?_literals]
    match cut : segments value.toList with
    | [] => exact (segments_ne_nil _ cut).elim
    | [part] =>
        rw [cut, List.intercalate_singleton] at whole
        have single := segments_not_mem (cut ▸ List.mem_cons_self : part ∈ segments value.toList)
        exact (both (.inl (whole ▸ single))).elim
    | part :: next :: parts =>
        have joined := join_concatStrings (segments value.toList)
        rw [whole, String.ofList_toList] at joined
        have strings : ((concatStrings (segments value.toList)).map Value.string).mapM
            (Value.text? document) = some (concatStrings (segments value.toList)) :=
          mapM_text?_strings _
        have split : concatStrings (part :: next :: parts) =
            String.ofList part :: "'" :: concatStrings (next :: parts) := rfl
        rw [cut, split] at joined strings
        rw [List.map_cons, List.map_cons] at strings
        rw [split, List.map_cons, List.map_cons, Option.bind_eq_bind, Option.bind_some,
          Function.apply?, strings, Option.bind_eq_bind, Option.bind_some, joined]
        rfl

end Literals

section Comparisons

def comparisonExpression (subject : Expression) (op : TextOp) (operand : String) : Expression :=
  match op with
  | .is => .binary .equal subject (literalExpression operand)
  | .contains => .call .contains [subject, literalExpression operand]
  | .startsWith => .call .startsWith [subject, literalExpression operand]
  | .endsWith =>
      .binary .equal
        (.call .substring [subject,
          .binary .plus
            (.binary .minus (.call .stringLength [subject])
              (.call .stringLength [literalExpression operand]))
            (.number 1)])
        (literalExpression operand)
  | .wholeWord =>
      .call .contains [.call .concat [.literal " ", .call .normalizeSpace [subject], .literal " "],
        literalExpression (" " ++ operand ++ " ")]

theorem readsArguments_one {tokens : List Token} {expression : Expression}
    (reads : Reads 0 tokens expression) :
    ReadsArguments (tokens ++ [.mark ')']) [expression] :=
  .some reads (.none _)

theorem readsArguments_two {tokens others : List Token} {first second : Expression}
    (reads : Reads 0 tokens first) (readsSecond : Reads 0 others second) :
    ReadsArguments (tokens ++ .mark ',' :: (others ++ [.mark ')'])) [first, second] :=
  .some reads (.more readsSecond (.none _))

variable {subject : String} {expression : Expression}

theorem expresses_is (expresses : Expresses 3 subject expression) (operand : String) :
    Expresses 0 (comparison subject .is operand) (comparisonExpression expression .is operand) := by
  obtain ⟨tokens, lexes, reads⟩ := expresses
  obtain ⟨literal, closes, readsLiteral⟩ := reads_quote operand
  have sign : Closes "=".toList [.mark '='] := fun rest => rfl
  have whole : Closes (subject.toList ++ ("=".toList ++ (quote operand).toList))
      (tokens ++ .mark '=' :: literal) :=
    lexes.append_closes (sign.append closes) ((by decide : Begins "=".toList).append _)
  have readsWhole : Reads 0 (tokens ++ .mark '=' :: literal)
      (comparisonExpression expression .is operand) :=
    .binary (by decide) (reads.lower (by decide) (by decide))
      (readsLiteral.lower (by decide) (by decide)) (fun rest => rfl)
  have written : comparison subject .is operand = subject ++ "=" ++ quote operand := rfl
  refine ⟨_, ?_, readsWhole⟩
  rw [written, String.toList_append, String.toList_append, List.append_assoc]
  exact whole.lexes

theorem expresses_call {name opening : String} {function : Function}
    (expresses : Expresses 3 subject expression) (operand : String)
    (known : function? name = some function)
    (opens : Closes opening.toList [.word name, .mark '(']) :
    Expresses 0 (opening ++ subject ++ "," ++ quote operand ++ ")")
      (.call function [expression, literalExpression operand]) := by
  obtain ⟨tokens, lexes, reads⟩ := expresses
  obtain ⟨literal, closes, readsLiteral⟩ := reads_quote operand
  have comma : Closes ",".toList [.mark ','] := fun rest => rfl
  have closing : Closes ")".toList [.mark ')'] := fun rest => rfl
  have begins : Begins ",".toList := by decide
  have whole : Closes (opening.toList ++ (subject.toList ++ (",".toList ++
      ((quote operand).toList ++ ")".toList))))
      (.word name :: .mark '(' :: (tokens ++ .mark ',' :: (literal ++ [.mark ')']))) :=
    opens.append (lexes.append_closes (comma.append (closes.append closing)) (begins.append _))
  have call := Reads.call known (readsArguments_two reads.outermost readsLiteral.outermost)
  refine ⟨_, ?_, call.outermost⟩
  simp only [String.toList_append, List.append_assoc]
  exact whole.lexes

theorem expresses_endsWith (expresses : Expresses 3 subject expression) (operand : String) :
    Expresses 0 (comparison subject .endsWith operand)
      (comparisonExpression expression .endsWith operand) := by
  obtain ⟨tokens, lexes, reads⟩ := expresses
  obtain ⟨literal, closes, readsLiteral⟩ := reads_quote operand
  have opening : Closes "substring(".toList [.word "substring", .mark '('] := fun rest => rfl
  have first : Closes ", string-length(".toList [.mark ',', .word "string-length", .mark '('] :=
    fun rest => rfl
  have second : Closes ") - string-length(".toList
      [.mark ')', .mark '-', .word "string-length", .mark '('] := fun rest => rfl
  have closing : Closes ")+1) = ".toList
      [.mark ')', .mark '+', .number 1, .mark ')', .mark '='] := fun rest => rfl
  have beginsFirst : Begins ", string-length(".toList := by decide
  have beginsSecond : Begins ") - string-length(".toList := by decide
  have inner := lexes.append_closes (second.append (closes.append (closing.append closes)))
    (beginsSecond.append _)
  have whole := opening.append (lexes.append_closes (first.append inner) (beginsFirst.append _))
  have lengthOf : function? "string-length" = some .stringLength := rfl
  have length := Reads.call lengthOf (readsArguments_one reads.outermost)
  have operandLength := Reads.call lengthOf (readsArguments_one readsLiteral.outermost)
  have minus : Joins 2 (.mark '-') .minus := fun rest => rfl
  have plus : Joins 2 (.mark '+') .plus := fun rest => rfl
  have equals : Joins 0 (.mark '=') .equal := fun rest => rfl
  have start := Reads.binary_binary (by decide) length operandLength (.number 1) minus plus
  have call := Reads.call (rfl : function? "substring" = some .substring)
    (readsArguments_two reads.outermost (start.lower (by decide) (by decide)))
  have equal := Reads.binary (by decide) (call.lower (by decide) (by decide))
    (readsLiteral.lower (by decide) (by decide)) equals
  have written : comparison subject .endsWith operand =
      "substring(" ++ subject ++ ", string-length(" ++ subject ++ ") - string-length(" ++
        quote operand ++ ")+1) = " ++ quote operand := rfl
  refine ⟨_, ?_, equal⟩
  have read := whole.lexes
  rw [written]
  simp only [String.toList_append, List.append_assoc, List.cons_append, List.nil_append] at read ⊢
  exact read

theorem expresses_wholeWord (expresses : Expresses 3 subject expression) (operand : String) :
    Expresses 0 (comparison subject .wholeWord operand)
      (comparisonExpression expression .wholeWord operand) := by
  obtain ⟨tokens, lexes, reads⟩ := expresses
  obtain ⟨literal, closes, readsLiteral⟩ := reads_quote (" " ++ operand ++ " ")
  have opening : Closes "contains(concat(' ', normalize-space(".toList
      [.word "contains", .mark '(', .word "concat", .mark '(', .literal " ", .mark ',',
        .word "normalize-space", .mark '('] := fun rest => rfl
  have padding : Closes "), ' '), ".toList
      [.mark ')', .mark ',', .literal " ", .mark ')', .mark ','] := fun rest => rfl
  have closing : Closes ")".toList [.mark ')'] := fun rest => rfl
  have begins : Begins "), ' '), ".toList := by decide
  have whole := opening.append (lexes.append_closes (padding.append (closes.append closing))
    (begins.append _))
  have space := (Reads.literal " ").outermost
  have normal := Reads.call (rfl : function? "normalize-space" = some .normalizeSpace)
    (readsArguments_one reads.outermost)
  have padded := Reads.call (rfl : function? "concat" = some .concat)
    (.some space (.more normal.outermost (.more space (.none _))))
  have call := Reads.call (rfl : function? "contains" = some .contains)
    (readsArguments_two padded.outermost readsLiteral.outermost)
  have written : comparison subject .wholeWord operand =
      "contains(concat(' ', normalize-space(" ++ subject ++ "), ' '), " ++
        quote (" " ++ operand ++ " ") ++ ")" := rfl
  refine ⟨_, ?_, call.outermost⟩
  have read := whole.lexes
  rw [written]
  simp only [String.toList_append, List.append_assoc, List.cons_append, List.nil_append] at read ⊢
  exact read

theorem expresses_comparison (expresses : Expresses 3 subject expression) (op : TextOp)
    (operand : String) :
    Expresses 0 (comparison subject op operand) (comparisonExpression expression op operand) := by
  cases op with
  | is => exact expresses_is expresses operand
  | contains =>
      exact expresses_call expresses operand (rfl : function? "contains" = some .contains)
        fun rest => rfl
  | startsWith =>
      exact expresses_call expresses operand (rfl : function? "starts-with" = some .startsWith)
        fun rest => rfl
  | endsWith => exact expresses_endsWith expresses operand
  | wholeWord => exact expresses_wholeWord expresses operand

end Comparisons

section Criteria

def attributePath (name : String) : Expression :=
  .path [.along .attribute (.name name) []]

def textPath : Expression :=
  .path [.along .child .text []]

theorem expresses_attributePath {name : String} (isRun : IsRun name) :
    Expresses 3 ("@" ++ name) (attributePath name) := by
  have reads : ReadsSteps [.mark '@', .name name] [.along .attribute (.name name) []] :=
    .last (.attribute name) .nil
  refine ⟨_, fun rest separates => ?_, .path reads⟩
  have entered : tokens (("@" ++ name).toList ++ rest) =
      .mark '@' :: Lexer.naming.tokens (name.toList ++ rest) := by
    rw [String.toList_append, List.append_assoc]
    rfl
  have named : Lexer.naming.tokens (name.toList ++ rest) = [.name name] ++ tokens rest :=
    isRun.lexes rest separates
  exact entered.trans (by rw [named]; rfl)

theorem expresses_textPath : Expresses 3 "text()" textPath := by
  have reads : ReadsSteps [.word "text", .mark '(', .mark ')'] [.along .child .text []] :=
    .last .text .nil
  have closes : Closes "text()".toList [.word "text", .mark '(', .mark ')'] := fun rest => rfl
  exact ⟨_, closes.lexes, .path reads⟩

def attributeExpression (name : String) : AttributeOp → String → Expression
  | .isPresent, _ => attributePath name
  | .compare op, operand => comparisonExpression (attributePath name) op operand

theorem expresses_attributeTest {name : String} (isRun : IsRun name) (op : AttributeOp)
    (operand : String) :
    Expresses 0 (attributeTest name op operand) (attributeExpression name op operand) := by
  have subject := expresses_attributePath isRun
  cases op with
  | isPresent =>
      obtain ⟨tokens, lexes, reads⟩ := subject
      exact ⟨tokens, lexes, reads.outermost⟩
  | compare op => exact expresses_comparison subject op operand

def Place.expression : Place → Expression
  | .exactly index => .binary .equal (.call .position []) (.number (index + 1))
  | .atLeast index => .binary .atLeast (.call .position []) (.number (index + 1))
  | .atMost index => .binary .atMost (.call .position []) (.number (index + 1))
  | .last => .call .last []

theorem reads_position : Reads 3 [.word "position", .mark '(', .mark ')'] (.call .position []) :=
  .call (rfl : function? "position" = some .position) .none

theorem expresses_position {level : Nat} {opening : String} {sign : Token} {operator : Operator}
    (number : Nat) (below : level + 1 ≤ 3)
    (closes : Closes opening.toList [.word "position", .mark '(', .mark ')', sign])
    (joins : Joins level sign operator) :
    Expresses 0 (opening ++ toString number)
      (.binary operator (.call .position []) (.number number)) := by
  have left := reads_position.lower (below : level + 1 ≤ 3) (by decide)
  have right := (Reads.number number).lower (below : level + 1 ≤ 3) (by decide)
  have whole := Reads.binary (by omega) left right joins
  refine ⟨_, ?_, whole.lower (Nat.zero_le level) (by omega)⟩
  rw [String.toList_append]
  exact closes.append_lexes (lexes_number number)

theorem expresses_place (place : Place) : Expresses 0 place.text place.expression := by
  cases place with
  | exactly index =>
      exact expresses_position (index + 1) (by decide : 0 + 1 ≤ 3)
        (fun rest => rfl : Closes "position() = ".toList _) (fun rest => rfl)
  | atLeast index =>
      exact expresses_position (index + 1) (by decide : 1 + 1 ≤ 3)
        (fun rest => rfl : Closes "position() >= ".toList _) (fun rest => rfl)
  | atMost index =>
      exact expresses_position (index + 1) (by decide : 1 + 1 ≤ 3)
        (fun rest => rfl : Closes "position() <= ".toList _) (fun rest => rfl)
  | last =>
      have closes : Closes "last()".toList [.word "last", .mark '(', .mark ')'] := fun rest => rfl
      have call := Reads.call (rfl : function? "last" = some .last) .none
      exact ⟨_, closes.lexes, call.outermost⟩

end Criteria

section Predicates

def predicateExpression (negated : Bool) (test : Expression) : Expression :=
  if negated then .call .not [test] else test

structure Encloses (group : String) (expression : Expression) : Prop where
  begins : Begins group.toList
  closes : ∃ tokens, Closes group.toList (.mark '[' :: (tokens ++ [.mark ']'])) ∧
    Reads 0 tokens expression

theorem encloses_predicate {text : String} {test : Expression} (expresses : Expresses 0 text test)
    (negated : Bool) : Encloses (predicate negated text) (predicateExpression negated test) := by
  obtain ⟨tokens, lexes, reads⟩ := expresses
  cases negated with
  | false =>
      have opening : Closes "[".toList [.mark '['] := fun rest => rfl
      have closing : Closes "]".toList [.mark ']'] := fun rest => rfl
      have whole := opening.append (lexes.append_closes closing (by decide))
      have written : predicate false text = "[" ++ text ++ "]" := rfl
      rw [written]
      constructor
      · rw [String.toList_append, String.toList_append, List.append_assoc]
        exact (by decide : Begins "[".toList).append _
      · refine ⟨tokens, ?_, reads⟩
        rw [String.toList_append, String.toList_append, List.append_assoc]
        exact whole
  | true =>
      have opening : Closes "[not(".toList [.mark '[', .word "not", .mark '('] := fun rest => rfl
      have closing : Closes ")]".toList [.mark ')', .mark ']'] := fun rest => rfl
      have whole := opening.append (lexes.append_closes closing (by decide))
      have written : predicate true text = "[not(" ++ text ++ ")]" := rfl
      have call := Reads.call (rfl : function? "not" = some .not) (readsArguments_one reads)
      rw [written]
      constructor
      · rw [String.toList_append, String.toList_append, List.append_assoc]
        exact (by decide : Begins "[not(".toList).append _
      · refine ⟨_, ?_, call.outermost⟩
        rw [String.toList_append, String.toList_append, List.append_assoc]
        simpa only [List.cons_append, List.nil_append, List.append_assoc] using whole

theorem reads_join {groups : List String} {expressions : List Expression}
    (enclose : List.Forall₂ Encloses groups expressions) :
    ∃ tokens, Closes (String.join groups).toList tokens ∧ ReadsPredicates tokens expressions ∧
      ∀ rest, Separates rest → Separates ((String.join groups).toList ++ rest) := by
  induction enclose with
  | nil => exact ⟨[], fun rest => rfl, .nil, fun rest separates => separates⟩
  | @cons group expression groups expressions first _ ih =>
      obtain ⟨begins, tokens, closes, reads⟩ := first
      obtain ⟨others, closesOthers, readsOthers, -⟩ := ih
      have whole := closes.append closesOthers
      have readsAll := ReadsPredicates.cons reads readsOthers
      refine ⟨_, ?_, readsAll, ?_⟩
      · rw [String.join_cons, String.toList_append]
        simpa only [List.cons_append, List.nil_append, List.append_assoc] using whole
      · intro rest _
        rw [String.join_cons, String.toList_append, List.append_assoc]
        exact (begins.append _).2

theorem predicates?_join {groups : List String} {expressions : List Expression}
    (enclose : List.Forall₂ Encloses groups expressions) :
    predicates? (String.join groups) = some expressions := by
  obtain ⟨result, closes, reads, -⟩ := reads_join enclose
  have lexed := closes []
  rw [List.append_nil] at lexed
  have all : tokens (String.join groups).toList = result := by
    rw [lexed]
    exact List.append_nil _
  have readAll := reads (16 * result.length + 1) [] (by simp) (Nat.lt_succ_self _)
  rw [List.append_nil] at readAll
  simp only [predicates?, all, readAll]

example : predicates? "[@id='x'][last()]" =
    some [.binary .equal (attributePath "id") (.literal "x"), .call .last []] := by cbv

end Predicates

end PageSelectors.XPath
