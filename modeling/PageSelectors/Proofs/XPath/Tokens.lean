import PageSelectors.Proofs.XPath.Literals

/-!
The tokens of an XPath expression. Blanks only separate them. A word ends at a colon, but the name
after `@` or `::` may hold colons, and whatever name characters stand there are taken for a name.
-/

namespace PageSelectors.XPath

inductive Token where
  | word (text : String)
  /-- The name after `@` or `::`. -/
  | name (text : String)
  | literal (text : String)
  | number (value : Nat)
  | mark (c : Char)
  | along
  | atLeast
  | atMost
  /-- What is no token, or not a complete one. -/
  | wrong
  deriving DecidableEq, Repr

def isNameChar (c : Char) : Bool :=
  c.isAlphanum || c == '-' || c == '_' || c == '.' || c == ':' || 0x80 ≤ c.toNat

def isWordStart (c : Char) : Bool :=
  c.isAlpha || c == '_' || 0x80 ≤ c.toNat

inductive Lexer where
  | between
  | naming
  | word (text : List Char)
  | name (text : List Char)
  | digits (text : List Char)
  | literal (quote : Char) (text : List Char)
  | colon
  | less
  | greater
  deriving DecidableEq

namespace Lexer

def blanks : List Char :=
  [' ', '\t', '\r', '\n']

def marks : List Char :=
  ['(', ')', '[', ']', ',', '/', '=', '+', '-', '*']

def enter (c : Char) : List Token × Lexer :=
  if c ∈ blanks then ([], between)
  else if isWordStart c then ([], word [c])
  else if c.isDigit then ([], digits [c])
  else if c = '\'' ∨ c = '"' then ([], literal c [])
  else if c = ':' then ([], colon)
  else if c = '<' then ([], less)
  else if c = '>' then ([], greater)
  else if c = '@' then ([.mark '@'], naming)
  else if c ∈ marks then ([.mark c], between)
  else ([.wrong], between)

def extend? : Lexer → Char → Option Lexer
  | naming, c => if isNameChar c then some (name [c]) else none
  | word text, c => if isNameChar c ∧ c ≠ ':' then some (word (text ++ [c])) else none
  | name text, c => if isNameChar c then some (name (text ++ [c])) else none
  | digits text, c => if c.isDigit then some (digits (text ++ [c])) else none
  | _, _ => none

def finish : Lexer → List Token
  | between | naming => []
  | word text => [.word (String.ofList text)]
  | name text => [.name (String.ofList text)]
  | digits text => [.number (Nat.ofDigitChars 10 text 0)]
  | literal _ _ | colon | less | greater => [.wrong]

def next (state : Lexer) (c : Char) : List Token × Lexer :=
  match state with
  | literal quote text =>
      if c = quote then ([.literal (String.ofList text)], between)
      else ([], literal quote (text ++ [c]))
  | colon => if c = ':' then ([.along], naming) else ([.wrong], between)
  | less => if c = '=' then ([.atMost], between) else ([.wrong], between)
  | greater => if c = '=' then ([.atLeast], between) else ([.wrong], between)
  | state =>
      match state.extend? c with
      | some longer => ([], longer)
      | none => (state.finish ++ (enter c).1, (enter c).2)

def tokens : Lexer → List Char → List Token
  | state, [] => state.finish
  | state, c :: rest => (state.next c).1 ++ tokens (state.next c).2 rest

def Open : Lexer → Prop
  | literal _ _ | colon | less | greater => False
  | _ => True

end Lexer

def tokens (text : List Char) : List Token :=
  Lexer.between.tokens text

def Separates (text : List Char) : Prop :=
  ∀ c ∈ text.head?, isNameChar c = false

theorem separates_cons {c : Char} {rest : List Char} :
    Separates (c :: rest) ↔ isNameChar c = false := by
  simp [Separates]

namespace Lexer

theorem extend?_eq_none {c : Char} (separates : isNameChar c = false) (state : Lexer) :
    state.extend? c = none := by
  have noDigit : c.isDigit = false := by
    simp only [isNameChar, Char.isAlphanum, Bool.or_eq_false_iff] at separates
    exact separates.1.1.1.1.1.2
  cases state <;> simp [extend?, separates, noDigit]

theorem tokens_of_separates {state : Lexer} (isOpen : state.Open) {rest : List Char}
    (separates : Separates rest) : state.tokens rest = state.finish ++ XPath.tokens rest := by
  cases rest with
  | nil => simp [tokens, XPath.tokens, finish]
  | cons c rest =>
      have stopped := extend?_eq_none (separates_cons.1 separates)
      have entered : between.next c = enter c := by
        simp [next, stopped, finish]
      rw [XPath.tokens, tokens, tokens, entered, ← List.append_assoc]
      cases state <;> first | exact isOpen.elim | simp [next, stopped]

theorem enter_digit {c : Char} (digit : c.isDigit) : enter c = ([], digits [c]) := by
  have solid : c ∉ blanks := by
    intro member
    have all : blanks.all (fun blank => !blank.isDigit) := by decide
    have noDigit := List.all_eq_true.1 all c member
    simp [digit] at noDigit
  have noStart : isWordStart c = false := by
    simp only [Char.isDigit, Bool.and_eq_true, decide_eq_true_eq, ge_iff_le,
      UInt32.le_iff_toNat_le] at digit
    have ranges : c.isAlpha = (decide ('A'.val ≤ c.val ∧ c.val ≤ 'Z'.val) ||
        ('a'.val ≤ c.val && c.val ≤ 'z'.val)) := rfl
    simp only [isWordStart, ranges, Bool.or_eq_false_iff, Bool.and_eq_false_iff,
      decide_eq_false_iff_not, UInt32.le_iff_toNat_le, beq_eq_false_iff_ne]
    have bounds : '9'.val.toNat = 57 ∧ 'A'.val.toNat = 65 ∧ 'a'.val.toNat = 97 := by decide
    have code : c.toNat = c.val.toNat := rfl
    refine ⟨⟨⟨by omega, by omega⟩, ?_⟩, by omega⟩
    rintro rfl
    exact absurd digit.2 (by decide)
  simp [enter, solid, noStart, digit]

/-- Characters that only lengthen the text of a state are read into it one after the other. -/
theorem tokens_append_of_lengthens {state : List Char → Lexer} {cs : List Char}
    (lengthens : ∀ c ∈ cs, ∀ text, (state text).next c = ([], state (text ++ [c])))
    (text rest : List Char) :
    (state text).tokens (cs ++ rest) = (state (text ++ cs)).tokens rest := by
  induction cs generalizing text with
  | nil => rw [List.nil_append, List.append_nil]
  | cons c cs ih =>
      obtain ⟨first, others⟩ := List.forall_mem_cons.1 lengthens
      rw [List.cons_append, tokens, first, List.nil_append, ih others, List.append_assoc]
      rfl

theorem tokens_name {text cs rest : List Char} (all : ∀ c ∈ cs, isNameChar c)
    (separates : Separates rest) :
    (name text).tokens (cs ++ rest) = .name (String.ofList (text ++ cs)) :: XPath.tokens rest := by
  have lengthens : ∀ c ∈ cs, ∀ text, (name text).next c = ([], name (text ++ [c])) := by
    intro c member text
    simp [next, extend?, all c member]
  have isOpen : (name (text ++ cs)).Open := trivial
  rw [tokens_append_of_lengthens lengthens, tokens_of_separates isOpen separates]
  rfl

theorem tokens_digits {text cs rest : List Char} (all : ∀ c ∈ cs, c.isDigit)
    (separates : Separates rest) :
    (digits text).tokens (cs ++ rest) =
      .number (Nat.ofDigitChars 10 (text ++ cs) 0) :: XPath.tokens rest := by
  have lengthens : ∀ c ∈ cs, ∀ text, (digits text).next c = ([], digits (text ++ [c])) := by
    intro c member text
    simp [next, extend?, all c member]
  have isOpen : (digits (text ++ cs)).Open := trivial
  rw [tokens_append_of_lengthens lengthens, tokens_of_separates isOpen separates]
  rfl

theorem tokens_literal {quote : Char} {text cs rest : List Char} (inside : quote ∉ cs) :
    (literal quote text).tokens (cs ++ quote :: rest) =
      .literal (String.ofList (text ++ cs)) :: XPath.tokens rest := by
  have lengthens : ∀ c ∈ cs, ∀ text,
      (literal quote text).next c = ([], literal quote (text ++ [c])) := by
    intro c member text
    have other : c ≠ quote := ne_of_mem_of_not_mem member inside
    simp [next, other]
  rw [tokens_append_of_lengthens lengthens]
  simp [tokens, next, XPath.tokens]

end Lexer

def Begins (text : List Char) : Prop :=
  text ≠ [] ∧ Separates text

instance (text : List Char) : Decidable (Separates text) :=
  Option.decidableForallMem text.head?

instance (text : List Char) : Decidable (Begins text) :=
  inferInstanceAs (Decidable (_ ∧ _))

theorem Begins.append {text : List Char} (begins : Begins text) (rest : List Char) :
    Begins (text ++ rest) := by
  obtain ⟨filled, separates⟩ := begins
  obtain ⟨c, others, rfl⟩ := List.exists_cons_of_ne_nil filled
  exact ⟨by simp, separates_cons.2 (separates_cons.1 separates)⟩

/-- Whether a text that is read on from a state has the given tokens, before whatever separates it
from what follows. -/
def LexesFrom (state : Lexer) (text : List Char) (result : List Token) : Prop :=
  ∀ rest, Separates rest → state.tokens (text ++ rest) = result ++ tokens rest

def Lexes (text : List Char) (result : List Token) : Prop :=
  LexesFrom .between text result

def Closes (text : List Char) (result : List Token) : Prop :=
  ∀ rest, tokens (text ++ rest) = result ++ tokens rest

section Composition

variable {state : Lexer} {first second : List Char} {before after : List Token}

theorem Closes.lexes (closes : Closes first before) : Lexes first before :=
  fun rest _ => closes rest

theorem Closes.append (closes : Closes first before) (closesSecond : Closes second after) :
    Closes (first ++ second) (before ++ after) := by
  intro rest
  rw [List.append_assoc, closes, closesSecond, List.append_assoc]

theorem Closes.append_lexes (closes : Closes first before) (lexes : Lexes second after) :
    Lexes (first ++ second) (before ++ after) := by
  intro rest separates
  have read : tokens (second ++ rest) = after ++ tokens rest := lexes rest separates
  have readFirst : tokens (first ++ (second ++ rest)) = before ++ tokens (second ++ rest) :=
    closes (second ++ rest)
  rw [List.append_assoc]
  exact readFirst.trans (by rw [read, List.append_assoc])

theorem LexesFrom.append_lexes (lexesFirst : LexesFrom state first before)
    (lexes : Lexes second after) (separates : ∀ rest, Separates rest → Separates (second ++ rest)) :
    LexesFrom state (first ++ second) (before ++ after) := by
  intro rest separatesRest
  have read : tokens (second ++ rest) = after ++ tokens rest := lexes rest separatesRest
  rw [List.append_assoc, lexesFirst _ (separates rest separatesRest), read, List.append_assoc]

theorem Lexes.append_closes (lexes : Lexes first before) (closes : Closes second after)
    (begins : Begins second) : Closes (first ++ second) (before ++ after) := by
  intro rest
  have read : tokens (first ++ (second ++ rest)) = before ++ tokens (second ++ rest) :=
    lexes _ (begins.append rest).2
  rw [List.append_assoc, read, closes, List.append_assoc]

end Composition

def IsRun (text : String) : Prop :=
  text ≠ "" ∧ ∀ c ∈ text.toList, isNameChar c

instance (text : String) : Decidable (IsRun text) :=
  @instDecidableAnd _ _ _ (List.decidableBAll _ text.toList)

theorem IsRun.lexes {text : String} (isRun : IsRun text) :
    LexesFrom .naming text.toList [.name text] := by
  intro rest separates
  obtain ⟨filled, all⟩ := isRun
  cases chars : text.toList with
  | nil => exact (filled (String.toList_eq_nil_iff.1 chars)).elim
  | cons c cs =>
      rw [chars] at all
      obtain ⟨first, others⟩ := List.forall_mem_cons.1 all
      have named : Lexer.naming.next c = ([], .name [c]) := by
        simp [Lexer.next, Lexer.extend?, first]
      rw [List.cons_append, Lexer.tokens, named, List.nil_append,
        Lexer.tokens_name others separates, List.singleton_append, List.singleton_append,
        ← chars, String.ofList_toList]

theorem lexes_number (number : Nat) : Lexes (toString number).toList [.number number] := by
  intro rest separates
  have all : ∀ c ∈ Nat.toDigits 10 number, c.isDigit := fun c member =>
    Nat.isDigit_of_mem_toDigits (by decide) (by decide) member
  have value : Nat.ofDigitChars 10 (Nat.toDigits 10 number) 0 = number :=
    Nat.ofDigitChars_ten_toDigits
  rw [Nat.toString_eq_ofList_toDigits, String.toList_ofList]
  cases digits : Nat.toDigits 10 number with
  | nil => exact (Nat.toDigits_ne_nil digits).elim
  | cons c cs =>
      rw [digits] at all value
      obtain ⟨first, others⟩ := List.forall_mem_cons.1 all
      have started : Lexer.between.next c = ([], .digits [c]) := Lexer.enter_digit first
      rw [List.cons_append, Lexer.tokens, started, List.nil_append,
        Lexer.tokens_digits others separates, List.singleton_append, List.singleton_append, value]

theorem closes_literal {quote : Char} (isQuote : quote = '\'' ∨ quote = '"') {text : List Char}
    (absent : quote ∉ text) :
    Closes (quote :: text ++ [quote]) [.literal (String.ofList text)] := by
  intro rest
  have read : (Lexer.literal quote []).tokens (text ++ quote :: rest) =
      .literal (String.ofList ([] ++ text)) :: tokens rest := Lexer.tokens_literal absent
  have opened : Lexer.between.next quote = ([], .literal quote []) := by
    rcases isQuote with rfl | rfl <;> rfl
  rw [tokens, List.append_assoc, List.cons_append, Lexer.tokens, opened, List.nil_append]
  exact read

end PageSelectors.XPath
