import Mathlib.Data.List.TakeWhile
import PageSelectors.Proofs.Css.Grammar
import PageSelectors.Proofs.Css.Rendering

/-!
What the reader of compound selectors makes of the texts of tags and conditions. Each text is read
as the selectors it stands for, whatever follows it that cannot go on a name.
-/

namespace PageSelectors.Css

open Text (trim)

def IsClean (operand : String) : Prop :=
  ∀ c ∈ operand.toList, isLineEnd c = false ∧ c ≠ '\x00'

instance (operand : String) : Decidable (IsClean operand) :=
  List.decidableBAll _ operand.toList

section Names

theorem startsWord_append {symbols : List Symbol} (rest : List Symbol)
    (starts : startsWord symbols) : startsWord (symbols ++ rest) := by
  cases symbols with
  | nil => simp [startsWord] at starts
  | cons first others => cases first <;> exact starts

theorem startsName_append {symbols : List Symbol} (rest : List Symbol)
    (starts : startsName symbols) : startsName (symbols ++ rest) := by
  unfold startsName at starts
  split at starts
  · next others =>
    rw [List.cons_append, startsName]
    rw [Bool.or_eq_true] at starts ⊢
    rcases starts with dash | word
    · cases others with
      | nil => simp at dash
      | cons second _ => exact .inl dash
    · exact .inr (startsWord_append rest word)
  · next notDash =>
    have word := startsWord_append rest starts
    cases symbols with
    | nil => simp [startsWord] at starts
    | cons first others =>
        unfold startsName
        split
        · next same =>
          obtain ⟨rfl, -⟩ := List.cons.inj same
          exact (notDash others rfl).elim
        · exact word

theorem takeWhile_isName {rest : List Char} (stops : Stops rest) :
    (symbols rest).takeWhile Symbol.isName = [] ∧
      (symbols rest).dropWhile Symbol.isName = symbols rest := by
  cases rest with
  | nil => exact ⟨rfl, rfl⟩
  | cons c rest =>
      obtain ⟨outer, unescaped, -⟩ := stops_cons.1 stops
      rw [symbols_cons rest unescaped]
      simp [Symbol.isName, outer]

theorem identifier?_eq_some_iff {text name : String} :
    identifier? text = some name ↔
      startsName (symbols text.toList) ∧ (∀ symbol ∈ symbols text.toList, symbol.isName) ∧
        name = String.ofList ((symbols text.toList).map Symbol.char) := by
  unfold identifier? name?
  by_cases starts : startsName (symbols text.toList)
  · simp only [starts, ↓reduceIte, true_and]
    constructor
    · intro read
      split at read
      · next found whole =>
        obtain ⟨rfl, rest⟩ := Prod.mk.inj (Option.some.inj whole)
        have all := List.dropWhile_eq_nil_iff.1 rest
        rw [List.takeWhile_eq_self_iff.2 all] at read
        exact ⟨all, (Option.some.inj read).symm⟩
      · simp at read
    · rintro ⟨all, rfl⟩
      rw [List.takeWhile_eq_self_iff.2 all, List.dropWhile_eq_nil_iff.2 all]
  · simp [starts]

theorem name?_append {text name : String} (identifies : identifier? text = some name)
    {rest : List Char} (stops : Stops rest) :
    name? (symbols (text.toList ++ rest)) = some (name, symbols rest) := by
  obtain ⟨starts, all, rfl⟩ := identifier?_eq_some_iff.1 identifies
  have settled : .lineEnd ∉ symbols text.toList := fun member => by
    simpa [Symbol.isName] using all _ member
  obtain ⟨noneTaken, allLeft⟩ := takeWhile_isName stops
  rw [symbols_append settled stops, name?, if_pos (startsName_append _ starts),
    List.takeWhile_append_of_pos all, List.dropWhile_append_of_pos all, noneTaken, allLeft,
    List.append_nil]

end Names

section Operands

theorem stringBody_quoted {value : List Char} (clean : ∀ c ∈ value, isLineEnd c = false)
    (rest : List Symbol) :
    stringBody '\'' (value.map quoted ++ .plain '\'' :: rest) = some (value, rest) := by
  induction value with
  | nil => simp [stringBody]
  | cons c value ih =>
      obtain ⟨sameLine, others⟩ := List.forall_mem_cons.1 clean
      rw [List.map_cons, List.cons_append, quoted]
      by_cases special : c = '\'' ∨ c = '\\'
      · rw [if_pos special, stringBody, ih others]
        rfl
      · have open_ : c ≠ '\'' := fun same => special (.inl same)
        rw [if_neg special, stringBody, if_neg open_, if_neg (by simp [sameLine]), ih others]
        rfl

theorem string?_quote {operand : String} (clean : IsClean operand) (rest : List Char) :
    string? (symbols ((quote operand).toList ++ rest)) = some (operand, symbols rest) := by
  have sameLine : ∀ c ∈ operand.toList, isLineEnd c = false := fun c member => (clean c member).1
  rw [symbols_quote, string?, if_pos (.inl rfl), stringBody_quoted sameLine]
  simp

def testOf : AttributeOp → String → Option (TextOp × String)
  | .isPresent, _ => none
  | .compare op, operand => some (op, operand)

theorem comparison?_append (op : TextOp) (rest : List Char) :
    comparison? (symbols ((comparison op).toList ++ rest)) = some (op, symbols rest) := by
  cases op <;> rfl

theorem test?_append {op : TextOp} {operand : String} (clean : IsClean operand)
    (rest : List Char) :
    test? (symbols ((comparison op ++ quote operand).toList ++ rest)) =
      some (some (op, operand), symbols rest) := by
  rw [String.toList_append, List.append_assoc, test?, comparison?_append]
  simp [string?_quote clean]

theorem takeWhile_isDigit {rest : List Char} (stops : Stops rest) :
    (symbols rest).takeWhile Symbol.isDigit = [] ∧
      (symbols rest).dropWhile Symbol.isDigit = symbols rest := by
  cases rest with
  | nil => exact ⟨rfl, rfl⟩
  | cons c rest =>
      obtain ⟨outer, unescaped, -⟩ := stops_cons.1 stops
      have noDigit : c.isDigit = false := by
        simp only [isNameChar, Char.isAlphanum, Bool.or_eq_false_iff] at outer
        exact outer.1.1.1.2
      rw [symbols_cons rest unescaped]
      simp [Symbol.isDigit, noDigit]

theorem number?_append (number : Nat) {rest : List Char} (stops : Stops rest) :
    number? (symbols ((toString number).toList ++ rest)) = some (number, symbols rest) := by
  have digits : ∀ c ∈ Nat.toDigits 10 number, c.isDigit := fun c member =>
    Nat.isDigit_of_mem_toDigits (by decide) (by decide) member
  have unescaped : '\\' ∉ Nat.toDigits 10 number := fun member => by
    exact absurd (digits _ member) (by decide)
  have all : ∀ symbol ∈ (Nat.toDigits 10 number).map Symbol.plain, symbol.isDigit := by
    intro symbol member
    obtain ⟨c, inside, rfl⟩ := List.mem_map.1 member
    exact digits c inside
  have chars : ((Nat.toDigits 10 number).map Symbol.plain).map Symbol.char =
      Nat.toDigits 10 number := by
    rw [List.map_map]
    exact List.map_id _
  obtain ⟨noneTaken, allLeft⟩ := takeWhile_isDigit stops
  rw [Nat.toString_eq_ofList_toDigits, String.toList_ofList,
    symbols_append_of_unescaped unescaped, Css.number?, List.takeWhile_append_of_pos all,
    List.dropWhile_append_of_pos all, noneTaken, allLeft, List.append_nil, chars]
  simp [Nat.toDigits_ne_nil, Nat.ofDigitChars_ten_toDigits]

end Operands

section Selectors

variable {α : Type} {read : List Symbol → Option (α × List Symbol)}

/-- Whether a text is read as the given value before whatever stops a name. -/
def Reads (read : List Symbol → Option (α × List Symbol)) (text : List Char) (value : α) : Prop :=
  ∀ rest, Stops rest → read (symbols (text ++ rest)) = some (value, symbols rest)

def Opens (text : List Char) : Prop :=
  ∃ c ∈ ['.', '[', ':'], ∃ rest, text = c :: rest

theorem Opens.append {text : List Char} (opens : Opens text) (rest : List Char) :
    Opens (text ++ rest) := by
  obtain ⟨c, member, others, rfl⟩ := opens
  exact ⟨c, member, others ++ rest, rfl⟩

theorem Opens.stops {text : List Char} (opens : Opens text) (rest : List Char) :
    Stops (text ++ rest) := by
  obtain ⟨c, member, others, rfl⟩ := opens
  rw [List.cons_append, stops_cons]
  simp only [List.mem_cons, List.not_mem_nil, or_false] at member
  rcases member with rfl | rfl | rfl <;> decide

theorem Opens.length_lt {text : List Char} (opens : Opens text) {rest : List Char}
    (stops : Stops rest) : (symbols rest).length < (symbols (text ++ rest)).length := by
  have unescaped := opens.stops rest
  obtain ⟨c, -, others, rfl⟩ := opens
  rw [List.cons_append, symbols_cons _ (stops_cons.1 unescaped).2.1]
  exact Nat.lt_succ_of_le (Progress.outside.length_symbols_append_le others stops)

inductive Spells (read : List Symbol → Option (α × List Symbol)) : List Char → List α → Prop where
  | nil : Spells read [] []
  | cons {text others : List Char} {value : α} {values : List α} (opens : Opens text)
      (reads : Reads read text value) (rest : Spells read others values) :
      Spells read (text ++ others) (value :: values)

namespace Spells

theorem single {text : List Char} {value : α} (opens : Opens text) (reads : Reads read text value) :
    Spells read text [value] := by
  simpa using cons opens reads nil

theorem append {first second : List Char} {values others : List α}
    (spells : Spells read first values) (spellsOthers : Spells read second others) :
    Spells read (first ++ second) (values ++ others) := by
  induction spells with
  | nil => exact spellsOthers
  | cons opens reads _ ih =>
      rw [List.append_assoc]
      exact cons opens reads ih

theorem stops {text rest : List Char} {values : List α} (spells : Spells read text values)
    (stops : Stops rest) : Stops (text ++ rest) := by
  cases spells with
  | nil => exact stops
  | cons opens reads others =>
      rw [List.append_assoc]
      exact opens.stops _

theorem many_eq {text rest : List Char} {values : List α} (spells : Spells read text values)
    (stops : Stops rest) (ends : read (symbols rest) = none) {fuel : Nat}
    (enough : (symbols (text ++ rest)).length ≤ fuel) :
    many read fuel (symbols (text ++ rest)) = (values, symbols rest) := by
  induction spells generalizing fuel with
  | nil => cases fuel <;> simp [many, ends]
  | @cons text others value values opens reads spells ih =>
      rw [List.append_assoc] at enough ⊢
      have stopsOthers := spells.stops stops
      have shorter := opens.length_lt stopsOthers
      cases fuel with
      | zero => omega
      | succ fuel =>
          have readOthers := ih (Nat.le_of_lt_succ (Nat.lt_of_lt_of_le shorter enough))
          rw [many, reads _ stopsOthers]
          simp [readOthers]

end Spells

/-- Whether a text at the front of a compound is read as the given type selector or star, or there
is none. -/
inductive Leads : List Char → Option Simple → Prop where
  | nothing : Leads [] none
  | star : Leads ['*'] (some .universal)
  | name {text name : String} (identifies : identifier? text = some name) :
      Leads text.toList (some (.type name))

theorem element?_of_opens {text : List Char} (opens : Opens text) :
    element? (symbols text) = none := by
  obtain ⟨c, member, rest, rfl⟩ := opens
  have unescaped : c ≠ '\\' := by
    rintro rfl
    simp at member
  rw [symbols_cons rest unescaped]
  simp only [List.mem_cons, List.not_mem_nil, or_false] at member
  rcases member with rfl | rfl | rfl <;> rfl

theorem element?_append {text rest : List Char} {element : Simple}
    (leads : Leads text (some element)) (stops : Stops rest) :
    element? (symbols (text ++ rest)) = some (element, symbols rest) := by
  cases leads with
  | star => rfl
  | @name text name identifies =>
      have read := name?_append identifies stops
      unfold element?
      split
      · next others star =>
        rw [star] at read
        simp [name?, startsName, startsWord, isNameStart] at read
      · rw [read]
        rfl

theorem compound_append {lead text rest : List Char} {element : Option Simple} {values : List α}
    {part : Simple → α} (leads : Leads lead element) (spells : Spells read text values)
    (ends : rest = [] ∨ ∃ others, rest = ')' :: others) (endsRead : read (symbols rest) = none) :
    compound part read (symbols (lead ++ (text ++ rest))) =
      ((element.map part).toList ++ values, symbols rest) := by
  have stops : Stops rest := by
    rcases ends with rfl | ⟨others, rfl⟩
    · exact stops_nil
    · exact stops_cons.2 (by decide)
  have readParts := spells.many_eq stops endsRead (Nat.le_refl _)
  cases element with
  | some element =>
      rw [compound, element?_append leads (spells.stops stops)]
      simp [readParts]
  | none =>
      have headless : element? (symbols (text ++ rest)) = none := by
        cases spells with
        | nil => rcases ends with rfl | ⟨others, rfl⟩ <;> rfl
        | cons opens reads others =>
            rw [List.append_assoc]
            exact element?_of_opens (opens.append _)
      cases leads
      rw [List.nil_append, compound, headless]
      simp [readParts]

end Selectors

section Selectors

theorem reads_class {text name : String} (identifies : identifier? text = some name) :
    Reads simple? ("." ++ text).toList (.class name) := by
  intro rest stops
  have read := name?_append identifies stops
  have written : symbols (("." ++ text).toList ++ rest) =
      .plain '.' :: symbols (text.toList ++ rest) := by
    rw [String.toList_append, List.append_assoc]
    rfl
  rw [written, simple?, read]
  rfl

theorem stops_comparison (op : TextOp) (rest : List Char) :
    Stops ((comparison op).toList ++ rest) := by
  cases op <;> exact stops_cons.2 (by decide)

theorem reads_attribute {text name operand : String} (op : AttributeOp)
    (identifies : identifier? text = some name) (clean : IsClean operand) :
    Reads simple? (attributeSelector text op operand).toList
      (.attribute name (testOf op operand)) := by
  intro rest stops
  cases op with
  | isPresent =>
      have written : symbols ((attributeSelector text .isPresent operand).toList ++ rest) =
          .plain '[' :: symbols (text.toList ++ ']' :: rest) := by
        simp only [attributeSelector, String.toList_append, List.append_assoc]
        rfl
      have read := name?_append identifies (stops_cons.2 (by decide) : Stops (']' :: rest))
      rw [written, simple?, read]
      rfl
  | compare op =>
      have written : symbols ((attributeSelector text (.compare op) operand).toList ++ rest) =
          .plain '[' :: symbols (text.toList ++
            ((comparison op ++ quote operand).toList ++ ']' :: rest)) := by
        simp only [attributeSelector, String.toList_append, List.append_assoc]
        rfl
      have stopsTest : Stops ((comparison op ++ quote operand).toList ++ ']' :: rest) := by
        rw [String.toList_append, List.append_assoc]
        exact stops_comparison op _
      have read := name?_append identifies stopsTest
      rw [written, simple?, read]
      simp only [Option.bind_eq_bind, Option.bind_some, test?_append clean]
      rfl

namespace Pseudo

def name : Pseudo → String
  | .firstChild => "first-child"
  | .lastChild => "last-child"
  | .firstOfType => "first-of-type"
  | .lastOfType => "last-of-type"
  | .nthChild _ => "nth-child"
  | .nthLastChild _ => "nth-last-child"
  | .nthOfType _ => "nth-of-type"
  | .nthLastOfType _ => "nth-last-of-type"

def number? : Pseudo → Option Nat
  | .nthChild index | .nthLastChild index | .nthOfType index | .nthLastOfType index =>
      some (index + 1)
  | _ => none

def argument : Option Nat → String
  | none => ""
  | some number => "(" ++ toString number ++ ")"

theorem text_eq (pseudo : Pseudo) :
    pseudo.text = ":" ++ pseudo.name ++ argument pseudo.number? := by
  cases pseudo with
  | firstChild | lastChild | firstOfType | lastOfType => rfl
  | nthChild | nthLastChild | nthOfType | nthLastOfType =>
      simp only [text, numbered, argument, number?, ← String.append_assoc]
      rfl

theorem identifier?_name (pseudo : Pseudo) : identifier? pseudo.name = some pseudo.name := by
  cases pseudo <;> rw [name] <;> decide

theorem name_mem_numberedPseudos (pseudo : Pseudo) :
    pseudo.name ∈ numberedPseudos ↔ pseudo.number?.isSome := by
  cases pseudo <;> simp [name, number?, numberedPseudos]

end Pseudo

theorem argument?_append {name : String} {number : Option Nat}
    (counted : name ∈ numberedPseudos ↔ number.isSome) (rest : List Char) :
    argument? name (symbols ((Pseudo.argument number).toList ++ rest)) =
      some (number, symbols rest) := by
  cases number with
  | none =>
      rw [argument?, if_neg (by simpa using counted)]
      rfl
  | some number =>
      have read := number?_append number (stops_cons.2 (by decide) : Stops (')' :: rest))
      have written : (Pseudo.argument (some number)).toList ++ rest =
          '(' :: ((toString number).toList ++ ')' :: rest) := by
        simp only [Pseudo.argument, String.toList_append, List.append_assoc]
        rfl
      rw [argument?, if_pos (by simpa using counted), written, symbols_cons _ (by decide), expect,
        if_pos rfl]
      simp only [Option.bind_eq_bind, Option.bind_some, read]
      rfl

theorem reads_pseudo (pseudo : Pseudo) :
    Reads simple? pseudo.text.toList (.pseudo pseudo.name pseudo.number?) := by
  intro rest stops
  have written : symbols (pseudo.text.toList ++ rest) =
      .plain ':' :: symbols (pseudo.name.toList ++
        ((Pseudo.argument pseudo.number?).toList ++ rest)) := by
    simp only [Pseudo.text_eq, String.toList_append, List.append_assoc]
    rfl
  have stopsArgument : Stops ((Pseudo.argument pseudo.number?).toList ++ rest) := by
    cases pseudo.number? with
    | none => exact stops
    | some number =>
        rw [Pseudo.argument, String.toList_append, String.toList_append, List.append_assoc]
        exact stops_cons.2 (by decide)
  rw [written, simple?, name?_append pseudo.identifier?_name stopsArgument]
  simp only [Option.bind_eq_bind, Option.bind_some,
    argument?_append pseudo.name_mem_numberedPseudos]
  rfl

end Selectors

end PageSelectors.Css
