import Mathlib.Data.List.DropRight
import PageSelectors.Json.Printer
import PageSelectors.Json.Reader
import PageSelectors.Proofs.Digits
import PageSelectors.Proofs.Json.Strings

/-!
The forms of a JSON document: the character sequences it can be written as, with any blanks between
its parts. Whichever form is read, the document comes out of it.
-/

namespace PageSelectors.Json

abbrev Form := List Char → Prop

def IsBlank (cs : List Char) : Prop :=
  ∀ c ∈ cs, isSpace c = true

def padded (form : Form) : Form := fun cs =>
  ∃ before own after, IsBlank before ∧ form own ∧ IsBlank after ∧ cs = before ++ (own ++ after)

def separated : List Form → Form
  | [] => IsBlank
  | [form] => padded form
  | form :: next :: rest => fun cs =>
      ∃ first others, padded form first ∧ separated (next :: rest) others ∧
        cs = first ++ ',' :: others

def named (name : Option String) (form : Form) : Form := fun cs =>
  ∃ text before after own, name = some text ∧ IsBlank before ∧ IsBlank after ∧ form own ∧
    cs = (quote text).toList ++ (before ++ ':' :: (after ++ own))

def bracketed (opening closing : Char) (form : Form) : Form := fun cs =>
  ∃ inner, form inner ∧ cs = opening :: (inner ++ [closing])

mutual

/-- The forms of a value. Numbers other than natural ones and strings that are no texts have none
here. -/
def Value.form : Value → Form
  | .null => (· = "null".toList)
  | .bool value => (· = (toString value).toList)
  | .natural value => (· = (toString value).toList)
  | .otherNumber _ | .brokenString => fun _ => False
  | .string text => (· = (quote text).toList)
  | .array items => bracketed '[' ']' (separated (itemForms items))
  | .object members => bracketed '{' '}' (separated (memberForms members))

def itemForms : List Value → List Form
  | [] => []
  | item :: rest => item.form :: itemForms rest

def memberForms : List (Option String × Value) → List Form
  | [] => []
  | (name, value) :: rest => named name value.form :: memberForms rest

end

section Spaces

variable {blank cs : List Char}

theorem skipSpaces_append (spaces : IsBlank blank) (cs : List Char) :
    skipSpaces (blank ++ cs) = skipSpaces cs :=
  List.dropWhile_append_of_pos spaces

theorem skipSpaces_of_isBlank (spaces : IsBlank blank) : skipSpaces blank = [] :=
  List.dropWhile_eq_nil_iff.2 spaces

theorem skipSpaces_cons {c : Char} (solid : isSpace c = false) (cs : List Char) :
    skipSpaces (c :: cs) = c :: cs :=
  List.dropWhile_cons_of_neg (by simp [solid])

@[simp] theorem skipSpaces_skipSpaces (cs : List Char) :
    skipSpaces (skipSpaces cs) = skipSpaces cs :=
  List.dropWhile_idempotent ..

theorem readValue_skipSpaces (fuel : Nat) (cs : List Char) :
    readValue fuel (skipSpaces cs) = readValue fuel cs := by
  cases fuel with
  | zero => rfl
  | succ fuel => rw [readValue, readValue, skipSpaces_skipSpaces]

theorem readItems_skipSpaces (fuel : Nat) (cs : List Char) :
    readItems fuel (skipSpaces cs) = readItems fuel cs := by
  cases fuel with
  | zero => rfl
  | succ fuel => rw [readItems, readItems, readValue_skipSpaces]

theorem readMembers_skipSpaces (fuel : Nat) (cs : List Char) :
    readMembers fuel (skipSpaces cs) = readMembers fuel cs := by
  cases fuel with
  | zero => rfl
  | succ fuel => rw [readMembers, readMembers, skipSpaces_skipSpaces]

end Spaces

section Numbers

def NumberEnds (cs : List Char) : Prop :=
  ∀ c ∈ cs.head?, c.isDigit = false ∧ c ∉ ['.', 'e', 'E']

variable {rest : List Char}

theorem readDigits_append {digits : List Char} (all : ∀ c ∈ digits, c.isDigit = true)
    (present : digits ≠ []) (ends : NumberEnds rest) :
    readDigits (digits ++ rest) = some (digits, rest) := by
  have nothing : rest.takeWhile Char.isDigit = [] ∧ rest.dropWhile Char.isDigit = rest := by
    cases rest with
    | nil => exact ⟨rfl, rfl⟩
    | cons c cs => simp [(ends c rfl).1]
  rw [readDigits, List.takeWhile_append_of_pos all, List.dropWhile_append_of_pos all, nothing.1,
    nothing.2, List.append_nil]
  simp [present]

theorem readFraction_of_ends (ends : NumberEnds rest) : readFraction rest = some ([], rest) := by
  cases rest with
  | nil => rfl
  | cons c cs =>
      have noPoint : c ≠ '.' := fun point => (ends c rfl).2 (by simp [point])
      simp [readFraction, noPoint]

theorem readExponent_of_ends (ends : NumberEnds rest) : readExponent rest = some ([], rest) := by
  cases rest with
  | nil => rfl
  | cons c cs =>
      have noMark := (ends c rfl).2
      exact if_neg (by simp at noMark; tauto)

theorem readNumber_toDigits (n : Nat) (ends : NumberEnds rest) :
    readNumber (Nat.toDigits 10 n ++ rest) = some (.natural n, rest) := by
  have all := Text.isDigit_of_mem_toDigits (n := n)
  have read := Text.number?_toDigits n
  have unpadded : (Nat.toDigits 10 n).length = 1 ∨ (Nat.toDigits 10 n).head? ≠ some '0' := by
    by_cases zero : n = 0
    · subst zero
      exact .inl rfl
    · refine .inr fun starts => zero ?_
      obtain ⟨others, digits⟩ := List.head?_eq_some_iff.1 starts
      exact Text.eq_zero_of_toDigits digits
  cases digits : Nat.toDigits 10 n with
  | nil => exact absurd digits Nat.toDigits_ne_nil
  | cons first others =>
      rw [digits] at all read unpadded
      have whole : readWhole (first :: others ++ rest) = some (first :: others, rest) := by
        rw [readWhole, readDigits_append all (by simp) ends]
        simp only [Option.bind_eq_bind, Option.bind_some, unpadded, guard_true]
        rfl
      have unsigned : first ≠ '-' := by
        rintro rfl
        exact absurd (all '-' List.mem_cons_self) (by decide)
      rw [List.cons_append] at whole
      simp [readNumber, unsigned, whole, readFraction_of_ends ends, readExponent_of_ends ends, read]

end Numbers

section Reading

variable {cs own rest : List Char} {fuel : Nat}

def IsMark (c : Char) : Prop :=
  c = ',' ∨ c = ']' ∨ c = '}'

theorem IsMark.solid {mark : Char} (isMark : IsMark mark) : isSpace mark = false := by
  rcases isMark with rfl | rfl | rfl <;> rfl

theorem numberEnds_append {blank : List Char} (spaces : IsBlank blank) (ends : NumberEnds rest) :
    NumberEnds (blank ++ rest) := by
  cases blank with
  | nil => exact ends
  | cons space others =>
      intro c starts
      obtain rfl : space = c := by simpa using starts
      have space := spaces space List.mem_cons_self
      simp only [isSpace, Bool.or_eq_true, beq_iff_eq] at space
      rcases space with ((rfl | rfl) | rfl) | rfl <;> decide

theorem IsMark.numberEnds {mark : Char} (isMark : IsMark mark) (rest : List Char) :
    NumberEnds (mark :: rest) := by
  intro c starts
  obtain rfl : mark = c := by simpa using starts
  rcases isMark with rfl | rfl | rfl <;> decide

def StartsSolid (cs : List Char) : Prop :=
  ∃ c tail, cs = c :: tail ∧ isSpace c = false ∧ ¬ IsMark c

theorem toList_toString (n : Nat) : (toString n).toList = Nat.toDigits 10 n :=
  Nat.toList_repr

theorem startsSolid_toString (n : Nat) : StartsSolid (toString n).toList := by
  rw [toList_toString]
  cases digits : Nat.toDigits 10 n with
  | nil => exact absurd digits Nat.toDigits_ne_nil
  | cons first others =>
      have digit : first.isDigit = true :=
        Text.isDigit_of_mem_toDigits first (digits ▸ List.mem_cons_self)
      refine ⟨first, others, rfl, ?_, ?_⟩
      · rw [Bool.eq_false_iff]
        intro space
        simp only [isSpace, Bool.or_eq_true, beq_iff_eq] at space
        rcases space with ((rfl | rfl) | rfl) | rfl <;> simp at digit
      · rintro (rfl | rfl | rfl) <;> simp at digit

theorem startsSolid_of_form {value : Value} (writes : value.form cs) : StartsSolid cs := by
  match value with
  | .null =>
      rw [Value.form] at writes
      subst writes
      exact ⟨'n', _, rfl, rfl, by simp [IsMark]⟩
  | .bool true =>
      rw [Value.form] at writes
      subst writes
      exact ⟨'t', _, rfl, rfl, by simp [IsMark]⟩
  | .bool false =>
      rw [Value.form] at writes
      subst writes
      exact ⟨'f', _, rfl, rfl, by simp [IsMark]⟩
  | .natural n =>
      rw [Value.form] at writes
      subst writes
      exact startsSolid_toString n
  | .string text =>
      rw [Value.form] at writes
      subst writes
      rw [quote_toList]
      exact ⟨'"', _, rfl, rfl, by simp [IsMark]⟩
  | .array items =>
      rw [Value.form] at writes
      obtain ⟨inner, -, rfl⟩ := writes
      exact ⟨'[', _, rfl, rfl, by simp [IsMark]⟩
  | .object members =>
      rw [Value.form] at writes
      obtain ⟨inner, -, rfl⟩ := writes
      exact ⟨'{', _, rfl, rfl, by simp [IsMark]⟩

theorem readValue_natural (n : Nat) (ends : NumberEnds rest) :
    readValue (fuel + 1) ((toString n).toList ++ rest) = some (.natural n, rest) := by
  have number := readNumber_toDigits n ends
  obtain ⟨c, others, digits, solid, -⟩ := startsSolid_toString n
  have digit : c.isDigit = true :=
    Text.isDigit_of_mem_toDigits c (by rw [← toList_toString, digits]; exact List.mem_cons_self)
  rw [← toList_toString, digits] at number
  have noWord : c ≠ 'n' ∧ c ≠ 't' ∧ c ≠ 'f' ∧ c ≠ '"' ∧ c ≠ '[' ∧ c ≠ '{' := by
    refine ⟨?_, ?_, ?_, ?_, ?_, ?_⟩ <;> rintro rfl <;> simp at digit
  obtain ⟨n, t, f, text, array, object⟩ := noWord
  rw [digits, List.cons_append, readValue, skipSpaces_cons solid]
  simpa [n, t, f, text, array, object] using number

theorem readValue_string (text : String) (rest : List Char) :
    readValue (fuel + 1) ((quote text).toList ++ rest) = some (.string text, rest) := by
  rw [quote_toList, List.cons_append, List.append_assoc, readValue, skipSpaces_cons rfl]
  simp [readString_quoted]

theorem readValue_array (filled : (skipSpaces cs).head? ≠ some ']') :
    readValue (fuel + 1) ('[' :: cs) = do
      let (items, rest) ← readItems fuel cs
      return (.array items, rest) := by
  rw [readValue, skipSpaces_cons rfl, ← readItems_skipSpaces]
  cases starts : skipSpaces cs with
  | nil => simp [starts]
  | cons c tail =>
      have other : c ≠ ']' := by simpa [starts] using filled
      simp [starts, other]

theorem readValue_object (filled : (skipSpaces cs).head? ≠ some '}') :
    readValue (fuel + 1) ('{' :: cs) = do
      let (members, rest) ← readMembers fuel cs
      return (.object members, rest) := by
  rw [readValue, skipSpaces_cons rfl, ← readMembers_skipSpaces]
  cases starts : skipSpaces cs with
  | nil => simp [starts]
  | cons c tail =>
      have other : c ≠ '}' := by simpa [starts] using filled
      simp [starts, other]

variable {form : Form} {value : Value} {mark : Char}

def Reads (fuel : Nat) (form : Form) (value : Value) : Prop :=
  ∀ {own rest : List Char}, form own → 2 * own.length ≤ fuel → NumberEnds rest →
    readValue fuel (own ++ rest) = some (value, rest)

theorem readValue_padded (reads : Reads fuel form value) (pads : padded form cs)
    (enough : 2 * cs.length ≤ fuel) (isMark : IsMark mark) (rest : List Char) :
    ∃ tail, readValue fuel (cs ++ mark :: rest) = some (value, tail) ∧
      skipSpaces tail = mark :: rest := by
  obtain ⟨before, own, after, spaces, writes, spacesAfter, rfl⟩ := pads
  have short : 2 * own.length ≤ fuel := by
    simp only [List.length_append] at enough
    omega
  refine ⟨after ++ mark :: rest, ?_, ?_⟩
  · rw [List.append_assoc, List.append_assoc, ← readValue_skipSpaces, skipSpaces_append spaces,
      readValue_skipSpaces]
    exact reads writes short (numberEnds_append spacesAfter (isMark.numberEnds rest))
  · rw [skipSpaces_append spacesAfter, skipSpaces_cons isMark.solid]

/-- The steps in which a member is read. -/
theorem exists_readMember (reads : Reads fuel form value) {name : Option String}
    (pads : padded (named name form) cs) (enough : 2 * cs.length ≤ fuel) (isMark : IsMark mark)
    (rest : List Char) :
    ∃ inQuotes behindName behindColon tail,
      skipSpaces (cs ++ mark :: rest) = '"' :: inQuotes ∧
      readString inQuotes = some (name, behindName) ∧
      skipSpaces behindName = ':' :: behindColon ∧
      readValue fuel behindColon = some (value, tail) ∧ skipSpaces tail = mark :: rest := by
  obtain ⟨before, _, after, spaces,
    ⟨text, spacing, gap, own, rfl, blank, blankGap, writes, rfl⟩, spacesAfter, rfl⟩ := pads
  have inner : padded form (gap ++ (own ++ after)) :=
    ⟨gap, own, after, blankGap, writes, spacesAfter, rfl⟩
  have short : 2 * (gap ++ (own ++ after)).length ≤ fuel := by
    simp only [List.length_append, List.length_cons] at enough ⊢
    omega
  obtain ⟨tail, read, skipped⟩ := readValue_padded reads inner short isMark rest
  refine ⟨_, spacing ++ ':' :: (gap ++ (own ++ after) ++ mark :: rest), _, tail, ?start,
    readString_quoted text _, ?colon, read, skipped⟩
  case start =>
    rw [List.append_assoc, skipSpaces_append spaces, quote_toList]
    simp only [List.cons_append, List.append_assoc, List.nil_append]
    exact skipSpaces_cons rfl _
  case colon => rw [skipSpaces_append blank, skipSpaces_cons rfl]

theorem startsSolid_of_named {name : Option String} (writes : named name form cs) :
    StartsSolid cs := by
  obtain ⟨text, before, after, own, -, -, -, -, rfl⟩ := writes
  rw [quote_toList]
  exact ⟨'"', _, rfl, rfl, by simp [IsMark]⟩

/-- A list of forms that is not empty does not start with a mark. -/
theorem not_isMark_of_padded (starts : ∀ {own}, form own → StartsSolid own) (pads : padded form cs)
    (rest : List Char) : ∀ c ∈ (skipSpaces (cs ++ rest)).head?, ¬ IsMark c := by
  obtain ⟨before, own, after, spaces, writes, -, rfl⟩ := pads
  obtain ⟨c, tail, rfl, solid, notMark⟩ := starts writes
  rw [List.append_assoc, skipSpaces_append spaces, List.cons_append, List.cons_append,
    skipSpaces_cons solid]
  intro other same
  obtain rfl : c = other := by simpa using same
  exact notMark

theorem not_isMark_of_separated {forms : List Form}
    (starts : ∀ {own}, form own → StartsSolid own) (writes : separated (form :: forms) cs)
    (rest : List Char) : ∀ c ∈ (skipSpaces (cs ++ rest)).head?, ¬ IsMark c := by
  cases forms with
  | nil => exact not_isMark_of_padded starts writes rest
  | cons next forms =>
      obtain ⟨first, others, pads, -, rfl⟩ := writes
      rw [List.append_assoc]
      exact not_isMark_of_padded starts pads _

theorem readValue_array_of_forms {items : List Value} {inner : List Char}
    (writes : separated (itemForms items) inner)
    (read : items ≠ [] → readItems fuel (inner ++ ']' :: rest) = some (items, rest)) :
    readValue (fuel + 1) ('[' :: (inner ++ [']']) ++ rest) = some (.array items, rest) := by
  rw [List.cons_append, List.append_assoc, List.singleton_append]
  cases items with
  | nil =>
      have empty : skipSpaces (inner ++ ']' :: rest) = ']' :: rest := by
        rw [skipSpaces_append writes, skipSpaces_cons rfl]
      rw [readValue, skipSpaces_cons rfl]
      simp [empty]
  | cons item items =>
      have filled := not_isMark_of_separated startsSolid_of_form writes (']' :: rest)
      rw [readValue_array fun starts => filled _ starts (.inr (.inl rfl)), read (by simp)]
      rfl

theorem readValue_object_of_forms {members : List (Option String × Value)} {inner : List Char}
    (writes : separated (memberForms members) inner)
    (read : members ≠ [] → readMembers fuel (inner ++ '}' :: rest) = some (members, rest)) :
    readValue (fuel + 1) ('{' :: (inner ++ ['}']) ++ rest) = some (.object members, rest) := by
  rw [List.cons_append, List.append_assoc, List.singleton_append]
  cases members with
  | nil =>
      have empty : skipSpaces (inner ++ '}' :: rest) = '}' :: rest := by
        rw [skipSpaces_append writes, skipSpaces_cons rfl]
      rw [readValue, skipSpaces_cons rfl]
      simp [empty]
  | cons member members =>
      have filled := not_isMark_of_separated startsSolid_of_named writes ('}' :: rest)
      rw [readValue_object fun starts => filled _ starts (.inr (.inr rfl)), read (by simp)]
      rfl

mutual

theorem reads_form (value : Value) (fuel : Nat) : Reads fuel value.form value := by
  intro cs rest writes enough ends
  obtain ⟨less, rfl⟩ : ∃ less, fuel = less + 1 := by
    obtain ⟨c, tail, rfl, -⟩ := startsSolid_of_form writes
    exact Nat.exists_eq_add_of_le' (by simp only [List.length_cons] at enough; omega)
  match value with
  | .null =>
      rw [Value.form] at writes
      subst writes
      rfl
  | .bool true | .bool false =>
      rw [Value.form] at writes
      subst writes
      rfl
  | .natural n =>
      rw [Value.form] at writes
      subst writes
      exact readValue_natural n ends
  | .string text =>
      rw [Value.form] at writes
      subst writes
      exact readValue_string text rest
  | .array items =>
      rw [Value.form] at writes
      obtain ⟨inner, writes, rfl⟩ := writes
      have short : 2 * inner.length + 1 ≤ less := by
        simp only [List.length_cons, List.length_append] at enough
        omega
      exact readValue_array_of_forms writes fun present =>
        readItems_of_forms items present writes short rest
  | .object members =>
      rw [Value.form] at writes
      obtain ⟨inner, writes, rfl⟩ := writes
      have short : 2 * inner.length + 1 ≤ less := by
        simp only [List.length_cons, List.length_append] at enough
        omega
      exact readValue_object_of_forms writes fun present =>
        readMembers_of_forms members present writes short rest

theorem readItems_of_forms (items : List Value) {cs : List Char} {fuel : Nat}
    (present : items ≠ []) (writes : separated (itemForms items) cs)
    (enough : 2 * cs.length + 1 ≤ fuel) (rest : List Char) :
    readItems fuel (cs ++ ']' :: rest) = some (items, rest) := by
  obtain ⟨less, rfl⟩ : ∃ less, fuel = less + 1 := Nat.exists_eq_add_of_le' (by omega)
  match items with
  | [item] =>
      obtain ⟨tail, read, skipped⟩ :=
        readValue_padded (reads_form item less) writes (by omega) (.inr (.inl rfl)) rest
      simp [readItems, read, skipped]
  | item :: next :: others =>
      rw [itemForms, itemForms, separated] at writes
      obtain ⟨first, more, pads, writes, rfl⟩ := writes
      rw [← itemForms] at writes
      simp only [List.length_append, List.length_cons] at enough
      obtain ⟨tail, read, skipped⟩ :=
        readValue_padded (reads_form item less) pads (by omega) (.inl rfl) (more ++ ']' :: rest)
      have readMore : readItems less (more ++ ']' :: rest) = _ :=
        readItems_of_forms (next :: others) (by simp) writes (by omega) rest
      rw [List.append_assoc, List.cons_append]
      simp [readItems, read, skipped, readMore]

theorem readMembers_of_forms (members : List (Option String × Value)) {cs : List Char}
    {fuel : Nat} (present : members ≠ []) (writes : separated (memberForms members) cs)
    (enough : 2 * cs.length + 1 ≤ fuel) (rest : List Char) :
    readMembers fuel (cs ++ '}' :: rest) = some (members, rest) := by
  obtain ⟨less, rfl⟩ : ∃ less, fuel = less + 1 := Nat.exists_eq_add_of_le' (by omega)
  match members with
  | [(name, value)] =>
      obtain ⟨_, _, _, _, start, text, colon, read, skipped⟩ :=
        exists_readMember (reads_form value less) writes (by omega) (.inr (.inr rfl)) rest
      simp [readMembers, start, text, colon, read, skipped]
  | (name, value) :: next :: others =>
      rw [memberForms, memberForms, separated] at writes
      obtain ⟨first, more, pads, writes, rfl⟩ := writes
      rw [← memberForms] at writes
      simp only [List.length_append, List.length_cons] at enough
      have readMore : readMembers less (more ++ '}' :: rest) = _ :=
        readMembers_of_forms (next :: others) (by simp) writes (by omega) rest
      obtain ⟨_, _, _, _, start, text, colon, read, skipped⟩ :=
        exists_readMember (reads_form value less) pads (by omega) (.inl rfl) (more ++ '}' :: rest)
      rw [List.append_assoc, List.cons_append]
      simp [readMembers, start, text, colon, read, skipped, readMore]

end

/-- A text is the document that it is a form of, with any blanks around it. -/
theorem parse?_of_padded {value : Value} {text : String} (pads : padded value.form text.toList) :
    Value.parse? text = some value := by
  obtain ⟨before, own, after, spaces, writes, spacesAfter, written⟩ := pads
  have ends : NumberEnds after := by
    rw [← List.append_nil after]
    exact numberEnds_append spacesAfter fun c starts => by cases starts
  have read : readValue (2 * text.toList.length + 2) text.toList = some (value, after) := by
    have enough : 2 * own.length ≤ 2 * text.toList.length + 2 := by
      simp only [written, List.length_append]
      omega
    rw [← reads_form value _ writes enough ends, ← readValue_skipSpaces, written,
      skipSpaces_append spaces, readValue_skipSpaces]
  rw [Value.parse?]
  simp [read, skipSpaces_of_isBlank spacesAfter]

end Reading

end PageSelectors.Json
