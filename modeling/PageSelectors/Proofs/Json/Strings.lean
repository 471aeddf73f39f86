import Mathlib.Control.Basic
import Mathlib.Data.Option.Basic
import PageSelectors.Json.Quoting

/-!
JSON strings read back. Each character of a text is written as one unit of a literal, and none of
these units is the quote that ends it. So what is read of a literal is its text, whatever stands
behind it.
-/

namespace PageSelectors.Json

/-- How a character stands in a literal: as a short escape, as a code, or as it is. -/
inductive Stands (c : Char) : List Char → Prop where
  | short (letter : Char) : shortEscape letter = some c → Stands c ['\\', letter]
  | code : c.toNat < 32 → c ∉ ['\x08', '\t', '\n', '\x0c', '\r'] →
      Stands c ['\\', 'u', '0', '0', Text.digit (c.toNat / 16), Text.digit (c.toNat % 16)]
  | plain : c ≠ '"' → c ≠ '\\' → 32 ≤ c.toNat → Stands c [c]

theorem stands_escapeChar (c : Char) : Stands c (escapeChar c) := by
  by_cases mark : c = '"'
  · subst mark
    exact .short '"' rfl
  by_cases backslash : c = '\\'
  · subst backslash
    exact .short '\\' rfl
  by_cases backspace : c.toNat = 8
  · obtain rfl : c = '\x08' := by rw [← Char.ofNat_toNat c, backspace]
    exact .short 'b' rfl
  by_cases tab : c = '\t'
  · subst tab
    exact .short 't' rfl
  by_cases newline : c = '\n'
  · subst newline
    exact .short 'n' rfl
  by_cases formFeed : c.toNat = 12
  · obtain rfl : c = '\x0c' := by rw [← Char.ofNat_toNat c, formFeed]
    exact .short 'f' rfl
  by_cases carriage : c = '\r'
  · subst carriage
    exact .short 'r' rfl
  rw [escapeChar, if_neg mark, if_neg backslash, if_neg backspace, if_neg tab, if_neg newline,
    if_neg formFeed, if_neg carriage]
  by_cases control : c.toNat < 32
  · have named : c ≠ '\x08' ∧ c ≠ '\x0c' :=
      ⟨fun same => backspace (by rw [same]; rfl), fun same => formFeed (by rw [same]; rfl)⟩
    rw [if_pos control]
    exact .code control (by simp [named, tab, newline, carriage])
  · rw [if_neg control]
    exact .plain mark backslash (by omega)

def unitOf (c : Char) : StringUnit :=
  if c.toNat < 32 ∧ c ∉ ['\x08', '\t', '\n', '\x0c', '\r'] then .code c.toNat else .char c

theorem number?_controlCode :
    ∀ n < 32, Text.number? 16 ['0', '0', Text.digit (n / 16), Text.digit (n % 16)] = some n := by
  decide

theorem readUnits_escapeChar (c : Char) (rest : List Char) :
    readUnits (escapeChar c ++ rest) = do
      let (units, rest) ← readUnits rest
      return (unitOf c :: units, rest) := by
  have stands := stands_escapeChar c
  generalize escapeChar c = chars at stands
  cases stands with
  | short letter short =>
      unfold shortEscape at short
      split at short <;> cases short <;> rfl
  | code control long =>
      have unit : unitOf c = .code c.toNat := if_pos ⟨control, long⟩
      rw [unit]
      simp only [List.cons_append, List.nil_append, readUnits, number?_controlCode _ control]
      rfl
  | plain _ backslash printable =>
      have unit : unitOf c = .char c := if_neg fun both => by omega
      rw [unit]
      simp [readUnits, backslash, printable]

theorem unitsToChars_code {code : Nat} (alone : code < 0xD800 ∨ 0xE000 ≤ code)
    (units : List StringUnit) :
    unitsToChars (.code code :: units) = do return Char.ofNat code :: (← unitsToChars units) := by
  have notLead : isLeadSurrogate code = false := by simp [isLeadSurrogate]; omega
  have notTrail : isTrailSurrogate code = false := by simp [isTrailSurrogate]; omega
  match units with
  | [] => simp [unitsToChars, notLead, notTrail]
  | .char c :: rest => simp [unitsToChars, notLead, notTrail]
  | .code trail :: rest => simp [unitsToChars, notLead, notTrail]

theorem unitsToChars_unitOf (c : Char) (units : List StringUnit) :
    unitsToChars (unitOf c :: units) = do return c :: (← unitsToChars units) := by
  unfold unitOf
  split
  · next control => rw [unitsToChars_code (.inl (by omega)), Char.ofNat_toNat]
  · rfl

theorem readUnits_quoted (cs rest : List Char) :
    readUnits (cs.flatMap escapeChar ++ '"' :: rest) = some (cs.map unitOf, rest) := by
  induction cs with
  | nil => rfl
  | cons c cs ih =>
      rw [List.flatMap_cons, List.append_assoc, readUnits_escapeChar, ih]
      rfl

theorem unitsToChars_map_unitOf (cs : List Char) : unitsToChars (cs.map unitOf) = some cs := by
  induction cs with
  | nil => rfl
  | cons c cs ih =>
      rw [List.map_cons, unitsToChars_unitOf, ih]
      rfl

theorem quote_toList (text : String) :
    (quote text).toList = '"' :: (text.toList.flatMap escapeChar ++ ['"']) := by
  rw [quote, String.toList_ofList, List.cons_append]

/-- A literal ends with its own quote and stands for its text. -/
theorem readString_quoted (text : String) (rest : List Char) :
    readString (text.toList.flatMap escapeChar ++ '"' :: rest) = some (some text, rest) := by
  rw [readString, readUnits_quoted]
  simp [unitsToChars_map_unitOf]

/-- The closing quote tells where a literal ends, so nothing else can have been written. -/
theorem quote_append_inj {first second : String} {rest other : List Char} :
    (quote first).toList ++ rest = (quote second).toList ++ other ↔
      first = second ∧ rest = other := by
  constructor
  · intro same
    rw [quote_toList, quote_toList, List.cons_append, List.cons_append, List.cons_inj_right,
      List.append_assoc, List.append_assoc] at same
    have read := congrArg readString same
    rw [List.singleton_append, List.singleton_append, readString_quoted, readString_quoted] at read
    simpa using read
  · rintro ⟨rfl, rfl⟩
    rfl

theorem quote_injective : Function.Injective quote := by
  intro first second same
  have chars : (quote first).toList ++ [] = (quote second).toList ++ [] := by rw [same]
  exact (quote_append_inj.1 chars).1

section Backwards

theorem before_mark_of_escapeChar {c : Char} {before after : List Char}
    (written : escapeChar c = before ++ '"' :: after) : before = ['\\'] := by
  have stands := stands_escapeChar c
  generalize escapeChar c = chars at stands written
  cases stands with
  | short letter short =>
      obtain ⟨_, rfl, rfl, -, -⟩ : ∃ others, before = '\\' :: others ∧ others = [] ∧ _ ∧ _ := by
        simpa [List.cons_eq_append_iff] using written
      rfl
  | code control =>
      have noMark : ∀ n < 16, Text.digit n ≠ '"' := by decide
      have member : '"' ∈ before ++ '"' :: after := by simp
      rw [← written] at member
      simp [(noMark (c.toNat / 16) (by omega)).symm, (noMark (c.toNat % 16) (by omega)).symm]
        at member
  | plain mark => simp [List.cons_eq_append_iff, mark.symm] at written

/-- A quote inside a literal has a backslash before it. -/
theorem getLast?_before_mark {cs before after : List Char}
    (written : cs.flatMap escapeChar = before ++ '"' :: after) : before.getLast? = some '\\' := by
  induction cs generalizing before with
  | nil => simp at written
  | cons c cs ih =>
      rw [List.flatMap_cons, List.append_eq_append_iff] at written
      rcases written with ⟨more, rfl, later⟩ | ⟨more, here, later⟩
      · rw [List.getLast?_append, ih later]
        rfl
      · cases more with
        | nil => simpa using @ih [] later.symm
        | cons mark more =>
            obtain rfl := (List.cons.inj later).1
            rw [before_mark_of_escapeChar here]
            rfl

theorem eq_nil_of_quote_eq_append {first second : String} {more : List Char}
    (written : (quote first).toList = more ++ (quote second).toList)
    (unescaped : more.getLast? ≠ some '\\') : more = [] := by
  cases more with
  | nil => rfl
  | cons mark more =>
      rw [quote_toList, quote_toList, List.cons_append] at written
      have inside : first.toList.flatMap escapeChar =
          more ++ '"' :: second.toList.flatMap escapeChar := by
        rw [← List.append_left_inj ['"'], (List.cons.inj written).2]
        simp
      exact (unescaped (by simp [List.getLast?_cons, getLast?_before_mark inside])).elim

/-- A text that ends with a literal can be read backwards too: the literal starts at the same place
however it is read, if there is no backslash right before it. -/
theorem append_quote_inj {before other : List Char} {first second : String}
    (unescaped : before.getLast? ≠ some '\\') (otherUnescaped : other.getLast? ≠ some '\\') :
    before ++ (quote first).toList = other ++ (quote second).toList ↔
      before = other ∧ first = second := by
  constructor
  · intro same
    have here : before = other := by
      rcases List.append_eq_append_iff.1 same with ⟨more, rfl, written⟩ | ⟨more, rfl, written⟩
      · rw [eq_nil_of_quote_eq_append written fun last => otherUnescaped (by simp [last]),
          List.append_nil]
      · rw [eq_nil_of_quote_eq_append written fun last => unescaped (by simp [last]),
          List.append_nil]
    rw [here, List.append_cancel_left_eq] at same
    exact ⟨here, quote_injective (String.toList_inj.1 same)⟩
  · rintro ⟨rfl, rfl⟩
    rfl

end Backwards

end PageSelectors.Json
