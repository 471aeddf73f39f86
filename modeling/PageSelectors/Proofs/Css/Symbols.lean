import PageSelectors.Css.Quoting
import PageSelectors.Text.Digits

/-!
The characters of a selector as the CSS syntax takes them. A backslash escapes the character after
it, or stands before up to six hexadecimal digits for the character with that code; resolving this
comes first, so that names and strings can be read without a thought of backslashes.
-/

namespace PageSelectors.Css

/-- A character of a selector, with its escape resolved. -/
inductive Symbol where
  | plain (c : Char)
  | escaped (c : Char)
  /-- A backslash at the end of a line, or of the whole text. -/
  | lineEnd
  deriving DecidableEq, Repr

def isLineEnd (c : Char) : Bool :=
  c == '\n' || c == '\r' || c == '\x0c'

def isSpace (c : Char) : Bool :=
  c == ' ' || c == '\t' || isLineEnd c

def coded (code : Nat) : Char :=
  if code ≠ 0 ∧ code.isValidChar then Char.ofNat code else '\uFFFD'

inductive Progress where
  | outside
  | opened
  | digits (count value : Nat)
  /-- After a carriage return that an escape took; a line feed goes with it. -/
  | returned
  deriving DecidableEq

namespace Progress

def enter (c : Char) : List Symbol × Progress :=
  if c = '\\' then ([], .opened) else ([.plain c], .outside)

def after (blank : Char) : Progress :=
  if blank = '\r' then .returned else .outside

def next : Progress → Char → List Symbol × Progress
  | .outside, c => enter c
  | .opened, c =>
      match Text.digitValue c with
      | some value => ([], .digits 1 value)
      | none => if isLineEnd c then ([.lineEnd], after c) else ([.escaped c], .outside)
  | .digits count value, c =>
      match if count < 6 then Text.digitValue c else none with
      | some digit => ([], .digits (count + 1) (16 * value + digit))
      | none =>
          if isSpace c then ([.escaped (coded value)], after c)
          else (.escaped (coded value) :: (enter c).1, (enter c).2)
  | .returned, c => if c = '\n' then ([], .outside) else enter c

def finish : Progress → List Symbol
  | .outside | .returned => []
  | .opened => [.lineEnd]
  | .digits _ value => [.escaped (coded value)]

def symbols : Progress → List Char → List Symbol
  | progress, [] => progress.finish
  | progress, c :: rest => (progress.next c).1 ++ symbols (progress.next c).2 rest

end Progress

def symbols (text : List Char) : List Symbol :=
  Progress.outside.symbols text

def isNameChar (c : Char) : Bool :=
  c.isAlphanum || c == '-' || c == '_' || 0x80 ≤ c.toNat

def isNameStart (c : Char) : Bool :=
  c.isAlpha || c == '_' || 0x80 ≤ c.toNat

/-- Whether a text cannot go on a name, an escape or a number before it. -/
def Stops (text : List Char) : Prop :=
  ∀ c ∈ text.head?, isNameChar c = false ∧ c ≠ '\\' ∧ isSpace c = false

instance (text : List Char) : Decidable (Stops text) :=
  Option.decidableForallMem text.head?

theorem stops_nil : Stops [] := by
  simp [Stops]

theorem stops_cons {c : Char} {rest : List Char} :
    Stops (c :: rest) ↔ isNameChar c = false ∧ c ≠ '\\' ∧ isSpace c = false := by
  simp [Stops]

theorem isAlphanum_of_digitValue {c : Char} {value : Nat}
    (digit : Text.digitValue c = some value) : c.isAlphanum = true := by
  rw [Text.digitValue] at digit
  have ranges : c.isAlphanum = (decide ('A'.val ≤ c.val ∧ c.val ≤ 'Z'.val) ||
      ('a'.val ≤ c.val && c.val ≤ 'z'.val) || ('0'.val ≤ c.val && c.val ≤ '9'.val)) := rfl
  simp only [ranges, Bool.or_eq_true, Bool.and_eq_true, decide_eq_true_eq]
  simp only [Char.le_def, UInt32.le_iff_toNat_le] at digit ⊢
  have bounds : '0'.val.toNat = 48 ∧ '9'.val.toNat = 57 ∧ 'A'.val.toNat = 65 ∧
      'F'.val.toNat = 70 ∧ 'Z'.val.toNat = 90 ∧ 'a'.val.toNat = 97 ∧ 'f'.val.toNat = 102 ∧
      'z'.val.toNat = 122 := by decide
  split at digit
  · omega
  · split at digit
    · omega
    · split at digit
      · omega
      · simp at digit

theorem digitValue_of_not_isNameChar {c : Char} (outer : isNameChar c = false) :
    Text.digitValue c = none := by
  cases digit : Text.digitValue c with
  | none => rfl
  | some value => simp [isNameChar, isAlphanum_of_digitValue digit] at outer

@[simp] theorem symbols_nil : symbols [] = [] := rfl

theorem symbols_cons {c : Char} (rest : List Char) (unescaped : c ≠ '\\') :
    symbols (c :: rest) = .plain c :: symbols rest := by
  simp [symbols, Progress.symbols, Progress.next, Progress.enter, unescaped]

namespace Progress

/-- What stops a name ends an escape as well and is read from the start. -/
theorem symbols_of_stops {progress : Progress} {rest : List Char} (settled : progress ≠ .opened)
    (stops : Stops rest) : progress.symbols rest = progress.finish ++ Css.symbols rest := by
  cases rest with
  | nil => simp [symbols]
  | cons c rest =>
      obtain ⟨outer, unescaped, solid⟩ := stops_cons.1 stops
      rw [Css.symbols_cons rest unescaped]
      have entered : enter c = ([.plain c], .outside) := if_neg unescaped
      have noDigit := digitValue_of_not_isNameChar outer
      cases progress with
      | outside => simp [symbols, next, entered, finish, Css.symbols]
      | opened => exact absurd rfl settled
      | digits count value =>
          simp [symbols, next, noDigit, solid, entered, finish, Css.symbols]
      | returned =>
          have sameLine : c ≠ '\n' := by
            rintro rfl
            exact absurd solid (by decide)
          simp [symbols, next, sameLine, entered, finish, Css.symbols]

theorem symbols_append {progress : Progress} {text rest : List Char}
    (settled : .lineEnd ∉ progress.symbols text) (stops : Stops rest) :
    progress.symbols (text ++ rest) = progress.symbols text ++ Css.symbols rest := by
  induction text generalizing progress with
  | nil =>
      apply symbols_of_stops _ stops
      rintro rfl
      exact settled List.mem_cons_self
  | cons c text ih =>
      have later : .lineEnd ∉ (progress.next c).2.symbols text := fun member =>
        settled (List.mem_append_right _ member)
      rw [List.cons_append, symbols, symbols, ih later, List.append_assoc]

theorem length_symbols_le (progress : Progress) {rest : List Char} (stops : Stops rest) :
    (Css.symbols rest).length ≤ (progress.symbols rest).length := by
  by_cases settled : progress = .opened
  · subst settled
    cases rest with
    | nil => simp
    | cons c rest =>
        obtain ⟨outer, unescaped, solid⟩ := stops_cons.1 stops
        have sameLine : isLineEnd c = false := by
          simp only [isSpace, Bool.or_eq_false_iff] at solid
          exact solid.2
        rw [Css.symbols_cons rest unescaped]
        simp [symbols, next, digitValue_of_not_isNameChar outer, sameLine, Css.symbols]
  · rw [symbols_of_stops settled stops]
    simp

/-- What comes before a text takes none of its symbols away. -/
theorem length_symbols_append_le (progress : Progress) (text : List Char)
    {rest : List Char} (stops : Stops rest) :
    (Css.symbols rest).length ≤ (progress.symbols (text ++ rest)).length := by
  induction text generalizing progress with
  | nil => exact progress.length_symbols_le stops
  | cons c text ih =>
      rw [List.cons_append, symbols, List.length_append]
      exact Nat.le_trans (ih _) (Nat.le_add_left _ _)

end Progress

theorem symbols_append {text rest : List Char} (settled : .lineEnd ∉ symbols text)
    (stops : Stops rest) : symbols (text ++ rest) = symbols text ++ symbols rest :=
  Progress.symbols_append settled stops

theorem symbols_append_of_unescaped {text : List Char} (unescaped : '\\' ∉ text)
    (rest : List Char) : symbols (text ++ rest) = text.map .plain ++ symbols rest := by
  induction text with
  | nil => rfl
  | cons c text ih =>
      have first : c ≠ '\\' := (List.ne_of_not_mem_cons unescaped).symm
      rw [List.cons_append, symbols_cons _ first, ih (List.not_mem_of_not_mem_cons unescaped)]
      rfl

def quoted (c : Char) : Symbol :=
  if c = '\'' ∨ c = '\\' then .escaped c else .plain c

theorem symbols_escape (value rest : List Char) :
    symbols (escape value ++ rest) = value.map quoted ++ symbols rest := by
  induction value with
  | nil => rfl
  | cons c value ih =>
      rw [escape, List.map_cons, quoted]
      by_cases special : c = '\'' ∨ c = '\\'
      · have escaped : symbols ('\\' :: c :: (escape value ++ rest)) =
            .escaped c :: symbols (escape value ++ rest) := by
          rcases special with rfl | rfl <;> rfl
        rw [if_pos special, if_pos special, List.cons_append, List.cons_append, escaped, ih]
        rfl
      · have unescaped : c ≠ '\\' := fun same => special (.inr same)
        rw [if_neg special, if_neg special, List.cons_append, symbols_cons _ unescaped, ih]
        rfl

theorem symbols_quote (value : String) (rest : List Char) :
    symbols ((quote value).toList ++ rest) =
      .plain '\'' :: (value.toList.map quoted ++ .plain '\'' :: symbols rest) := by
  rw [quote, String.toList_ofList, List.append_assoc, List.cons_append,
    symbols_cons _ (by decide), symbols_escape, List.singleton_append, symbols_cons _ (by decide)]

end PageSelectors.Css
