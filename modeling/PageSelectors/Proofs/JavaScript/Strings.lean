import PageSelectors.Proofs.Json.Strings

/-!
String literals of JavaScript. They have more escapes than those of JSON, and their values are code
units of UTF-16. What is written for a text as JSON is read as that text here too, whatever stands
behind it.
-/

namespace PageSelectors.JavaScript

open Json (StringUnit escapeChar)

def codeUnits (point : Nat) : List Nat :=
  if point < 0x10000 then [point]
  else [0xD800 + (point - 0x10000) / 0x400, 0xDC00 + (point - 0x10000) % 0x400]

def isLineTerminator (c : Char) : Bool :=
  c == '\n' || c == '\r' || c == '\u2028' || c == '\u2029'

def escapedChar : Char → Char
  | 'b' => '\x08'
  | 't' => '\t'
  | 'n' => '\n'
  | 'v' => '\x0b'
  | 'f' => '\x0c'
  | 'r' => '\r'
  | c => c

def readCode (width : Nat) (chars : List Char) : Option (List Nat × List Char) := do
  guard (width ≤ chars.length)
  let code ← Text.number? 16 (chars.take width)
  return ([code], chars.drop width)

def readBraced (chars : List Char) : Option (List Nat × List Char) := do
  let point ← Text.number? 16 (chars.takeWhile (· ≠ '}'))
  guard (point < 0x110000)
  match chars.dropWhile (· ≠ '}') with
  | [] => none
  | _ :: rest => return (codeUnits point, rest)

/-- Read what stands after a backslash, as strict code has it: the only decimal digit is a zero
without another digit behind it. A line that is continued stands for nothing. -/
def readEscape : List Char → Option (List Nat × List Char)
  | [] => none
  | 'x' :: rest => readCode 2 rest
  | 'u' :: '{' :: rest => readBraced rest
  | 'u' :: rest => readCode 4 rest
  | '\r' :: '\n' :: rest => some ([], rest)
  | c :: rest =>
      if isLineTerminator c then some ([], rest)
      else if c.isDigit then
        if c = '0' ∧ ¬ rest.head?.any Char.isDigit then some ([0], rest) else none
      else some (codeUnits (escapedChar c).toNat, rest)

theorem length_le_of_readCode {width : Nat} {chars rest : List Char} {units : List Nat}
    (read : readCode width chars = some (units, rest)) : rest.length ≤ chars.length := by
  simp only [readCode, Option.bind_eq_bind, Option.bind_eq_some_iff] at read
  obtain ⟨-, -, code, -, same⟩ := read
  obtain rfl : chars.drop width = rest := by simpa using (Prod.mk.inj (Option.some.inj same)).2
  simp

theorem length_le_of_readBraced {chars rest : List Char} {units : List Nat}
    (read : readBraced chars = some (units, rest)) : rest.length ≤ chars.length := by
  simp only [readBraced, Option.bind_eq_bind, Option.bind_eq_some_iff] at read
  obtain ⟨point, -, -, -, closed⟩ := read
  have shorter : (chars.dropWhile (· ≠ '}')).length ≤ chars.length :=
    (List.dropWhile_suffix _).length_le
  split at closed
  · simp at closed
  · next after dropped =>
    cases closed
    rw [dropped] at shorter
    exact Nat.le_of_succ_le shorter

theorem length_lt_of_readEscape {chars rest : List Char} {units : List Nat}
    (read : readEscape chars = some (units, rest)) : rest.length < chars.length := by
  unfold readEscape at read
  split at read
  case h_1 => simp at read
  case h_2 => exact Nat.lt_succ_of_le (length_le_of_readCode read)
  case h_3 => exact Nat.lt_succ_of_lt (Nat.lt_succ_of_le (length_le_of_readBraced read))
  case h_4 => exact Nat.lt_succ_of_le (length_le_of_readCode read)
  case h_5 =>
    cases read
    exact Nat.lt_succ_of_lt (Nat.lt_succ_self _)
  case h_6 =>
    split at read
    · cases read
      simp
    · split at read
      · split at read
        · cases read
          simp
        · simp at read
      · cases read
        simp

/-- Read a literal between double quotes after the opening one, up to and with the closing one. Of
the line terminators only a feed and a return may not stand in it as they are. -/
def readLiteral (chars : List Char) : Option (List Nat × List Char) :=
  match chars with
  | [] => none
  | '"' :: rest => some ([], rest)
  | '\\' :: rest =>
      match _ : readEscape rest with
      | none => none
      | some (units, rest) => do
          let (others, rest) ← readLiteral rest
          return (units ++ others, rest)
  | c :: rest => do
      guard (c ≠ '\n' ∧ c ≠ '\r')
      let (others, rest) ← readLiteral rest
      return (codeUnits c.toNat ++ others, rest)
termination_by chars.length
decreasing_by
  · have := length_lt_of_readEscape ‹readEscape _ = some _›
    simp only [List.length_cons]
    omega
  · simp

def readString (chars : List Char) : Option (Option String × List Char) := do
  let (units, rest) ← readLiteral chars
  return ((Json.unitsToChars (units.map StringUnit.code)).map String.ofList, rest)

section Quoted

theorem readLiteral_escape {rest after : List Char} {units : List Nat}
    (read : readEscape rest = some (units, after)) :
    readLiteral ('\\' :: rest) = do
      let (others, rest) ← readLiteral after
      return (units ++ others, rest) := by
  rw [readLiteral]
  split
  · next missing => simp [read] at missing
  · next found =>
    cases read.symm.trans found
    rfl

theorem readLiteral_plain {c : Char} (mark : c ≠ '"') (backslash : c ≠ '\\')
    (printable : 32 ≤ c.toNat) (rest : List Char) :
    readLiteral (c :: rest) = do
      let (others, rest) ← readLiteral rest
      return (codeUnits c.toNat ++ others, rest) := by
  have sameLine : c ≠ '\n' ∧ c ≠ '\r' := by
    constructor
    · rintro rfl
      exact absurd printable (by decide)
    · rintro rfl
      exact absurd printable (by decide)
  rw [readLiteral]
  · simp [sameLine]
  · exact fun same => mark same
  · exact fun same => backslash same

theorem readEscape_short {letter c : Char} (short : Json.shortEscape letter = some c)
    (rest : List Char) : readEscape (letter :: rest) = some (codeUnits c.toNat, rest) := by
  unfold Json.shortEscape at short
  split at short <;> cases short <;> rfl

theorem readEscape_code {c : Char} (control : c.toNat < 32) (rest : List Char) :
    readEscape ('u' :: '0' :: '0' :: Text.digit (c.toNat / 16) :: Text.digit (c.toNat % 16) :: rest) =
      some (codeUnits c.toNat, rest) := by
  have single : codeUnits c.toNat = [c.toNat] := if_pos (by omega)
  rw [single, readEscape]
  · simp [readCode, Json.number?_controlCode _ control]
  · simp

theorem readLiteral_escapeChar (c : Char) (rest : List Char) :
    readLiteral (escapeChar c ++ rest) = do
      let (others, rest) ← readLiteral rest
      return (codeUnits c.toNat ++ others, rest) := by
  have stands := Json.stands_escapeChar c
  generalize escapeChar c = chars at stands
  cases stands with
  | short letter short => exact readLiteral_escape (readEscape_short short rest)
  | code control => exact readLiteral_escape (readEscape_code control rest)
  | plain mark backslash printable => exact readLiteral_plain mark backslash printable rest

theorem readLiteral_quoted (cs rest : List Char) :
    readLiteral (cs.flatMap escapeChar ++ '"' :: rest) =
      some (cs.flatMap fun c => codeUnits c.toNat, rest) := by
  induction cs with
  | nil => rw [List.flatMap_nil, List.nil_append, readLiteral, List.flatMap_nil]
  | cons c cs ih =>
      rw [List.flatMap_cons, List.append_assoc, readLiteral_escapeChar, ih]
      rfl

/-- A character is read back from its code units, of which there are two above the first plane. -/
theorem unitsToChars_codeUnits (c : Char) (units : List StringUnit) :
    Json.unitsToChars ((codeUnits c.toNat).map StringUnit.code ++ units) = do
      return c :: (← Json.unitsToChars units) := by
  have valid : c.toNat < 0xD800 ∨ 0xDFFF < c.toNat ∧ c.toNat < 0x110000 := c.valid
  unfold codeUnits
  split
  · rw [List.map_singleton, List.singleton_append, Json.unitsToChars_code (by omega),
      Char.ofNat_toNat]
  · next large =>
    have lead : Json.isLeadSurrogate (0xD800 + (c.toNat - 0x10000) / 0x400) = true := by
      simp [Json.isLeadSurrogate]
      omega
    have trail : Json.isTrailSurrogate (0xDC00 + (c.toNat - 0x10000) % 0x400) = true := by
      simp [Json.isTrailSurrogate]
      omega
    have point : 0x10000 + 0x400 * ((c.toNat - 0x10000) / 0x400) + (c.toNat - 0x10000) % 0x400 =
        c.toNat := by omega
    simp [Json.unitsToChars, lead, trail, point]

theorem unitsToChars_flatMap_codeUnits (cs : List Char) :
    Json.unitsToChars ((cs.flatMap fun c => codeUnits c.toNat).map StringUnit.code) = some cs := by
  induction cs with
  | nil => rfl
  | cons c cs ih =>
      rw [List.flatMap_cons, List.map_append, unitsToChars_codeUnits, ih]
      rfl

/-- A literal ends with its own quote and stands for its text. -/
theorem readString_quoted (text : String) (rest : List Char) :
    readString (text.toList.flatMap escapeChar ++ '"' :: rest) = some (some text, rest) := by
  rw [readString, readLiteral_quoted]
  simp [unitsToChars_flatMap_codeUnits]

example : readString "\\u\x7b7f\x7d\\x41\"".toList = some (some "\x7fA", []) ∧
    Json.readString "\\u\x7b7f\x7d\"".toList = none := by
  constructor
  · cbv
  · decide

end Quoted

end PageSelectors.JavaScript
