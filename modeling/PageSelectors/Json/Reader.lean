import PageSelectors.Json.Quoting
import PageSelectors.Json.Value

/-!
Reading JSON. The whole text must be one document, with blanks around it.
-/

namespace PageSelectors.Json

def isSpace (c : Char) : Bool :=
  c == ' ' || c == '\n' || c == '\t' || c == '\r'

def skipSpaces (cs : List Char) : List Char :=
  cs.dropWhile isSpace

def readDigits (cs : List Char) : Option (List Char × List Char) := do
  let digits := cs.takeWhile Char.isDigit
  guard !digits.isEmpty
  return (digits, cs.dropWhile Char.isDigit)

def readWhole (cs : List Char) : Option (List Char × List Char) := do
  let (digits, rest) ← readDigits cs
  guard (digits.length = 1 ∨ digits.head? ≠ some '0')
  return (digits, rest)

def readFraction : List Char → Option (List Char × List Char)
  | '.' :: rest => do
      let (digits, rest) ← readDigits rest
      return ('.' :: digits, rest)
  | rest => some ([], rest)

def readExponent : List Char → Option (List Char × List Char)
  | c :: rest =>
      if c = 'e' ∨ c = 'E' then do
        let (sign, rest) := match rest with
          | '+' :: rest => (['+'], rest)
          | '-' :: rest => (['-'], rest)
          | rest => ([], rest)
        let (digits, rest) ← readDigits rest
        return (c :: sign ++ digits, rest)
      else some ([], c :: rest)
  | [] => some ([], [])

def readNumber (cs : List Char) : Option (Value × List Char) := do
  let (sign, rest) := match cs with
    | '-' :: rest => (['-'], rest)
    | rest => ([], rest)
  let (whole, rest) ← readWhole rest
  let (fraction, rest) ← readFraction rest
  let (exponent, rest) ← readExponent rest
  if sign.isEmpty ∧ fraction.isEmpty ∧ exponent.isEmpty then
    return (.natural (← Text.number? 10 whole), rest)
  else
    return (.otherNumber (String.ofList (sign ++ whole ++ fraction ++ exponent)), rest)

mutual

/-- Read a value, with fuel for the nesting and the length of what follows. -/
def readValue : Nat → List Char → Option (Value × List Char)
  | 0, _ => none
  | fuel + 1, cs =>
      match skipSpaces cs with
      | 'n' :: 'u' :: 'l' :: 'l' :: rest => some (.null, rest)
      | 't' :: 'r' :: 'u' :: 'e' :: rest => some (.bool true, rest)
      | 'f' :: 'a' :: 'l' :: 's' :: 'e' :: rest => some (.bool false, rest)
      | '"' :: rest => do
          let (text?, rest) ← readString rest
          return ((text?.map Value.string).getD .brokenString, rest)
      | '[' :: rest =>
          match skipSpaces rest with
          | ']' :: rest => some (.array [], rest)
          | rest => do
              let (items, rest) ← readItems fuel rest
              return (.array items, rest)
      | '{' :: rest =>
          match skipSpaces rest with
          | '}' :: rest => some (.object [], rest)
          | rest => do
              let (members, rest) ← readMembers fuel rest
              return (.object members, rest)
      | rest => readNumber rest

def readItems : Nat → List Char → Option (List Value × List Char)
  | 0, _ => none
  | fuel + 1, cs => do
      let (value, rest) ← readValue fuel cs
      match skipSpaces rest with
      | ',' :: rest =>
          let (values, rest) ← readItems fuel rest
          return (value :: values, rest)
      | ']' :: rest => return ([value], rest)
      | _ => none

def readMembers : Nat → List Char → Option (List (Option String × Value) × List Char)
  | 0, _ => none
  | fuel + 1, cs =>
      match skipSpaces cs with
      | '"' :: rest => do
          let (name, rest) ← readString rest
          match skipSpaces rest with
          | ':' :: rest =>
              let (value, rest) ← readValue fuel rest
              match skipSpaces rest with
              | ',' :: rest =>
                  let (members, rest) ← readMembers fuel rest
                  return ((name, value) :: members, rest)
              | '}' :: rest => return ([(name, value)], rest)
              | _ => none
          | _ => none
      | _ => none

end

def Value.parse? (text : String) : Option Value := do
  let cs := text.toList
  let (value, rest) ← readValue (2 * cs.length + 2) cs
  guard (skipSpaces rest).isEmpty
  return value

end PageSelectors.Json
