import PageSelectors.Text.Digits

/-!
JSON strings. Quotes, backslashes and control characters are escaped; everything else stands as it
is. A literal is read in two steps: first into units, which are characters or escaped codes, then
into text, where two surrogate codes make one character.
-/

namespace PageSelectors.Json

def escapeChar (c : Char) : List Char :=
  if c = '"' then ['\\', '"']
  else if c = '\\' then ['\\', '\\']
  else if c.toNat = 8 then ['\\', 'b']
  else if c = '\t' then ['\\', 't']
  else if c = '\n' then ['\\', 'n']
  else if c.toNat = 12 then ['\\', 'f']
  else if c = '\r' then ['\\', 'r']
  else if c.toNat < 32 then
    ['\\', 'u', '0', '0', Text.digit (c.toNat / 16), Text.digit (c.toNat % 16)]
  else [c]

def quote (text : String) : String :=
  String.ofList ('"' :: text.toList.flatMap escapeChar ++ ['"'])

/-- A piece of a string literal: a character, or a code written as four digits. -/
inductive StringUnit where
  | char (c : Char)
  | code (value : Nat)
  deriving DecidableEq, Repr

def shortEscape : Char → Option Char
  | '"' => some '"'
  | '\\' => some '\\'
  | '/' => some '/'
  | 'b' => some '\x08'
  | 'f' => some '\x0c'
  | 'n' => some '\n'
  | 'r' => some '\r'
  | 't' => some '\t'
  | _ => none

def readUnits : List Char → Option (List StringUnit × List Char)
  | [] => none
  | '"' :: rest => some ([], rest)
  | '\\' :: 'u' :: a :: b :: c :: d :: rest => do
      let value ← Text.number? 16 [a, b, c, d]
      let (units, rest) ← readUnits rest
      return (.code value :: units, rest)
  | '\\' :: c :: rest => do
      let c ← shortEscape c
      let (units, rest) ← readUnits rest
      return (.char c :: units, rest)
  | c :: rest => do
      guard (32 ≤ c.toNat)
      let (units, rest) ← readUnits rest
      return (.char c :: units, rest)

def isLeadSurrogate (code : Nat) : Bool :=
  0xD800 ≤ code && code < 0xDC00

def isTrailSurrogate (code : Nat) : Bool :=
  0xDC00 ≤ code && code < 0xE000

def unitsToChars : List StringUnit → Option (List Char)
  | [] => some []
  | .char c :: rest => do return c :: (← unitsToChars rest)
  | .code lead :: .code trail :: rest =>
      if isLeadSurrogate lead then do
        guard (isTrailSurrogate trail)
        let c := Char.ofNat (0x10000 + 0x400 * (lead - 0xD800) + (trail - 0xDC00))
        return c :: (← unitsToChars rest)
      else do
        guard !(isTrailSurrogate lead)
        return Char.ofNat lead :: (← unitsToChars (.code trail :: rest))
  | .code code :: rest => do
      guard !(isLeadSurrogate code || isTrailSurrogate code)
      return Char.ofNat code :: (← unitsToChars rest)

/-- Read a string literal after its opening quote. The text is missing where a surrogate stands
alone. -/
def readString (cs : List Char) : Option (Option String × List Char) := do
  let (units, rest) ← readUnits cs
  return ((unitsToChars units).map String.ofList, rest)

end PageSelectors.Json
