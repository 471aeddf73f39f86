import PageSelectors.Yaml.Mark
import PageSelectors.Text.Digits
import PageSelectors.Yaml.Token

/-!
Anchors, aliases, tags and directives: the tokens that are made of words and addresses.
-/

namespace PageSelectors.Yaml

def readAnchorName (ms : List Mark) : Option (String × List Mark) := do
  let (name, rest) := spanMarks isWordChar ms
  let next := peek 0 rest
  guard (!name.isEmpty)
  guard (isSpace next || next ∈ ['?', ':', ',', ']', '}', '%', '@', '`'])
  return (String.ofList name, rest)

def isAddressMark (c : Char) : Bool :=
  c ∈ [';', '/', '?', ':', '@', '&', '=', '+', '$', '.', '!', '~', '*', '\'', '(', ')']

def utf8Width (byte : Nat) : Option Nat :=
  if byte < 0x80 then some 1
  else if 0xC0 ≤ byte ∧ byte < 0xE0 then some 2
  else if 0xE0 ≤ byte ∧ byte < 0xF0 then some 3
  else if 0xF0 ≤ byte ∧ byte < 0xF8 then some 4
  else none

/-- Read the bytes of an address and decode its percent escapes. Escapes come in groups as long as a
character, of which `awaited` are still to come. -/
def readAddress (verbatim : Bool) (awaited : Nat) (read : List UInt8) :
    List Mark → Option (List UInt8 × List Mark)
  | [] => if awaited = 0 then some (read.reverse, []) else none
  | mark :: rest =>
      let c := mark.char
      if c == '%' then
        match rest with
        | high :: low :: rest => do
            let byte ← Text.number? 16 [high.char, low.char]
            let read := UInt8.ofNat byte :: read
            match awaited with
            | 0 => readAddress verbatim ((← utf8Width byte) - 1) read rest
            | awaited + 1 =>
                guard (0x80 ≤ byte ∧ byte < 0xC0)
                readAddress verbatim awaited read rest
        | _ => none
      else if awaited ≠ 0 then none
      else if isWordChar c || isAddressMark c || (verbatim && c ∈ [',', '[', ']']) then
        readAddress verbatim 0 (UInt8.ofNat c.toNat :: read) rest
      else some (read.reverse, mark :: rest)

def readHandle (ms : List Mark) : Option (List Char × List Mark) := do
  guard (peek 0 ms == '!')
  let (word, rest) := spanMarks isWordChar (ms.drop 1)
  if peek 0 rest == '!' then return ('!' :: word ++ ['!'], rest.drop 1)
  else return ('!' :: word, rest)

def readTag (flow : Bool) (ms : List Mark) : Option (Token × List Mark) := do
  let (token, rest) ←
    if peek 1 ms == '<' then do
      let (bytes, rest) ← readAddress true 0 [] (ms.drop 2)
      guard (!bytes.isEmpty && peek 0 rest == '>')
      pure (Token.tag "" (.ofBytes bytes), rest.drop 1)
    else do
      let (handle, rest) ← readHandle ms
      if handle.length > 1 && handle.getLast? == some '!' then do
        let (bytes, rest) ← readAddress false 0 [] rest
        guard (!bytes.isEmpty)
        pure (Token.tag (String.ofList handle) (.ofBytes bytes), rest)
      else do
        let (bytes, rest) ← readAddress false 0 [] rest
        let suffix := Address.ofString (String.ofList (handle.drop 1)) ++ .ofBytes bytes
        if suffix.isEmpty then pure (Token.tag "" .unspecific, rest)
        else pure (Token.tag "!" suffix, rest)
  guard (isSpace (peek 0 rest) || (flow && peek 0 rest == ','))
  return (token, rest)

def readVersionPart (ms : List Mark) : Option (Nat × List Mark) := do
  let (digits, rest) := spanMarks Char.isDigit ms
  guard (digits.length ≤ 9)
  return (← Text.number? 10 digits, rest)

def readDirective (ms : List Mark) : Option (Token × List Mark) := do
  let (name, rest) := spanMarks isWordChar (ms.drop 1)
  guard (isSpace (peek 0 rest))
  let rest := skipBlanks rest
  if name = "YAML".toList then do
    let (major, rest) ← readVersionPart rest
    guard (peek 0 rest == '.')
    let (minor, rest) ← readVersionPart (rest.drop 1)
    return (.version major minor, ← finishLine rest)
  else if name = "TAG".toList then do
    let (handle, rest) ← readHandle rest
    guard (handle.length = 1 || handle.getLast? == some '!')
    guard (isBlank (peek 0 rest))
    let (bytes, rest) ← readAddress true 0 [] (skipBlanks rest)
    guard (!bytes.isEmpty && isSpace (peek 0 rest))
    return (.handle (String.ofList handle) (.ofBytes bytes), ← finishLine rest)
  else none

end PageSelectors.Yaml
