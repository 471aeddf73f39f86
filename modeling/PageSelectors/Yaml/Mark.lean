/-!
YAML text as marks: characters with the places they stand in. The usual line breaks are all one
character here, and the end of the text has a mark of its own, so a reader can always look at the
place where it is.
-/

namespace PageSelectors.Yaml

structure Mark where
  char : Char
  line : Nat
  column : Nat
  /-- The number of bytes in front of it on its line, in UTF-8. -/
  offset : Nat
  deriving DecidableEq, Repr

/-- The character of the mark at the end. It cannot stand in a text. -/
def endChar : Char := '\x00'

def byteOrderMark : Char := '\uFEFF'

def isAllowed (c : Char) : Bool :=
  let code := c.toNat
  code == 0x09 || code == 0x0A || code == 0x0D || (0x20 ≤ code && code ≤ 0x7E) || code == 0x85 ||
    (0xA0 ≤ code && code ≤ 0xD7FF) || (0xE000 ≤ code && code ≤ 0xFFFD) ||
    (0x10000 ≤ code && code ≤ 0x10FFFF)

def isBreak (c : Char) : Bool :=
  c == '\n' || c == '\u2028' || c == '\u2029'

def isBlank (c : Char) : Bool :=
  c == ' ' || c == '\t'

def isEnd (c : Char) : Bool :=
  c == endChar

def isSpace (c : Char) : Bool :=
  isBlank c || isBreak c || isEnd c

def isWordChar (c : Char) : Bool :=
  c.isAlphanum || c == '_' || c == '-'

def normalizeBreaks : List Char → List Char
  | [] => []
  | '\r' :: '\n' :: rest => '\n' :: normalizeBreaks rest
  | c :: rest =>
      (if c == '\r' || c == '\u0085' then '\n' else c) :: normalizeBreaks rest

def placeChars (line column offset : Nat) : List Char → List Mark
  | [] => [⟨endChar, line, column, offset⟩]
  | c :: rest =>
      ⟨c, line, column, offset⟩ ::
        (if isBreak c then placeChars (line + 1) 0 0 rest
        else placeChars line (column + 1) (offset + c.utf8Size) rest)

def marks (text : String) : Option (List Mark) :=
  let cs := text.toList
  if cs.all isAllowed then some (placeChars 0 0 0 (normalizeBreaks cs)) else none

def here : List Mark → Mark
  | mark :: _ => mark
  | [] => ⟨endChar, 0, 0, 0⟩

def peek (ahead : Nat) (ms : List Mark) : Char :=
  (here (ms.drop ahead)).char

def isRule (c : Char) (ms : List Mark) : Bool :=
  (here ms).column == 0 && peek 0 ms == c && peek 1 ms == c && peek 2 ms == c &&
    isSpace (peek 3 ms)

def isDocumentRule (ms : List Mark) : Bool :=
  isRule '-' ms || isRule '.' ms

def charsOf (ms : List Mark) : List Char :=
  ms.map Mark.char

def spanMarks (test : Char → Bool) (ms : List Mark) : List Char × List Mark :=
  (charsOf (ms.takeWhile fun mark => test mark.char), ms.dropWhile fun mark => test mark.char)

def skipBlanks (ms : List Mark) : List Mark :=
  ms.dropWhile fun mark => isBlank mark.char

/-- The marks after what is left of a line: blanks and perhaps a comment. Nothing else may stand
there. The break itself is passed too. -/
def finishLine (ms : List Mark) : Option (List Mark) :=
  let rest := skipBlanks ms
  let rest :=
    if peek 0 rest == '#' then
      rest.dropWhile fun mark => !(isBreak mark.char || isEnd mark.char)
    else rest
  if isBreak (peek 0 rest) then some (rest.drop 1)
  else if isEnd (peek 0 rest) then some rest
  else none

end PageSelectors.Yaml
