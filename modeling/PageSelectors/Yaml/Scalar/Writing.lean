import PageSelectors.Yaml.Mark
import PageSelectors.Yaml.Scalar.Schema

/-!
How texts are written as YAML scalars in a block mapping. A text of several lines is a literal, any
other text is plain where it is read back as that text and put between single quotes elsewhere; what
neither of these can hold is put between double quotes.
-/

namespace PageSelectors.Yaml

inductive TextForm where
  | plain
  | singleQuoted
  | doubleQuoted
  | literal
  deriving DecidableEq, Repr

def isPrintable (c : Char) : Bool :=
  c == '\n' || (' ' ≤ c && c ≤ '~') ||
    ('\u00a0' ≤ c && c ≠ byteOrderMark && c ≠ '\uFFFE' && c ≠ '\uFFFF')

def anyNeighbours (test : Char → Char → Bool) : List Char → Bool
  | a :: b :: rest => test a b || anyNeighbours test (b :: rest)
  | _ => false

def startsWithIndicator : List Char → Bool
  | '-' :: '-' :: '-' :: _ => true
  | '.' :: '.' :: '.' :: _ => true
  | c :: rest =>
      if c ∈ ['?', ':', '-'] then isSpace (rest.headD endChar)
      else c ∈ ['#', ',', '[', ']', '{', '}', '&', '*', '!', '|', '>', '\'', '"', '%', '@', '`']
  | [] => false

def hasInnerIndicator (cs : List Char) : Bool :=
  anyNeighbours (fun a b => (isSpace a && b == '#') || (a == ':' && isSpace b)) cs ||
    cs.getLast? == some ':'

def needsEscapes (cs : List Char) : Bool :=
  !cs.all isPrintable || anyNeighbours (fun a b => a == ' ' && isBreak b) cs

def formOf (text : String) : TextForm :=
  let cs := text.toList
  let start := cs.headD endChar
  let stop := cs.getLast?.getD endChar
  if '\n' ∈ cs then
    if needsEscapes cs || stop == ' ' then .doubleQuoted else .literal
  else if needsEscapes cs || anyNeighbours (fun a b => isBreak a && b == ' ') cs then .doubleQuoted
  else if !readsAsText text || start == ' ' || stop == ' ' || cs.any isBreak ||
      startsWithIndicator cs || hasInnerIndicator cs then .singleQuoted
  else .plain

def shortEscape : Char → Option Char
  | '\x00' => some '0'
  | '\x07' => some 'a'
  | '\x08' => some 'b'
  | '\t' => some 't'
  | '\n' => some 'n'
  | '\x0b' => some 'v'
  | '\x0c' => some 'f'
  | '\r' => some 'r'
  | '\x1b' => some 'e'
  | '"' => some '"'
  | '\\' => some '\\'
  | '\u0085' => some 'N'
  | '\u2028' => some 'L'
  | '\u2029' => some 'P'
  | _ => none

def hexDigits (count n : Nat) : List Char :=
  (List.range count).reverse.map fun place => Text.capitalDigit (n / Nat.pow 16 place % 16)

def escapeChar (c : Char) : List Char :=
  match shortEscape c with
  | some short => ['\\', short]
  | none =>
      if isPrintable c then [c]
      else if c.toNat < 0x100 then '\\' :: 'x' :: hexDigits 2 c.toNat
      else '\\' :: 'u' :: hexDigits 4 c.toNat

/-- Put spaces in front of every line but the first. The end of the text gets them too where it is
marked as something to be indented. -/
def indentAfterBreaks (indent : Nat) (atEnd : Bool) : List Char → List Char
  | [] => []
  | [c] => if isBreak c && atEnd then c :: List.replicate indent ' ' else [c]
  | c :: next :: rest =>
      let after := indentAfterBreaks indent atEnd (next :: rest)
      if isBreak c && !isBreak next then c :: List.replicate indent ' ' ++ after else c :: after

/-- The digit and the sign after the bar of a literal: the digit where the text starts with a blank
or a break, the sign where it does not end in exactly one break. -/
def literalHints (cs : List Char) : List Char :=
  let start := cs.headD endChar
  let digit := if start == ' ' || isBreak start then ['2'] else []
  let sign := match cs.reverse with
    | last :: before :: _ =>
        if !isBreak last then ['-'] else if isBreak before then ['+'] else []
    | [last] => if isBreak last then ['+'] else ['-']
    | [] => ['-']
  digit ++ sign

/-- The characters of a text on the lines after a key and its colon, with the given indentation. A
literal that ends in a break ends its line itself; otherwise the end of the line is added. -/
def writeText (indent : Nat) (text : String) : List Char :=
  let cs := text.toList
  match formOf text with
  | .plain => ' ' :: cs ++ ['\n']
  | .singleQuoted =>
      let doubled := cs.flatMap fun c => if c == '\'' then ['\'', '\''] else [c]
      ' ' :: '\'' :: indentAfterBreaks indent true doubled ++ ['\'', '\n']
  | .doubleQuoted => ' ' :: '"' :: cs.flatMap escapeChar ++ ['"', '\n']
  | .literal =>
      let body := indentAfterBreaks indent false ('\n' :: cs)
      let stop := if (cs.getLast?.any isBreak) then [] else ['\n']
      ' ' :: '|' :: literalHints cs ++ body ++ stop

end PageSelectors.Yaml
