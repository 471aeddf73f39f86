import PageSelectors.Yaml.Scalar.Block
import PageSelectors.Yaml.Scalar.Plain
import PageSelectors.Yaml.Scalar.Quoted
import PageSelectors.Yaml.Token.Property

/-!
From marks to tokens. Outside brackets, indentation opens and closes block collections. A key needs
no sign of its own: wherever one may start, the place is remembered, and when the colon comes on the
same line and not too far away, the key token is put in at that place.
-/

namespace PageSelectors.Yaml

structure KeyPlace where
  /-- Whether nothing but a key may stand there. -/
  required : Bool
  index : Nat
  start : Mark

structure Lexer where
  tokens : Array Token
  /-- One more than the column of each open block, the innermost first. -/
  indents : List Nat
  keyAllowed : Bool
  /-- The place where a key may have started, inside each open bracket and outside all of them; the
  innermost first. -/
  places : List (Option KeyPlace)

namespace Lexer

def start : Lexer where
  tokens := #[]
  indents := []
  keyAllowed := true
  places := [none]

def inFlow (lexer : Lexer) : Bool :=
  lexer.places.length > 1

def depth (lexer : Lexer) : Nat :=
  lexer.indents.headD 0

def emit (token : Token) (lexer : Lexer) : Lexer :=
  { lexer with tokens := lexer.tokens.push token }

def allowKey (allowed : Bool) (lexer : Lexer) : Lexer :=
  { lexer with keyAllowed := allowed }

def closeBlocks (depth : Nat) (lexer : Lexer) : Lexer :=
  if lexer.inFlow then lexer
  else
    let closed := lexer.indents.takeWhile (depth < ·)
    { lexer with
      tokens := lexer.tokens ++ (closed.map fun _ => Token.blockEnd).toArray
      indents := lexer.indents.dropWhile (depth < ·) }

/-- Open a block at a column, unless one is open there. Its token goes before the token of the given
index. -/
def openBlock (column : Nat) (token : Token) (index : Nat) (lexer : Lexer) : Lexer :=
  if lexer.inFlow || column + 1 ≤ lexer.depth then lexer
  else
    { lexer with
      tokens := lexer.tokens.insertIdxIfInBounds index token
      indents := (column + 1) :: lexer.indents }

def keyReach : Nat := 1024

/-- Give up the places where a key may have started but the colon can come no more. -/
def dropStale (mark : Mark) (lexer : Lexer) : Option Lexer := do
  let stale (place : KeyPlace) : Bool :=
    place.start.line < mark.line || place.start.offset + keyReach < mark.offset
  let places ← lexer.places.mapM fun place =>
    match place with
    | some place =>
        if stale place then if place.required then none else some none else some (some place)
    | none => some none
  return { lexer with places := places }

def dropPlace (lexer : Lexer) : Option Lexer :=
  match lexer.places with
  | some place :: outer => if place.required then none else some { lexer with places := none :: outer }
  | _ => some lexer

def savePlace (mark : Mark) (lexer : Lexer) : Option Lexer :=
  if lexer.keyAllowed then do
    let required := !lexer.inFlow && lexer.depth == mark.column + 1
    let lexer ← lexer.dropPlace
    let place : KeyPlace := ⟨required, lexer.tokens.size, mark⟩
    return { lexer with places := some place :: lexer.places.drop 1 }
  else some lexer

def emitOutside (token : Token) (lexer : Lexer) : Option Lexer := do
  return ((← (lexer.closeBlocks 0).dropPlace).allowKey false).emit token

def openBracket (mark : Mark) (token : Token) (lexer : Lexer) : Option Lexer := do
  let lexer ← lexer.savePlace mark
  return ({ lexer with places := none :: lexer.places }.allowKey true).emit token

def closeBracket (token : Token) (lexer : Lexer) : Option Lexer := do
  let lexer ← lexer.dropPlace
  let places := if lexer.inFlow then lexer.places.drop 1 else lexer.places
  return ({ lexer with places := places }.allowKey false).emit token

def emitItem (mark : Mark) (lexer : Lexer) : Option Lexer := do
  guard (lexer.inFlow || lexer.keyAllowed)
  let lexer := lexer.openBlock mark.column .blockSequence lexer.tokens.size
  return ((← lexer.dropPlace).allowKey true).emit .item

def emitKey (mark : Mark) (lexer : Lexer) : Option Lexer := do
  guard (lexer.inFlow || lexer.keyAllowed)
  let lexer := lexer.openBlock mark.column .blockMapping lexer.tokens.size
  return ((← lexer.dropPlace).allowKey !lexer.inFlow).emit .key

/-- The colon of a value. If a key may have started before it, one did. -/
def emitValue (mark : Mark) (lexer : Lexer) : Option Lexer :=
  match lexer.places with
  | some place :: outer =>
      let keyed := { lexer with
        tokens := lexer.tokens.insertIdxIfInBounds place.index .key
        places := none :: outer
        keyAllowed := false }
      some ((keyed.openBlock place.start.column .blockMapping place.index).emit .value)
  | _ => do
      guard (lexer.inFlow || lexer.keyAllowed)
      let lexer := lexer.openBlock mark.column .blockMapping lexer.tokens.size
      return (lexer.allowKey !lexer.inFlow).emit .value

/-- Pass over blanks, comments and line breaks. Outside brackets a key may start on a new line, and
no tab may stand where one may start. A byte order mark may stand in front of any line; it takes up
a column. -/
def skipSpace (comment : Bool) (lexer : Lexer) : List Mark → Lexer × List Mark
  | [] => (lexer, [])
  | mark :: rest =>
      let c := mark.char
      if isBreak c then
        (if lexer.inFlow then lexer else lexer.allowKey true).skipSpace false rest
      else if isEnd c then (lexer, mark :: rest)
      else if comment || c == '#' then lexer.skipSpace true rest
      else if c == ' ' || (c == '\t' && (lexer.inFlow || !lexer.keyAllowed)) ||
          (c == byteOrderMark && mark.column == 0) then
        lexer.skipSpace false rest
      else (lexer, mark :: rest)

def isIndicator (c : Char) : Bool :=
  c ∈ ['-', '?', ':', ',', '[', ']', '{', '}', '#', '&', '*', '!', '|', '>', '\'', '"', '%', '@',
    '`']

def startsPlain (flow : Bool) (ms : List Mark) : Bool :=
  let c := peek 0 ms
  let next := peek 1 ms
  !(isSpace c || isIndicator c) || (c == '-' && !isBlank next) ||
    (!flow && (c == '?' || c == ':') && !isSpace next)

def emitScalar (style : Style) (read : List Char) (lexer : Lexer) : Lexer :=
  lexer.emit (.scalar style (String.ofList read.reverse))

def next (lexer : Lexer) (ms : List Mark) : Option (Lexer × List Mark) := do
  let mark := here ms
  let c := mark.char
  let rest := ms.drop 1
  let flow := lexer.inFlow
  let spaced := isSpace (peek 1 ms)
  if mark.column == 0 && c == '%' then
    let (token, rest) ← readDirective ms
    return (← lexer.emitOutside token, rest)
  else if isRule '-' ms then return (← lexer.emitOutside .documentStart, ms.drop 3)
  else if isRule '.' ms then return (← lexer.emitOutside .documentEnd, ms.drop 3)
  else if c == '[' then return (← lexer.openBracket mark .sequenceStart, rest)
  else if c == '{' then return (← lexer.openBracket mark .mappingStart, rest)
  else if c == ']' then return (← lexer.closeBracket .sequenceEnd, rest)
  else if c == '}' then return (← lexer.closeBracket .mappingEnd, rest)
  else if c == ',' then return (((← lexer.dropPlace).allowKey true).emit .comma, rest)
  else if c == '-' && spaced then return (← lexer.emitItem mark, rest)
  else if c == '?' && (flow || spaced) then return (← lexer.emitKey mark, rest)
  else if c == ':' && (flow || spaced) then return (← lexer.emitValue mark, rest)
  else if c == '*' then
    let (name, rest) ← readAnchorName rest
    return (((← lexer.savePlace mark).allowKey false).emit (.reference name), rest)
  else if c == '&' then
    let (name, rest) ← readAnchorName rest
    return (((← lexer.savePlace mark).allowKey false).emit (.anchor name), rest)
  else if c == '!' then
    let (token, rest) ← readTag flow ms
    return (((← lexer.savePlace mark).allowKey false).emit token, rest)
  else if (c == '|' || c == '>') && !flow then
    let (read, rest) ← readBlock (c == '>') lexer.depth rest
    let style := if c == '>' then Style.folded else .literal
    return (((← lexer.dropPlace).allowKey true).emitScalar style read, rest)
  else if c == '\'' then
    let (read, rest) ← readSingleQuoted Gap.none [] rest
    return (((← lexer.savePlace mark).allowKey false).emitScalar .quoted read, rest)
  else if c == '"' then
    let (read, rest) ← readDoubleQuoted Gap.none [] rest
    return (((← lexer.savePlace mark).allowKey false).emitScalar .quoted read, rest)
  else if startsPlain flow ms then
    let (read, broken, rest) ← readPlain flow lexer.depth Gap.none [] ms
    return (((← lexer.savePlace mark).allowKey broken).emitScalar .plain read, rest)
  else none

def run (lexer : Lexer) : Nat → List Mark → Option Lexer
  | 0, _ => none
  | fuel + 1, ms => do
      let (lexer, ms) := lexer.skipSpace false ms
      let lexer ← lexer.dropStale (here ms)
      let lexer := lexer.closeBlocks ((here ms).column + 1)
      if isEnd (here ms).char then (lexer.closeBlocks 0).dropPlace
      else
        let (lexer, ms) ← lexer.next ms
        lexer.run fuel ms

end Lexer

def Token.ofText? (text : String) : Option (List Token) := do
  let ms ← marks text
  let lexer ← Lexer.start.run (ms.length + 1) ms
  return lexer.tokens.toList

end PageSelectors.Yaml
