import PageSelectors.Text.Digits
import PageSelectors.Yaml.Scalar.Folding

/-!
Quoted scalars. Between single quotes only the quote is special, and it is written twice; between
double quotes there are escapes.
-/

namespace PageSelectors.Yaml

def escapedChar : Char → Option Char
  | '0' => some '\x00'
  | 'a' => some '\x07'
  | 'b' => some '\x08'
  | 't' => some '\t'
  | '\t' => some '\t'
  | 'n' => some '\n'
  | 'v' => some '\x0b'
  | 'f' => some '\x0c'
  | 'r' => some '\r'
  | 'e' => some '\x1b'
  | ' ' => some ' '
  | '"' => some '"'
  | '/' => some '/'
  | '\\' => some '\\'
  | 'N' => some '\u0085'
  | '_' => some '\u00a0'
  | 'L' => some '\u2028'
  | 'P' => some '\u2029'
  | _ => none

def codeChar (digits : List Mark) : Option Char := do
  let code ← Text.number? 16 (charsOf digits)
  guard (code < 0xD800 ∨ (0xE000 ≤ code ∧ code < 0x110000))
  return Char.ofNat code

def readSingleQuoted (gap : Gap) (read : List Char) :
    List Mark → Option (List Char × List Mark)
  | [] => none
  | mark :: rest =>
      let c := mark.char
      if isBlank c then readSingleQuoted (gap.blank c) read rest
      else if isBreak c then readSingleQuoted (gap.lineBreak c) read rest
      else if isEnd c || isDocumentRule (mark :: rest) then none
      else
        let before := gap.folded ++ read
        if c == '\'' then
          match rest with
          | next :: after =>
              if next.char == '\'' then readSingleQuoted Gap.none ('\'' :: before) after
              else some (before, next :: after)
          | [] => some (before, [])
        else readSingleQuoted Gap.none (c :: before) rest

def readDoubleQuoted (gap : Gap) (read : List Char) :
    List Mark → Option (List Char × List Mark)
  | [] => none
  | mark :: rest =>
      let c := mark.char
      if isBlank c then readDoubleQuoted (gap.blank c) read rest
      else if isBreak c then readDoubleQuoted (gap.lineBreak c) read rest
      else if isEnd c || isDocumentRule (mark :: rest) then none
      else
        let before := gap.folded ++ read
        if c == '"' then some (before, rest)
        else if c == '\\' then
          match rest with
          | [] => none
          | letter :: rest =>
              if isBreak letter.char then readDoubleQuoted Gap.escaped before rest
              else match letter.char, rest with
                | 'x', m1 :: m2 :: rest => do
                    let c ← codeChar [m1, m2]
                    readDoubleQuoted Gap.none (c :: before) rest
                | 'u', m1 :: m2 :: m3 :: m4 :: rest => do
                    let c ← codeChar [m1, m2, m3, m4]
                    readDoubleQuoted Gap.none (c :: before) rest
                | 'U', m1 :: m2 :: m3 :: m4 :: m5 :: m6 :: m7 :: m8 :: rest => do
                    let c ← codeChar [m1, m2, m3, m4, m5, m6, m7, m8]
                    readDoubleQuoted Gap.none (c :: before) rest
                | c, rest => do
                    let c ← escapedChar c
                    readDoubleQuoted Gap.none (c :: before) rest
        else readDoubleQuoted Gap.none (c :: before) rest

end PageSelectors.Yaml
