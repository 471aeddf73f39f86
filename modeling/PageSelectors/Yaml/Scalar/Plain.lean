import PageSelectors.Yaml.Scalar.Folding

/-!
Plain scalars. They end at a comment, at a colon that stands before a blank, where the indentation
falls back and, inside brackets, at a bracket or comma.
-/

namespace PageSelectors.Yaml

def isFlowMark (c : Char) : Bool :=
  c == ',' || c == '[' || c == ']' || c == '{' || c == '}'

def endsAfterGap (flow : Bool) (indent : Nat) (ms : List Mark) : Bool :=
  (!flow && (here ms).column < indent) || isDocumentRule ms || peek 0 ms == '#'

/-- Read a plain scalar: its characters, the last one first, whether a line break follows, and
where it ends. Lines after the first start at the given column at least. -/
def readPlain (flow : Bool) (indent : Nat) (gap : Gap) (read : List Char) :
    List Mark → Option (List Char × Bool × List Mark)
  | [] => some (read, gap.broken, [])
  | mark :: rest =>
      let c := mark.char
      if isBlank c then
        if gap.broken && mark.column < indent && c == '\t' then none
        else readPlain flow indent (gap.blank c) read rest
      else if isBreak c then readPlain flow indent (gap.lineBreak c) read rest
      else if isEnd c || (!gap.isNone && endsAfterGap flow indent (mark :: rest)) then
        some (read, gap.broken, mark :: rest)
      else if flow && c == ':' && (isFlowMark (peek 0 rest) || peek 0 rest == '?') then none
      else if (c == ':' && isSpace (peek 0 rest)) || (flow && isFlowMark c) then
        some (read, gap.broken, mark :: rest)
      else readPlain flow indent Gap.none (c :: gap.folded ++ read) rest

end PageSelectors.Yaml
