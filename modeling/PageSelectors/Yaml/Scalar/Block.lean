import PageSelectors.Yaml.Mark

/-!
Block scalars. The header says whether lines are folded, how the breaks at the end are treated and
perhaps the indentation; otherwise the first line that is not empty sets it.
-/

namespace PageSelectors.Yaml

inductive Chomping where
  | strip
  | clip
  | keep
  deriving DecidableEq, Repr

structure BlockHeader where
  chomping : Chomping
  /-- The indentation below the surrounding block, if it is given. -/
  step : Option Nat

structure BlockState where
  /-- The characters so far, the last one first. -/
  read : List Char
  lineEnd : Option Char
  /-- The breaks of the empty lines after the last line with content, the last one first. -/
  empties : List Char
  blankStart : Bool
  indent : Option Nat
  /-- The greatest column at which an empty line ended. -/
  reach : Nat

def readBlockHeader (ms : List Mark) : Option (BlockHeader × List Mark) :=
  let chomping (c : Char) : Option Chomping :=
    if c == '+' then some .keep else if c == '-' then some .strip else none
  let digit (c : Char) : Option (Option Nat) :=
    if c == '0' then none
    else if c.isDigit then some (some (c.toNat - 48))
    else some none
  match chomping (peek 0 ms) with
  | some chomp => do
      match ← digit (peek 1 ms) with
      | some step => return (⟨chomp, some step⟩, ms.drop 2)
      | none => return (⟨chomp, none⟩, ms.drop 1)
  | none => do
      match ← digit (peek 0 ms) with
      | some step =>
          match chomping (peek 1 ms) with
          | some chomp => return (⟨chomp, some step⟩, ms.drop 2)
          | none => return (⟨.clip, some step⟩, ms.drop 1)
      | none => return (⟨.clip, none⟩, ms)

namespace BlockState

def joined (folded : Bool) (c : Char) (state : BlockState) : List Char :=
  if folded && state.lineEnd == some '\n' && !state.blankStart && !isBlank c then
    if state.empties.isEmpty then ' ' :: state.read else state.empties ++ state.read
  else state.empties ++ state.lineEnd.toList ++ state.read

def finish (chomping : Chomping) (state : BlockState) : List Char :=
  match chomping with
  | .strip => state.read
  | .clip => state.lineEnd.toList ++ state.read
  | .keep => state.empties ++ state.lineEnd.toList ++ state.read

end BlockState

/-- Read the lines of a block scalar that stands in a block of the given indentation. With `inside`
the reader is within a line with content, otherwise at the start of a line or in its
indentation. -/
def readBlockLines (folded : Bool) (least : Nat) (inside : Bool) (state : BlockState) :
    List Mark → Option (BlockState × List Mark)
  | [] => some (state, [])
  | mark :: rest =>
      let c := mark.char
      if inside then
        if isBreak c then
          readBlockLines folded least false { state with lineEnd := some c, empties := [] } rest
        else if isEnd c then
          some ({ state with lineEnd := none, empties := [] }, mark :: rest)
        else readBlockLines folded least true { state with read := c :: state.read } rest
      else
        let before := match state.indent with
          | some indent => mark.column < indent
          | none => true
        if before && c == ' ' then readBlockLines folded least false state rest
        else if before && c == '\t' then none
        else
          let reach := max state.reach mark.column
          if isBreak c then
            readBlockLines folded least false
              { state with empties := c :: state.empties, reach := reach } rest
          else
            let indent := state.indent.getD (max reach least)
            if mark.column == indent && !isEnd c then
              readBlockLines folded least true
                { read := c :: state.joined folded c, lineEnd := none, empties := [],
                  blankStart := isBlank c, indent := some indent, reach := 0 } rest
            else some ({ state with indent := some indent }, mark :: rest)

/-- Read a block scalar after its first character. The surrounding block has the given indentation,
counted from one, or none at all. -/
def readBlock (folded : Bool) (depth : Nat) (ms : List Mark) : Option (List Char × List Mark) := do
  let (header, rest) ← readBlockHeader ms
  let rest ← finishLine rest
  let indent := header.step.map (depth - 1 + ·)
  let start : BlockState := ⟨[], none, [], false, indent, 0⟩
  let (state, rest) ← readBlockLines folded (max depth 1) false start rest
  return (state.finish header.chomping, rest)

end PageSelectors.Yaml
