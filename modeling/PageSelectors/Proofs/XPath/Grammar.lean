import PageSelectors.Proofs.XPath.Expression
import PageSelectors.Proofs.XPath.Tokens

/-!
The grammar of XPath expressions, as a reader of tokens. Equality binds weakest, then the order of
numbers, then sums. The readers take fuel; each token is worth enough of it for all levels.
-/

namespace PageSelectors.XPath

def function? : String → Option Function
  | "not" => some .not
  | "contains" => some .contains
  | "starts-with" => some .startsWith
  | "substring" => some .substring
  | "string-length" => some .stringLength
  | "normalize-space" => some .normalizeSpace
  | "concat" => some .concat
  | "position" => some .position
  | "last" => some .last
  | _ => none

def direction? : String → Option Direction
  | "attribute" => some .attribute
  | "child" => some .child
  | "descendant" => some .descendant
  | "following-sibling" => some .followingSibling
  | "preceding-sibling" => some .precedingSibling
  | "following" => some .following
  | "preceding" => some .preceding
  | "parent" => some .parent
  | _ => none

def operator? : Nat → List Token → Option (Operator × List Token)
  | 0, .mark '=' :: rest => some (.equal, rest)
  | 1, .atLeast :: rest => some (.atLeast, rest)
  | 1, .atMost :: rest => some (.atMost, rest)
  | 2, .mark '+' :: rest => some (.plus, rest)
  | 2, .mark '-' :: rest => some (.minus, rest)
  | _, _ => none

def nodeTest? : List Token → Option ((Direction × Test) × List Token)
  | .mark '@' :: .name name :: rest => some ((.attribute, .name name), rest)
  | .word "text" :: .mark '(' :: .mark ')' :: rest => some ((.child, .text), rest)
  | .word axis :: .along :: .name name :: rest =>
      (direction? axis).map fun direction => ((direction, .name name), rest)
  | .word axis :: .along :: .mark '*' :: rest =>
      (direction? axis).map fun direction => ((direction, .any), rest)
  | _ => none

def call? : List Token → Option (Function × List Token)
  | .word name :: .mark '(' :: rest => (function? name).map fun function => (function, rest)
  | _ => none

def expect (c : Char) : List Token → Option (List Token)
  | .mark d :: rest => if c = d then some rest else none
  | _ => none

mutual

/-- The expression at the front whose operators all belong to a level or bind more tightly. -/
def readLevel : Nat → Nat → List Token → Option (Expression × List Token)
  | 0, _, _ => none
  | fuel + 1, level, tokens =>
      if level < 3 then do
        let (left, rest) ← readLevel fuel (level + 1) tokens
        readMore fuel level left rest
      else readPrimary fuel tokens

def readMore : Nat → Nat → Expression → List Token → Option (Expression × List Token)
  | 0, _, _, _ => none
  | fuel + 1, level, left, tokens =>
      match operator? level tokens with
      | none => some (left, tokens)
      | some (operator, rest) => do
          let (right, rest) ← readLevel fuel (level + 1) rest
          readMore fuel level (.binary operator left right) rest

def readPrimary : Nat → List Token → Option (Expression × List Token)
  | 0, _ => none
  | _ + 1, .literal value :: rest => some (.literal value, rest)
  | _ + 1, .number value :: rest => some (.number value, rest)
  | fuel + 1, tokens =>
      match call? tokens with
      | some (function, rest) => do
          let (arguments, rest) ← readArguments fuel rest
          return (.call function arguments, rest)
      | none => do
          let (steps, rest) ← readSteps fuel tokens
          return (.path steps, rest)

def readArguments : Nat → List Token → Option (List Expression × List Token)
  | 0, _ => none
  | _ + 1, .mark ')' :: rest => some ([], rest)
  | fuel + 1, tokens => do
      let (first, rest) ← readLevel fuel 0 tokens
      readOthers fuel first rest

def readOthers : Nat → Expression → List Token → Option (List Expression × List Token)
  | 0, _, _ => none
  | _ + 1, first, .mark ')' :: rest => some ([first], rest)
  | fuel + 1, first, .mark ',' :: rest => do
      let (second, rest) ← readLevel fuel 0 rest
      let (others, rest) ← readOthers fuel second rest
      return (first :: others, rest)
  | _ + 1, _, _ => none

def readSteps : Nat → List Token → Option (List PathStep × List Token)
  | 0, _ => none
  | fuel + 1, tokens => do
      let ((direction, test), rest) ← nodeTest? tokens
      let (predicates, rest) ← readPredicates fuel rest
      match rest with
      | .mark '/' :: rest =>
          let (steps, rest) ← readSteps fuel rest
          return (.along direction test predicates :: steps, rest)
      | rest => return ([.along direction test predicates], rest)

def readPredicates : Nat → List Token → Option (List Expression × List Token)
  | 0, _ => none
  | fuel + 1, .mark '[' :: rest => do
      let (predicate, rest) ← readLevel fuel 0 rest
      let rest ← expect ']' rest
      let (others, rest) ← readPredicates fuel rest
      return (predicate :: others, rest)
  | _ + 1, tokens => some ([], tokens)

end

def predicates? (text : String) : Option (List Expression) :=
  let tokens := tokens text.toList
  match readPredicates (16 * tokens.length + 1) tokens with
  | some (predicates, []) => some predicates
  | _ => none

end PageSelectors.XPath
