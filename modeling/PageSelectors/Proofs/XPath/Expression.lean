import Mathlib.Data.List.MinMax
import PageSelectors.Proofs.Words

/-!
XPath expressions and their values. Covered are the expressions that predicates are made of:
literals, whole numbers, calls of the functions on strings and places, comparisons, sums and
relative location paths. Where the language would convert a number to a string or the other way
round, an expression has no value here.
-/

namespace PageSelectors.XPath

inductive Direction where
  | attribute
  | child
  | descendant
  | followingSibling
  | precedingSibling
  | following
  | preceding
  | parent
  deriving DecidableEq, Repr

inductive Test where
  | name (name : String)
  | any
  | text
  deriving DecidableEq, Repr

inductive Function where
  | not
  | contains
  | startsWith
  | substring
  | stringLength
  | normalizeSpace
  | concat
  | position
  | last
  deriving DecidableEq, Repr

inductive Operator where
  | equal
  | atLeast
  | atMost
  | plus
  | minus
  deriving DecidableEq, Repr

mutual

inductive Expression where
  | literal (value : String)
  | number (value : Nat)
  | call (function : Function) (arguments : List Expression)
  | binary (operator : Operator) (left right : Expression)
  | path (steps : List PathStep)

inductive PathStep where
  | along (direction : Direction) (test : Test) (predicates : List Expression)

end

structure Document (Node : Type) where
  /-- The nodes along an axis that pass a test, the nearest one first. -/
  select : Direction → Test → Node → List Node
  value : Node → String
  rank : Node → Nat

inductive Value (Node : Type) where
  | nodes (nodes : List Node)
  | boolean (value : Bool)
  | number (value : Int)
  | string (value : String)

def isBlank (c : Char) : Bool :=
  c == ' ' || c == '\t' || c == '\r' || c == '\n'

namespace Value

variable {Node : Type}

def truth : Value Node → Bool
  | nodes list => !list.isEmpty
  | boolean value => value
  | number value => value ≠ 0
  | string value => value ≠ ""

/-- Whether a predicate with the value holds at a place: a number holds at its own place. -/
def holdsAt (place : Nat) : Value Node → Bool
  | number value => value = place
  | value => value.truth

def keep (node : Node) (place : Nat) (value : Value Node) : List Node :=
  if value.holdsAt place then [node] else []

def text? (document : Document Node) : Value Node → Option String
  | nodes list => some ((list.argmin document.rank).elim "" document.value)
  | string value => some value
  | boolean _ | number _ => none

def number? : Value Node → Option Int
  | number value => some value
  | _ => none

def equals? (document : Document Node) : Value Node → Value Node → Option Bool
  | nodes list, string value | string value, nodes list =>
      some (list.any fun node => document.value node = value)
  | string left, string right => some (left = right)
  | number left, number right => some (left = right)
  | _, _ => none

end Value

section Evaluation

variable {Node : Type} (document : Document Node)

def Operator.apply? : Operator → Value Node → Value Node → Option (Value Node)
  | equal, left, right => do return .boolean (← left.equals? document right)
  | atLeast, left, right => do return .boolean ((← right.number?) ≤ (← left.number?))
  | atMost, left, right => do return .boolean ((← left.number?) ≤ (← right.number?))
  | plus, left, right => do return .number ((← left.number?) + (← right.number?))
  | minus, left, right => do return .number ((← left.number?) - (← right.number?))

def Function.apply? (place size : Nat) : Function → List (Value Node) → Option (Value Node)
  | not, [value] => some (.boolean !value.truth)
  | contains, [whole, part] => do
      return .boolean ((← part.text? document).toList <:+: (← whole.text? document).toList)
  | startsWith, [whole, part] => do
      return .boolean ((← part.text? document).toList <+: (← whole.text? document).toList)
  | substring, [whole, start] => do
      return .string (String.ofList
        ((← whole.text? document).toList.drop ((← start.number?) - 1).toNat))
  | stringLength, [whole] => do return .number (← whole.text? document).length
  | normalizeSpace, [whole] => do
      return .string (String.ofList
        ([' '].intercalate (Text.words isBlank (← whole.text? document).toList)))
  | concat, first :: second :: others => do
      return .string (String.join (← (first :: second :: others).mapM (Value.text? document)))
  | position, [] => some (.number place)
  | last, [] => some (.number size)
  | _, _ => none

mutual

/-- The value of an expression for a node at a place among a number of nodes. -/
def Expression.eval? : Expression → Node → Nat → Nat → Option (Value Node)
  | .literal value, _, _, _ => some (.string value)
  | .number value, _, _, _ => some (.number value)
  | .call function arguments, node, place, size => do
      function.apply? document place size (← evalAll? arguments node place size)
  | .binary operator left right, node, place, size => do
      operator.apply? document (← left.eval? node place size) (← right.eval? node place size)
  | .path steps, node, _, _ => do return .nodes (← walk? steps [node])

def evalAll? : List Expression → Node → Nat → Nat → Option (List (Value Node))
  | [], _, _, _ => some []
  | expression :: rest, node, place, size => do
      let value ← expression.eval? node place size
      return value :: (← evalAll? rest node place size)

def walk? : List PathStep → List Node → Option (List Node)
  | [], nodes => some nodes
  | .along direction test predicates :: rest, nodes => do
      let found ← nodes.mapM fun node => filter? predicates (document.select direction test node)
      walk? rest found.flatten

def filter? : List Expression → List Node → Option (List Node)
  | [], nodes => some nodes
  | predicate :: rest, nodes => do
      let kept ← nodes.zipIdx.mapM fun item =>
        (predicate.eval? item.1 (item.2 + 1) nodes.length).map (Value.keep item.1 (item.2 + 1))
      filter? rest kept.flatten

end

end Evaluation

end PageSelectors.XPath
