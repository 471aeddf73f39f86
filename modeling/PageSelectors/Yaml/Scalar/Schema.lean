import PageSelectors.Text.Digits

/-!
What plain scalars stand for: nothing, a truth value, a number or a text. Numbers are decimal, with
fraction and exponent, or whole in another radix. Digits behind a needless zero are no number.
-/

namespace PageSelectors.Yaml

def nullWords : List String :=
  ["null", "Null", "NULL", "~"]

def boolWords : List (String × Bool) :=
  [("true", true), ("True", true), ("TRUE", true), ("false", false), ("False", false),
    ("FALSE", false)]

def unboundedWords : List String :=
  [".inf", ".Inf", ".INF", "+.inf", "+.Inf", "+.INF", "-.inf", "-.Inf", "-.INF",
    ".nan", ".NaN", ".NAN"]

def isPadded (cs : List Char) : Bool :=
  let digits := match cs with
    | '+' :: rest => rest
    | '-' :: rest => rest
    | cs => cs
  match digits with
  | '0' :: rest => !rest.isEmpty && rest.all Char.isDigit
  | _ => false

def otherRadix? : List Char → Option Nat
  | '0' :: 'x' :: digits => Text.number? 16 digits
  | '0' :: 'o' :: digits => Text.number? 8 digits
  | '0' :: 'b' :: digits => Text.number? 2 digits
  | _ => none

def natural? (text : String) : Option Nat :=
  let cs := text.toList
  let digits := match cs with
    | '+' :: rest => rest
    | cs => cs
  match otherRadix? digits with
  | some value => some value
  | none => if isPadded cs then none else Text.number? 10 digits

def decimalBound : Nat :=
  Nat.pow 2 1024 - Nat.pow 2 970

def isBelowBound (digits : List Char) (power : Int) : Bool :=
  let significant := digits.dropWhile (· == '0')
  let order := (significant.length : Int) + power
  match Text.number? 10 significant with
  | none => true
  | some value =>
      order ≤ 308 ||
        (order == 309 &&
          value * Nat.pow 10 power.toNat < decimalBound * Nat.pow 10 (-power).toNat)

def exponent? : List Char → Option Int
  | [] => some 0
  | letter :: rest => do
      guard (letter == 'e' || letter == 'E')
      match rest with
      | '-' :: digits => return -(← Text.number? 10 digits)
      | '+' :: digits => return ← Text.number? 10 digits
      | digits => return ← Text.number? 10 digits

def isDecimal (cs : List Char) : Bool :=
  let whole := cs.takeWhile Char.isDigit
  let rest := cs.dropWhile Char.isDigit
  let (fraction, rest) := match rest with
    | '.' :: rest => (rest.takeWhile Char.isDigit, rest.dropWhile Char.isDigit)
    | rest => ([], rest)
  let digits := whole ++ fraction
  match exponent? rest with
  | some exponent => !digits.isEmpty && isBelowBound digits (exponent - fraction.length)
  | none => false

def isNumber (text : String) : Bool :=
  let below (bound : Nat) (value? : Option Nat) : Bool := value?.any (· < bound)
  text ∈ unboundedWords ||
    match text.toList with
    | '+' :: rest => below (Nat.pow 2 128) (otherRadix? rest) || isDecimal rest
    | '-' :: rest => below (Nat.pow 2 127 + 1) (otherRadix? rest) || isDecimal rest
    | cs => below (Nat.pow 2 128) (otherRadix? cs) || isDecimal cs

def readsAsText (text : String) : Bool :=
  !(text.isEmpty || text ∈ nullWords || (boolWords.lookup text).isSome || isNumber text ||
    isPadded text.toList)

end PageSelectors.Yaml
