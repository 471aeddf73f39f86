import PageSelectors.Condition
import PageSelectors.Proofs.Css.Symbols

/-!
The grammar of compound selectors, as a reader of texts. A compound selector is a type selector or
a star, which stands at the front if at all, and then class, attribute and pseudo-class selectors
and negations of such compounds. Blanks between the symbols of a selector, namespaces and the other
forms of the syntax are not read.
-/

namespace PageSelectors.Css

namespace Symbol

def char : Symbol → Char
  | plain c => c
  | escaped c => c
  | lineEnd => '\n'

def isName : Symbol → Bool
  | plain c => isNameChar c
  | escaped _ => true
  | lineEnd => false

def isDigit : Symbol → Bool
  | plain c => c.isDigit
  | _ => false

end Symbol

inductive Simple where
  | universal
  | type (name : String)
  | class (name : String)
  | attribute (name : String) (test : Option (TextOp × String))
  | pseudo (name : String) (number : Option Nat)
  deriving DecidableEq, Repr

inductive Part where
  | simple (selector : Simple)
  | not (selectors : List Simple)
  deriving DecidableEq, Repr

section Readers

def expect (c : Char) : List Symbol → Option (List Symbol)
  | .plain d :: rest => if c = d then some rest else none
  | _ => none

def startsWord : List Symbol → Bool
  | .plain c :: _ => isNameStart c
  | .escaped _ :: _ => true
  | _ => false

def startsName : List Symbol → Bool
  | .plain '-' :: rest => rest.head? == some (.plain '-') || startsWord rest
  | symbols => startsWord symbols

def name? (symbols : List Symbol) : Option (String × List Symbol) :=
  if startsName symbols then
    some (String.ofList ((symbols.takeWhile Symbol.isName).map Symbol.char),
      symbols.dropWhile Symbol.isName)
  else none

/-- The characters up to the quote that closes a string. A string does not go over a line end,
unless a backslash stands there. -/
def stringBody (close : Char) : List Symbol → Option (List Char × List Symbol)
  | [] => none
  | .plain c :: rest =>
      if c = close then some ([], rest)
      else if isLineEnd c then none
      else (stringBody close rest).map fun (cs, after) => (c :: cs, after)
  | .escaped c :: rest => (stringBody close rest).map fun (cs, after) => (c :: cs, after)
  | .lineEnd :: rest => stringBody close rest

def string? : List Symbol → Option (String × List Symbol)
  | .plain c :: rest =>
      if c = '\'' ∨ c = '"' then
        (stringBody c rest).map fun (cs, after) => (String.ofList cs, after)
      else none
  | _ => none

def number? (symbols : List Symbol) : Option (Nat × List Symbol) :=
  let digits := (symbols.takeWhile Symbol.isDigit).map Symbol.char
  if digits.isEmpty then none
  else some (Nat.ofDigitChars 10 digits 0, symbols.dropWhile Symbol.isDigit)

def comparison? : List Symbol → Option (TextOp × List Symbol)
  | .plain '=' :: rest => some (.is, rest)
  | .plain '*' :: .plain '=' :: rest => some (.contains, rest)
  | .plain '^' :: .plain '=' :: rest => some (.startsWith, rest)
  | .plain '$' :: .plain '=' :: rest => some (.endsWith, rest)
  | .plain '~' :: .plain '=' :: rest => some (.wholeWord, rest)
  | _ => none

def test? (symbols : List Symbol) : Option (Option (TextOp × String) × List Symbol) :=
  match comparison? symbols with
  | none => some (none, symbols)
  | some (op, rest) => do
      let (value, rest) ← (string? rest).orElse fun _ => name? rest
      return (some (op, value), rest)

def numberedPseudos : List String :=
  ["nth-child", "nth-last-child", "nth-of-type", "nth-last-of-type"]

def argument? (name : String) (symbols : List Symbol) : Option (Option Nat × List Symbol) :=
  if name ∈ numberedPseudos then do
    let (number, rest) ← number? (← expect '(' symbols)
    return (some number, ← expect ')' rest)
  else some (none, symbols)

def simple? : List Symbol → Option (Simple × List Symbol)
  | .plain '.' :: rest => do
      let (name, rest) ← name? rest
      return (.class name, rest)
  | .plain '[' :: rest => do
      let (name, rest) ← name? rest
      let (test, rest) ← test? rest
      return (.attribute name test, ← expect ']' rest)
  | .plain ':' :: rest => do
      let (name, rest) ← name? rest
      let (number, rest) ← argument? name rest
      return (.pseudo name number, rest)
  | _ => none

def element? : List Symbol → Option (Simple × List Symbol)
  | .plain '*' :: rest => some (.universal, rest)
  | symbols => (name? symbols).map fun (name, rest) => (.type name, rest)

variable {α : Type}

def many (read : List Symbol → Option (α × List Symbol)) :
    Nat → List Symbol → List α × List Symbol
  | 0, symbols => ([], symbols)
  | fuel + 1, symbols =>
      match read symbols with
      | none => ([], symbols)
      | some (value, rest) =>
          let (values, after) := many read fuel rest
          (value :: values, after)

def compound (part : Simple → α) (read : List Symbol → Option (α × List Symbol))
    (symbols : List Symbol) : List α × List Symbol :=
  match element? symbols with
  | none => many read symbols.length symbols
  | some (element, rest) =>
      let (parts, after) := many read rest.length rest
      (part element :: parts, after)

def part? : List Symbol → Option (Part × List Symbol)
  | .plain ':' :: .plain 'n' :: .plain 'o' :: .plain 't' :: .plain '(' :: rest =>
      let (selectors, after) := compound id simple? rest
      if selectors.isEmpty then none
      else (expect ')' after).map fun after => (.not selectors, after)
  | symbols => (simple? symbols).map fun (selector, rest) => (.simple selector, rest)

end Readers

def compound? (text : String) : Option (List Part) :=
  match compound .simple part? (symbols text.toList) with
  | (part :: parts, []) => some (part :: parts)
  | _ => none

def identifier? (text : String) : Option String :=
  match name? (symbols text.toList) with
  | some (name, []) => some name
  | _ => none

end PageSelectors.Css
