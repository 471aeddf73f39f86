import PageSelectors.Fault
import PageSelectors.Text.Blank

/-!
The checks on names and indices that both grammars share. Nothing is checked when a chain is put
together; the checks run when it is compiled.
-/

namespace PageSelectors

open Text (trim hasBlank)

def anyTag : String := "*"

def checkName (what name : String) : Except Fault String :=
  let trimmed := trim name
  if trimmed = "" then .error (.invalid (.emptyName what))
  else if hasBlank trimmed then .error (.whitespace what trimmed)
  else .ok trimmed

def checkClasses (names : List String) : Except Fault (List String) :=
  if names.isEmpty then .error (.invalid .noClasses)
  else names.mapM (checkName "CSS class")

def checkTag (grammar : Grammar) (tag : String) (constrained : Bool) : Except Fault Unit :=
  if tag = "" ∧ grammar = .xpath then .error (.emptyTag grammar)
  else if (tag = "" ∨ tag = anyTag) ∧ constrained = false then .error (.unconstrained tag)
  else if hasBlank tag then .error (.whitespace "Tag" tag)
  else .ok ()

def indexBound : Nat := Nat.pow 2 64

def ordinal (index : Nat) : Except Fault Nat :=
  if index + 1 < indexBound then .ok (index + 1)
  else .error (.invalid (.indexOutOfRange index))

end PageSelectors
