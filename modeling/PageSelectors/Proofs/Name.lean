import PageSelectors.Condition
import PageSelectors.Name
import PageSelectors.Proofs.Outcome

/-!
What the checks on names, classes, tags and indices let through.
-/

namespace PageSelectors

open Text (trim hasBlank)
open Outcome

def IsName (name : String) : Prop :=
  trim name ≠ "" ∧ hasBlank (trim name) = false

instance (name : String) : Decidable (IsName name) :=
  inferInstanceAs (Decidable (_ ∧ _))

theorem checkName_eq_ok_iff {what name result : String} :
    checkName what name = .ok result ↔ IsName name ∧ result = trim name := by
  unfold checkName IsName
  by_cases empty : trim name = ""
  · simp [empty]
  · by_cases blank : hasBlank (trim name)
    · simp [empty, blank]
    · simp [empty, blank, eq_comm]

theorem checkClasses_eq_ok_iff {names results : List String} :
    checkClasses names = .ok results ↔
      (names ≠ [] ∧ ∀ name ∈ names, IsName name) ∧ results = names.map trim := by
  unfold checkClasses
  by_cases empty : names = []
  · simp [empty]
  · simp [empty, mapM_eq_ok_iff_map fun _ _ => checkName_eq_ok_iff]

def SharedCriterion.WellNamed : SharedCriterion → Prop
  | .attribute name _ _ => IsName name
  | .classes names => names ≠ [] ∧ ∀ name ∈ names, IsName name

structure IsTag (grammar : Grammar) (tag : String) (constrained : Bool) : Prop where
  unbroken : hasBlank tag = false
  present : grammar = .xpath → tag ≠ ""
  narrowed : tag = "" ∨ tag = anyTag → constrained = true

theorem checkTag_eq_ok_iff {grammar : Grammar} {tag : String} {constrained : Bool} :
    checkTag grammar tag constrained = .ok () ↔ IsTag grammar tag constrained := by
  unfold checkTag
  constructor
  · intro checked
    split at checked
    · simp at checked
    · next present =>
      split at checked
      · simp at checked
      · next narrowed =>
        split at checked
        · simp at checked
        · next unbroken =>
          refine ⟨by simpa using unbroken, fun xpath empty => present ⟨empty, xpath⟩, ?_⟩
          intro wild
          simpa [wild] using narrowed
  · rintro ⟨unbroken, present, narrowed⟩
    rw [if_neg (fun both => present both.2 both.1), if_neg, if_neg]
    · simp [unbroken]
    · rintro ⟨wild, free⟩
      simp [narrowed wild] at free

def HasOrdinal (index : Nat) : Prop :=
  index + 1 < indexBound

theorem ordinal_eq_ok_iff {index number : Nat} :
    ordinal index = .ok number ↔ HasOrdinal index ∧ number = index + 1 := by
  unfold ordinal HasOrdinal
  by_cases inside : index + 1 < indexBound
  · simp [inside, eq_comm]
  · simp [inside]

theorem numbered_eq_ok_iff {index : Nat} {make : Nat → String} {text : String} :
    (do return make (← ordinal index)) = (.ok text : Except Fault String) ↔
      HasOrdinal index ∧ text = make (index + 1) :=
  bind_pure_eq_ok_iff_of make fun _ => ordinal_eq_ok_iff

end PageSelectors
