import PageSelectors.Catalog.Builder
import PageSelectors.Proofs.Stateful

/-!
What a build does to its workshop: the outcome and the workshop that each kind of part leaves, and
the four things that can happen when an entry is asked for.
-/

namespace PageSelectors.Catalog

open Stateful

namespace Building

variable {α : Type}

@[simp] theorem perform_outcome (part : Building α) (workshop : Workshop) :
    perform part.outcome workshop =
      (.ok (perform part workshop).1, (perform part workshop).2) := rfl

@[simp] theorem perform_settle (outcome : Except Fault α) (workshop : Workshop) :
    perform (settle outcome : Building α) workshop = (outcome, workshop) := by
  cases outcome with
  | error fault => rfl
  | ok value => rfl

end Building

open Building

def buildBoundary (definitions : Table Definition) (fuel : Nat) (mentioned : String) :
    Building XPath.Chain := do
  settle (boundaryChain mentioned (← buildEntry definitions fuel mentioned))

theorem perform_buildBoundary (definitions : Table Definition) (fuel : Nat) (mentioned : String)
    (workshop : Workshop) :
    perform (buildBoundary definitions fuel mentioned) workshop =
      ((perform (buildEntry definitions fuel mentioned) workshop).1 >>= boundaryChain mentioned,
        (perform (buildEntry definitions fuel mentioned) workshop).2) := by
  rw [buildBoundary, perform_bind]
  rcases perform (buildEntry definitions fuel mentioned) workshop with ⟨fault | selector, after⟩
  · rfl
  · exact perform_settle (boundaryChain mentioned selector) after

section Steps

variable {definitions : Table Definition} {fuel : Nat} {name : String} {workshop : Workshop}

theorem buildEntry_of_built {selector : Selector}
    (built : workshop.built.lookup name = some selector) :
    perform (buildEntry definitions fuel name) workshop = (.ok selector, workshop) := by
  unfold buildEntry
  simp [built, perform_bind]

theorem buildEntry_of_inProgress (fresh : workshop.built.lookup name = none)
    (onStack : name ∈ workshop.inProgress) :
    perform (buildEntry definitions fuel name) workshop =
      (.error (.catalog workshop.current (.cycle (workshop.inProgress ++ [name]))), workshop) := by
  unfold buildEntry
  simp only [perform_bind, perform_get, fresh, if_pos onStack, perform_throw]

theorem buildEntry_of_unknown (fresh : workshop.built.lookup name = none)
    (offStack : name ∉ workshop.inProgress) (unknown : definitions.get? name = none) :
    perform (buildEntry definitions fuel name) workshop =
      (.error (.catalog workshop.current (.unknown name)), workshop) := by
  unfold buildEntry
  simp only [perform_bind, perform_get, fresh, if_neg offStack, unknown, perform_throw]

theorem buildEntry_of_defined (fresh : workshop.built.lookup name = none)
    (offStack : name ∉ workshop.inProgress) {definition : Definition}
    (found : definitions.get? name = some definition) :
    perform (buildEntry definitions (fuel + 1) name) workshop =
      match perform (definition.assemble (buildBoundary definitions fuel))
          (workshop.push name) with
      | (.ok selector, after) => (.ok selector, after.pop.keep name selector)
      | (.error fault, after) => (.error (fault.within name), after.pop) := by
  rw [buildEntry]
  simp only [perform_bind, perform_get, fresh, if_neg offStack, found, perform_modify,
    perform_outcome]
  unfold buildBoundary
  rcases perform (definition.assemble _) (workshop.push name) with ⟨fault | selector, after⟩
  · rfl
  · rfl

end Steps

end PageSelectors.Catalog
