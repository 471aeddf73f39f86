import PageSelectors.Catalog.Basic
import PageSelectors.Proofs.Catalog.Simulation
import PageSelectors.Proofs.Outcome
import PageSelectors.Proofs.Table

/-!
Building entries afresh. Without a table of what is built already, an entry is built anew wherever
it is mentioned, and only the stack of the entries around it is known. This is the plain meaning of
a build: what the table saves is work, not an answer.
-/

namespace PageSelectors

open Outcome

namespace Catalog

def remaining (definitions : Table Definition) (stack : List String) : List String :=
  definitions.names.filter (· ∉ stack)

theorem remaining_push_lt {definitions : Table Definition} {stack : List String} {name : String}
    (fresh : name ∉ stack) (known : name ∈ definitions.names) :
    (remaining definitions (stack ++ [name])).length < (remaining definitions stack).length := by
  have split : remaining definitions (stack ++ [name]) =
      (remaining definitions stack).filter (· ≠ name) := by
    simp [remaining, List.filter_filter, not_or, and_comm]
  rw [split]
  apply List.length_filter_lt_length_iff_exists.2
  exact ⟨name, by simp [remaining, fresh, known], by simp⟩

def boundaryOf (build : String → Except Fault Selector) (name : String) :
    Except Fault XPath.Chain := do
  boundaryChain name (← build name)

/-- Build an entry, and everything it mentions, with nothing but the stack of the entries around it:
the names on it, the outermost first, cannot be mentioned again. -/
def buildAfresh (definitions : Table Definition) (stack : List String) (name : String) :
    Except Fault Selector :=
  if _ : name ∈ stack then
    .error (.catalog (stack.getLast?.getD "") (.cycle (stack ++ [name])))
  else match _ : definitions.get? name with
    | none => .error (.catalog (stack.getLast?.getD "") (.unknown name))
    | some definition =>
        (definition.assemble
          (boundaryOf fun mentioned => buildAfresh definitions (stack ++ [name]) mentioned)).mapError
          (Fault.within name)
termination_by (remaining definitions stack).length
decreasing_by
  exact remaining_push_lt ‹name ∉ stack› (Table.mem_names_iff.2 ⟨definition, ‹_›⟩)

def compileAfresh (definitions : Table Definition) (name : String) (definition : Definition) :
    Except Fault Entry := do
  let selector ← buildAfresh definitions [] name
  let query ← (Query.compile selector).mapError (Fault.within name)
  return ⟨name, definition.description, selector, query⟩

def ofFileAfresh (file : File) : Except Fault Catalog := do
  let entries ← file.selectors.entries.mapM fun listed =>
    compileAfresh file.selectors listed.1 listed.2
  return ⟨entries⟩

section Steps

variable {definitions : Table Definition} {stack : List String} {name : String}

theorem buildAfresh_of_mem (onStack : name ∈ stack) :
    buildAfresh definitions stack name =
      .error (.catalog (stack.getLast?.getD "") (.cycle (stack ++ [name]))) := by
  rw [buildAfresh, dif_pos onStack]

theorem buildAfresh_of_none (fresh : name ∉ stack) (unknown : definitions.get? name = none) :
    buildAfresh definitions stack name =
      .error (.catalog (stack.getLast?.getD "") (.unknown name)) := by
  rw [buildAfresh, dif_neg fresh]
  split
  · rfl
  · simp_all

theorem buildAfresh_of_some {definition : Definition} (fresh : name ∉ stack)
    (found : definitions.get? name = some definition) :
    buildAfresh definitions stack name =
      (definition.assemble (boundaryOf (buildAfresh definitions (stack ++ [name])))).mapError
        (Fault.within name) := by
  rw [buildAfresh, dif_neg fresh]
  split
  · simp_all
  · next other same =>
      obtain rfl : definition = other := Table.eq_of_get? found same
      rfl

/-- An entry is built afresh exactly if it is not on the stack, is defined, and is put together from
what it mentions with itself on top of the stack. -/
theorem buildAfresh_eq_ok_iff {selector : Selector} :
    buildAfresh definitions stack name = .ok selector ↔
      name ∉ stack ∧ ∃ definition, definitions.get? name = some definition ∧
        definition.assemble (boundaryOf (buildAfresh definitions (stack ++ [name]))) =
          .ok selector := by
  by_cases onStack : name ∈ stack
  · simp [buildAfresh_of_mem onStack, onStack]
  · cases found : definitions.get? name with
    | none => simp [buildAfresh_of_none onStack found]
    | some definition =>
        simp [buildAfresh_of_some onStack found, mapError_eq_ok_iff, onStack]

end Steps

end Catalog

end PageSelectors
