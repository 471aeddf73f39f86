import PageSelectors.Proofs.Catalog.Building
import PageSelectors.Proofs.Catalog.Simulation

/-!
Plans. A definition can be put together without looking anything up, as a plan that asks for what its
boundaries stand for and goes on with the answers. Carried out in a workshop, the plan is the build.
-/

namespace PageSelectors.Catalog

open Building Stateful

/-- Something in the making: done, at fault, or in want of what a boundary stands for. -/
inductive Plan (α : Type) where
  | done (value : α)
  | fail (fault : Fault)
  | ask (mentioned : String) (next : Except Fault XPath.Chain → Plan α)

namespace Plan

variable {α β : Type}

def bind : Plan α → (α → Plan β) → Plan β
  | done value, rest => rest value
  | fail fault, _ => fail fault
  | ask mentioned next, rest => ask mentioned fun answer => (next answer).bind rest

def recover : Plan α → (Fault → Plan α) → Plan α
  | done value, _ => done value
  | fail fault, handle => handle fault
  | ask mentioned next, handle => ask mentioned fun answer => (next answer).recover handle

instance : Monad Plan where
  pure := done
  bind := bind

instance : MonadExceptOf Fault Plan where
  throw := fail
  tryCatch := recover

def mention (mentioned : String) : Plan XPath.Chain :=
  ask mentioned settle

def carryOut (resolve : String → Building XPath.Chain) : Plan α → Building α
  | done value => pure value
  | fail fault => throw fault
  | ask mentioned next => do carryOut resolve (next (← (resolve mentioned).outcome))

variable {resolve : String → Building XPath.Chain}

theorem perform_carryOut_ask (mentioned : String) (next : Except Fault XPath.Chain → Plan α)
    (workshop : Workshop) :
    perform ((ask mentioned next).carryOut resolve) workshop =
      perform ((next (perform (resolve mentioned) workshop).1).carryOut resolve)
        (perform (resolve mentioned) workshop).2 := by
  rw [carryOut, perform_bind, perform_outcome]

theorem perform_carryOut_settle (outcome : Except Fault α) (workshop : Workshop) :
    perform ((settle outcome : Plan α).carryOut resolve) workshop = (outcome, workshop) := by
  cases outcome with
  | error fault => rfl
  | ok value => rfl

theorem perform_carryOut_bind (plan : Plan α) (rest : α → Plan β) (workshop : Workshop) :
    perform ((plan >>= rest).carryOut resolve) workshop =
      perform (plan.carryOut resolve >>= fun value => (rest value).carryOut resolve) workshop := by
  change perform ((plan.bind rest).carryOut resolve) workshop = _
  induction plan generalizing workshop with
  | done value => rfl
  | fail fault => rfl
  | ask mentioned next ih =>
      rw [bind, perform_carryOut_ask, ih, perform_bind, perform_bind, perform_carryOut_ask]

def simulation (resolve : String → Building XPath.Chain) : Simulation Plan Building where
  Relates plan part := ∀ workshop, perform (plan.carryOut resolve) workshop = perform part workshop
  value _ _ := rfl
  fault _ _ := rfl
  sequence {_ _ plan part _ _} first rest workshop := by
    rw [perform_carryOut_bind, perform_bind, perform_bind, first]
    rcases perform part workshop with ⟨fault | value, after⟩
    · rfl
    · exact rest value after

theorem perform_assemble (resolve : String → Building XPath.Chain) (definition : Definition)
    (workshop : Workshop) :
    perform ((definition.assemble mention : Plan Selector).carryOut resolve) workshop =
      perform (definition.assemble resolve) workshop := by
  refine (simulation resolve).assemble ?_ definition workshop
  intro mentioned workshop
  rw [mention, perform_carryOut_ask, perform_carryOut_settle]

end Plan

end PageSelectors.Catalog
