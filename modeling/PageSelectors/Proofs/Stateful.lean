/-!
Computations that have a state and can fail: the outcome of each kind of part, and the state it
leaves. What a part does to the state outlives a fault.
-/

namespace PageSelectors.Stateful

variable {ε State α β : Type}

def perform (part : ExceptT ε (StateM State) α) (state : State) : Except ε α × State :=
  part.run.run state

@[simp] theorem perform_pure (value : α) (state : State) :
    perform (pure value : ExceptT ε (StateM State) α) state = (.ok value, state) := rfl

@[simp] theorem perform_throw (fault : ε) (state : State) :
    perform (throw fault : ExceptT ε (StateM State) α) state = (.error fault, state) := rfl

@[simp] theorem perform_get (state : State) :
    perform (get : ExceptT ε (StateM State) State) state = (.ok state, state) := rfl

@[simp] theorem perform_modify (change : State → State) (state : State) :
    perform (modify change : ExceptT ε (StateM State) Unit) state =
      (.ok (), change state) := rfl

theorem perform_bind (part : ExceptT ε (StateM State) α)
    (next : α → ExceptT ε (StateM State) β) (state : State) :
    perform (part >>= next) state =
      match perform part state with
      | (.ok value, after) => perform (next value) after
      | (.error fault, after) => (.error fault, after) := by
  change (ExceptT.bindCont next (perform part state).1).run (perform part state).2 = _
  rcases perform part state with ⟨_ | _, after⟩
  · rfl
  · rfl

end PageSelectors.Stateful
