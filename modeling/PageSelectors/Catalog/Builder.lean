import PageSelectors.Catalog.Assembly

/-!
Building the entries of a catalog file. Entries that mention each other share one workshop: what is
built is kept, and what is being built is on a stack, so that a mention of it is seen to be a cycle.
-/

namespace PageSelectors.Catalog

structure Workshop where
  built : List (String × Selector)
  /-- The entries being built, the outermost first. -/
  inProgress : List String

namespace Workshop

def empty : Workshop :=
  ⟨[], []⟩

def current (workshop : Workshop) : String :=
  workshop.inProgress.getLast?.getD ""

def push (name : String) (workshop : Workshop) : Workshop :=
  { workshop with inProgress := workshop.inProgress ++ [name] }

def pop (workshop : Workshop) : Workshop :=
  { workshop with inProgress := workshop.inProgress.dropLast }

def keep (name : String) (selector : Selector) (workshop : Workshop) : Workshop :=
  { workshop with built := (name, selector) :: workshop.built }

end Workshop

/-- A build. The workshop outlives a fault. -/
abbrev Building := ExceptT Fault (StateM Workshop)

def boundaryChain (name : String) : Selector → Except Fault XPath.Chain
  | .xpath chain => .ok chain
  | .css _ => .error (.grammarMismatch ("boundary '" ++ name ++ "' (a CSS selector)") .xpath)

def Building.outcome {α : Type} (part : Building α) : Building (Except Fault α) :=
  ExceptT.lift part.run

/-- Build an entry and all that it mentions. Each entry in progress takes one unit of fuel, and no
entry is in progress twice, so fuel for every definition is enough. -/
def buildEntry (definitions : Table Definition) (fuel : Nat) (name : String) :
    Building Selector := do
  let workshop ← get
  match workshop.built.lookup name with
  | some selector => return selector
  | none =>
    if name ∈ workshop.inProgress then
      throw (.catalog workshop.current (.cycle (workshop.inProgress ++ [name])))
    else match definitions.get? name, fuel with
      | none, _ => throw (.catalog workshop.current (.unknown name))
      | some _, 0 => throw (.catalog workshop.current (.cycle (workshop.inProgress ++ [name])))
      | some definition, fuel + 1 =>
        modify (Workshop.push name)
        let outcome ← Building.outcome <| definition.assemble fun mentioned => do
          settle (boundaryChain mentioned (← buildEntry definitions fuel mentioned))
        modify Workshop.pop
        match outcome with
        | .ok selector =>
          modify (Workshop.keep name selector)
          return selector
        | .error fault => throw (fault.within name)

end PageSelectors.Catalog
