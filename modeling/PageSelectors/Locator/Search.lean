import PageSelectors.Query

/-!
The search for elements. An engine evaluates query texts; what is searched, and where, is decided
here.
-/

namespace PageSelectors.Locator

structure Engine (m : Type → Type) (Element : Type) where
  findAll : (context : Option Element) → (query : String) → (grammar : Grammar) →
    ExceptT Fault m (List Element)

variable {m : Type → Type} [Monad m] {Element : Type}

def scope (context : Option Element) (query : Query) : Option Element × String :=
  match context with
  | some element => if query.absolute then (none, query.text) else (some element, query.scopedText)
  | none => (none, query.text)

def resolve (engine : Engine m Element) (context : Option Element) (selector : Selector)
    (settings : Settings) : ExceptT Fault m (List Element) := do
  let query ← ExceptT.mk (pure (Query.compileWith settings selector))
  let (context, text) := scope context query
  engine.findAll context text query.grammar

def resolveOne (engine : Engine m Element) (context : Option Element) (selector : Selector)
    (settings : Settings) : ExceptT Fault m Element := do
  match ← resolve engine context selector settings with
  | [element] => return element
  | elements =>
      let text ← ExceptT.mk (pure selector.render)
      throw (.locate text (
        if elements.isEmpty then "no element matched"
        else toString elements.length ++ " elements matched, expected exactly one"))

end PageSelectors.Locator
