import PageSelectors.Locator.Search
import PageSelectors.Proofs.Command.Output
import PageSelectors.Proofs.JavaScript.Calls

/-!
The ways to a search. The search itself, the queries under a scope, the JavaScript and what the
command line prints decide each on their own where a selector is searched and with which text. They
decide alike.
-/

namespace PageSelectors.Locator

open Outcome

structure Request (Element : Type) where
  context : Option Element
  text : String
  grammar : Grammar

variable {m : Type → Type} [Monad m] {Element : Type}

namespace Engine

def answer (engine : Engine m Element) (request : Request Element) :
    m (Except Fault (List Element)) :=
  (engine.findAll request.context request.text request.grammar).run

def recorded (engine : Engine m Element) :
    Engine (StateT (List (Request Element)) m) Element where
  findAll context text grammar := ExceptT.mk fun requests => do
    let request := ⟨context, text, grammar⟩
    return (← engine.answer request, requests ++ [request])

end Engine

def single (text : String) (found : List Element) : Except Fault Element :=
  match found with
  | [element] => .ok element
  | elements => .error (.locate text (
      if elements.isEmpty then "no element matched"
      else toString elements.length ++ " elements matched, expected exactly one"))

section Searches

variable [LawfulMonad m] {engine : Engine m Element} {context : Option Element}
variable {selector : Selector} {settings : Settings} {query : Query} {text : String}

def request (context : Option Element) (query : Query) : Request Element where
  context := (scope context query).1
  text := (scope context query).2
  grammar := query.grammar

end Searches

/-- How the request that is made for a selector with the given text fits in with all else that is
made of its query. -/
structure Fits (settings : Settings) (context : Option Element) (selector : Selector)
    (text : String) (query : Query) (request : Request Element) : Prop where
  grammar : request.grammar = selector.grammar
  place : request.context = if selector.isAbsolute then none else context
  /-- A lead stands before a relative XPath selector under a context, if leads are wanted. -/
  wording : request.text =
    if selector.grammar = .xpath ∧ selector.isAbsolute = false ∧ context.isSome ∧
        settings.leadRelative then settings.lead ++ text
    else text
  /-- Without a context the text is what is read in the JavaScript for the whole document. -/
  whole : context = none →
    request.text = query.text ∧ ∀ wanted,
      (Query.Frame.call wanted selector.grammar "document").Carries request.text
        (query.script wanted)
  /-- With a context the text is what is read in the JavaScript under any scope. -/
  under : context.isSome →
    request.text = query.scopedText ∧ ∀ wanted root,
      (Query.Frame.call wanted selector.grammar
          (if selector.isAbsolute then "document" else root)).Carries request.text
        (query.scopedScript wanted root)
  /-- With a context the text is also in the JSON that the command line writes of each entry of a
  catalog with this selector, whether all entries are asked for or this one. -/
  printed : context.isSome → ∀ {command : Command.Settings} {colors : Bool} {path : String}
    {content : Except FileFault String} {format : Option Command.OutputFormat}
    {catalog : Catalog} {entry : Catalog.Entry} {name : Option String},
    command.locator = settings → format.getD command.format = .json →
    Catalog.load path content = .ok catalog → entry ∈ catalog.entries →
    entry.selector = selector → (name = none ∨ name = some entry.name) →
      ∃ documents, ∃ document ∈ documents,
        Command.compile command colors path content name format =
          .ok ((Json.Value.array documents).pretty ++ "\n") ∧
        document.member? "name" = some (.string entry.name) ∧
          document.member? "scoped_text" = some (.string request.text)

section Fitting

variable {selector : Selector} {settings : Settings} {query : Query} {text : String}
variable {context : Option Element}

end Fitting

end PageSelectors.Locator
