import PageSelectors.Json.Printer
import PageSelectors.Json.Reader
import PageSelectors.Json.Source
import PageSelectors.Locator.Settings
import PageSelectors.Selector

/-!
Compiled selectors. A query knows its text, its grammar and whether it searches the whole page; it
is turned into JavaScript that runs it, and it is stored as JSON. The lead is not stored, so a query
that is read back has the default one.
-/

namespace PageSelectors

structure Query where
  text : String
  grammar : Grammar
  absolute : Bool
  /-- What stands before the text of a relative XPath query under a context element. -/
  lead : String
  deriving DecidableEq, Repr

namespace Query

def compileWith (settings : Locator.Settings) (selector : Selector) : Except Fault Query := do
  let text ← selector.render
  return ⟨text, selector.grammar, selector.isAbsolute, settings.effectiveLead⟩

def compile (selector : Selector) : Except Fault Query :=
  compileWith .standard selector

def scopedText (query : Query) : String :=
  if query.grammar = .xpath ∧ query.absolute = false then query.lead ++ query.text
  else query.text

def firstMatch (grammar : Grammar) (text scope : String) : String :=
  match grammar with
  | .css => scope ++ ".querySelector(" ++ Json.quote text ++ ")"
  | .xpath =>
      "document.evaluate(" ++ Json.quote text ++ ", " ++ scope ++
        ", null, XPathResult.FIRST_ORDERED_NODE_TYPE, null).singleNodeValue"

def matchCount (grammar : Grammar) (text scope : String) : String :=
  match grammar with
  | .css => scope ++ ".querySelectorAll(" ++ Json.quote text ++ ").length"
  | .xpath =>
      "document.evaluate(" ++ Json.quote text ++ ", " ++ scope ++
        ", null, XPathResult.ORDERED_NODE_SNAPSHOT_TYPE, null).snapshotLength"

def javascript (query : Query) : String :=
  firstMatch query.grammar query.text "document"

def countJavascript (query : Query) : String :=
  matchCount query.grammar query.text "document"

def scopedJavascript (query : Query) (scope : String) : String :=
  if query.absolute then query.javascript
  else firstMatch query.grammar query.scopedText scope

def scopedCountJavascript (query : Query) (scope : String) : String :=
  if query.absolute then query.countJavascript
  else matchCount query.grammar query.scopedText scope

def encode (query : Query) : Json.Value :=
  .ofMembers
    [("text", .string query.text), ("grammar", .string query.grammar.name),
      ("absolute", .bool query.absolute)]

def read {Node : Type} (source : Source Node) (node : Node) : Reading Query := do
  let fields ← source.fields ["text", "grammar", "absolute"] false node
  let text ← Source.required fields "text" source.text
  let grammar ← Source.required fields "grammar" (source.word Grammar.words)
  let absolute ← Source.required fields "absolute" source.flag
  return ⟨text, grammar, absolute, Locator.defaultLead⟩

def decode? (value : Json.Value) : Option Query :=
  value.readWithin? Json.depthLimit (read Json.source)

def ofJson (text : String) : Except Fault Query :=
  match Json.Value.parse? text >>= decode? with
  | some query => .ok query
  | none => .error (.malformed .json)

end Query

end PageSelectors
