import PageSelectors.Document.File
import PageSelectors.Locator.Settings
import PageSelectors.Yaml.Printer
import PageSelectors.Yaml.Source

/-!
Settings of the search as documents. What a document does not say keeps its standard value, and
fields that are no settings are passed over.
-/

namespace PageSelectors.Locator.Settings

def read {Node : Type} (source : Source Node) (node : Node) : Reading Settings := do
  let fields ←
    source.fields ["xpath_context_prefix", "prefix_relative_xpath", "log_queries"] false node
  let lead ← Source.defaulted fields "xpath_context_prefix" standard.lead source.text
  let leadRelative ←
    Source.defaulted fields "prefix_relative_xpath" standard.leadRelative source.flag
  let logQueries ← Source.defaulted fields "log_queries" standard.logQueries source.flag
  return ⟨lead, leadRelative, logQueries⟩

def outline (settings : Settings) : List (String × Yaml.Outline) :=
  [("xpath_context_prefix", .text settings.lead),
    ("prefix_relative_xpath", .flag settings.leadRelative),
    ("log_queries", .flag settings.logQueries)]

def ofYaml (text : String) : Except Fault Settings :=
  match Yaml.read? Yaml.taggedSource read text with
  | some settings => .ok settings
  | none => .error (.malformed .yaml)

def toYaml (settings : Settings) : String :=
  Yaml.Outline.print settings.outline

def load (content : Except FileFault String) : Except Fault Settings := do
  ofYaml (← content.mapError .unreadable)

end PageSelectors.Locator.Settings
