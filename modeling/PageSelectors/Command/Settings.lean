import PageSelectors.Locator.Document

/-!
Settings of the command line: how much is said, in which colours and in which form, and the settings
of the search. They are kept in a file in YAML; what the file does not say has its standard value.
-/

namespace PageSelectors.Command

inductive Verbosity where
  | quiet
  | normal
  | verbose
  | debug
  deriving DecidableEq, Repr

inductive ColorChoice where
  | always
  | auto
  | never
  deriving DecidableEq, Repr

inductive OutputFormat where
  | text
  | json
  deriving DecidableEq, Repr

namespace Verbosity

def name : Verbosity → String
  | quiet => "quiet"
  | normal => "normal"
  | verbose => "verbose"
  | debug => "debug"

def words : List (String × Verbosity) :=
  [quiet, normal, verbose, debug].map fun verbosity => (verbosity.name, verbosity)

def ofFlags (quiet : Bool) (count : Nat) : Verbosity :=
  if quiet then .quiet
  else match count with
    | 0 => normal
    | 1 => verbose
    | _ => debug

def isVerbose : Verbosity → Bool
  | verbose | debug => true
  | quiet | normal => false

def logLevel : Verbosity → String
  | quiet => "error"
  | normal => "warn"
  | verbose => "info"
  | debug => "debug"

end Verbosity

namespace ColorChoice

def name : ColorChoice → String
  | always => "always"
  | auto => "auto"
  | never => "never"

def words : List (String × ColorChoice) :=
  [always, auto, never].map fun choice => (choice.name, choice)

def colors (choice : ColorChoice) (terminal : Bool) : Bool :=
  match choice with
  | always => true
  | auto => terminal
  | never => false

end ColorChoice

namespace OutputFormat

def name : OutputFormat → String
  | text => "text"
  | json => "json"

def words : List (String × OutputFormat) :=
  [text, json].map fun format => (format.name, format)

end OutputFormat

structure Settings where
  verbosity : Verbosity
  color : ColorChoice
  format : OutputFormat
  locator : Locator.Settings
  deriving DecidableEq, Repr

namespace Settings

def standard : Settings where
  verbosity := .normal
  color := .auto
  format := .text
  locator := .standard

def read {Node : Type} (source : Source Node) (node : Node) : Reading Settings := do
  let fields ← source.fields ["verbosity", "color", "format", "locator"] false node
  let verbosity ←
    Source.defaulted fields "verbosity" standard.verbosity (source.word Verbosity.words)
  let color ← Source.defaulted fields "color" standard.color (source.word ColorChoice.words)
  let format ← Source.defaulted fields "format" standard.format (source.word OutputFormat.words)
  let locator ← Source.defaulted fields "locator" standard.locator (Locator.Settings.read source)
  return ⟨verbosity, color, format, locator⟩

def ofYaml? (text : String) : Option Settings :=
  Yaml.read? Yaml.taggedSource read text

def toYaml (settings : Settings) : String :=
  Yaml.Outline.print
    [("verbosity", .text settings.verbosity.name), ("color", .text settings.color.name),
      ("format", .text settings.format.name), ("locator", .record settings.locator.outline)]

end Settings

end PageSelectors.Command
