import PageSelectors.Catalog.Loading
import PageSelectors.Command.Arguments
import PageSelectors.Command.Fault
import PageSelectors.Command.Settings

/-!
The tasks of the command line and their output. Files are read by what the caller provides, so that
all else is a function of their content.
-/

namespace PageSelectors.Command

def styled (colors : Bool) (code text : String) : String :=
  if colors then "\x1b[" ++ code ++ "m" ++ text ++ "\x1b[0m" else text

def entryLines (settings : Settings) (colors : Bool) (entry : Catalog.Entry) : String :=
  let reach := if entry.query.absolute then "absolute" else "relative"
  let title := styled colors "1" entry.name ++ " (" ++ entry.query.grammar.name ++ ", " ++ reach ++
    ")\n"
  let description :=
    match entry.description with
    | some text => if settings.verbosity.isVerbose then "  # " ++ text ++ "\n" else ""
    | none => ""
  title ++ description ++ "  " ++ entry.query.text ++ "\n"

def entryDocument (settings : Settings) (entry : Catalog.Entry) :
    Except PageSelectors.Fault Json.Value := do
  let query ← Query.compileWith settings.locator entry.selector
  let description := entry.description.map fun text => ("description", Json.Value.string text)
  return .ofMembers
    (("name", .string entry.name) :: description.toList ++
      [("text", .string entry.query.text), ("grammar", .string entry.selector.grammar.name),
        ("absolute", .bool entry.query.absolute), ("scoped_text", .string query.scopedText)])

def chooseEntries (catalog : Catalog) (name : Option String) :
    Except Fault (List Catalog.Entry) :=
  match name with
  | none => .ok catalog.entries
  | some name =>
      match catalog.get? name with
      | some entry => .ok [entry]
      | none => .error (.noEntry name catalog.names)

def writeEntries (settings : Settings) (colors : Bool) (format : OutputFormat)
    (entries : List Catalog.Entry) : Except PageSelectors.Fault String :=
  match format with
  | .text => .ok (String.join (entries.map (entryLines settings colors)))
  | .json => do
      let documents ← entries.mapM (entryDocument settings)
      return (Json.Value.array documents).pretty ++ "\n"

def compile (settings : Settings) (colors : Bool) (path : String)
    (content : Except FileFault String) (name : Option String) (format : Option OutputFormat) :
    Except Fault String := do
  let catalog ← (Catalog.load path content).mapError .catalog
  let entries ← chooseEntries catalog name
  (writeEntries settings colors (format.getD settings.format) entries).mapError .catalog

def check (settings : Settings) (colors : Bool) (path : String)
    (content : Except FileFault String) : Except Fault String := do
  let catalog ← (Catalog.load path content).mapError .catalog
  if settings.verbosity = .quiet then return ""
  let count := toString catalog.entries.length
  let names :=
    if settings.verbosity.isVerbose then catalog.names.map fun name => "  " ++ name ++ "\n" else []
  return styled colors "32" "✓" ++ " " ++ path ++ ": " ++ count ++ " selector(s) compiled\n" ++
    String.join names

variable {m : Type → Type} [Monad m] (readText : String → m (Except FileFault String))

def loadSettings (config : Option String) : m (Except Fault Settings) := do
  match config with
  | none => return .ok .standard
  | some path =>
      match ← readText path with
      | .error file => return .error (.unreadableSettings path file)
      | .ok text =>
          match Settings.ofYaml? text with
          | some settings => return .ok settings
          | none => return .error (.malformedSettings path)

def effectiveSettings (invocation : Invocation) : m (Except Fault Settings) := do
  return (← loadSettings readText invocation.config).map invocation.refine

def execute (settings : Settings) (terminal : Bool) (task : Task) :
    m (Except Fault String) := do
  let colors := settings.color.colors terminal
  match task with
  | .compile path name format =>
      return compile settings colors path (← readText path) name format
  | .check path => return check settings colors path (← readText path)
  | .config standard => return .ok (if standard then Settings.standard else settings).toYaml

end PageSelectors.Command
