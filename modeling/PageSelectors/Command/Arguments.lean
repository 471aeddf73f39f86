import PageSelectors.Command.Invocation

/-!
Command lines. Options may stand before the name of the task, after it, or in both places, and then
the later place wins. At one place every option may be given once, but the one for more output may
be repeated. The value of an option is examined when the next option comes or the place ends, unless
it is attached to the option.
-/

namespace PageSelectors.Command

inductive TaskName where
  | compile
  | check
  | config
  deriving DecidableEq, Repr

namespace TaskName

def name : TaskName → String
  | compile => "compile"
  | check => "check"
  | config => "config"

def words : List (String × TaskName) :=
  [compile, check, config].map fun task => (task.name, task)

def needsCatalog : TaskName → Bool
  | compile | check => true
  | config => false

end TaskName

inductive Refusal where
  | badValue
  | unknownOption
  | unknownTask
  | noCatalog
  | noTask
  | nothing
  | repeated
  | needlessValue
  deriving DecidableEq, Repr

inductive Stop where
  | help
  /-- The version is asked for, with the task whose version it is. -/
  | version (task : Option TaskName)
  | refused (refusal : Refusal)
  deriving DecidableEq, Repr

inductive Parameter where
  | verbose
  | quiet
  | color
  | config
  | help
  | version
  | catalog
  | name
  | format
  | defaults
  deriving DecidableEq, Repr

namespace Parameter

def takesValue : Parameter → Bool
  | color | config | catalog | name | format => true
  | verbose | quiet | help | version | defaults => false

def commonWords : List (String × Parameter) :=
  [("verbose", verbose), ("quiet", quiet), ("color", color), ("config", config), ("help", help),
    ("version", version)]

def words : Option TaskName → List (String × Parameter)
  | some .compile => ("name", name) :: ("format", format) :: commonWords
  | some .config => ("defaults", defaults) :: commonWords
  | some .check | none => commonWords

def commonLetters : List (Char × Parameter) :=
  [('v', verbose), ('q', quiet), ('h', help), ('V', version)]

def letters : Option TaskName → List (Char × Parameter)
  | some .compile => ('n', name) :: ('f', format) :: commonLetters
  | some .check | some .config | none => commonLetters

end Parameter

structure Options where
  verbose : Nat
  quiet : Bool
  color : Option ColorChoice
  config : Option String
  catalog : Option String
  name : Option String
  format : Option OutputFormat
  defaults : Bool
  deriving DecidableEq, Repr

namespace Options

def none : Options :=
  ⟨0, false, .none, .none, .none, .none, .none, false⟩

def fill {α : Type} (given : Option α) (value? : Option α) : Except Stop (Option α) :=
  match given, value? with
  | some _, _ => .error (.refused .repeated)
  | .none, some value => .ok (some value)
  | .none, .none => .error (.refused .badValue)

def path? (text : String) : Option String :=
  if text.isEmpty then .none else some text

def set (parameter : Parameter) (value : String) (options : Options) : Except Stop Options := do
  match parameter with
  | .color =>
      return { options with color := ← fill options.color (ColorChoice.words.lookup value) }
  | .config => return { options with config := ← fill options.config (path? value) }
  | .catalog => return { options with catalog := ← fill options.catalog (path? value) }
  | .name => return { options with name := ← fill options.name (some value) }
  | .format =>
      return { options with format := ← fill options.format (OutputFormat.words.lookup value) }
  | .verbose | .quiet | .help | .version | .defaults => throw (.refused .needlessValue)

def raise (task : Option TaskName) (parameter : Parameter) (options : Options) :
    Except Stop Options := do
  match parameter with
  | .verbose => return { options with verbose := options.verbose + 1 }
  | .quiet =>
      if options.quiet then throw (.refused .repeated)
      else return { options with quiet := true }
  | .defaults =>
      if options.defaults then throw (.refused .repeated)
      else return { options with defaults := true }
  | .help => throw .help
  | .version => throw (.version task)
  | .color | .config | .catalog | .name | .format => throw (.refused .badValue)

end Options

/-- The options of one place, and a parameter that is still to be settled, with its value if that has
come. -/
structure Place where
  options : Options
  pending : Option (Parameter × Option String)

namespace Place

def start : Place :=
  ⟨.none, none⟩

def awaitsValue (place : Place) : Bool :=
  match place.pending with
  | some (_, none) => true
  | _ => false

def settle (place : Place) : Except Stop Place :=
  match place.pending with
  | none => .ok place
  | some (_, none) => .error (.refused .badValue)
  | some (parameter, some value) => do return ⟨← place.options.set parameter value, none⟩

def attach (parameter : Parameter) (value : String) (place : Place) : Except Stop Place := do
  let place ← place.settle
  return { place with options := ← place.options.set parameter value }

def raise (task : Option TaskName) (parameter : Parameter) (place : Place) :
    Except Stop Place := do
  let place ← place.settle
  return { place with options := ← place.options.raise task parameter }

def await (parameter : Parameter) (place : Place) : Except Stop Place := do
  let place ← place.settle
  return { place with pending := some (parameter, none) }

def readWord (task : Option TaskName) (word : String) (value? : Option String) (place : Place) :
    Except Stop Place :=
  match (Parameter.words task).lookup word with
  | none => .error (.refused .unknownOption)
  | some parameter =>
      match parameter.takesValue, value? with
      | true, some value => place.attach parameter value
      | true, none => place.await parameter
      | false, some _ => .error (.refused .needlessValue)
      | false, none => place.raise task parameter

/-- Options that are written as letters. What follows the letter of an option with a value is its
value, perhaps after an equals sign. -/
def readLetters (task : Option TaskName) (place : Place) : List Char → Except Stop Place
  | [] => .ok place
  | letter :: rest =>
      match (Parameter.letters task).lookup letter with
      | none => .error (.refused .unknownOption)
      | some parameter =>
          if parameter.takesValue then
            match rest with
            | [] => place.await parameter
            | '=' :: value => place.attach parameter (String.ofList value)
            | value => place.attach parameter (String.ofList value)
          else do (← place.raise task parameter).readLetters task rest

def hasCatalog (place : Place) : Bool :=
  place.options.catalog.isSome || place.pending.any (·.1 == .catalog)

def isTaskWord (word : String) : Bool :=
  word == "help" || (TaskName.words.lookup word).isSome

def readOperand (task : Option TaskName) (word : String) (onlyOperands : Bool) (place : Place) :
    Except Stop Place :=
  match task with
  | some task => do
      if task.needsCatalog && !place.hasCatalog then
        let place ← place.settle
        return { place with pending := some (.catalog, some word) }
      else throw (.refused .unknownOption)
  | none =>
      .error (.refused (if onlyOperands && isTaskWord word then .unknownOption else .unknownTask))

def readArgument (task : Option TaskName) (word : String) (place : Place) : Except Stop Place :=
  match word.toList with
  | '-' :: '-' :: option =>
      let name := String.ofList (option.takeWhile (· ≠ '='))
      match option.dropWhile (· ≠ '=') with
      | _ :: value => place.readWord task name (some (String.ofList value))
      | [] => place.readWord task name none
  | '-' :: letter :: letters => place.readLetters task (letter :: letters)
  | _ =>
      match place.pending with
      | some (parameter, none) => .ok { place with pending := some (parameter, some word) }
      | _ => place.readOperand task word false

/-- Read the arguments of a task. After two hyphens alone all words are operands. -/
def readTask (task : TaskName) (onlyOperands : Bool) (place : Place) :
    List String → Except Stop Place
  | [] => .ok place
  | word :: rest => do
      if onlyOperands then
        (← place.readOperand (some task) word true).readTask task true rest
      else if word == "--" then place.readTask task true rest
      else (← place.readArgument (some task) word).readTask task false rest

def readHelp : List String → Stop
  | [] => .help
  | [word] => if isTaskWord word then .help else .refused .unknownTask
  | _ => .refused .unknownTask

def readFront (onlyOperands : Bool) (place : Place) :
    List String → Except Stop (Place × Option (TaskName × List String))
  | [] => .ok (place, none)
  | word :: rest => do
      if onlyOperands then
        (← place.readOperand none word true).readFront true rest
      else if word == "help" && !place.awaitsValue then throw (readHelp rest)
      else
        match if place.awaitsValue then none else TaskName.words.lookup word with
        | some task => return (place, some (task, rest))
        | none =>
            if word == "--" then place.readFront true rest
            else (← place.readArgument none word).readFront false rest

/-- The options at the end of a place. Where they name no settings file, the one that the environment
names must have a name. -/
def finish (environment : Option String) (place : Place) : Except Stop Options := do
  let options := (← place.settle).options
  if options.config.isNone && environment == some "" then throw (.refused .badValue)
  return options

end Place

def Invocation.ofArguments (environment : Option String) (arguments : List String) :
    Except Stop Invocation := do
  let (front, task?) ← Place.start.readFront false arguments
  match task? with
  | none =>
      let options ← front.finish environment
      let silent := options == .none && environment.isNone
      throw (.refused (if silent then .nothing else .noTask))
  | some (name, rest) =>
      let place ← Place.start.readTask name false rest
      let inner ← place.finish environment
      let task ← match name, inner.catalog with
        | .compile, some catalog => pure (Task.compile catalog inner.name inner.format)
        | .check, some catalog => pure (Task.check catalog)
        | .config, _ => pure (Task.config inner.defaults)
        | _, none => throw (.refused .noCatalog)
      let outer ← front.finish environment
      return {
        verbose := if inner.verbose > 0 then inner.verbose else outer.verbose
        quiet := inner.quiet || outer.quiet
        color := inner.color <|> outer.color
        config := inner.config <|> outer.config <|> environment
        task := task }

def versionText (task : Option TaskName) : String :=
  let program := match task with
    | some task => "locus-" ++ task.name
    | none => "locus"
  program ++ " 0.4.0\n"

end PageSelectors.Command
