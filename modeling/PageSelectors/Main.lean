import PageSelectors.Command.Run

/-!
The command line program. It reads files, carries out what its arguments ask for and prints the
output; a command line that is refused ends it with status 2, a fault with status 1.
-/

namespace PageSelectors.Command

def readFileText (path : String) : IO (Except FileFault String) := do
  try
    return FileFault.decode (← IO.FS.readBinFile path)
  catch _ => return .error .missing

def usageText : String :=
  "usage: locus [options] compile|check|config ..."

def Refusal.message : Refusal → String
  | badValue => "an option has no value, or one that is not possible"
  | unknownOption => "unexpected argument"
  | unknownTask => "unknown subcommand"
  | noCatalog => "the catalog is missing"
  | noTask => "the subcommand is missing"
  | nothing => usageText
  | repeated => "an option is given twice"
  | needlessValue => "a flag takes no value"

def Stop.print : Stop → IO UInt32
  | help => do
      IO.println usageText
      return 0
  | version task => do
      IO.print (versionText task)
      return 0
  | refused refusal => do
      IO.eprintln ("error: " ++ refusal.message)
      return 2

def run (invocation : Invocation) : IO (Except Fault String) := do
  match ← effectiveSettings readFileText invocation with
  | .error fault => return .error fault
  | .ok settings =>
      let terminal ← (← IO.getStdout).isTty
      execute readFileText settings terminal invocation.task

end PageSelectors.Command

open PageSelectors.Command in
def main (arguments : List String) : IO UInt32 := do
  match Invocation.ofArguments (← IO.getEnv "LOCUS_CONFIG") arguments with
  | .error stop => stop.print
  | .ok invocation =>
      match ← run invocation with
      | .ok output =>
          IO.print output
          return 0
      | .error fault =>
          IO.eprintln ("Error: " ++ fault.message)
          return 1
