import PageSelectors.Fault

/-!
What can go wrong while a command runs, and its wording.
-/

namespace PageSelectors.Command

inductive Fault where
  | unreadableSettings (path : String) (file : FileFault)
  | malformedSettings (path : String)
  | noEntry (name : String) (available : List String)
  | catalog (fault : PageSelectors.Fault)
  deriving DecidableEq, Repr

def Fault.message : Fault → String
  | unreadableSettings path file =>
      "Configuration error: cannot read " ++ path ++ ": " ++ file.message
  | malformedSettings path => "Configuration error: invalid config " ++ path
  | noEntry name available =>
      "Invalid argument: no selector named '" ++ name ++ "' (available: " ++
        String.intercalate ", " available ++ ")"
  | catalog fault => fault.message

end PageSelectors.Command
