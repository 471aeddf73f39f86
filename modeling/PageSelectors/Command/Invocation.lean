import PageSelectors.Command.Settings

/-!
What a command line asks for, once it has been understood.
-/

namespace PageSelectors.Command

inductive Task where
  | compile (catalog : String) (name : Option String) (format : Option OutputFormat)
  | check (catalog : String)
  | config (standard : Bool)
  deriving DecidableEq, Repr

structure Invocation where
  verbose : Nat
  quiet : Bool
  color : Option ColorChoice
  config : Option String
  task : Task
  deriving DecidableEq, Repr

/-- The settings with what the command line says about output. Silence or more output is a matter of
the command line as soon as it speaks of it. -/
def Invocation.refine (invocation : Invocation) (settings : Settings) : Settings :=
  { settings with
    verbosity :=
      if invocation.quiet || invocation.verbose > 0 then
        .ofFlags invocation.quiet invocation.verbose
      else settings.verbosity
    color := invocation.color.getD settings.color }

end PageSelectors.Command
