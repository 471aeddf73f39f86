/-!
Settings of the search for elements: what is put before a relative XPath query that is searched
under an element, and whether it is put there at all.
-/

namespace PageSelectors.Locator

structure Settings where
  lead : String
  leadRelative : Bool
  logQueries : Bool
  deriving DecidableEq, Repr

def defaultLead : String := "."

namespace Settings

def standard : Settings where
  lead := defaultLead
  leadRelative := true
  logQueries := false

def effectiveLead (settings : Settings) : String :=
  if settings.leadRelative then settings.lead else ""

end Settings

end PageSelectors.Locator
