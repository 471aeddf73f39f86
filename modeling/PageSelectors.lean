import PageSelectors.Main
import PageSelectors.Proofs.Agreement
import PageSelectors.Proofs.Catalog.Progress
import PageSelectors.Proofs.Catalog.References
import PageSelectors.Proofs.Catalog.Renaming
import PageSelectors.Proofs.Catalog.RoundTrip
import PageSelectors.Proofs.Command.Agreement
import PageSelectors.Proofs.Css.Strings
import PageSelectors.Proofs.Distinction
import PageSelectors.Proofs.FaultOrder
import PageSelectors.Proofs.Fragments
import PageSelectors.Proofs.Graph.Calls
import PageSelectors.Proofs.Locator.Routes
import PageSelectors.Proofs.Naming
import PageSelectors.Proofs.Replacement
import PageSelectors.Proofs.Slots
import PageSelectors.Proofs.StoredQueries
import PageSelectors.Proofs.XPath.Boundaries
import PageSelectors.Proofs.XPath.Negation
import PageSelectors.Proofs.XPath.Pieces
import PageSelectors.Proofs.XPath.Strings
