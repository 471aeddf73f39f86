import PageSelectors.Catalog.Basic
import PageSelectors.Catalog.Decoding
import PageSelectors.Document.File
import PageSelectors.Yaml.Source

/-!
Catalogs from texts and files, in either format.
-/

namespace PageSelectors.Catalog

def negationLimit : Nat := 128

def File.ofText? (format : Format) (text : String) : Option File :=
  match format with
  | .json => do
      let value ← Json.Value.parse? text
      value.readWithin? Json.depthLimit (readCatalog Json.source negationLimit)
  | .yaml => Yaml.read? Yaml.source (readCatalog · negationLimit) text

def File.ofText (format : Format) (text : String) : Except Fault File :=
  match File.ofText? format text with
  | some file => .ok file
  | none => .error (.malformed format)

def ofText (format : Format) (text : String) : Except Fault Catalog := do
  ofFile (← File.ofText format text)

def load (path : String) (content : Except FileFault String) : Except Fault Catalog := do
  ofText (.ofPath path) (← content.mapError .unreadable)

end PageSelectors.Catalog
