import PageSelectors.Catalog.Builder
import PageSelectors.Query

/-!
Catalogs: named selectors, all of them built and compiled. A file makes a catalog only if every one
of its entries compiles; otherwise the fault of the first bad entry is reported.
-/

namespace PageSelectors

structure Catalog.Entry where
  name : String
  description : Option String
  selector : Selector
  query : Query

structure Catalog where
  entries : List Catalog.Entry

namespace Catalog

def empty : Catalog :=
  ⟨[]⟩

def compileEntry (definitions : Table Definition) (name : String) (definition : Definition) :
    Building Entry := do
  let selector ← buildEntry definitions definitions.entries.length name
  let query ← settle ((Query.compile selector).mapError (Fault.within name))
  return ⟨name, definition.description, selector, query⟩

def compileEntries (definitions : Table Definition) :
    List (String × Definition) → Building (List Entry)
  | [] => return []
  | (name, definition) :: rest => do
      let entry ← compileEntry definitions name definition
      return entry :: (← compileEntries definitions rest)

def ofFile (file : File) : Except Fault Catalog := do
  let definitions := file.selectors
  let entries ← ((compileEntries definitions definitions.entries).run Workshop.empty).1
  return ⟨entries⟩

def get? (catalog : Catalog) (name : String) : Option Entry :=
  catalog.entries.find? (·.name == name)

def require (catalog : Catalog) (name : String) : Except Fault Entry :=
  match catalog.get? name with
  | some entry => .ok entry
  | none => .error (.catalog name .absent)

def names (catalog : Catalog) : List String :=
  catalog.entries.map (·.name)

end Catalog

end PageSelectors
