import PageSelectors.Catalog.Words

/-!
Catalog files out of documents. Definitions and steps take no other fields than their own; in a file
and in a condition other fields are passed over. Where entries share a name the last one counts.
-/

namespace PageSelectors

namespace Catalog

variable {Node : Type}

def readIndexed {α : Type} (source : Source Node) (indexed : List (String × (Nat → α)))
    (plain : List (String × α)) (node : Node) : Reading α := do
  let (word, payload) ← source.choice node
  match indexed.lookup word, payload with
  | some make, some node => return make (← source.index node)
  | some _, none => unreadable
  | none, payload =>
    match plain.lookup word with
    | some value => source.bare payload; return value
    | none => unreadable

def readEach {α : Type} (read : Node → Reading α) : List Node → Reading (List α)
  | [] => return []
  | node :: rest => do
      let value ← read node
      return value :: (← readEach read rest)

def readAttribute (source : Source Node) (node : Node) : Reading ConditionDefinition := do
  let fields ← source.fields ["name", "op", "value"] false node
  let name ← Source.required fields "name" source.text
  let op ← Source.defaulted fields "op" (.compare .is) (source.word AttributeOp.words)
  let value ← Source.defaulted fields "value" "" source.text
  return .attribute name op value

def readText (source : Source Node) (node : Node) : Reading ConditionDefinition := do
  let fields ← source.fields ["op", "value"] false node
  let op ← Source.defaulted fields "op" .is (source.word TextOp.words)
  let value ← Source.required fields "value" source.text
  return .text op value

def readCondition (source : Source Node) : Nat → Node → Reading ConditionDefinition
  | 0, _ => unreadable
  | fuel + 1, node => do
      match ← source.choice node with
      | ("tag", some node) => return .tag (← source.text node)
      | ("id", some node) => return .id (← source.text node)
      | ("attribute", some node) => readAttribute source node
      | ("classes", some node) =>
          return .classes (← readEach source.text (← source.items node))
      | ("text", some node) => readText source node
      | ("index", some node) =>
          return .place (← readIndexed source XPath.Place.indexed XPath.Place.plain node)
      | ("pseudo", some node) =>
          return .pseudo (← readIndexed source Css.Pseudo.indexed Css.Pseudo.plain node)
      | ("boundary", some node) => return .boundary (← source.text node)
      | ("not", some node) => return .not (← readCondition source fuel node)
      | _ => unreadable

def readStep (source : Source Node) (fuel : Nat) (node : Node) : Reading StepDefinition := do
  let fields ← source.fields ["axis", "tag", "where", "boundary"] true node
  let kind ← Source.required fields "axis" (source.word StepKind.words)
  let tag ← Source.defaulted fields "tag" none source.text?
  let conditions ← Source.defaulted fields "where" [] fun node => do
    readEach (readCondition source fuel) (← source.items node)
  let boundary ← Source.defaulted fields "boundary" none source.text?
  return ⟨kind, tag, conditions, boundary⟩

def readDefinition (source : Source Node) (fuel : Nat) (node : Node) : Reading Definition := do
  let fields ← source.fields ["grammar", "description", "raw", "steps"] true node
  let grammar ← Source.required fields "grammar" (source.word Grammar.words)
  let description ← Source.defaulted fields "description" none source.text?
  let raw ← Source.defaulted fields "raw" none source.text?
  let steps ← Source.defaulted fields "steps" [] fun node => do
    readEach (readStep source fuel) (← source.items node)
  return ⟨grammar, description, raw, steps⟩

def readMembers (source : Source Node) (fuel : Nat) :
    List (String × Node) → Reading (List (String × Definition))
  | [] => return []
  | (name, node) :: rest => do
      let definition ← readDefinition source fuel node
      return (name, definition) :: (← readMembers source fuel rest)

def readCatalog (source : Source Node) (fuel : Nat) (node : Node) : Reading File := do
  let fields ← source.fields ["selectors"] false node
  let selectors ← Source.defaulted fields "selectors" .empty fun node => do
    return .ofList (← readMembers source fuel (← source.members node))
  return ⟨selectors⟩

end Catalog

end PageSelectors
