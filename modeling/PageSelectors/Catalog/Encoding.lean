import PageSelectors.Catalog.Words
import PageSelectors.Json.Value

/-!
Catalog files as document trees. A choice that carries something is an object with its word as the
only name, one that carries nothing is its word alone; every field is written, also where it has its
default.
-/

namespace PageSelectors

open Json (Value)

namespace Catalog

def encodeIndexed : String × Option Nat → Value
  | (word, some index) => .ofMembers [(word, .natural index)]
  | (word, none) => .string word

namespace ConditionDefinition

def encode : ConditionDefinition → Value
  | .tag name => .ofMembers [("tag", .string name)]
  | .id value => .ofMembers [("id", .string value)]
  | .attribute name op value =>
      .ofMembers
        [("attribute", .ofMembers
          [("name", .string name), ("op", .string op.word), ("value", .string value)])]
  | .classes names => .ofMembers [("classes", .array (names.map .string))]
  | .text op value =>
      .ofMembers [("text", .ofMembers [("op", .string op.word), ("value", .string value)])]
  | .place which => .ofMembers [("index", encodeIndexed which.word)]
  | .pseudo which => .ofMembers [("pseudo", encodeIndexed which.word)]
  | .boundary entry => .ofMembers [("boundary", .string entry)]
  | .not condition => .ofMembers [("not", condition.encode)]

end ConditionDefinition

def StepDefinition.encode (step : StepDefinition) : Value :=
  .ofMembers
    [("axis", .string step.kind.word), ("tag", .ofText? step.tag),
      ("where", .array (step.conditions.map ConditionDefinition.encode)),
      ("boundary", .ofText? step.boundary)]

def Definition.encode (definition : Definition) : Value :=
  .ofMembers
    [("grammar", .string definition.grammar.name),
      ("description", .ofText? definition.description), ("raw", .ofText? definition.raw),
      ("steps", .array (definition.steps.map StepDefinition.encode))]

def File.encode (file : File) : Value :=
  .ofMembers
    [("selectors", .ofMembers
      (file.selectors.entries.map fun (name, definition) => (name, definition.encode)))]

end Catalog

end PageSelectors
