import PageSelectors.Catalog.Loading
import PageSelectors.Proofs.Json.Trees
import PageSelectors.Proofs.Table
import PageSelectors.Proofs.Yaml.Writable

/-!
Catalog files that are written as trees and read back. Reading is the left inverse of writing, in
every format that keeps the laws of sources; the readers follow the words and the fields that the
writer puts down, so that each field comes back from the node that shows it.
-/

namespace PageSelectors.Catalog

open Json (Value)

def ConditionDefinition.InBounds : ConditionDefinition → Prop
  | .place which => ∀ index ∈ which.word.2, index < indexBound
  | .pseudo which => ∀ index ∈ which.word.2, index < indexBound
  | .not condition => condition.InBounds
  | _ => True

instance decidableInBounds : (condition : ConditionDefinition) → Decidable condition.InBounds
  | .place which => inferInstanceAs (Decidable (∀ index ∈ which.word.2, index < indexBound))
  | .pseudo which => inferInstanceAs (Decidable (∀ index ∈ which.word.2, index < indexBound))
  | .not condition => decidableInBounds condition
  | .tag _ | .id _ | .attribute .. | .classes _ | .text .. | .boundary _ =>
      inferInstanceAs (Decidable True)

def File.InBounds (file : File) : Prop :=
  ∀ listed ∈ file.selectors.entries, ∀ step ∈ listed.2.steps, ∀ condition ∈ step.conditions,
    condition.InBounds

instance (file : File) : Decidable file.InBounds :=
  inferInstanceAs (Decidable (∀ listed ∈ file.selectors.entries, ∀ step ∈ listed.2.steps,
    ∀ condition ∈ step.conditions, condition.InBounds))

def File.members (file : File) : List (String × Value) :=
  file.selectors.entries.map fun entry => (entry.1, entry.2.encode)

theorem File.encode_eq (file : File) :
    file.encode = .ofMembers [("selectors", .ofMembers file.members)] := rfl

/-- A condition is written as an object with one member. -/
theorem ConditionDefinition.exists_encode (condition : ConditionDefinition) :
    ∃ word payload, condition.encode = .ofMembers [(word, payload)] := by
  cases condition <;> exact ⟨_, _, rfl⟩

/-- What carries no index is written as its word. -/
theorem encodeIndexed_of_bare {word : String × Option Nat} (bare : word.2 = none) :
    encodeIndexed word = .string word.1 := by
  obtain ⟨word, _ | index⟩ := word
  · rfl
  · cases bare

theorem lookup_attributeOp (op : AttributeOp) : AttributeOp.words.lookup op.word = some op := by
  obtain _ | op := op
  · rfl
  · cases op <;> decide

theorem lookup_textOp (op : TextOp) : TextOp.words.lookup op.word = some op := by
  cases op <;> decide

theorem lookup_stepKind (kind : StepKind) : StepKind.words.lookup kind.word = some kind := by
  cases kind <;> decide

theorem lookup_grammar (grammar : Grammar) : Grammar.words.lookup grammar.name = some grammar := by
  cases grammar <;> decide

section Reading

variable {Node α : Type} {source : Source Node} {shows : Value → Node → Prop}

theorem readMembers_eq {entries : List (String × Definition)} {fuel : Nat}
    (reads : ∀ entry ∈ entries, ∀ node, shows entry.2.encode node →
      readDefinition source fuel node = pure entry.2)
    {nodes : List Node}
    (each : List.Forall₂ shows (entries.map (·.2.encode)) nodes) :
    readMembers source fuel ((entries.map (·.1)).zip nodes) = pure entries := by
  induction entries generalizing nodes with
  | nil => rfl
  | cons entry rest ih =>
      obtain _ | ⟨head, tail⟩ := each
      have definition := reads entry List.mem_cons_self _ head
      have others := ih (fun other member => reads other (List.mem_cons_of_mem _ member)) tail
      simp [readMembers, definition, others]

variable (lawful : source.Lawful shows) {node : Node}
include lawful

theorem readIndexed_eq {indexed : List (String × (Nat → α))} {plain : List (String × α)}
    {word : String × Option Nat} {value : α} (shown : shows (encodeIndexed word) node)
    (bounded : ∀ index ∈ word.2, index < indexBound)
    (listed : match word with
      | (word, some index) => (indexed.lookup word).map (· index) = some value
      | (word, none) => indexed.lookup word = none ∧ plain.lookup word = some value) :
    readIndexed source indexed plain node = pure value := by
  obtain ⟨word, _ | index⟩ := word
  · rw [readIndexed, lawful.word shown, pure_bind]
    simp [listed.1, listed.2, lawful.bare]
  · obtain ⟨payload, chosen, shown⟩ := lawful.choice shown
    obtain ⟨make, found, rfl⟩ := Option.map_eq_some_iff.1 listed
    rw [readIndexed, chosen, pure_bind]
    simp [found, lawful.index shown (bounded index rfl)]

theorem readPlace_eq {place : XPath.Place} (shown : shows (encodeIndexed place.word) node)
    (bounded : ∀ index ∈ place.word.2, index < indexBound) :
    readIndexed source XPath.Place.indexed XPath.Place.plain node = pure place := by
  refine readIndexed_eq lawful shown bounded ?_
  cases place <;> simp [XPath.Place.word, XPath.Place.indexed, XPath.Place.plain, List.lookup_cons]

theorem readPseudo_eq {pseudo : Css.Pseudo} (shown : shows (encodeIndexed pseudo.word) node)
    (bounded : ∀ index ∈ pseudo.word.2, index < indexBound) :
    readIndexed source Css.Pseudo.indexed Css.Pseudo.plain node = pure pseudo := by
  refine readIndexed_eq lawful shown bounded ?_
  cases pseudo <;> simp [Css.Pseudo.word, Css.Pseudo.indexed, Css.Pseudo.plain, List.lookup_cons]

theorem readAttribute_eq {name value : String} {op : AttributeOp}
    (shown : shows (.ofMembers
      [("name", .string name), ("op", .string op.word), ("value", .string value)]) node) :
    readAttribute source node = pure (.attribute name op value) := by
  obtain ⟨fields, read, each⟩ :=
    lawful.record ["name", "op", "value"] false shown rfl (by decide)
  rw [readAttribute, read, pure_bind,
    each.required (fun _ => lawful.text) rfl, pure_bind,
    each.defaulted (fun _ shown => lawful.word_eq shown (lookup_attributeOp op)) rfl, pure_bind,
    each.defaulted (fun _ => lawful.text) rfl, pure_bind]

theorem readText_eq {value : String} {op : TextOp}
    (shown : shows (.ofMembers [("op", .string op.word), ("value", .string value)]) node) :
    readText source node = pure (.text op value) := by
  obtain ⟨fields, read, each⟩ := lawful.record ["op", "value"] false shown rfl (by decide)
  rw [readText, read, pure_bind,
    each.defaulted (fun _ shown => lawful.word_eq shown (lookup_textOp op)) rfl, pure_bind,
    each.required (fun _ => lawful.text) rfl, pure_bind]

theorem exists_payload {word : String} {value : Value} {fuel : Nat}
    (shown : shows (.ofMembers [(word, value)]) node)
    (shallow : (Value.ofMembers [(word, value)]).depth ≤ fuel) :
    ∃ inner payload, fuel = inner + 1 ∧ value.depth ≤ inner ∧
      source.choice node = pure (word, some payload) ∧ shows value payload := by
  obtain ⟨inner, rfl, below⟩ := Value.depth_ofMembers_le_iff.1 shallow
  obtain ⟨payload, chosen, shown⟩ := lawful.choice shown
  exact ⟨inner, payload, rfl, below _ List.mem_cons_self, chosen, shown⟩

theorem readCondition_eq {condition : ConditionDefinition} (bounded : condition.InBounds)
    {fuel : Nat} (shallow : condition.encode.depth ≤ fuel) (shown : shows condition.encode node) :
    readCondition source fuel node = pure condition := by
  induction condition generalizing fuel node with
  | tag name | id value | boundary entry =>
      obtain ⟨fuel, payload, rfl, -, chosen, shown⟩ := exists_payload lawful shown shallow
      simp [readCondition, chosen, lawful.text shown]
  | «attribute» name op value =>
      obtain ⟨fuel, payload, rfl, -, chosen, shown⟩ := exists_payload lawful shown shallow
      simp [readCondition, chosen, readAttribute_eq lawful shown]
  | classes names =>
      obtain ⟨fuel, payload, rfl, -, chosen, shown⟩ := exists_payload lawful shown shallow
      obtain ⟨nodes, items, each⟩ := exists_items lawful (fun _ _ _ => lawful.text) shown
      simp [readCondition, chosen, items, each]
  | text op value =>
      obtain ⟨fuel, payload, rfl, -, chosen, shown⟩ := exists_payload lawful shown shallow
      simp [readCondition, chosen, readText_eq lawful shown]
  | place which =>
      obtain ⟨fuel, payload, rfl, -, chosen, shown⟩ := exists_payload lawful shown shallow
      simp [readCondition, chosen, readPlace_eq lawful shown bounded]
  | pseudo which =>
      obtain ⟨fuel, payload, rfl, -, chosen, shown⟩ := exists_payload lawful shown shallow
      simp [readCondition, chosen, readPseudo_eq lawful shown bounded]
  | not condition ih =>
      obtain ⟨fuel, payload, rfl, shallow, chosen, shown⟩ := exists_payload lawful shown shallow
      simp [readCondition, chosen, ih bounded shallow shown]

theorem readStep_eq {step : StepDefinition}
    (bounded : ∀ condition ∈ step.conditions, condition.InBounds) {fuel : Nat}
    (shallow : step.encode.depth ≤ fuel) (shown : shows step.encode node) :
    readStep source fuel node = pure step := by
  obtain ⟨fields, read, each⟩ :=
    lawful.record ["axis", "tag", "where", "boundary"] true shown rfl (by decide)
  have conditions : ∀ condition ∈ step.conditions, ∀ node, shows condition.encode node →
      readCondition source fuel node = pure condition := by
    intro condition member node shown
    have listed : (Value.array (step.conditions.map ConditionDefinition.encode)).depth ≤ fuel :=
      Value.depth_le_of_ofMembers shallow "where" (by simp)
    have within := Value.depth_le_of_array listed (List.mem_map_of_mem member)
    exact readCondition_eq lawful (bounded condition member) within shown
  rw [readStep, read, pure_bind,
    each.required (fun _ shown => lawful.word_eq shown (lookup_stepKind step.kind)) rfl, pure_bind,
    each.defaulted (fun _ => lawful.text?_eq) rfl, pure_bind,
    each.defaulted (fun _ => readItems_eq lawful conditions) rfl, pure_bind,
    each.defaulted (fun _ => lawful.text?_eq) rfl, pure_bind]

theorem readDefinition_eq {definition : Definition}
    (bounded : ∀ step ∈ definition.steps, ∀ condition ∈ step.conditions, condition.InBounds)
    {fuel : Nat} (shallow : definition.encode.depth ≤ fuel)
    (shown : shows definition.encode node) :
    readDefinition source fuel node = pure definition := by
  obtain ⟨fields, read, each⟩ :=
    lawful.record ["grammar", "description", "raw", "steps"] true shown rfl (by decide)
  have steps : ∀ step ∈ definition.steps, ∀ node, shows step.encode node →
      readStep source fuel node = pure step := by
    intro step member node shown
    have listed : (Value.array (definition.steps.map StepDefinition.encode)).depth ≤ fuel :=
      Value.depth_le_of_ofMembers shallow "steps" (by simp)
    have within := Value.depth_le_of_array listed (List.mem_map_of_mem member)
    exact readStep_eq lawful (bounded step member) within shown
  rw [readDefinition, read, pure_bind,
    each.required (fun _ shown => lawful.word_eq shown (lookup_grammar definition.grammar)) rfl,
    pure_bind, each.defaulted (fun _ => lawful.text?_eq) rfl, pure_bind,
    each.defaulted (fun _ => lawful.text?_eq) rfl, pure_bind,
    each.defaulted (fun _ => readItems_eq lawful steps) rfl, pure_bind]

theorem readCatalog_eq {file : File} (bounded : file.InBounds) {fuel : Nat}
    (shallow : file.encode.depth ≤ fuel) (shown : shows file.encode node) :
    readCatalog source fuel node = pure file := by
  obtain ⟨fields, read, each⟩ := lawful.record ["selectors"] false shown rfl (by decide)
  have definitions : ∀ entry ∈ file.selectors.entries, ∀ node, shows entry.2.encode node →
      readDefinition source fuel node = pure entry.2 := by
    intro entry member node shown
    have listed : (Value.ofMembers file.members).depth ≤ fuel :=
      Value.depth_le_of_ofMembers shallow "selectors" List.mem_cons_self
    have within := Value.depth_le_of_ofMembers listed entry.1 (List.mem_map_of_mem member)
    exact readDefinition_eq lawful (bounded entry member) within shown
  have selectors : ∀ node, shows (.ofMembers file.members) node →
      (do return .ofList (← readMembers source fuel (← source.members node))) =
        (pure file.selectors : Reading (Table Definition)) := by
    intro node shown
    obtain ⟨nodes, members, shown⟩ := lawful.members shown
    rw [File.members, List.map_map] at members shown
    rw [members, pure_bind]
    have entries : readMembers source fuel ((file.selectors.entries.map Prod.fst).zip nodes) =
        pure file.selectors.entries := readMembers_eq definitions shown
    change (do return .ofList (← readMembers source fuel
      ((file.selectors.entries.map Prod.fst).zip nodes)) : Reading (Table Definition)) = _
    rw [entries, pure_bind, Table.ofList_entries]
  rw [readCatalog, read, pure_bind, each.defaulted selectors rfl, pure_bind]

end Reading

theorem writable_encodeIndexed (word : String × Option Nat) :
    Yaml.Writable (encodeIndexed word) := by
  obtain ⟨word, _ | index⟩ := word <;> simp [encodeIndexed]

theorem writable_condition (condition : ConditionDefinition) : Yaml.Writable condition.encode := by
  induction condition with
  | classes names => simp [ConditionDefinition.encode]
  | place which | pseudo which =>
      simp [ConditionDefinition.encode, writable_encodeIndexed]
  | not condition ih => simp [ConditionDefinition.encode, ih]
  | _ => simp [ConditionDefinition.encode]

theorem writable_step (step : StepDefinition) : Yaml.Writable step.encode := by
  simp [StepDefinition.encode, writable_condition]

theorem writable_definition (definition : Definition) : Yaml.Writable definition.encode := by
  simp [Definition.encode, writable_step]

theorem writable_file (file : File) : Yaml.Writable file.encode := by
  have entries : Yaml.Writable (.ofMembers file.members) := by
    refine .ofMembers (List.forall_mem_map.2 fun entry _ => ?_)
    exact writable_definition entry.2
  simp [File.encode_eq, entries]

section Formats

variable {file : File} (bounded : file.InBounds) {depth fuel : Nat}
variable (deep : file.encode.depth ≤ depth) (shallow : file.encode.depth ≤ fuel)
include bounded deep shallow

theorem readWithin?_encode :
    file.encode.readWithin? depth (readCatalog Json.source fuel) = some file := by
  have shown : Json.Cursor.Shows file.encode ⟨depth, file.encode⟩ := ⟨rfl, deep⟩
  rw [Value.readWithin?, readCatalog_eq Json.lawful_source bounded shallow shown]
  rfl

theorem readNode_eq {node : Yaml.Node Nat} (stands : node.tree? = some file.encode)
    (anchors : List (Nat × Yaml.Node Nat)) (budget : Nat) :
    (readCatalog (Yaml.source anchors) fuel ⟨depth, node⟩).run' budget = some file := by
  have shown : Yaml.Cursor.Shows file.encode ⟨depth, node⟩ := ⟨stands, deep⟩
  rw [readCatalog_eq (Yaml.lawful_source anchors) bounded shallow shown]
  rfl

end Formats

/-- Conditions are written as objects with one member, and a place or a pseudo-class that carries
nothing as its word. A file comes back from the tree that it is written as, from the tree itself and
from every YAML node that stands for it; there is always such a node. Readers have to be allowed to
go as deep as the tree. Texts that are parsed to the tree, or to such a node, make the same catalog
as the file or fail with the same fault. -/
theorem read_encode (file : File) (bounded : file.InBounds) :
    (∀ condition : ConditionDefinition, ∃ word payload,
      condition.encode = .ofMembers [(word, payload)]) ∧
    (∀ place : XPath.Place, place.word.2 = none →
      (ConditionDefinition.place place).encode = .ofMembers [("index", .string place.word.1)]) ∧
    (∀ pseudo : Css.Pseudo, pseudo.word.2 = none →
      (ConditionDefinition.pseudo pseudo).encode =
        .ofMembers [("pseudo", .string pseudo.word.1)]) ∧
    (∀ depth fuel, file.encode.depth ≤ depth → file.encode.depth ≤ fuel →
      file.encode.readWithin? depth (readCatalog Json.source fuel) = some file ∧
      ∀ node : Yaml.Node Nat, node.tree? = some file.encode → ∀ anchors budget,
        (readCatalog (Yaml.source anchors) fuel ⟨depth, node⟩).run' budget = some file) ∧
    (∃ node : Yaml.Node Nat, node.tree? = some file.encode) ∧
    (∀ text, Json.Value.parse? text = some file.encode → file.encode.depth ≤ Json.depthLimit →
      ofText .json text = ofFile file) ∧
    ∀ text document, Yaml.Document.ofText? text = some document →
      document.root.tree? = some file.encode → file.encode.depth ≤ Yaml.depthLimit →
        ofText .yaml text = ofFile file := by
  refine ⟨ConditionDefinition.exists_encode, ?place, ?pseudo,
    fun depth fuel deep shallow => ⟨?tree, ?node⟩, writable_file file, ?fromJson, ?fromYaml⟩
  case place =>
    intro place bare
    rw [ConditionDefinition.encode, encodeIndexed_of_bare bare]
  case pseudo =>
    intro pseudo bare
    rw [ConditionDefinition.encode, encodeIndexed_of_bare bare]
  case tree => exact readWithin?_encode bounded deep shallow
  case node =>
    intro node stands anchors budget
    exact readNode_eq bounded deep shallow stands anchors budget
  case fromJson =>
    intro text parsed deep
    have shallow := Nat.le_trans deep (by decide : Json.depthLimit ≤ negationLimit)
    have decoded : File.ofText? .json text = some file := by
      rw [File.ofText?, parsed]
      exact readWithin?_encode bounded deep shallow
    rw [ofText, File.ofText, decoded]
    rfl
  case fromYaml =>
    intro text document parsed stands deep
    have shallow := Nat.le_trans deep (by decide : Yaml.depthLimit ≤ negationLimit)
    have decoded : File.ofText? .yaml text = some file := by
      rw [File.ofText?, Yaml.read?, parsed]
      exact readNode_eq bounded deep shallow stands document.anchors document.aliasBudget
    rw [ofText, File.ofText, decoded]
    rfl

def nestedFile : File where
  selectors := .ofList
    [("~", ⟨.css, some "null", none, []⟩),
      ("", ⟨.xpath, none, some "",
        [⟨.child, none, [.not (.not (.place (.exactly (indexBound - 1)))), .place .last,
          .not (.text .is "null"), .pseudo .firstChild, .attribute "" .isPresent ""], some "~"⟩]⟩)]

theorem read_encode_nestedFile :
    nestedFile.encode.readWithin? Json.depthLimit (readCatalog Json.source negationLimit) =
      some nestedFile ∧
    ∃ node : Yaml.Node Nat, node.tree? = some nestedFile.encode ∧
      (readCatalog (Yaml.source []) negationLimit ⟨Yaml.depthLimit, node⟩).run' 0 =
        some nestedFile := by
  have deep : nestedFile.encode.depth ≤ Json.depthLimit := by decide +kernel
  have bounded : nestedFile.InBounds := by decide +kernel
  obtain ⟨-, -, -, reads, ⟨node, stands⟩, -⟩ := read_encode nestedFile bounded
  have shallow : nestedFile.encode.depth ≤ negationLimit := Nat.le_succ_of_le deep
  exact ⟨(reads _ _ deep shallow).1, node, stands, (reads _ _ shallow shallow).2 node stands [] 0⟩

end PageSelectors.Catalog
