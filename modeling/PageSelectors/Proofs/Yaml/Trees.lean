import PageSelectors.Proofs.Document.Trees
import PageSelectors.Yaml.Source

/-!
YAML documents as trees. Without tags and aliases a node stands for the same kind of tree as a JSON
document.
-/

namespace PageSelectors.Yaml

open Json (Value)

def saysNothing (text : String) : Bool :=
  text.isEmpty || text ∈ nullWords

def plainTree (text : String) : Value :=
  if saysNothing text then .null
  else match boolWords.lookup text, natural? text with
    | some flag, _ => .bool flag
    | none, some value => .natural value
    | none, none =>
        if isNumber text ∧ ¬isPadded text.toList then .otherNumber text else .string text

def scalarTree (style : Style) (text : String) : Value :=
  if style = .plain then plainTree text else .string text

theorem plainTree_eq_null_iff {text : String} : plainTree text = .null ↔ saysNothing text := by
  grind [plainTree]

theorem natural?_of_plainTree {text : String} {value : Nat}
    (stands : plainTree text = .natural value) : natural? text = some value := by
  grind [plainTree]

theorem something_of_plainTree {text other : String}
    (stands : plainTree text = .string other) : text = other ∧ ¬saysNothing text := by
  grind [plainTree]

theorem scalarTree_eq_null_iff {style : Style} {text : String} :
    scalarTree style text = .null ↔ style = .plain ∧ saysNothing text := by
  grind [scalarTree, plainTree_eq_null_iff]

theorem natural?_of_scalarTree {style : Style} {text : String} {value : Nat}
    (stands : scalarTree style text = .natural value) :
    style = .plain ∧ natural? text = some value := by
  grind [scalarTree, natural?_of_plainTree]

theorem something_of_scalarTree {style : Style} {text other : String}
    (stands : scalarTree style text = .string other) :
    text = other ∧ (style = .plain → ¬saysNothing text) := by
  grind [scalarTree, something_of_plainTree]

theorem scalarTree_ne_array {style : Style} {text : String} {items : List Value} :
    scalarTree style text ≠ .array items := by
  grind [scalarTree, plainTree]

theorem scalarTree_ne_object {style : Style} {text : String}
    {members : List (Option String × Value)} : scalarTree style text ≠ .object members := by
  grind [scalarTree, plainTree]

def keyText? : Value → Option String
  | .string name => some name
  | _ => none

theorem keyText?_eq_some_iff {value : Value} {name : String} :
    keyText? value = some name ↔ value = .string name := by
  cases value <;> simp [keyText?]

namespace Node

mutual

/-- The tree that a node stands for, if there are no tags and aliases and all keys are texts. -/
def tree? : Node Nat → Option Value
  | scalar properties style text =>
      if properties.tag = none then some (scalarTree style text) else none
  | sequence properties items =>
      if properties.tag = none then (treeItems? items).map .array else none
  | mapping properties members =>
      if properties.tag = none then (treeMembers? members).map .ofMembers else none
  | reference _ => none

def treeItems? : List (Node Nat) → Option (List Value)
  | [] => some []
  | node :: rest => do return (← node.tree?) :: (← treeItems? rest)

def treeMembers? : List (Node Nat × Node Nat) → Option (List (String × Value))
  | [] => some []
  | (key, node) :: rest => do
      let name ← key.tree?.bind keyText?
      return (name, ← node.tree?) :: (← treeMembers? rest)

end

variable {node : Node Nat}

theorem tree?_cases {value : Value} (stands : node.tree? = some value) :
    (∃ properties style text, node = scalar properties style text ∧ properties.tag = none ∧
      scalarTree style text = value) ∨
    (∃ properties nodes values, node = sequence properties nodes ∧
      treeItems? nodes = some values ∧ .array values = value) ∨
    ∃ properties pairs members, node = mapping properties pairs ∧ properties.tag = none ∧
      treeMembers? pairs = some members ∧ .ofMembers members = value := by
  cases node with
  | scalar properties style text =>
      simp only [tree?, Option.ite_none_right_eq_some, Option.some.injEq] at stands
      exact .inl ⟨properties, style, text, rfl, stands⟩
  | sequence properties nodes =>
      simp only [tree?, Option.ite_none_right_eq_some, Option.map_eq_some_iff] at stands
      obtain ⟨-, values, read, same⟩ := stands
      exact .inr (.inl ⟨properties, nodes, values, rfl, read, same⟩)
  | mapping properties pairs =>
      simp only [tree?, Option.ite_none_right_eq_some, Option.map_eq_some_iff] at stands
      obtain ⟨untagged, members, read, same⟩ := stands
      exact .inr (.inr ⟨properties, pairs, members, rfl, untagged, read, same⟩)
  | reference number => simp [tree?] at stands

theorem scalar_of_string {text : String} (stands : node.tree? = some (.string text)) :
    ∃ properties style, node = scalar properties style text ∧ properties.tag = none ∧
      (style = .plain → ¬saysNothing text) := by
  obtain ⟨properties, style, text, rfl, untagged, same⟩ | ⟨_, _, _, -, -, ⟨⟩⟩ |
    ⟨_, _, _, -, -, -, ⟨⟩⟩ := tree?_cases stands
  obtain ⟨rfl, something⟩ := something_of_scalarTree same
  exact ⟨properties, style, rfl, untagged, something⟩

theorem scalar_of_null (stands : node.tree? = some .null) :
    ∃ properties text, node = scalar properties .plain text ∧ properties.tag = none ∧
      saysNothing text := by
  obtain ⟨properties, style, text, rfl, untagged, same⟩ | ⟨_, _, _, -, -, ⟨⟩⟩ |
    ⟨_, _, _, -, -, -, ⟨⟩⟩ := tree?_cases stands
  obtain ⟨rfl, nothing⟩ := scalarTree_eq_null_iff.1 same
  exact ⟨properties, text, rfl, untagged, nothing⟩

theorem scalar_of_natural {value : Nat} (stands : node.tree? = some (.natural value)) :
    ∃ properties text, node = scalar properties .plain text ∧ natural? text = some value := by
  obtain ⟨properties, style, text, rfl, -, same⟩ | ⟨_, _, _, -, -, ⟨⟩⟩ |
    ⟨_, _, _, -, -, -, ⟨⟩⟩ := tree?_cases stands
  obtain ⟨rfl, read⟩ := natural?_of_scalarTree same
  exact ⟨properties, text, rfl, read⟩

theorem sequence_of_array {values : List Value} (stands : node.tree? = some (.array values)) :
    ∃ properties nodes, node = sequence properties nodes ∧ treeItems? nodes = some values := by
  obtain ⟨_, _, _, -, -, same⟩ | ⟨properties, nodes, _, rfl, read, ⟨⟩⟩ |
    ⟨_, _, _, -, -, -, ⟨⟩⟩ := tree?_cases stands
  · exact absurd same scalarTree_ne_array
  · exact ⟨properties, nodes, rfl, read⟩

theorem mapping_of_ofMembers {members : List (String × Value)}
    (stands : node.tree? = some (.ofMembers members)) :
    ∃ properties pairs, node = mapping properties pairs ∧ properties.tag = none ∧
      treeMembers? pairs = some members := by
  obtain ⟨_, _, _, -, -, same⟩ | ⟨_, _, _, -, -, ⟨⟩⟩ |
    ⟨properties, pairs, others, rfl, untagged, read, same⟩ := tree?_cases stands
  · exact absurd same scalarTree_ne_object
  · exact ⟨properties, pairs, rfl, untagged, Value.ofMembers_injective same ▸ read⟩

theorem forall₂_of_treeItems? {nodes : List (Node Nat)} {values : List Value}
    (read : treeItems? nodes = some values) :
    List.Forall₂ (fun value node => node.tree? = some value) values nodes := by
  induction nodes generalizing values with
  | nil =>
      cases read
      exact .nil
  | cons node rest ih =>
      simp only [treeItems?, Option.bind_eq_bind, Option.bind_eq_some_iff] at read
      obtain ⟨value, head, others, tail, ⟨⟩⟩ := read
      exact .cons head (ih tail)

def StandFor (member : String × Value) (pair : Node Nat × Node Nat) : Prop :=
  pair.1.tree? = some (.string member.1) ∧ pair.2.tree? = some member.2

theorem forall₂_of_treeMembers? {pairs : List (Node Nat × Node Nat)}
    {members : List (String × Value)} (read : treeMembers? pairs = some members) :
    List.Forall₂ StandFor members pairs := by
  induction pairs generalizing members with
  | nil =>
      cases read
      exact .nil
  | cons pair rest ih =>
      simp only [treeMembers?, Option.bind_eq_bind, Option.bind_eq_some_iff] at read
      obtain ⟨name, ⟨key, stands, named⟩, value, head, others, tail, ⟨⟩⟩ := read
      obtain rfl := keyText?_eq_some_iff.1 named
      exact .cons ⟨stands, head⟩ (ih tail)

end Node

namespace Cursor

def Shows (value : Value) (cursor : Cursor) : Prop :=
  cursor.node.tree? = some value ∧ value.depth ≤ cursor.depth

variable (anchors : List (Nat × Node Nat))

theorem text_eq {depth : Nat} {node : Node Nat} {text : String}
    (stands : node.tree? = some (.string text)) :
    Cursor.text anchors ⟨depth, node⟩ = pure text := by
  obtain ⟨properties, style, rfl, -, -⟩ := Node.scalar_of_string stands
  rfl

theorem optional_scalar {depth : Nat} {properties : Properties Nat} {style : Style} {text : String}
    (untagged : properties.tag = none) :
    Cursor.optional anchors ⟨depth, .scalar properties style text⟩ =
      pure (if style = .plain ∧ saysNothing text then none
        else some ⟨depth, .scalar properties style text⟩) := by
  obtain ⟨anchor, tag⟩ := properties
  cases untagged
  cases style with
  | plain =>
      change (if saysNothing text then pure none
        else pure (some ⟨depth, .scalar ⟨anchor, none⟩ .plain text⟩) :
          Reading (Option Cursor)) = _
      split
      · next nothing => simp [nothing]
      · next something => simp [something]
  | quoted | literal | folded => rfl

theorem namedMembers_eq (depth : Nat) {pairs : List (Node Nat × Node Nat)}
    {members : List (String × Value)}
    (each : List.Forall₂ Node.StandFor members pairs) :
    namedMembers anchors depth pairs =
      pure ((members.map (·.1)).zip (pairs.map fun pair => ⟨depth, pair.2⟩)) := by
  induction each with
  | nil => rfl
  | cons head _ ih => simp [namedMembers, text_eq anchors head.1, ih]

theorem shows_items {depth : Nat} {values : List Value} {nodes : List (Node Nat)}
    (each : List.Forall₂ (fun value node => node.tree? = some value) values nodes)
    (below : ∀ value ∈ values, value.depth ≤ depth) :
    List.Forall₂ Shows values (nodes.map (Cursor.mk depth)) := by
  rw [List.forall₂_map_right_iff]
  have listed := (List.forall₂_and_left _ _).2 ⟨below, each⟩
  exact listed.imp fun value node both => ⟨both.2, both.1⟩

theorem shows_members {depth : Nat} {members : List (String × Value)}
    {pairs : List (Node Nat × Node Nat)}
    (each : List.Forall₂ Node.StandFor members pairs)
    (below : ∀ member ∈ members, member.2.depth ≤ depth) :
    List.Forall₂ Shows (members.map (·.2)) (pairs.map fun pair => ⟨depth, pair.2⟩) := by
  rw [List.forall₂_map_left_iff, List.forall₂_map_right_iff]
  have listed := (List.forall₂_and_left _ _).2 ⟨below, each⟩
  exact listed.imp fun member pair both => ⟨both.2.2, both.1⟩

end Cursor

theorem lawful_source (anchors : List (Nat × Node Nat)) : (source anchors).Lawful Cursor.Shows where
  text := by
    rintro ⟨depth, node⟩ text ⟨stands, -⟩
    exact Cursor.text_eq anchors stands
  given := by
    rintro ⟨depth, node⟩ text ⟨stands, -⟩
    obtain ⟨properties, style, rfl, untagged, something⟩ := Node.scalar_of_string stands
    change Cursor.optional anchors _ = _
    rw [Cursor.optional_scalar anchors untagged, if_neg fun both => something both.1 both.2]
  word := by
    rintro ⟨depth, node⟩ word ⟨stands, -⟩
    obtain ⟨properties, style, rfl, untagged, -⟩ := Node.scalar_of_string stands
    change Cursor.keyedChoice anchors _ = _
    simp [Cursor.keyedChoice, Cursor.follow, Properties.ownName?, untagged]
  absent := by
    rintro ⟨depth, node⟩ ⟨stands, -⟩
    obtain ⟨properties, text, rfl, untagged, nothing⟩ := Node.scalar_of_null stands
    change Cursor.optional anchors _ = _
    rw [Cursor.optional_scalar anchors untagged, if_pos ⟨rfl, nothing⟩]
  index := by
    rintro ⟨depth, node⟩ index ⟨stands, -⟩ bounded
    obtain ⟨properties, text, rfl, read⟩ := Node.scalar_of_natural stands
    change Cursor.index anchors _ = _
    simp [Cursor.index, Cursor.core, Cursor.follow, read, bounded]
  items := by
    rintro ⟨depth, node⟩ values ⟨stands, shallow⟩
    obtain ⟨properties, nodes, rfl, read⟩ := Node.sequence_of_array stands
    obtain ⟨inner, rfl, below⟩ := Value.depth_array_le_iff.1 shallow
    exact ⟨nodes.map (Cursor.mk inner), rfl,
      Cursor.shows_items (Node.forall₂_of_treeItems? read) below⟩
  members := by
    rintro ⟨depth, node⟩ members ⟨stands, shallow⟩
    obtain ⟨properties, pairs, rfl, -, read⟩ := Node.mapping_of_ofMembers stands
    obtain ⟨inner, rfl, below⟩ := Value.depth_ofMembers_le_iff.1 shallow
    have each := Node.forall₂_of_treeMembers? read
    exact ⟨_, Cursor.namedMembers_eq anchors inner each, Cursor.shows_members each below⟩
  fields := by
    rintro ⟨depth, node⟩ members names closed -
    rfl
  choice := by
    rintro ⟨depth, node⟩ word value ⟨stands, shallow⟩
    obtain ⟨properties, pairs, rfl, untagged, read⟩ := Node.mapping_of_ofMembers stands
    obtain ⟨inner, rfl, below⟩ := Value.depth_ofMembers_le_iff.1 shallow
    have each := Node.forall₂_of_treeMembers? read
    have named := Cursor.namedMembers_eq anchors inner each
    obtain _ | ⟨both, _ | _⟩ := each
    refine ⟨⟨inner, _⟩, ?_, both.2, below _ List.mem_cons_self⟩
    change Cursor.keyedChoice anchors _ = _
    simp [Cursor.keyedChoice, Cursor.follow, Cursor.enter, Properties.ownName?, untagged, named]
  bare := rfl

end PageSelectors.Yaml
