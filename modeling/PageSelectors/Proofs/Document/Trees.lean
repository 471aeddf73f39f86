import PageSelectors.Catalog.Decoding
import PageSelectors.Catalog.Encoding
import PageSelectors.Proofs.Outcome

/-!
Document formats and trees. What a reader gets out of a node depends on the tree that the node
shows, and only on the laws that the format keeps: which answers it gives for a node that shows a
text, a number, a list or a record.
-/

namespace PageSelectors

open Json (Value)

namespace Json.Value

mutual

def depth : Value → Nat
  | array items => depthItems items + 1
  | object members => depthMembers members + 1
  | _ => 0

def depthItems : List Value → Nat
  | [] => 0
  | item :: rest => max item.depth (depthItems rest)

def depthMembers : List (Option String × Value) → Nat
  | [] => 0
  | (_, value) :: rest => max value.depth (depthMembers rest)

end

theorem depthItems_le_iff {items : List Value} {bound : Nat} :
    depthItems items ≤ bound ↔ ∀ item ∈ items, item.depth ≤ bound := by
  induction items with
  | nil => simp [depthItems]
  | cons item rest ih => rw [depthItems, Nat.max_le, ih, List.forall_mem_cons]

theorem depthMembers_le_iff {members : List (Option String × Value)} {bound : Nat} :
    depthMembers members ≤ bound ↔ ∀ member ∈ members, member.2.depth ≤ bound := by
  induction members with
  | nil => simp [depthMembers]
  | cons member rest ih => rw [depthMembers, Nat.max_le, ih, List.forall_mem_cons]

theorem depth_array_le_iff {items : List Value} {bound : Nat} :
    (array items).depth ≤ bound ↔
      ∃ inner, bound = inner + 1 ∧ ∀ item ∈ items, item.depth ≤ inner := by
  cases bound with
  | zero => simp [depth]
  | succ inner => simp [depth, depthItems_le_iff]

theorem depth_ofMembers_le_iff {members : List (String × Value)} {bound : Nat} :
    (ofMembers members).depth ≤ bound ↔
      ∃ inner, bound = inner + 1 ∧ ∀ member ∈ members, member.2.depth ≤ inner := by
  cases bound with
  | zero => simp [ofMembers, depth]
  | succ inner =>
      rw [ofMembers, depth, Nat.add_le_add_iff_right, depthMembers_le_iff, List.forall_mem_map]
      simp

theorem depth_le_of_array {items : List Value} {bound : Nat} (shallow : (array items).depth ≤ bound)
    {item : Value} (member : item ∈ items) : item.depth ≤ bound := by
  obtain ⟨inner, rfl, below⟩ := depth_array_le_iff.1 shallow
  exact Nat.le_succ_of_le (below item member)

theorem depth_le_of_ofMembers {members : List (String × Value)} {bound : Nat}
    (shallow : (ofMembers members).depth ≤ bound) (name : String) {value : Value}
    (member : (name, value) ∈ members) : value.depth ≤ bound := by
  obtain ⟨inner, rfl, below⟩ := depth_ofMembers_le_iff.1 shallow
  exact Nat.le_succ_of_le (below _ member)

theorem ofMembers_injective : Function.Injective ofMembers := by
  intro members others same
  have pairs : Function.Injective fun member : String × Value => (some member.1, member.2) := by
    rintro ⟨name, value⟩ ⟨other, another⟩ ⟨⟩
    rfl
  exact pairs.list_map (object.inj same)

end Json.Value

variable {Node α : Type}

/-- What a format answers about the nodes that show a tree. -/
structure Source.Lawful (source : Source Node) (shows : Value → Node → Prop) : Prop where
  text {node : Node} {text : String} : shows (.string text) node → source.text node = pure text
  given {node : Node} {text : String} :
    shows (.string text) node → source.optional node = pure (some node)
  word {node : Node} {word : String} :
    shows (.string word) node → source.choice node = pure (word, none)
  absent {node : Node} : shows .null node → source.optional node = pure none
  index {node : Node} {index : Nat} :
    shows (.natural index) node → index < indexBound → source.index node = pure index
  items {node : Node} {values : List Value} : shows (.array values) node →
    ∃ nodes, source.items node = pure nodes ∧ List.Forall₂ shows values nodes
  members {node : Node} {members : List (String × Value)} : shows (.ofMembers members) node →
    ∃ nodes, source.members node = pure ((members.map (·.1)).zip nodes) ∧
      List.Forall₂ shows (members.map (·.2)) nodes
  fields {node : Node} {members : List (String × Value)} {names : List String} {closed : Bool} :
    shows (.ofMembers members) node →
      source.fields names closed node = source.members node >>= Source.select names closed
  choice {node : Node} {word : String} {value : Value} : shows (.ofMembers [(word, value)]) node →
    ∃ payload, source.choice node = pure (word, some payload) ∧ shows value payload
  bare : source.bare none = pure ()

namespace Source

variable {source : Source Node}

theorem select_of_named {names : List String} (distinct : names.Nodup) {known : List String}
    (all : ∀ name ∈ names, name ∈ known) (closed : Bool) (nodes : List Node) :
    select known closed (names.zip nodes) = pure (names.zip nodes) := by
  induction names generalizing nodes with
  | nil => rfl
  | cons name rest ih =>
      cases nodes with
      | nil => rfl
      | cons node nodes =>
          obtain ⟨fresh, distinct⟩ := List.nodup_cons.1 distinct
          have unused : (rest.zip nodes).lookup name = none := by
            rw [List.lookup_eq_none_iff]
            intro field member
            have differs : name ≠ field.1 :=
              fun same => fresh (same ▸ (List.of_mem_zip member).1)
            simpa using differs
          rw [List.zip_cons_cons, select, ih distinct fun other member =>
            all other (List.mem_cons_of_mem _ member), pure_bind, if_pos (all name List.mem_cons_self),
            unused]
          rfl

variable {shows : Value → Node → Prop}

def FieldsShow (shows : Value → Node → Prop) (members : List (String × Value))
    (fields : List (String × Node)) : Prop :=
  ∀ {name value}, members.lookup name = some value →
    ∃ node, fields.lookup name = some node ∧ shows value node

theorem fieldsShow_zip {members : List (String × Value)} {nodes : List Node}
    (each : List.Forall₂ shows (members.map (·.2)) nodes) :
    FieldsShow shows members ((members.map (·.1)).zip nodes) := by
  intro name value listed
  induction members generalizing nodes with
  | nil => cases listed
  | cons member rest ih =>
      obtain _ | @⟨_, node, _, nodes, head, tail⟩ := each
      rw [List.map_cons, List.zip_cons_cons, List.lookup_cons]
      rw [List.lookup_cons] at listed
      cases same : name == member.1 with
      | true =>
          rw [same] at listed
          cases listed
          exact ⟨node, rfl, head⟩
      | false =>
          rw [same] at listed
          exact ih tail listed

variable {members : List (String × Value)} {fields : List (String × Node)}

theorem FieldsShow.required (each : FieldsShow shows members fields) {name : String}
    {value : Value} {read : Node → Reading α} {result : α}
    (reads : ∀ node, shows value node → read node = pure result)
    (listed : members.lookup name = some value) :
    Source.required fields name read = pure result := by
  obtain ⟨node, found, shown⟩ := each listed
  rw [Source.required, found]
  exact reads node shown

theorem FieldsShow.defaulted (each : FieldsShow shows members fields) {name : String}
    {value : Value} {read : Node → Reading α} {default result : α}
    (reads : ∀ node, shows value node → read node = pure result)
    (listed : members.lookup name = some value) :
    Source.defaulted fields name default read = pure result := by
  obtain ⟨node, found, shown⟩ := each listed
  rw [Source.defaulted, found]
  exact reads node shown

namespace Lawful

variable (lawful : source.Lawful shows) {node : Node}
include lawful

/-- A record that shows all fields it is asked for has a node for each of them. -/
theorem record (names : List String) (closed : Bool) (shown : shows (.ofMembers members) node)
    (named : members.map (·.1) = names) (distinct : names.Nodup) :
    ∃ fields, source.fields names closed node = pure fields ∧ FieldsShow shows members fields := by
  obtain ⟨nodes, read, each⟩ := lawful.members shown
  subst named
  refine ⟨(members.map (·.1)).zip nodes, ?_, fieldsShow_zip each⟩
  rw [lawful.fields shown, read, pure_bind]
  exact select_of_named distinct (fun _ => id) closed nodes

theorem text?_eq {text : Option String} (shown : shows (.ofText? text) node) :
    source.text? node = pure text := by
  cases text with
  | none =>
      rw [text?, lawful.absent shown]
      rfl
  | some text =>
      rw [text?, lawful.given shown, pure_bind]
      simp [lawful.text shown]

theorem word_eq {word : String} {words : List (String × α)} {value : α}
    (shown : shows (.string word) node) (listed : words.lookup word = some value) :
    source.word words node = pure value := by
  rw [Source.word, lawful.word shown, pure_bind]
  simp [listed, lawful.bare]

end Lawful

end Source

namespace Catalog

variable {source : Source Node} {shows : Value → Node → Prop}

theorem readEach_eq {read : Node → Reading α} {nodes : List Node} {values : List α}
    (each : List.Forall₂ (fun value node => read node = pure value) values nodes) :
    readEach read nodes = pure values := by
  induction each with
  | nil => rfl
  | cons head _ ih => simp [readEach, head, ih]

variable (lawful : source.Lawful shows) {node : Node}
include lawful

theorem exists_items {read : Node → Reading α} {values : List α} {encode : α → Value}
    (reads : ∀ value ∈ values, ∀ node, shows (encode value) node → read node = pure value)
    (shown : shows (.array (values.map encode)) node) :
    ∃ nodes, source.items node = pure nodes ∧ readEach read nodes = pure values := by
  obtain ⟨nodes, items, each⟩ := lawful.items shown
  rw [List.forall₂_map_left_iff] at each
  have listed := (List.forall₂_and_left _ _).2 ⟨fun value member => member, each⟩
  exact ⟨nodes, items,
    readEach_eq (listed.imp fun value node both => reads value both.1 node both.2)⟩

theorem readItems_eq {read : Node → Reading α} {values : List α} {encode : α → Value}
    (reads : ∀ value ∈ values, ∀ node, shows (encode value) node → read node = pure value)
    (shown : shows (.array (values.map encode)) node) :
    (do readEach read (← source.items node)) = (pure values : Reading (List α)) := by
  obtain ⟨nodes, items, each⟩ := exists_items lawful reads shown
  rw [items, pure_bind, each]

end Catalog

end PageSelectors
