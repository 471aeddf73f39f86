import PageSelectors.Table

/-!
Looking up names in a table: a name has the value it is listed with.
-/

namespace PageSelectors.Table

variable {α : Type}

theorem lookup_of_mem {entries : List (String × α)} (sorted : entries.Pairwise (·.1 < ·.1))
    {name : String} {value : α} (member : (name, value) ∈ entries) :
    entries.lookup name = some value := by
  induction entries with
  | nil => simp at member
  | cons first rest ih =>
      obtain ⟨below, tail⟩ := List.pairwise_cons.1 sorted
      rw [List.lookup_cons]
      rcases List.mem_cons.1 member with rfl | member
      · simp
      · have different : (name == first.1) = false := by
          rw [beq_eq_false_iff_ne]
          intro same
          exact String.lt_irrefl _ (same ▸ below _ member)
        rw [different]
        exact ih tail member

theorem get?_eq_some_iff {table : Table α} {name : String} {value : α} :
    table.get? name = some value ↔ (name, value) ∈ table.entries := by
  constructor
  · intro found
    obtain ⟨before, after, entries, _⟩ := List.lookup_eq_some_iff.1 found
    simp [entries]
  · exact lookup_of_mem table.sorted

theorem eq_of_get? {table : Table α} {name : String} {value other : α}
    (found : table.get? name = some value) (again : table.get? name = some other) : value = other :=
  Option.some.inj (found.symm.trans again)

theorem mem_names_iff {table : Table α} {name : String} :
    name ∈ table.names ↔ ∃ value, table.get? name = some value := by
  simp [names, get?_eq_some_iff]

theorem place_of_forall_lt {entries : List (String × α)} {name : String} (value : α)
    (last : ∀ entry ∈ entries, entry.1 < name) :
    place name value entries = entries ++ [(name, value)] := by
  induction entries with
  | nil => rfl
  | cons first rest ih =>
      have before : first.1 < name := last first List.mem_cons_self
      rw [place, if_neg (String.lt_asymm before), if_neg (String.ne_of_lt before).symm,
        ih fun entry member => last entry (List.mem_cons_of_mem _ member)]
      rfl

theorem entries_foldl_insert {entries : List (String × α)} {table : Table α}
    (sorted : (table.entries ++ entries).Pairwise (·.1 < ·.1)) :
    (entries.foldl (fun table entry => table.insert entry.1 entry.2) table).entries =
      table.entries ++ entries := by
  induction entries generalizing table with
  | nil => simp
  | cons entry rest ih =>
      have below := (List.pairwise_append.1 sorted).2.2
      have extended : (table.insert entry.1 entry.2).entries = table.entries ++ [entry] :=
        place_of_forall_lt entry.2 fun first member => below first member entry List.mem_cons_self
      have shifted : table.entries ++ entry :: rest =
          (table.insert entry.1 entry.2).entries ++ rest := by simp [extended]
      rw [List.foldl_cons, shifted]
      exact ih (shifted ▸ sorted)

/-- A table that is made of its own entries, one after another, is the same. -/
theorem ofList_entries (table : Table α) : ofList table.entries = table := by
  obtain ⟨entries, sorted⟩ := table
  have appended : ((empty : Table α).entries ++ entries).Pairwise (·.1 < ·.1) := sorted
  have same : (ofList entries).entries = entries := entries_foldl_insert appended
  cases made : ofList entries with
  | mk others _ =>
      rw [made] at same
      cases same
      rfl

end PageSelectors.Table
