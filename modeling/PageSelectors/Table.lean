/-!
Tables: values by name, in the order of the names by code points. The order is part of the type, so
a table lists each name once.
-/

namespace PageSelectors

structure Table (α : Type) where
  entries : List (String × α)
  sorted : entries.Pairwise (·.1 < ·.1)

namespace Table

variable {α : Type}

def place (name : String) (value : α) : List (String × α) → List (String × α)
  | [] => [(name, value)]
  | entry :: rest =>
      if name < entry.1 then (name, value) :: entry :: rest
      else if name = entry.1 then (name, value) :: rest
      else entry :: place name value rest

theorem fst_of_mem_place {name : String} {value : α} {entries : List (String × α)}
    {entry : String × α} (member : entry ∈ place name value entries) :
    entry.1 = name ∨ entry ∈ entries := by
  induction entries with
  | nil => simp_all [place]
  | cons first rest ih =>
      simp only [place] at member
      split at member
      · rcases List.mem_cons.1 member with rfl | member
        · exact .inl rfl
        · exact .inr member
      · split at member
        · rcases List.mem_cons.1 member with rfl | member
          · exact .inl rfl
          · exact .inr (List.mem_cons_of_mem _ member)
        · rcases List.mem_cons.1 member with rfl | member
          · exact .inr List.mem_cons_self
          · exact (ih member).imp_right (List.mem_cons_of_mem _)

theorem pairwise_place (name : String) (value : α) {entries : List (String × α)}
    (sorted : entries.Pairwise (·.1 < ·.1)) :
    (place name value entries).Pairwise (·.1 < ·.1) := by
  induction entries with
  | nil => simp [place]
  | cons first rest ih =>
      obtain ⟨below, tail⟩ := List.pairwise_cons.1 sorted
      simp only [place]
      split
      · next less =>
        refine List.pairwise_cons.2 ⟨?_, sorted⟩
        intro entry member
        rcases List.mem_cons.1 member with rfl | member
        · exact less
        · exact String.lt_trans less (below entry member)
      · next notLess =>
        split
        · next same => exact List.pairwise_cons.2 ⟨same ▸ below, tail⟩
        · next different =>
          refine List.pairwise_cons.2 ⟨?_, ih tail⟩
          intro entry member
          rcases fst_of_mem_place member with same | member
          · rw [same]
            exact Std.lt_of_le_of_ne (String.not_lt.1 notLess) (Ne.symm different)
          · exact below entry member

def empty : Table α :=
  ⟨[], .nil⟩

def insert (table : Table α) (name : String) (value : α) : Table α :=
  ⟨place name value table.entries, pairwise_place name value table.sorted⟩

def ofList (entries : List (String × α)) : Table α :=
  entries.foldl (fun table entry => table.insert entry.1 entry.2) empty

def get? (table : Table α) (name : String) : Option α :=
  table.entries.lookup name

def names (table : Table α) : List String :=
  table.entries.map (·.1)

end Table

end PageSelectors
