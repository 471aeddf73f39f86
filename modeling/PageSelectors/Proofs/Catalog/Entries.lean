import PageSelectors.Proofs.Catalog.Meaning

/-!
The entries of a catalog: they are listed by their names in order, each is found under its name, and
its query is what its selector compiles to.
-/

namespace PageSelectors.Catalog

open Outcome

variable {file : File} {catalog : Catalog}

theorem compiled_of_ofFile (made : ofFile file = .ok catalog) :
    List.Forall₂ (fun listed entry => compileAfresh file.selectors listed.1 listed.2 = .ok entry)
      file.selectors.entries catalog.entries := by
  rw [ofFile_eq_afresh] at made
  obtain ⟨entries, compiled, rfl⟩ := bind_pure_eq_ok_iff.1 made
  exact mapM_eq_ok_iff.1 compiled

theorem compile_of_compileAfresh {definitions : Table Definition} {name : String}
    {definition : Definition} {entry : Entry}
    (compiled : compileAfresh definitions name definition = .ok entry) :
    Query.compile entry.selector = .ok entry.query := by
  obtain ⟨selector, -, compiled⟩ := bind_eq_ok_iff.1 compiled
  obtain ⟨query, queried, rfl⟩ := bind_pure_eq_ok_iff.1 compiled
  exact mapError_eq_ok_iff.1 queried

theorem compile_of_mem (made : ofFile file = .ok catalog) {entry : Entry}
    (member : entry ∈ catalog.entries) : Query.compile entry.selector = .ok entry.query := by
  obtain ⟨listed, -, compiled⟩ := exists_of_mem_right (compiled_of_ofFile made) member
  exact compile_of_compileAfresh compiled

theorem pairwise_names (made : ofFile file = .ok catalog) : catalog.names.Pairwise (· < ·) := by
  have same : List.Forall₂ Eq catalog.names (file.selectors.entries.map (·.1)) := by
    rw [names, List.forall₂_map_left_iff, List.forall₂_map_right_iff]
    exact (compiled_of_ofFile made).flip.imp fun _ _ => name_of_compileAfresh
  rw [List.forall₂_eq_eq_eq] at same
  rw [same, List.pairwise_map]
  exact file.selectors.sorted

/-- No entry before another has its name, so looking the name up stops at the entry itself. -/
theorem get?_of_mem (ordered : catalog.names.Pairwise (· < ·)) {entry : Entry}
    (member : entry ∈ catalog.entries) : catalog.get? entry.name = some entry := by
  obtain ⟨before, after, split⟩ := List.append_of_mem member
  rw [names, split, List.map_append, List.map_cons, List.pairwise_append] at ordered
  refine List.find?_eq_some_iff_append.2 ⟨by simp, before, after, split, ?_⟩
  intro earlier inside
  have less := ordered.2.2 earlier.name (List.mem_map_of_mem inside) entry.name List.mem_cons_self
  simpa using String.ne_of_lt less

theorem get?_eq_none_iff {name : String} : catalog.get? name = none ↔ name ∉ catalog.names := by
  simp [get?, names, List.find?_eq_none]

end PageSelectors.Catalog
