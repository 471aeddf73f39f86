import PageSelectors.Json.Source
import PageSelectors.Proofs.Document.Trees

/-!
JSON documents as trees. A part of a document shows itself if all its levels may still be entered.
-/

namespace PageSelectors.Json

namespace Cursor

def Shows (value : Value) (cursor : Cursor) : Prop :=
  cursor.value = value ∧ value.depth ≤ cursor.depth

theorem namedMembers_eq (depth : Nat) (members : List (String × Value)) :
    namedMembers depth (members.map fun (name, value) => (some name, value)) =
      pure ((members.map (·.1)).zip (members.map fun member => ⟨depth, member.2⟩)) := by
  induction members with
  | nil => rfl
  | cons member rest ih => simp [namedMembers, ih]

theorem shows_items {items : List Value} {depth : Nat} (below : ∀ item ∈ items, item.depth ≤ depth) :
    List.Forall₂ Shows items (items.map (Cursor.mk depth)) := by
  rw [List.forall₂_map_right_iff, List.forall₂_same]
  exact fun item member => ⟨rfl, below item member⟩

end Cursor

theorem lawful_source : source.Lawful Cursor.Shows where
  text := by
    rintro ⟨depth, _⟩ text ⟨rfl, -⟩
    rfl
  given := by
    rintro ⟨depth, _⟩ text ⟨rfl, -⟩
    rfl
  word := by
    rintro ⟨depth, _⟩ word ⟨rfl, -⟩
    rfl
  absent := by
    rintro ⟨depth, _⟩ ⟨rfl, -⟩
    rfl
  index := by
    rintro ⟨depth, _⟩ index ⟨rfl, -⟩ bounded
    exact if_pos bounded
  items := by
    rintro ⟨depth, _⟩ items ⟨rfl, shallow⟩
    obtain ⟨inner, rfl, below⟩ := Value.depth_array_le_iff.1 shallow
    exact ⟨items.map (Cursor.mk inner), rfl, Cursor.shows_items below⟩
  members := by
    rintro ⟨depth, _⟩ members ⟨rfl, shallow⟩
    obtain ⟨inner, rfl, below⟩ := Value.depth_ofMembers_le_iff.1 shallow
    refine ⟨_, Cursor.namedMembers_eq inner members, ?_⟩
    have := Cursor.shows_items (List.forall_mem_map.2 below)
    rwa [List.map_map] at this
  fields := by
    rintro ⟨depth, _⟩ members names closed ⟨rfl, -⟩
    rfl
  choice := by
    rintro ⟨depth, _⟩ word value ⟨rfl, shallow⟩
    obtain ⟨inner, rfl, below⟩ := Value.depth_ofMembers_le_iff.1 shallow
    exact ⟨⟨inner, value⟩, rfl, rfl, below _ List.mem_cons_self⟩
  bare := rfl

end PageSelectors.Json
