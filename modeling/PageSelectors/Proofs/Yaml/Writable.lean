import PageSelectors.Proofs.Digits
import PageSelectors.Proofs.Yaml.Trees

/-!
Trees that YAML can write without tags and aliases. Texts stand between quotes, which keep
them from being anything else, and numbers are written in decimal digits.
-/

namespace PageSelectors.Yaml

open Json (Value)
open Text (eq_zero_of_toDigits isDigit_of_mem_toDigits number?_toDigits)

theorem otherRadix?_of_isDigit {digits : List Char} (all : ∀ c ∈ digits, c.isDigit) :
    otherRadix? digits = none := by
  unfold otherRadix?
  split <;> simp_all

theorem isPadded_toDigits (n : Nat) : isPadded (Nat.toDigits 10 n) = false := by
  by_cases zero : n = 0
  · subst zero
    rfl
  · have all := isDigit_of_mem_toDigits (n := n)
    unfold isPadded
    split
    · simp_all
    · simp_all
    · dsimp only
      split
      · next leading => exact absurd (eq_zero_of_toDigits leading) zero
      · rfl

theorem natural?_repr (n : Nat) : natural? n.repr = some n := by
  have all := isDigit_of_mem_toDigits (n := n)
  have unpadded := isPadded_toDigits n
  have read := number?_toDigits n
  unfold natural?
  rw [Nat.toList_repr]
  cases digits : Nat.toDigits 10 n with
  | nil => exact absurd digits Nat.toDigits_ne_nil
  | cons first rest =>
      rw [digits] at all unpadded read
      have unsigned : first ≠ '+' := by
        rintro rfl
        exact absurd (all '+' List.mem_cons_self) (by decide)
      simp [unsigned, otherRadix?_of_isDigit all, unpadded, read]

theorem repr_ne_of_all_isDigit {n : Nat} {word : String}
    (wordy : word.toList.all Char.isDigit = false) : n.repr ≠ word := by
  rintro rfl
  have digits : n.repr.toList.all Char.isDigit := by
    rw [Nat.toList_repr, List.all_eq_true]
    exact isDigit_of_mem_toDigits
  rw [digits] at wordy
  cases wordy

theorem plainTree_repr (n : Nat) : plainTree n.repr = .natural n := by
  have something : saysNothing n.repr = false := by
    have wordy : ∀ word ∈ nullWords, word.toList.all Char.isDigit = false := by decide
    have noWord : n.repr ∉ nullWords :=
      fun member => repr_ne_of_all_isDigit (wordy _ member) rfl
    simp [saysNothing, noWord]
  have noFlag : boolWords.lookup n.repr = none := by
    have wordy : ∀ entry ∈ boolWords, entry.1.toList.all Char.isDigit = false := by decide
    rw [List.lookup_eq_none_iff]
    intro entry member
    simpa using repr_ne_of_all_isDigit (wordy entry member)
  rw [plainTree, something, noFlag, natural?_repr]
  rfl

def Writable (value : Value) : Prop :=
  ∃ node : Node Nat, node.tree? = some value

namespace Writable

@[simp]
theorem null : Writable .null :=
  ⟨.scalar .none .plain "null", rfl⟩

@[simp]
theorem string (text : String) : Writable (.string text) :=
  ⟨.scalar .none .quoted text, rfl⟩

@[simp]
theorem natural (value : Nat) : Writable (.natural value) :=
  ⟨.scalar .none .plain value.repr, congrArg some (plainTree_repr value)⟩

@[simp]
theorem ofText? (text : Option String) : Writable (.ofText? text) := by
  cases text with
  | none => exact null
  | some text => exact string text

@[simp]
theorem array {values : List Value} (each : ∀ value ∈ values, Writable value) :
    Writable (.array values) := by
  have items : ∃ nodes, Node.treeItems? nodes = some values := by
    induction values with
    | nil => exact ⟨[], rfl⟩
    | cons value rest ih =>
        obtain ⟨⟨node, head⟩, each⟩ := List.forall_mem_cons.1 each
        obtain ⟨nodes, tail⟩ := ih each
        exact ⟨node :: nodes, by simp [Node.treeItems?, head, tail]⟩
  obtain ⟨nodes, read⟩ := items
  exact ⟨.sequence .none nodes, by simp [Node.tree?, Properties.none, read]⟩

@[simp]
theorem ofMembers {members : List (String × Value)} (each : ∀ member ∈ members, Writable member.2) :
    Writable (.ofMembers members) := by
  have pairs : ∃ pairs, Node.treeMembers? pairs = some members := by
    induction members with
    | nil => exact ⟨[], rfl⟩
    | cons member rest ih =>
        obtain ⟨⟨node, head⟩, each⟩ := List.forall_mem_cons.1 each
        obtain ⟨⟨key, named⟩, pairs, tail⟩ := And.intro (string member.1) (ih each)
        refine ⟨(key, node) :: pairs, ?_⟩
        simp [Node.treeMembers?, named, keyText?, head, tail]
  obtain ⟨pairs, read⟩ := pairs
  exact ⟨.mapping .none pairs, by simp [Node.tree?, Properties.none, read]⟩

end Writable

end PageSelectors.Yaml
