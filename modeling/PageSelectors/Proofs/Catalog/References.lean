import Mathlib.Data.List.Chain
import Mathlib.Data.List.Nodup
import PageSelectors.Proofs.Catalog.AssemblyFaults
import PageSelectors.Proofs.Catalog.Blame

/-!
What the faults of catalogs point at. The entries in progress are a walk along boundaries on which
no name comes twice. So a fault names an entry of the file: one that mentions a name without a
definition, one whose mention closes a cycle, or one whose own text is refused.
-/

namespace PageSelectors

open Outcome

namespace Catalog

variable {definitions : Table Definition} {stack : List String} {name : String}

/-- The state of a build that asks for a name: the entries in progress lead to it, each by a mention
in the definition of the one before, and no name among them comes twice. -/
structure Walk (definitions : Table Definition) (stack : List String) (name : String) : Prop where
  known : ∀ other ∈ stack, other ∈ definitions.names
  distinct : stack.Nodup
  linked : (stack ++ [name]).IsChain (Mentions definitions)
  starts : stack = [] → name ∈ definitions.names

theorem Walk.start (listed : name ∈ definitions.names) : Walk definitions [] name :=
  ⟨by simp, List.nodup_nil, by simp, fun _ => listed⟩

theorem Walk.push (walk : Walk definitions stack name) (offStack : name ∉ stack)
    {mentioned : String} (mentions : Mentions definitions name mentioned) :
    Walk definitions (stack ++ [name]) mentioned := by
  obtain ⟨definition, found, -⟩ := id mentions
  constructor
  case known =>
    have listed := Table.mem_names_iff.2 ⟨definition, found⟩
    exact List.forall_mem_append.2 ⟨walk.known, List.forall_mem_singleton.2 listed⟩
  case distinct =>
    rw [← List.concat_eq_append]
    exact walk.distinct.concat offStack
  case linked =>
    rw [List.append_assoc, List.singleton_append, List.isChain_split]
    exact ⟨walk.linked, List.isChain_pair.2 mentions⟩
  case starts => simp

/-- Whether a reference fault of an entry is as it says: the entry mentions a name that is not
defined, or one that is already on the walk of different names which ends in the entry. -/
inductive Genuine (definitions : Table Definition) : String → ReferenceFault → Prop
  | unknown {entry name : String} : name ∉ definitions.names → Mentions definitions entry name →
      Genuine definitions entry (.unknown name)
  | cycle {entry again : String} {stack : List String} :
      (stack ++ [again]).IsChain (Mentions definitions) → stack.Nodup →
        (∀ name ∈ stack, name ∈ definitions.names) → again ∈ stack → stack.getLast? = some entry →
          Genuine definitions entry (.cycle (stack ++ [again]))

/-- A cycle is a walk along boundaries that comes back to an entry. -/
theorem Genuine.returns {entry : String} {walk : List String}
    (genuine : Genuine definitions entry (.cycle walk)) :
    ∃ name, Relation.TransGen (Mentions definitions) name name := by
  cases genuine with
  | @cycle again stack linked _ _ onStack _ =>
      obtain ⟨before, after, rfl⟩ := List.append_of_mem onStack
      rw [List.append_assoc, List.isChain_append] at linked
      have walks : ((again :: after) ++ [again]).Pairwise (Relation.TransGen (Mentions definitions)) :=
        List.isChain_iff_pairwise.1 (linked.2.1.imp fun _ _ => Relation.TransGen.single)
      exact ⟨again, List.rel_of_pairwise_cons walks (by simp)⟩

def PointsAt (definitions : Table Definition) (entry : String) (fault : Fault) : Prop :=
  (∃ reference, fault = .catalog entry reference ∧ Genuine definitions entry reference) ∨
    ∃ source, fault = .inEntry entry source ∧ source.OfSelector

def Points (definitions : Table Definition) (fault : Fault) : Prop :=
  ∃ entry ∈ definitions.names, PointsAt definitions entry fault

/-- A fault that points at an entry keeps pointing at it, and one of a selector points at the entry
whose name it is given. -/
theorem points_within (listed : name ∈ definitions.names) {fault : Fault}
    (given : fault.OfSelector ∨ Points definitions fault) :
    Points definitions (fault.within name) := by
  rcases given with ofSelector | points
  · rw [ofSelector.isBare.within]
    exact ⟨name, listed, .inr ⟨fault, rfl, ofSelector⟩⟩
  · obtain ⟨entry, _, ⟨reference, rfl, _⟩ | ⟨source, rfl, _⟩⟩ := id points
    · exact points
    · exact points

theorem Walk.exists_last (walk : Walk definitions stack name)
    (nonempty : stack ≠ []) :
    ∃ entry ∈ stack, stack.getLast? = some entry ∧ Mentions definitions entry name := by
  have last := List.getLast?_eq_getLast_of_ne_nil nonempty
  refine ⟨stack.getLast nonempty, List.getLast_mem nonempty, last, ?_⟩
  exact (List.isChain_append.1 walk.linked).2.2 _ last _ rfl

/-- What goes wrong in building an entry points at an entry, whatever is in progress. -/
theorem failsOnly_buildAfresh (stack : List String) (name : String)
    (walk : Walk definitions stack name) :
    FailsOnly (Points definitions) (buildAfresh definitions stack name) := by
  by_cases onStack : name ∈ stack
  · obtain ⟨entry, inStack, last, -⟩ := walk.exists_last (List.ne_nil_of_mem onStack)
    rw [buildAfresh_of_mem onStack, last]
    refine .fault ⟨entry, walk.known entry inStack, .inl ⟨_, rfl, ?_⟩⟩
    exact .cycle walk.linked walk.distinct walk.known onStack last
  · cases found : definitions.get? name with
    | none =>
        have unlisted : name ∉ definitions.names := by
          simp [Table.mem_names_iff, found]
        obtain ⟨entry, inStack, last, mentions⟩ :=
          walk.exists_last fun nothing => unlisted (walk.starts nothing)
        rw [buildAfresh_of_none onStack found, last]
        refine .fault ⟨entry, walk.known entry inStack, .inl ⟨_, rfl, ?_⟩⟩
        exact .unknown unlisted mentions
    | some definition =>
        have listed := Table.mem_names_iff.2 ⟨definition, found⟩
        have shorter := remaining_push_lt onStack listed
        rw [buildAfresh_of_some onStack found]
        let met (fault : Fault) : Prop := fault.OfSelector ∨ Points definitions fault
        have resolves : ∀ mentioned ∈ definition.mentions, FailsOnly met
            (boundaryOf (buildAfresh definitions (stack ++ [name])) mentioned) := by
          intro mentioned member fault failed
          rcases boundaryOf_eq_error failed with unbuilt | ⟨what, grammar, rfl⟩
          · have deeper := walk.push onStack ⟨definition, found, member⟩
            exact .inr (failsOnly_buildAfresh (stack ++ [name]) mentioned deeper fault unbuilt)
          · exact .inl trivial
        have own (fault : Fault) (ofSelector : fault.OfSelector) : met fault := .inl ofSelector
        have assembles := Definition.failsOnly_assemble own resolves
        cases assembled : definition.assemble
            (boundaryOf (buildAfresh definitions (stack ++ [name]))) with
        | ok selector => exact .value selector
        | error fault => exact .fault (points_within listed (assembles fault assembled))
termination_by (remaining definitions stack).length

theorem failsOnly_compileAfresh {definition : Definition} (listed : name ∈ definitions.names) :
    FailsOnly (Points definitions) (compileAfresh definitions name definition) := by
  intro fault failed
  rcases compileAfresh_eq_error failed with unbuilt | ⟨selector, reason, -, rendered, rfl⟩
  · exact failsOnly_buildAfresh [] name (.start listed) fault unbuilt
  · have ofChain := selector.failsOnly_render reason rendered
    exact ⟨name, listed, .inr ⟨reason, rfl, ofChain.ofSelector⟩⟩

/-- A file that makes no catalog has a fault that names one of its entries. Either the entry mentions
a name without a definition, or its mention closes a walk of mentions, or its own selector is not
valid or not of its grammar. So a file in which no walk comes back has no cycle to report. -/
theorem points_of_ofFile {file : File} {fault : Fault} (failed : ofFile file = .error fault) :
    (∃ entry ∈ file.selectors.names,
      (∃ reference, fault = .catalog entry reference ∧ Genuine file.selectors entry reference) ∨
        ∃ source, fault = .inEntry entry source ∧ source.IsBare ∧
          ((∃ what grammar, source = .grammarMismatch what grammar) ∨
            source.isValidation = true)) ∧
      ((∀ name, ¬ Relation.TransGen (Mentions file.selectors) name name) →
        ∀ entry walk, fault ≠ .catalog entry (.cycle walk)) := by
  have points : Points file.selectors fault := by
    rw [ofFile_eq_afresh, ofFileAfresh, bind_pure_eq_error_iff, mapM_eq_error_iff] at failed
    obtain ⟨before, ⟨name, definition⟩, after, split, -, failed⟩ := failed
    refine failsOnly_compileAfresh ?_ fault failed
    exact List.mem_map.2 ⟨(name, definition), by simp [split], rfl⟩
  obtain ⟨entry, listed, pointed⟩ := points
  constructor
  · refine ⟨entry, listed, pointed.imp_right ?_⟩
    rintro ⟨source, rfl, ofSelector⟩
    exact ⟨source, rfl, ofSelector.isBare, ofSelector.mismatch_or_isValidation⟩
  · rintro acyclic other walk rfl
    obtain ⟨_, ⟨⟩, genuine⟩ | ⟨_, ⟨⟩, -⟩ := pointed
    obtain ⟨name, returns⟩ := genuine.returns
    exact acyclic name returns

def rowStep (conditions : List ConditionDefinition) : StepDefinition :=
  ⟨.page, some "tr", conditions, none⟩

/-- A file in which an entry mentions another twice, once by way of a third, and the third is on a
cycle. -/
def loopFile : File where
  selectors := .ofList
    [("cell", ⟨.xpath, none, none,
        [rowStep [.boundary "end"], ⟨.limitedBy, none, [], some "row"⟩]⟩),
      ("end", ⟨.xpath, none, none, [rowStep []]⟩),
      ("row", ⟨.xpath, none, none,
        [rowStep [.boundary "end"], ⟨.limitedBy, none, [], some "table"⟩]⟩),
      ("table", ⟨.xpath, none, none, [rowStep [.not (.boundary "row")]]⟩)]

theorem genuine_of_ofFile_loopFile :
    ofFile loopFile = .error (.catalog "table" (.cycle ["cell", "row", "table", "row"])) ∧
      Genuine loopFile.selectors "table" (.cycle ["cell", "row", "table", "row"]) := by
  have failed : (do return (fun _ => ()) (← ofFile loopFile)) =
      (.error (.catalog "table" (.cycle ["cell", "row", "table", "row"])) : Except Fault Unit) := by
    decide +kernel
  rw [bind_pure_eq_error_iff] at failed
  obtain ⟨⟨entry, -, ⟨reference, same, genuine⟩ | ⟨source, same, -⟩⟩, -⟩ := points_of_ofFile failed
  · cases same
    exact ⟨failed, genuine⟩
  · cases same

end Catalog

end PageSelectors
