import Mathlib.Data.List.Nodup
import Mathlib.Data.List.Perm.Subperm
import PageSelectors.Proofs.Catalog.Afresh
import PageSelectors.Proofs.Catalog.Building

/-!
What entries share when a catalog is built. An entry in the table was put together from entries in
the table alone, and what is in progress is not in the table. So the table gives the same selectors
as building afresh, whatever is in progress, and a catalog is the same with the table and without.
-/

namespace PageSelectors.Catalog

open Outcome Building Stateful

def Refines (first second : String → Except Fault XPath.Chain) : Prop :=
  ∀ name chain, first name = .ok chain → second name = .ok chain

theorem Refines.boundaryOf {first second : String → Except Fault Selector}
    (refines : ∀ name selector, first name = .ok selector → second name = .ok selector) :
    Refines (boundaryOf first) (boundaryOf second) := by
  intro name chain resolved
  obtain ⟨selector, built, given⟩ := bind_eq_ok_iff.1 resolved
  exact bind_eq_ok_iff.2 ⟨selector, refines name selector built, given⟩

/-- A part of a selector that waits to be told what boundary names stand for. -/
abbrev Pending := ReaderT (String → Except Fault XPath.Chain) (Except Fault)

namespace Pending

def mention (name : String) : Pending XPath.Chain :=
  fun resolve => resolve name

/-- A part that is put together with one resolver is put together the same with any that resolves
more. -/
def Monotone {α : Type} (pending : Pending α) : Prop :=
  ∀ first second, Refines first second → ∀ value, pending first = .ok value →
    pending second = .ok value

theorem Monotone.bind {α β : Type} {pending : Pending α} {next : α → Pending β}
    (first : pending.Monotone) (rest : ∀ value, (next value).Monotone) :
    Monotone (pending >>= next) := by
  intro less more refines result assembled
  obtain ⟨value, found, finished⟩ := bind_eq_ok_iff.1 assembled
  exact bind_eq_ok_iff.2
    ⟨value, first less more refines value found, rest value less more refines result finished⟩

def told (resolve : String → Except Fault XPath.Chain) : Simulation Pending (Except Fault) where
  Relates pending outcome := pending resolve = outcome
  value _ := rfl
  fault _ := rfl
  sequence {_ _ left right _ _} first rest := by
    change left resolve >>= _ = right >>= _
    rw [first]
    exact congrArg _ (funext rest)

def monotone : Simulation Pending Pending where
  Relates pending _ := pending.Monotone
  value _ := fun _ _ _ _ same => same
  fault _ := fun _ _ _ _ same => same
  sequence first rest := first.bind rest

theorem monotone_mention (name : String) :
    monotone.Relates (mention name) (mention name) :=
  fun _ _ refines chain resolved => refines name chain resolved

theorem assemble_mention (definition : Definition)
    (resolve : String → Except Fault XPath.Chain) :
    definition.assemble mention resolve = definition.assemble resolve :=
  (told resolve).assemble (fun _ => rfl) definition

end Pending

/-- A definition that is put together with one resolver is put together the same with any that
resolves more. -/
theorem Refines.assemble {first second : String → Except Fault XPath.Chain}
    (refines : Refines first second) {definition : Definition} {selector : Selector}
    (assembled : definition.assemble first = .ok selector) :
    definition.assemble second = .ok selector := by
  rw [← Pending.assemble_mention] at assembled ⊢
  have monotone : Pending.Monotone (definition.assemble Pending.mention) :=
    Pending.monotone.assemble Pending.monotone_mention definition
  exact monotone first second refines selector assembled

def lookUp (built : List (String × Selector)) (name : String) : Except Fault Selector :=
  match built.lookup name with
  | some selector => .ok selector
  | none => .error (.catalog name .absent)

theorem lookUp_eq_ok_iff {built : List (String × Selector)} {name : String} {selector : Selector} :
    lookUp built name = .ok selector ↔ built.lookup name = some selector := by
  unfold lookUp
  cases built.lookup name with
  | none => simp
  | some found => simp

/-- The invariant of a build: the table holds what is built afresh under any stack of names that are
not in it, and what is in progress is not in it. -/
structure Workshop.Sound (definitions : Table Definition) (workshop : Workshop) : Prop where
  agrees : ∀ name selector, workshop.built.lookup name = some selector →
    ∀ stack, (∀ other ∈ stack, workshop.built.lookup other = none) →
      buildAfresh definitions stack name = .ok selector
  apart : ∀ name ∈ workshop.inProgress, workshop.built.lookup name = none

/-- What a part of a build does to its workshop, whether it fails or not: nothing is lost from the
table, the stack is as it was, and the invariant is kept. -/
structure Workshop.Kept (definitions : Table Definition) (before after : Workshop) : Prop where
  sound : after.Sound definitions
  stack : after.inProgress = before.inProgress
  grows : ∀ name selector, before.built.lookup name = some selector →
    after.built.lookup name = some selector

namespace Workshop

variable {definitions : Table Definition} {workshop before middle after : Workshop}
  {name : String}

theorem Kept.refl (sound : workshop.Sound definitions) : Kept definitions workshop workshop :=
  ⟨sound, rfl, fun _ _ found => found⟩

theorem Kept.trans (first : Kept definitions before middle)
    (second : Kept definitions middle after) : Kept definitions before after :=
  ⟨second.sound, second.stack.trans first.stack,
    fun name selector found => second.grows name selector (first.grows name selector found)⟩

theorem Sound.empty : Sound definitions Workshop.empty :=
  ⟨by simp [Workshop.empty], by simp [Workshop.empty]⟩

theorem Sound.push (sound : workshop.Sound definitions)
    (fresh : workshop.built.lookup name = none) : (workshop.push name).Sound definitions := by
  refine ⟨sound.agrees, ?_⟩
  exact List.forall_mem_append.2 ⟨sound.apart, List.forall_mem_singleton.2 fresh⟩

theorem Sound.pop (sound : workshop.Sound definitions) : workshop.pop.Sound definitions :=
  ⟨sound.agrees, fun other onStack => sound.apart other (List.dropLast_subset _ onStack)⟩

/-- What is put together from the table alone can be built afresh under any stack of names that are
neither in the table nor its own. -/
theorem Sound.buildsAfresh (sound : workshop.Sound definitions) {definition : Definition}
    {selector : Selector} (found : definitions.get? name = some definition)
    (fresh : workshop.built.lookup name = none)
    (assembled : definition.assemble (boundaryOf (lookUp workshop.built)) = .ok selector)
    {stack : List String} (offStack : name ∉ stack)
    (outside : ∀ other ∈ stack, workshop.built.lookup other = none) :
    buildAfresh definitions stack name = .ok selector := by
  refine buildAfresh_eq_ok_iff.2 ⟨offStack, definition, found, ?_⟩
  have refines : Refines (boundaryOf (lookUp workshop.built))
      (boundaryOf (buildAfresh definitions (stack ++ [name]))) := by
    apply Refines.boundaryOf
    intro mentioned boundary known
    apply sound.agrees mentioned boundary (lookUp_eq_ok_iff.1 known)
    intro other onStack
    rcases List.mem_append.1 onStack with below | top
    · exact outside other below
    · rw [List.mem_singleton.1 top]
      exact fresh
  exact refines.assemble assembled

theorem Sound.keep (sound : workshop.Sound definitions) {definition : Definition}
    {selector : Selector} {stack : List String} (found : definitions.get? name = some definition)
    (progress : workshop.inProgress = stack ++ [name]) (offStack : name ∉ stack)
    (assembled : definition.assemble (boundaryOf (lookUp workshop.built)) = .ok selector) :
    (workshop.pop.keep name selector).Sound definitions := by
  have fresh : workshop.built.lookup name = none :=
    sound.apart name (by simp [progress])
  have stacked : workshop.pop.inProgress = stack := by
    simp [Workshop.pop, progress]
  constructor
  · intro other kept listed passed outside
    have outside' : ∀ third ∈ passed, third ≠ name ∧ workshop.built.lookup third = none := by
      intro third onStack
      have absent := outside third onStack
      simp only [Workshop.keep, Workshop.pop, List.lookup_cons] at absent
      split at absent
      · simp at absent
      · next different => exact ⟨by simpa using different, absent⟩
    simp only [Workshop.keep, Workshop.pop, List.lookup_cons] at listed
    split at listed
    · next same =>
      obtain rfl : other = name := by simpa using same
      obtain rfl : selector = kept := by simpa using listed
      exact sound.buildsAfresh found fresh assembled
        (fun onStack => (outside' _ onStack).1 rfl) fun third onStack => (outside' third onStack).2
    · exact sound.agrees other kept listed passed fun third onStack => (outside' third onStack).2
  · intro other onStack
    have below : other ∈ stack := stacked ▸ onStack
    have different : (other == name) = false := by
      rw [beq_eq_false_iff_ne]
      rintro rfl
      exact offStack below
    have absent := sound.apart other (by simp [progress, below])
    simp only [Workshop.keep, Workshop.pop, List.lookup_cons, different, absent]

end Workshop

/-- A part of a build follows a pending part under a stack: in every sound workshop with that stack,
its outcome is the pending part's with boundaries built afresh, and what it succeeds with, the table
it leaves suffices to put together again. -/
structure Follows (definitions : Table Definition) (stack : List String) {α : Type}
    (part : Building α) (pending : Pending α) : Prop where
  monotone : pending.Monotone
  outcome : ∀ workshop : Workshop, workshop.Sound definitions → workshop.inProgress = stack →
    (perform part workshop).1 = pending (boundaryOf (buildAfresh definitions stack))
  kept : ∀ workshop : Workshop, workshop.Sound definitions → workshop.inProgress = stack →
    workshop.Kept definitions (perform part workshop).2
  recorded : ∀ workshop : Workshop, workshop.Sound definitions → workshop.inProgress = stack →
    ∀ value, (perform part workshop).1 = .ok value →
      pending (boundaryOf (lookUp (perform part workshop).2.built)) = .ok value

namespace Follows

variable {definitions : Table Definition} {stack : List String} {α β : Type}

theorem value (result : α) : Follows definitions stack (pure result) (pure result) where
  monotone := Pending.monotone.value result
  outcome _ _ _ := rfl
  kept _ sound _ := Workshop.Kept.refl sound
  recorded _ _ _ _ same := same

theorem fault (reason : Fault) :
    Follows definitions stack (throw reason : Building α) (throw reason) where
  monotone := Pending.monotone.fault reason
  outcome _ _ _ := rfl
  kept _ sound _ := Workshop.Kept.refl sound
  recorded _ _ _ _ same := same

theorem sequence {part : Building α} {pending : Pending α} {next : α → Building β}
    {pendingNext : α → Pending β} (first : Follows definitions stack part pending)
    (rest : ∀ result, Follows definitions stack (next result) (pendingNext result)) :
    Follows definitions stack (part >>= next) (pending >>= pendingNext) := by
  refine ⟨first.monotone.bind fun result => (rest result).monotone, ?_, ?_, ?_⟩
  · intro workshop sound progress
    have outcome := first.outcome workshop sound progress
    have kept := first.kept workshop sound progress
    change _ = pending _ >>= fun result => pendingNext result _
    rw [perform_bind, ← outcome]
    generalize perform part workshop = performed at kept
    rcases performed with ⟨fault | result, after⟩
    · rfl
    · exact (rest result).outcome after kept.sound (kept.stack.trans progress)
  · intro workshop sound progress
    have kept := first.kept workshop sound progress
    rw [perform_bind]
    generalize perform part workshop = performed at kept
    rcases performed with ⟨fault | result, after⟩
    · exact kept
    · exact kept.trans ((rest result).kept after kept.sound (kept.stack.trans progress))
  · intro workshop sound progress final
    have kept := first.kept workshop sound progress
    have recorded := first.recorded workshop sound progress
    rw [perform_bind]
    generalize perform part workshop = performed at kept recorded
    rcases performed with ⟨fault | result, after⟩
    · simp
    · intro finished
      have afterKept := (rest result).kept after kept.sound (kept.stack.trans progress)
      have known : Refines (boundaryOf (lookUp after.built))
          (boundaryOf (lookUp (perform (next result) after).2.built)) := by
        apply Refines.boundaryOf
        intro name selector listed
        exact lookUp_eq_ok_iff.2 (afterKept.grows name selector (lookUp_eq_ok_iff.1 listed))
      refine bind_eq_ok_iff.2 ⟨result, ?_, ?_⟩
      · exact first.monotone _ _ known result (recorded result rfl)
      · exact (rest result).recorded after kept.sound (kept.stack.trans progress) final finished

def simulation (definitions : Table Definition) (stack : List String) :
    Simulation Building Pending where
  Relates := Follows definitions stack
  value := value
  fault := fault
  sequence := sequence

end Follows

/-- A stack that leaves enough fuel: each unit spent so far is the name of another definition. -/
structure Room (definitions : Table Definition) (fuel : Nat) (stack : List String) : Prop where
  distinct : stack.Nodup
  known : ∀ name ∈ stack, name ∈ definitions.names
  enough : definitions.entries.length ≤ fuel + stack.length

namespace Room

variable {definitions : Table Definition} {fuel : Nat} {stack : List String} {name : String}

theorem start (definitions : Table Definition) :
    Room definitions definitions.entries.length [] :=
  ⟨List.nodup_nil, by simp, by simp⟩

theorem push (room : Room definitions (fuel + 1) stack) (offStack : name ∉ stack)
    (defined : name ∈ definitions.names) : Room definitions fuel (stack ++ [name]) := by
  refine ⟨?_, List.forall_mem_append.2 ⟨room.known, List.forall_mem_singleton.2 defined⟩, ?_⟩
  · rw [← List.concat_eq_append]
    exact room.distinct.concat offStack
  · have enough := room.enough
    simp only [List.length_append, List.length_singleton]
    omega

theorem full (room : Room definitions 0 stack) (defined : name ∈ definitions.names) :
    name ∈ stack := by
  have inside : stack.Subperm definitions.names :=
    List.subperm_of_subset room.distinct room.known
  have long : definitions.names.length ≤ stack.length := by
    simpa [Table.names] using room.enough
  exact (inside.perm_of_length_le long).symm.subset defined

end Room

structure Builds (definitions : Table Definition) (stack : List String) (name : String)
    (before : Workshop) (performed : Except Fault Selector × Workshop) : Prop where
  outcome : performed.1 = buildAfresh definitions stack name
  kept : before.Kept definitions performed.2
  listed : ∀ selector, performed.1 = .ok selector →
    performed.2.built.lookup name = some selector

section Entries

variable {definitions : Table Definition} {fuel : Nat} {stack : List String}

theorem follows_buildBoundary
    (builds : ∀ name (workshop : Workshop), workshop.Sound definitions →
      workshop.inProgress = stack →
        Builds definitions stack name workshop
          (perform (buildEntry definitions fuel name) workshop)) (name : String) :
    Follows definitions stack (buildBoundary definitions fuel name) (Pending.mention name) := by
  refine ⟨Pending.monotone_mention name, ?_, ?_, ?_⟩
  · intro workshop sound progress
    have outcome := (builds name workshop sound progress).outcome
    change _ = buildAfresh definitions stack name >>= boundaryChain name
    rw [perform_buildBoundary, ← outcome]
  · intro workshop sound progress
    rw [perform_buildBoundary]
    exact (builds name workshop sound progress).kept
  · intro workshop sound progress chain given
    have listed := (builds name workshop sound progress).listed
    rw [perform_buildBoundary] at given ⊢
    obtain ⟨selector, built, chained⟩ := bind_eq_ok_iff.1 given
    exact bind_eq_ok_iff.2 ⟨selector, lookUp_eq_ok_iff.2 (listed selector built), chained⟩

/-- An entry that is not built, not in progress and defined is the only one that takes work. -/
theorem builds_or_defined (name : String) {workshop : Workshop}
    (sound : workshop.Sound definitions) (progress : workshop.inProgress = stack) :
    Builds definitions stack name workshop
        (perform (buildEntry definitions fuel name) workshop) ∨
      workshop.built.lookup name = none ∧ name ∉ stack ∧
        ∃ definition, definitions.get? name = some definition := by
  cases built : workshop.built.lookup name with
  | some selector =>
      have outside : ∀ other ∈ stack, workshop.built.lookup other = none := progress ▸ sound.apart
      have same := sound.agrees name selector built stack outside
      rw [buildEntry_of_built built]
      exact .inl ⟨same.symm, .refl sound, fun other given => by simp_all⟩
  | none =>
      by_cases onStack : name ∈ stack
      · rw [buildEntry_of_inProgress built (progress ▸ onStack)]
        refine .inl ⟨?_, .refl sound, fun _ given => by simp at given⟩
        rw [buildAfresh_of_mem onStack, Workshop.current, progress]
      · cases found : definitions.get? name with
        | none =>
            rw [buildEntry_of_unknown built (progress ▸ onStack) found]
            refine .inl ⟨?_, .refl sound, fun _ given => by simp at given⟩
            rw [buildAfresh_of_none onStack found, Workshop.current, progress]
        | some definition => exact .inr ⟨rfl, onStack, definition, rfl⟩

/-- With fuel for every definition, an entry is built as it is built afresh, whatever the table
holds and whatever is in progress. -/
theorem buildEntry_builds (room : Room definitions fuel stack) (name : String)
    {workshop : Workshop} (sound : workshop.Sound definitions)
    (progress : workshop.inProgress = stack) :
    Builds definitions stack name workshop
      (perform (buildEntry definitions fuel name) workshop) := by
  induction fuel generalizing stack name workshop with
  | zero =>
      rcases builds_or_defined name sound progress with builds | ⟨_, offStack, definition, found⟩
      · exact builds
      · exact absurd (room.full (Table.mem_names_iff.2 ⟨definition, found⟩)) offStack
  | succ fuel ih =>
      rcases builds_or_defined name sound progress with
        builds | ⟨fresh, offStack, definition, found⟩
      · exact builds
      have deeper := room.push offStack (Table.mem_names_iff.2 ⟨definition, found⟩)
      have follows := (Follows.simulation definitions (stack ++ [name])).assemble
        (follows_buildBoundary fun name workshop sound progress =>
          ih deeper name sound progress) definition
      have pushed := sound.push fresh
      have top : (workshop.push name).inProgress = stack ++ [name] := by
        simp [Workshop.push, progress]
      have outcome := follows.outcome _ pushed top
      have kept := follows.kept _ pushed top
      have recorded := follows.recorded _ pushed top
      rw [Pending.assemble_mention] at outcome
      rw [buildEntry_of_defined fresh (progress ▸ offStack) found]
      generalize perform (definition.assemble (buildBoundary definitions fuel))
        (workshop.push name) = performed at outcome kept recorded
      have popped : performed.2.pop.inProgress = workshop.inProgress := by
        simp [Workshop.pop, kept.stack, top, progress]
      rcases performed with ⟨fault | selector, after⟩
      · refine ⟨?_, ⟨kept.sound.pop, popped, kept.grows⟩, fun _ given => by simp at given⟩
        rw [buildAfresh_of_some offStack found, ← outcome]
        rfl
      · have assembled := recorded selector rfl
        rw [Pending.assemble_mention] at assembled
        have keptSound := kept.sound.keep found (kept.stack.trans top) offStack assembled
        refine ⟨?_, ⟨keptSound, popped, ?_⟩, ?_⟩
        · rw [buildAfresh_of_some offStack found, ← outcome]
          rfl
        · intro other listed present
          have different : other ≠ name := by
            rintro rfl
            rw [fresh] at present
            simp at present
          simpa [Workshop.keep, Workshop.pop, List.lookup_cons, beq_eq_false_iff_ne.2 different]
            using kept.grows other listed present
        · intro given same
          simpa [Workshop.keep] using same

end Entries

theorem compileEntry_perform {definitions : Table Definition} (name : String)
    (definition : Definition) {workshop : Workshop} (sound : workshop.Sound definitions)
    (idle : workshop.inProgress = []) :
    (perform (compileEntry definitions name definition) workshop).1 =
        compileAfresh definitions name definition ∧
      workshop.Kept definitions (perform (compileEntry definitions name definition) workshop).2 := by
  have builds := buildEntry_builds (.start definitions) name sound idle
  unfold compileEntry compileAfresh
  rw [perform_bind, ← builds.outcome]
  have kept := builds.kept
  generalize perform (buildEntry definitions definitions.entries.length name) workshop = performed
    at kept
  rcases performed with ⟨fault | selector, after⟩
  · exact ⟨rfl, kept⟩
  · simp only [perform_bind, perform_settle, ok_bind]
    cases (Query.compile selector).mapError (Fault.within name) with
    | error fault => exact ⟨rfl, kept⟩
    | ok query => exact ⟨rfl, kept⟩

theorem compileEntries_perform {definitions : Table Definition}
    (entries : List (String × Definition)) {workshop : Workshop}
    (sound : workshop.Sound definitions) (idle : workshop.inProgress = []) :
    (perform (compileEntries definitions entries) workshop).1 =
      entries.mapM fun listed => compileAfresh definitions listed.1 listed.2 := by
  induction entries generalizing workshop with
  | nil => rfl
  | cons listed rest ih =>
      obtain ⟨name, definition⟩ := listed
      obtain ⟨outcome, kept⟩ := compileEntry_perform name definition sound idle
      rw [compileEntries, List.mapM_cons, perform_bind, ← outcome]
      generalize perform (compileEntry definitions name definition) workshop = performed at kept
      rcases performed with ⟨fault | entry, after⟩
      · rfl
      · have others := ih kept.sound (kept.stack.trans idle)
        rw [ok_bind, ← others]
        simp only [perform_bind]
        rcases perform (compileEntries definitions rest) after with ⟨fault | entries, last⟩
        · rfl
        · rfl

theorem ofFile_eq_afresh (file : File) : ofFile file = ofFileAfresh file := by
  have entries := compileEntries_perform file.selectors.entries
    (.empty : Workshop.empty.Sound file.selectors) rfl
  unfold ofFile ofFileAfresh
  rw [← entries]
  rfl

/-- In an ordered list, the names before an entry are those that come before it in a split. -/
theorem fst_lt_iff_mem_before {α : Type} {before after : List (String × α)} {entry : String × α}
    (sorted : (before ++ entry :: after).Pairwise (·.1 < ·.1)) {other : String × α}
    (member : other ∈ before ++ entry :: after) : other.1 < entry.1 ↔ other ∈ before := by
  obtain ⟨_, tail, across⟩ := List.pairwise_append.1 sorted
  constructor
  · intro less
    rcases List.mem_append.1 member with inside | later
    · exact inside
    · rcases List.mem_cons.1 later with rfl | later
      · exact absurd less (String.lt_irrefl _)
      · exact absurd (String.lt_trans less (List.rel_of_pairwise_cons tail later))
          (String.lt_irrefl _)
  · intro inside
    exact across other inside entry List.mem_cons_self

/-- The table that entries share changes nothing. A catalog is what compiling every entry afresh
gives; its entries are those that are compiled afresh, and if there is a fault, it is the one that
the first failing name gives afresh. -/
theorem ofFile_shared_eq_afresh (file : File) :
    ofFile file = ofFileAfresh file ∧
      (∀ catalog, ofFile file = .ok catalog ↔
        List.Forall₂ (fun listed entry => compileAfresh file.selectors listed.1 listed.2 = .ok entry)
          file.selectors.entries catalog.entries) ∧
      ∀ fault, ofFile file = .error fault ↔
        ∃ listed ∈ file.selectors.entries,
          compileAfresh file.selectors listed.1 listed.2 = .error fault ∧
          ∀ other ∈ file.selectors.entries, other.1 < listed.1 →
            ∃ entry, compileAfresh file.selectors other.1 other.2 = .ok entry := by
  refine ⟨ofFile_eq_afresh file, ?_, ?_⟩
  · intro catalog
    rw [ofFile_eq_afresh, ofFileAfresh, bind_pure_eq_ok_iff]
    constructor
    · rintro ⟨entries, compiled, rfl⟩
      exact mapM_eq_ok_iff.1 compiled
    · intro compiled
      exact ⟨catalog.entries, mapM_eq_ok_iff.2 compiled, rfl⟩
  · intro fault
    rw [ofFile_eq_afresh, ofFileAfresh, bind_pure_eq_error_iff, mapM_eq_error_iff]
    constructor
    · rintro ⟨before, listed, after, split, passed, failed⟩
      have sorted := split ▸ file.selectors.sorted
      refine ⟨listed, by simp [split], failed, ?_⟩
      intro other member less
      exact passed other ((fst_lt_iff_mem_before sorted (split ▸ member)).1 less)
    · rintro ⟨listed, member, failed, passed⟩
      obtain ⟨before, after, split⟩ := List.append_of_mem member
      have sorted := split ▸ file.selectors.sorted
      refine ⟨before, listed, after, split, ?_, failed⟩
      intro other inside
      have member : other ∈ before ++ listed :: after := List.mem_append_left _ inside
      exact passed other (split ▸ member) ((fst_lt_iff_mem_before sorted member).2 inside)

end PageSelectors.Catalog
