import Mathlib.Data.List.Nodup
import Mathlib.Logic.Relation
import PageSelectors.Proofs.Catalog.Plan
import PageSelectors.Proofs.Catalog.References
import PageSelectors.Proofs.Catalog.Sharing

/-!
A build, one moment after another. Whatever mentions what in a file, a build comes to its end: the
entries in progress are different entries of the file, so they cannot nest without end, and each
entry that is asked for hands over an outcome and leaves the stack as it was.
-/

namespace PageSelectors.Catalog

open Building Stateful

inductive Task where
  | enter (name : String)
  | assemble (name : String) (plan : Plan Selector)
  | leave (outcome : Except Fault Selector)

structure Waiting where
  name : String
  mentioned : String
  next : Except Fault XPath.Chain → Plan Selector

/-- A moment of a build. Of the entries that wait, the one that waits for the current task is first. -/
structure Moment where
  task : Task
  workshop : Workshop
  waiting : List Waiting

def enter (definitions : Table Definition) (name : String) (workshop : Workshop)
    (waiting : List Waiting) : Moment :=
  match workshop.built.lookup name with
  | some selector => ⟨.leave (.ok selector), workshop, waiting⟩
  | none =>
    if name ∈ workshop.inProgress then
      ⟨.leave (.error (.catalog workshop.current (.cycle (workshop.inProgress ++ [name])))),
        workshop, waiting⟩
    else match definitions.get? name with
      | none => ⟨.leave (.error (.catalog workshop.current (.unknown name))), workshop, waiting⟩
      | some definition =>
          ⟨.assemble name (definition.assemble Plan.mention), workshop.push name, waiting⟩

theorem waiting_enter (definitions : Table Definition) (name : String) (workshop : Workshop)
    (waiting : List Waiting) : (enter definitions name workshop waiting).waiting = waiting := by
  unfold enter
  split
  · rfl
  · split
    · rfl
    · split <;> rfl

namespace Moment

def next? (definitions : Table Definition) : Moment → Option Moment
  | ⟨.enter name, workshop, waiting⟩ => some (Catalog.enter definitions name workshop waiting)
  | ⟨.assemble name (.done selector), workshop, waiting⟩ =>
      some ⟨.leave (.ok selector), workshop.pop.keep name selector, waiting⟩
  | ⟨.assemble name (.fail fault), workshop, waiting⟩ =>
      some ⟨.leave (.error (fault.within name)), workshop.pop, waiting⟩
  | ⟨.assemble name (.ask mentioned next), workshop, waiting⟩ =>
      some ⟨.enter mentioned, workshop, ⟨name, mentioned, next⟩ :: waiting⟩
  | ⟨.leave outcome, workshop, ⟨name, mentioned, next⟩ :: waiting⟩ =>
      some ⟨.assemble name (next (outcome >>= boundaryChain mentioned)), workshop, waiting⟩
  | ⟨.leave _, _, []⟩ => none

def opened (moment : Moment) : List String :=
  (moment.waiting.map Waiting.name).reverse ++
    match moment.task with
    | .assemble name _ => [name]
    | _ => []

/-- How many calls for an entry are under way: one for each entry that waits, and the one at hand,
which may not have opened its entry yet. -/
def nesting (moment : Moment) : Nat :=
  moment.waiting.length + 1

/-- The invariant of a build: the stack lists the entries that are being put together, which are
different entries of the file and not in the table, and the table has no other entries than the
file. -/
structure Orderly (definitions : Table Definition) (moment : Moment) : Prop where
  stacked : moment.workshop.inProgress = moment.opened
  distinct : moment.workshop.inProgress.Nodup
  known : ∀ name ∈ moment.workshop.inProgress, name ∈ definitions.names
  apart : ∀ name ∈ moment.workshop.inProgress, moment.workshop.built.lookup name = none
  tabled : ∀ entry ∈ moment.workshop.built, entry.1 ∈ definitions.names

variable {definitions : Table Definition} {moment after : Moment}

theorem Orderly.same (orderly : moment.Orderly definitions)
    (workshop : after.workshop = moment.workshop) (opened : after.opened = moment.opened) :
    after.Orderly definitions := by
  obtain ⟨task, shop, waiting⟩ := after
  cases workshop
  exact ⟨orderly.stacked.trans opened.symm, orderly.distinct, orderly.known, orderly.apart,
    orderly.tabled⟩

section Steps

variable {name : String} {workshop : Workshop} {waiting : List Waiting}

theorem Orderly.enter (orderly : Orderly definitions ⟨.enter name, workshop, waiting⟩) :
    (Catalog.enter definitions name workshop waiting).Orderly definitions := by
  unfold Catalog.enter
  split
  · exact orderly.same rfl rfl
  · next fresh =>
    split
    · exact orderly.same rfl rfl
    · next offStack =>
      split
      · exact orderly.same rfl rfl
      · next definition found =>
        obtain ⟨stacked, distinct, known, apart, tabled⟩ := orderly
        refine ⟨?_, ?_, ?_, ?_, tabled⟩
        · simpa [Workshop.push, opened] using stacked
        · rw [Workshop.push, ← List.concat_eq_append]
          exact distinct.concat offStack
        · have listed := Table.mem_names_iff.2 ⟨definition, found⟩
          exact List.forall_mem_append.2 ⟨known, List.forall_mem_singleton.2 listed⟩
        · exact List.forall_mem_append.2 ⟨apart, List.forall_mem_singleton.2 fresh⟩

theorem Orderly.stack_assemble {plan : Plan Selector}
    (orderly : Orderly definitions ⟨.assemble name plan, workshop, waiting⟩) :
    workshop.inProgress = (waiting.map Waiting.name).reverse ++ [name] :=
  orderly.stacked

theorem Orderly.pop {plan : Plan Selector} {outcome : Except Fault Selector}
    (orderly : Orderly definitions ⟨.assemble name plan, workshop, waiting⟩) :
    Orderly definitions ⟨.leave outcome, workshop.pop, waiting⟩ := by
  refine ⟨?_, ?_, ?_, ?_, orderly.tabled⟩
  · simp [Workshop.pop, orderly.stack_assemble, opened]
  · exact orderly.distinct.sublist (List.dropLast_sublist _)
  · intro other onStack
    exact orderly.known other (List.dropLast_subset _ onStack)
  · intro other onStack
    exact orderly.apart other (List.dropLast_subset _ onStack)

theorem Orderly.keep {plan : Plan Selector} {selector : Selector}
    (orderly : Orderly definitions ⟨.assemble name plan, workshop, waiting⟩) :
    Orderly definitions ⟨.leave (.ok selector), workshop.pop.keep name selector, waiting⟩ := by
  have popped : Orderly definitions ⟨.leave (.ok selector), workshop.pop, waiting⟩ := orderly.pop
  obtain ⟨stacked, distinct, known, apart, tabled⟩ := popped
  refine ⟨stacked, distinct, known, ?_, ?_⟩
  · intro other onStack
    have below : other ∈ (waiting.map Waiting.name).reverse := by
      simpa [Workshop.keep, Workshop.pop, orderly.stack_assemble] using onStack
    have different : other ≠ name := by
      have unique := orderly.distinct
      rw [orderly.stacked, opened, List.nodup_append] at unique
      exact unique.2.2 other below name (by simp)
    have absent := apart other onStack
    simpa [Workshop.keep, List.lookup_cons, beq_eq_false_iff_ne.2 different] using absent
  · have listed : name ∈ definitions.names := by
      apply orderly.known
      rw [orderly.stack_assemble]
      exact List.mem_concat_self
    exact List.forall_mem_cons.2 ⟨listed, tabled⟩

end Steps

theorem Orderly.next (orderly : moment.Orderly definitions)
    (advances : moment.next? definitions = some after) : after.Orderly definitions := by
  obtain ⟨task, workshop, waiting⟩ := moment
  match task, waiting with
  | .enter name, waiting =>
      cases advances
      exact orderly.enter
  | .assemble name (.done selector), waiting =>
      cases advances
      exact orderly.keep
  | .assemble name (.fail fault), waiting =>
      cases advances
      exact orderly.pop
  | .assemble name (.ask mentioned next), waiting =>
      cases advances
      exact orderly.same rfl (by simp [opened])
  | .leave outcome, ⟨name, mentioned, next⟩ :: waiting =>
      cases advances
      exact orderly.same rfl (by simp [opened])
  | .leave outcome, [] => simp [next?] at advances

end Moment

def Leads (definitions : Table Definition) : Moment → Moment → Prop :=
  Relation.ReflTransGen fun moment after => moment.next? definitions = some after

/-- The moments of builds that start from an empty workshop and ask for any entries, one after
another. -/
inductive Reachable (definitions : Table Definition) : Moment → Prop where
  | start (name : String) : Reachable definitions ⟨.enter name, Workshop.empty, []⟩
  | next {moment after : Moment} :
      Reachable definitions moment → moment.next? definitions = some after →
      Reachable definitions after
  | again {outcome : Except Fault Selector} {workshop : Workshop} (name : String) :
      Reachable definitions ⟨.leave outcome, workshop, []⟩ →
      Reachable definitions ⟨.enter name, workshop, []⟩

section Runs

variable {definitions : Table Definition} {moment middle after : Moment} {workshop : Workshop}
variable {name : String} {waiting : List Waiting} {fuel : Nat}

theorem Leads.step (advances : moment.next? definitions = some after) :
    Leads definitions moment after :=
  .single advances

theorem Leads.trans (first : Leads definitions moment middle)
    (second : Leads definitions middle after) : Leads definitions moment after :=
  Relation.ReflTransGen.trans first second

theorem Leads.next (leads : Leads definitions moment middle)
    (advances : middle.next? definitions = some after) : Leads definitions moment after :=
  leads.trans (.step advances)

theorem Leads.orderly (leads : Leads definitions moment after)
    (orderly : moment.Orderly definitions) : after.Orderly definitions := by
  induction leads with
  | refl => exact orderly
  | tail _ advances ih => exact ih.next advances

theorem Reachable.leads (reachable : Reachable definitions moment)
    (leads : Leads definitions moment after) : Reachable definitions after := by
  induction leads with
  | refl => exact reachable
  | tail _ advances ih => exact ih.next advances

theorem Reachable.orderly (reachable : Reachable definitions moment) :
    moment.Orderly definitions := by
  induction reachable with
  | start name =>
      refine ⟨rfl, List.nodup_nil, ?_, ?_, ?_⟩ <;> simp [Workshop.empty]
  | next _ advances ih => exact ih.next advances
  | again name _ ih => exact ih.same rfl rfl

theorem Moment.Orderly.room (orderly : moment.Orderly definitions)
    (enough : definitions.entries.length ≤ fuel + moment.workshop.inProgress.length) :
    Room definitions fuel moment.workshop.inProgress :=
  ⟨orderly.distinct, orderly.known, enough⟩

/-- An entry is left at once as it is built, unless it is one that has to be put together. -/
theorem leads_or_defined (definitions : Table Definition) (fuel : Nat) (name : String)
    (workshop : Workshop) (waiting : List Waiting) :
    Leads definitions ⟨.enter name, workshop, waiting⟩
        ⟨.leave (perform (buildEntry definitions fuel name) workshop).1,
          (perform (buildEntry definitions fuel name) workshop).2, waiting⟩ ∨
      workshop.built.lookup name = none ∧ name ∉ workshop.inProgress ∧
        ∃ definition, definitions.get? name = some definition := by
  have entered : Leads definitions ⟨.enter name, workshop, waiting⟩
      (Catalog.enter definitions name workshop waiting) := .step rfl
  unfold Catalog.enter at entered
  cases built : workshop.built.lookup name with
  | some selector =>
      rw [buildEntry_of_built built]
      exact .inl (by simpa only [built] using entered)
  | none =>
      by_cases onStack : name ∈ workshop.inProgress
      · rw [buildEntry_of_inProgress built onStack]
        exact .inl (by simpa only [built, if_pos onStack] using entered)
      · cases found : definitions.get? name with
        | none =>
            rw [buildEntry_of_unknown built onStack found]
            exact .inl (by simpa only [built, if_neg onStack, found] using entered)
        | some definition => exact .inr ⟨rfl, onStack, definition, rfl⟩

/-- The outcomes of a call that opens no entry, since the one it asks for is in progress or not in the
file. -/
inductive Refused (definitions : Table Definition) (workshop : Workshop) :
    Except Fault Selector → Prop where
  | cycle {name : String} : name ∈ workshop.inProgress →
      Refused definitions workshop
        (.error (.catalog workshop.current (.cycle (workshop.inProgress ++ [name]))))
  | unknown {name : String} : definitions.get? name = none →
      Refused definitions workshop (.error (.catalog workshop.current (.unknown name)))

/-- Whether every entry that is asked for is left as it is built with the given fuel, where the fuel
and the entries in progress are together as many as there are entries. -/
def Returns (definitions : Table Definition) (fuel : Nat) : Prop :=
  ∀ (name : String) (workshop : Workshop) (waiting : List Waiting),
    Moment.Orderly definitions ⟨.enter name, workshop, waiting⟩ →
    definitions.entries.length ≤ fuel + workshop.inProgress.length →
    Leads definitions ⟨.enter name, workshop, waiting⟩
      ⟨.leave (perform (buildEntry definitions fuel name) workshop).1,
        (perform (buildEntry definitions fuel name) workshop).2, waiting⟩

theorem Returns.leads_settle (returns : Returns definitions fuel) {plan : Plan Selector}
    (orderly : Moment.Orderly definitions ⟨.assemble name plan, workshop, waiting⟩)
    (enough : definitions.entries.length ≤ fuel + workshop.inProgress.length) :
    Leads definitions ⟨.assemble name plan, workshop, waiting⟩
      ⟨.assemble name (settle (perform (plan.carryOut (buildBoundary definitions fuel)) workshop).1),
        (perform (plan.carryOut (buildBoundary definitions fuel)) workshop).2, waiting⟩ := by
  induction plan generalizing workshop with
  | done | fail => exact Relation.ReflTransGen.refl
  | ask mentioned next ih =>
      have asked : Leads definitions ⟨.assemble name (.ask mentioned next), workshop, waiting⟩
          ⟨.enter mentioned, workshop, ⟨name, mentioned, next⟩ :: waiting⟩ := .step rfl
      have path := (asked.trans (returns _ _ _ (asked.orderly orderly) enough)).next rfl
      rw [Plan.perform_carryOut_ask, perform_buildBoundary]
      generalize perform (buildEntry definitions fuel mentioned) workshop = built at path
      have orderlyAfter := path.orderly orderly
      have stack : built.2.inProgress = workshop.inProgress :=
        orderlyAfter.stack_assemble.trans orderly.stack_assemble.symm
      exact path.trans (ih _ orderlyAfter (stack ▸ enough))

theorem returns (definitions : Table Definition) (fuel : Nat) : Returns definitions fuel := by
  induction fuel with
  | zero =>
      intro name workshop waiting orderly enough
      rcases leads_or_defined definitions 0 name workshop waiting with
        leads | ⟨_, offStack, definition, found⟩
      · exact leads
      · have listed := Table.mem_names_iff.2 ⟨definition, found⟩
        exact absurd ((orderly.room enough).full listed) offStack
  | succ fuel ih =>
      intro name workshop waiting orderly enough
      rcases leads_or_defined definitions (fuel + 1) name workshop waiting with
        leads | ⟨fresh, offStack, definition, found⟩
      · exact leads
      have entered : Leads definitions ⟨.enter name, workshop, waiting⟩
          ⟨.assemble name (definition.assemble Plan.mention), workshop.push name, waiting⟩ := by
        apply Leads.step
        simp only [Moment.next?, Catalog.enter, fresh, if_neg offStack, found]
      have room : definitions.entries.length ≤ fuel + (workshop.push name).inProgress.length := by
        simp only [Workshop.push, List.length_append, List.length_singleton]
        omega
      have path := entered.trans (ih.leads_settle (entered.orderly orderly) room)
      rw [Plan.perform_assemble] at path
      rw [buildEntry_of_defined fresh offStack found]
      generalize perform (definition.assemble (buildBoundary definitions fuel))
        (workshop.push name) = assembled at path
      rcases assembled with ⟨fault | selector, after⟩
      · exact path.next rfl
      · exact path.next rfl

theorem Moment.Orderly.opened_le (orderly : moment.Orderly definitions) :
    moment.opened.length ≤ definitions.entries.length := by
  calc moment.opened.length
      = moment.workshop.inProgress.length := by rw [orderly.stacked]
    _ ≤ definitions.names.length := orderly.distinct.length_le_of_subset orderly.known
    _ = definitions.entries.length := List.length_map _

theorem Moment.Orderly.nesting_le (orderly : moment.Orderly definitions) :
    moment.nesting ≤ definitions.entries.length + 1 := by
  have waits : moment.waiting.length ≤ moment.opened.length := by
    simp [Moment.opened]
  exact Nat.succ_le_succ (waits.trans orderly.opened_le)

theorem Moment.Orderly.enter_of_full
    (orderly : Moment.Orderly definitions ⟨.enter name, workshop, waiting⟩)
    (full : waiting.length = definitions.entries.length) :
    ∃ outcome, Refused definitions workshop outcome ∧
      Catalog.enter definitions name workshop waiting = ⟨.leave outcome, workshop, waiting⟩ := by
  have stack : workshop.inProgress = (waiting.map Waiting.name).reverse := by
    simpa [Moment.opened] using orderly.stacked
  have room : Room definitions 0 workshop.inProgress := orderly.room (by simp [stack, full])
  have empty : workshop.built = [] := by
    apply List.eq_nil_iff_forall_not_mem.2
    intro entry member
    have absent := orderly.apart entry.1 (room.full (orderly.tabled entry member))
    simpa using List.lookup_eq_none_iff.1 absent entry member
  have fresh : workshop.built.lookup name = none := by rw [empty, List.lookup_nil]
  unfold Catalog.enter
  by_cases onStack : name ∈ workshop.inProgress
  · exact ⟨_, .cycle onStack, by simp only [fresh, if_pos onStack]⟩
  · have unknown : definitions.get? name = none := by
      apply Option.eq_none_iff_forall_ne_some.2
      intro definition found
      exact onStack (room.full (Table.mem_names_iff.2 ⟨definition, found⟩))
    exact ⟨_, .unknown unknown, by simp only [fresh, if_neg onStack, unknown]⟩

theorem Moment.Orderly.waiting_lt {plan : Plan Selector}
    (orderly : Moment.Orderly definitions ⟨.assemble name plan, workshop, waiting⟩) :
    waiting.length < definitions.entries.length := by
  have bound := orderly.opened_le
  simpa [Moment.opened, Nat.succ_le_iff] using bound

theorem Moment.Orderly.refused_of_next {outcome : Except Fault Selector}
    (orderly : moment.Orderly definitions)
    (advances : moment.next? definitions = some ⟨.leave outcome, workshop, waiting⟩)
    (full : waiting.length = definitions.entries.length) :
    Refused definitions workshop outcome := by
  obtain ⟨task, before, waitingBefore⟩ := moment
  match task, waitingBefore with
  | .enter name, waitingBefore =>
      have entered : Catalog.enter definitions name before waitingBefore =
          ⟨.leave outcome, workshop, waiting⟩ := Option.some.inj advances
      obtain rfl : waitingBefore = waiting := by
        rw [← waiting_enter definitions name before waitingBefore, entered]
      obtain ⟨left, refused, same⟩ := orderly.enter_of_full full
      rw [same] at entered
      cases entered
      exact refused
  | .assemble name (.done selector), waitingBefore =>
      cases advances
      exact absurd full orderly.waiting_lt.ne
  | .assemble name (.fail fault), waitingBefore =>
      cases advances
      exact absurd full orderly.waiting_lt.ne
  | .assemble name (.ask mentioned next), waitingBefore => cases advances
  | .leave _, ⟨name, mentioned, next⟩ :: waitingBefore => cases advances
  | .leave _, [] => simp [next?] at advances

/-- Once all entries of a file wait, the call at hand opens none. -/
theorem Reachable.refused (reachable : Reachable definitions moment)
    (full : moment.waiting.length = definitions.entries.length) :
    ∃ outcome, Refused definitions moment.workshop outcome ∧
      Leads definitions moment ⟨.leave outcome, moment.workshop, moment.waiting⟩ := by
  have orderly := reachable.orderly
  obtain ⟨task, workshop, waiting⟩ := moment
  cases task with
  | enter name =>
      obtain ⟨outcome, refused, entered⟩ := orderly.enter_of_full full
      exact ⟨outcome, refused, .step (congrArg some entered)⟩
  | assemble name plan => exact absurd full orderly.waiting_lt.ne
  | leave outcome =>
      cases reachable with
      | next before advances =>
          exact ⟨outcome, before.orderly.refused_of_next advances full, .refl⟩

theorem Moment.Orderly.leads_leave (orderly : moment.Orderly definitions) :
    ∃ outcome workshop, Leads definitions moment ⟨.leave outcome, workshop, moment.waiting⟩ := by
  obtain ⟨task, workshop, waiting⟩ := moment
  cases task with
  | enter name =>
      exact ⟨_, _, returns definitions _ name workshop waiting orderly (Nat.le_add_right _ _)⟩
  | assemble name plan =>
      have path := (returns definitions _).leads_settle orderly (Nat.le_add_right _ _)
      generalize perform (plan.carryOut (buildBoundary definitions definitions.entries.length))
        workshop = carried at path
      rcases carried with ⟨fault | selector, after⟩
      · exact ⟨.error (fault.within name), after.pop, path.next rfl⟩
      · exact ⟨.ok selector, after.pop.keep name selector, path.next rfl⟩
  | leave outcome => exact ⟨outcome, workshop, .refl⟩

theorem Moment.Orderly.leads_end (orderly : moment.Orderly definitions) :
    ∃ outcome workshop, Leads definitions moment ⟨.leave outcome, workshop, []⟩ := by
  obtain ⟨outcome, after, left⟩ := orderly.leads_leave
  induction waits : moment.waiting generalizing moment outcome after with
  | nil => exact ⟨outcome, after, waits ▸ left⟩
  | cons first rest ih =>
      rw [waits] at left
      have resumed := left.next rfl
      obtain ⟨outcome, after, left⟩ := (resumed.orderly orderly).leads_leave
      obtain ⟨outcome, last, ended⟩ := ih (resumed.orderly orderly) outcome after left rfl
      exact ⟨outcome, last, resumed.trans ended⟩

theorem Reachable.leave_compileEntry (reachable : Reachable definitions ⟨.enter name, workshop, []⟩)
    (definition : Definition) :
    ∃ outcome, Reachable definitions
      ⟨.leave outcome, (perform (compileEntry definitions name definition) workshop).2, []⟩ := by
  have left := reachable.leads (returns definitions definitions.entries.length name workshop []
    reachable.orderly (Nat.le_add_right _ _))
  unfold compileEntry
  rw [perform_bind]
  generalize perform (buildEntry definitions definitions.entries.length name) workshop = built at left
  rcases built with ⟨fault | selector, after⟩
  · exact ⟨_, left⟩
  · simp only [perform_bind, perform_settle]
    cases (Query.compile selector).mapError (Fault.within name) with
    | error fault => exact ⟨_, left⟩
    | ok query => exact ⟨_, left⟩

theorem reachable_compileEntries (entries : List (String × Definition))
    (idle : ∀ name, Reachable definitions ⟨.enter name, workshop, []⟩) (name : String) :
    Reachable definitions
      ⟨.enter name, (perform (compileEntries definitions entries) workshop).2, []⟩ := by
  induction entries generalizing workshop with
  | nil => exact idle name
  | cons listed rest ih =>
      obtain ⟨first, definition⟩ := listed
      obtain ⟨outcome, left⟩ := (idle first).leave_compileEntry definition
      rw [compileEntries, perform_bind]
      generalize perform (compileEntry definitions first definition) workshop = compiled at left
      rcases compiled with ⟨fault | entry, after⟩
      · exact left.again name
      · have others : Reachable definitions
            ⟨.enter name, (perform (compileEntries definitions rest) after).2, []⟩ :=
          ih fun name => left.again name
        simp only [perform_bind]
        generalize perform (compileEntries definitions rest) after = remaining at others
        rcases remaining with ⟨fault | entries, last⟩
        · exact others
        · exact others

end Runs

/-- Building comes to its end, whatever mentions what. The moments of the build of a file are among
the reachable ones. At each of them the stack lists the entries that are being put together, those
that wait and the current one, which are different entries of the file and not in the table, so
there are never more of them than entries. The calls that are under way can be one more, but only
while one is at hand that opens no entry and fails. From each moment the entry that was asked for
first comes to be left. An entry that is asked for is left as it is built with any fuel that covers
the entries not in progress, and the stack is then as it was. -/
theorem build_ends_and_restores (file : File) :
    (∀ compiled name, Reachable file.selectors
      ⟨.enter name, (perform (compileEntries file.selectors compiled) Workshop.empty).2, []⟩) ∧
    ∀ moment, Reachable file.selectors moment →
      (moment.workshop.inProgress = moment.opened ∧ moment.workshop.inProgress.Nodup ∧
        (∀ name ∈ moment.workshop.inProgress,
          name ∈ file.selectors.names ∧ name ∉ moment.workshop.built.map (·.1)) ∧
        moment.opened.length ≤ file.selectors.entries.length) ∧
      (moment.nesting ≤ file.selectors.entries.length + 1 ∧
        (moment.nesting = file.selectors.entries.length + 1 →
          ∃ outcome, Refused file.selectors moment.workshop outcome ∧
            Leads file.selectors moment ⟨.leave outcome, moment.workshop, moment.waiting⟩)) ∧
      (∃ outcome workshop, Leads file.selectors moment ⟨.leave outcome, workshop, []⟩) ∧
      ∀ name workshop waiting, moment = ⟨.enter name, workshop, waiting⟩ →
        ∀ fuel, file.selectors.entries.length ≤ fuel + workshop.inProgress.length →
          Leads file.selectors moment
              ⟨.leave (perform (buildEntry file.selectors fuel name) workshop).1,
                (perform (buildEntry file.selectors fuel name) workshop).2, waiting⟩ ∧
            (perform (buildEntry file.selectors fuel name) workshop).2.inProgress =
              workshop.inProgress := by
  refine ⟨fun compiled => reachable_compileEntries compiled .start, ?_⟩
  intro moment reachable
  have orderly := reachable.orderly
  refine ⟨⟨orderly.stacked, orderly.distinct, ?_, orderly.opened_le⟩,
    ⟨orderly.nesting_le, ?_⟩, orderly.leads_end, ?_⟩
  · intro name onStack
    refine ⟨orderly.known name onStack, ?_⟩
    intro listed
    obtain ⟨entry, member, rfl⟩ := List.mem_map.1 listed
    have different := List.lookup_eq_none_iff.1 (orderly.apart entry.1 onStack) entry member
    simp at different
  · exact fun deepest => reachable.refused (Nat.succ.inj deepest)
  · rintro name workshop waiting rfl fuel enough
    have left := returns file.selectors fuel name workshop waiting orderly enough
    exact ⟨left, (left.orderly orderly).stacked.trans orderly.stacked.symm⟩

def selfLimitedFile : File where
  selectors := .ofList [("rows", ⟨.xpath, none, none,
    [rowStep [], ⟨.limitedBy, none, [], some "rows"⟩]⟩)]

/-- The call that runs into the cycle is the second one for the only entry. -/
theorem entries_lt_nesting_selfLimitedFile :
    ∃ moment, Reachable selfLimitedFile.selectors moment ∧
      selfLimitedFile.selectors.entries.length < moment.nesting :=
  ⟨_, .next (.next (.start "rows") rfl) rfl, by decide +kernel⟩

/-- The build of an entry that runs into a cycle two mentions further on. -/
theorem build_ends_and_restores_loopFile :
    Reachable loopFile.selectors ⟨.enter "cell", Workshop.empty, []⟩ ∧
      (∃ outcome workshop, Leads loopFile.selectors ⟨.enter "cell", Workshop.empty, []⟩
        ⟨.leave outcome, workshop, []⟩) ∧
      loopFile.selectors.entries.length ≤ 4 + Workshop.empty.inProgress.length ∧
      (perform (buildEntry loopFile.selectors 4 "cell") Workshop.empty).2.inProgress =
        Workshop.empty.inProgress := by
  have enough : loopFile.selectors.entries.length ≤ 4 + Workshop.empty.inProgress.length := by
    decide +kernel
  obtain ⟨reached, settled⟩ := build_ends_and_restores loopFile
  have start := reached [] "cell"
  obtain ⟨-, -, ends, restores⟩ := settled _ start
  exact ⟨start, ends, enough, (restores "cell" Workshop.empty [] rfl 4 enough).2⟩

end PageSelectors.Catalog
