import PageSelectors.Graph.Node
import PageSelectors.Proofs.Stateful
import PageSelectors.Proofs.XPath.Rendering

/-!
What a compilation does to the cells of shared nodes. It is held against its plain outcome, the one
that needs no cells: as long as full cells hold the plain texts of their nodes, every part of a
compilation has its plain outcome and leaves cells of the same kind, in which no text is lost.
-/

namespace PageSelectors.Graph

open Outcome Stateful

variable {Vertex Link α β : Type}

namespace Compiling

variable [DecidableEq Vertex] {vertex : Vertex} {cells : Cells Vertex}

theorem perform_writeOnce_of_full {written : String} (full : cells vertex = some written)
    (text : String) : perform (writeOnce vertex text) cells = (.ok written, cells) := by
  simp only [writeOnce, perform_bind, perform_get, full, perform_pure]

theorem perform_writeOnce_of_empty (empty : cells vertex = none) (text : String) :
    perform (writeOnce vertex text) cells = (.ok text, cells.write vertex text) := by
  simp only [writeOnce, perform_bind, perform_get, empty, perform_modify, perform_pure]

theorem perform_memoized_of_full {text : String} (full : cells vertex = some text)
    (compile : Compiling Vertex String) :
    perform (memoized vertex compile) cells = (.ok text, cells) := by
  simp only [memoized, perform_bind, perform_get, full, perform_pure]

theorem perform_memoized_of_empty (empty : cells vertex = none)
    (compile : Compiling Vertex String) :
    perform (memoized vertex compile) cells =
      perform (do writeOnce vertex (← compile)) cells := by
  simp only [memoized, perform_bind, perform_get, empty]

end Compiling

def Cells.Sound (plain : Vertex → Except Fault String) (cells : Cells Vertex) : Prop :=
  ∀ vertex text, cells vertex = some text → plain vertex = .ok text

def Cells.Kept (before after : Cells Vertex) : Prop :=
  ∀ vertex text, before vertex = some text → after vertex = some text

namespace Cells

variable {plain : Vertex → Except Fault String} {vertex : Vertex} {text : String}
  {cells : Cells Vertex}

theorem Sound.eq_of_full {written : String} (sound : cells.Sound plain)
    (rendered : plain vertex = .ok text) (full : cells vertex = some written) : written = text :=
  Except.ok.inj ((sound vertex written full).symm.trans rendered)

theorem Sound.eq_none {fault : Fault} (sound : cells.Sound plain)
    (failed : plain vertex = .error fault) : cells vertex = none := by
  cases state : cells vertex with
  | none => rfl
  | some text =>
      have rendered := sound vertex text state
      rw [failed] at rendered
      cases rendered

variable [DecidableEq Vertex]

theorem write_self (vertex : Vertex) (text : String) (cells : Cells Vertex) :
    cells.write vertex text vertex = some text :=
  if_pos rfl

theorem Sound.write (sound : cells.Sound plain) (rendered : plain vertex = .ok text) :
    (cells.write vertex text).Sound plain := by
  intro other found full
  by_cases same : other = vertex
  · subst same
    rw [write_self] at full
    rw [rendered, Option.some.inj full]
  · rw [Cells.write, if_neg same] at full
    exact sound other found full

theorem kept_write (empty : cells vertex = none) (text : String) :
    cells.Kept (cells.write vertex text) := by
  intro other found full
  have different : other ≠ vertex := by
    rintro rfl
    simp [empty] at full
  rwa [write, if_neg different]

end Cells

/-- What a computation in the given cells has led to: the value it should have, and cells that are
sound and have lost nothing. -/
structure Leads (plain : Vertex → Except Fault String) (cells : Cells Vertex) (value : α)
    (performed : α × Cells Vertex) : Prop where
  value : performed.1 = value
  sound : performed.2.Sound plain
  kept : cells.Kept performed.2

def Yields (plain : Vertex → Except Fault String) (part : StateM (Cells Vertex) α) (value : α) :
    Prop :=
  ∀ cells : Cells Vertex, cells.Sound plain → Leads plain cells value (part.run cells)

namespace Yields

variable {plain : Vertex → Except Fault String}

theorem value (result : α) : Yields plain (pure result) result :=
  fun _ sound => ⟨rfl, sound, fun _ _ full => full⟩

theorem sequence {part : StateM (Cells Vertex) α} {next : α → StateM (Cells Vertex) β} {first : α}
    {second : β} (yields : Yields plain part first) (rest : Yields plain (next first) second) :
    Yields plain (part >>= next) second := by
  intro cells sound
  obtain ⟨same, soundBetween, kept⟩ := yields cells sound
  change Leads plain cells second ((next (part.run cells).1).run (part.run cells).2)
  rw [same]
  have finished := rest _ soundBetween
  refine ⟨finished.value, finished.sound, ?_⟩
  intro vertex text full
  exact finished.kept vertex text (kept vertex text full)

theorem mapM {Item : Type} {answer : Item → StateM (Cells Vertex) α} {plainAnswer : Item → α}
    (yields : ∀ item, Yields plain (answer item) (plainAnswer item)) (items : List Item) :
    Yields plain (items.mapM answer) (items.map plainAnswer) := by
  induction items with
  | nil => exact value []
  | cons item rest ih =>
      rw [List.mapM_cons]
      exact (yields item).sequence (ih.sequence (value _))

end Yields

def Follows (plain : Vertex → Except Fault String) (part : Compiling Vertex α)
    (outcome : Except Fault α) : Prop :=
  ∀ cells : Cells Vertex, cells.Sound plain → Leads plain cells outcome (perform part cells)

namespace Follows

variable {plain : Vertex → Except Fault String}

theorem checked (outcome : Except Fault α) : Follows plain (Compiling.checked outcome) outcome :=
  Yields.value outcome

theorem value (result : α) : Follows plain (pure result) (pure result) :=
  checked (.ok result)

/-- Only a part that succeeds is gone on from. -/
theorem sequence {part : Compiling Vertex α} {outcome : Except Fault α}
    {next : α → Compiling Vertex β} {plainNext : α → Except Fault β}
    (first : Follows plain part outcome)
    (rest : ∀ result, outcome = .ok result → Follows plain (next result) (plainNext result)) :
    Follows plain (part >>= next) (outcome >>= plainNext) := by
  have continued : Yields plain (part.run >>= ExceptT.bindCont next) (outcome >>= plainNext) := by
    apply Yields.sequence first
    cases outcome with
    | error fault => exact Yields.value (Except.error fault)
    | ok result => exact rest result rfl
  exact continued

/-- Whatever comes after a part, the cells that the part filled stay full. -/
theorem kept_sequence {part : Compiling Vertex α} {outcome : Except Fault α}
    {next : α → Compiling Vertex β} {plainNext : α → Except Fault β}
    (first : Follows plain part outcome)
    (rest : ∀ result, Follows plain (next result) (plainNext result)) {cells : Cells Vertex}
    (sound : cells.Sound plain) :
    (perform part cells).2.Kept (perform (part >>= next) cells).2 := by
  have leads := first cells sound
  rw [perform_bind]
  generalize perform part cells = performed at leads
  obtain ⟨_ | result, between⟩ := performed
  · exact fun _ _ full => full
  · exact (rest result between leads.sound).kept

theorem make {part : Compiling Vertex α} {outcome : Except Fault α} {result : α → β}
    (follows : Follows plain part outcome) :
    Follows plain (do return result (← part)) (do return result (← outcome)) :=
  follows.sequence fun _ _ => value _

variable [DecidableEq Vertex] {vertex : Vertex} {text : String} {cells : Cells Vertex}

theorem writeOnce (rendered : plain vertex = .ok text) :
    Follows plain (Compiling.writeOnce vertex text) (plain vertex) := by
  intro cells sound
  rw [rendered]
  cases state : cells vertex with
  | some written =>
      obtain rfl := sound.eq_of_full rendered state
      rw [Compiling.perform_writeOnce_of_full state]
      exact ⟨rfl, sound, fun _ _ full => full⟩
  | none =>
      rw [Compiling.perform_writeOnce_of_empty state]
      exact ⟨rfl, sound.write rendered, Cells.kept_write state text⟩

theorem full_of_writeOnce (rendered : plain vertex = .ok text) (sound : cells.Sound plain) :
    (perform (Compiling.writeOnce vertex text) cells).2 vertex = some text := by
  cases state : cells vertex with
  | some written =>
      obtain rfl := sound.eq_of_full rendered state
      rw [Compiling.perform_writeOnce_of_full state]
      exact state
  | none =>
      rw [Compiling.perform_writeOnce_of_empty state]
      exact Cells.write_self vertex text cells

variable {compile : Compiling Vertex String}

theorem memoized (follows : Follows plain compile (plain vertex)) :
    Follows plain (Compiling.memoized vertex compile) (plain vertex) := by
  intro cells sound
  cases state : cells vertex with
  | some text =>
      rw [Compiling.perform_memoized_of_full state, sound vertex text state]
      exact ⟨rfl, sound, fun _ _ full => full⟩
  | none =>
      have written : Follows plain (do Compiling.writeOnce vertex (← compile))
          (do let _ ← plain vertex; plain vertex) :=
        follows.sequence fun _ rendered => writeOnce rendered
      have same : (do let _ ← plain vertex; plain vertex) = plain vertex := by
        cases plain vertex with
        | error fault => rfl
        | ok text => rfl
      rw [same] at written
      rw [Compiling.perform_memoized_of_empty state]
      exact written cells sound

theorem full_of_memoized (follows : Follows plain compile (plain vertex))
    (rendered : plain vertex = .ok text) (sound : cells.Sound plain) :
    (perform (Compiling.memoized vertex compile) cells).2 vertex = some text := by
  cases state : cells vertex with
  | some written =>
      obtain rfl := sound.eq_of_full rendered state
      rw [Compiling.perform_memoized_of_full state]
      exact state
  | none =>
      have leads := follows cells sound
      rw [Compiling.perform_memoized_of_empty state, perform_bind]
      generalize perform compile cells = performed at leads
      obtain ⟨outcome, after⟩ := performed
      obtain rfl : outcome = .ok text := leads.value.trans rendered
      exact full_of_writeOnce rendered leads.sound

/-- Of a node at fault, only what it was compiled from is written down. -/
theorem cells_of_memoized {fault : Fault} (follows : Follows plain compile (plain vertex))
    (failed : plain vertex = .error fault) (sound : cells.Sound plain) :
    (perform (Compiling.memoized vertex compile) cells).2 = (perform compile cells).2 := by
  have leads := follows cells sound
  rw [Compiling.perform_memoized_of_empty (sound.eq_none failed), perform_bind]
  generalize perform compile cells = performed at leads
  obtain ⟨outcome, after⟩ := performed
  obtain rfl : outcome = .error fault := leads.value.trans failed
  rfl

end Follows

section Compile

variable {plain : Vertex → Except Fault String} {render : Link → Compiling Vertex String}

theorem CssNode.follows_compile {links : Link → Css.Chain}
    (renders : ∀ link, Follows plain (render link) (links link).render) (node : CssNode Link) :
    Follows plain (node.compile render) (node.chain links).render := by
  cases node with
  | raw text => exact .value text
  | page tag conditions | relative tag conditions =>
      exact (Follows.checked _).sequence fun _ _ => (Follows.checked _).make
  | step before combinator tag conditions =>
      apply (Follows.checked _).sequence
      intro _ _
      apply (renders before).sequence
      intro text _
      exact (Follows.checked _).make

namespace XPathNode

variable {links : Link → XPath.Chain} {isAbsolute : Link → Bool}
  (renders : ∀ link, Follows plain (render link) (links link).render)
  (anchors : ∀ link, isAbsolute link = (links link).isAbsolute)

include renders anchors

theorem follows_compileTest (boundary : Link) :
    Follows plain (compileTest render isAbsolute boundary) (XPath.boundaryTest (links boundary)) := by
  apply (renders boundary).sequence
  intro text _
  rw [anchors boundary]
  exact .checked _

theorem follows_compileCondition (condition : Condition (XPath.Native Link)) :
    Follows plain (compileCondition render isAbsolute condition)
      (XPath.renderCondition (chainCondition links condition)) := by
  match condition with
  | ⟨.shared criterion, negated⟩ => exact .checked _
  | ⟨.native (.text op operand), negated⟩ => exact .value _
  | ⟨.native (.place place), negated⟩ => exact (Follows.checked place.test).make
  | ⟨.native (.boundary boundary), negated⟩ =>
      rw [chainCondition, XPath.renderCondition_boundary]
      exact (follows_compileTest renders anchors boundary).make

theorem follows_compileConditions (conditions : List (Condition (XPath.Native Link))) :
    Follows plain (compileConditions render isAbsolute conditions)
      (XPath.renderConditions (conditions.map (chainCondition links))) := by
  induction conditions with
  | nil => exact .value _
  | cons condition rest ih =>
      rw [List.map_cons, XPath.renderConditions]
      apply (follows_compileCondition renders anchors condition).sequence
      intro text _
      exact ih.make

theorem follows_compileElement (axis tag : String)
    (conditions : List (Condition (XPath.Native Link))) :
    Follows plain (compileElement render isAbsolute axis tag conditions)
      (do
        checkTag .xpath (Text.trim tag) !(conditions.map (chainCondition links)).isEmpty
        return axis ++ Text.trim tag ++
          (← XPath.renderConditions (conditions.map (chainCondition links)))) := by
  rw [List.isEmpty_map]
  apply (Follows.checked _).sequence
  intro _ _
  exact (follows_compileConditions renders anchors conditions).make

theorem follows_compileStep (step : XPath.Step Link) :
    Follows plain (compileStep render isAbsolute step)
      (XPath.renderStep (chainStep links step)) := by
  cases step with
  | element axis tag conditions =>
      rw [chainStep, XPath.renderStep]
      exact follows_compileElement renders anchors axis.token tag conditions
  | parent => exact .value _

theorem follows_compile (node : XPathNode Link) :
    Follows plain (node.compile render isAbsolute) (node.chain links).render := by
  cases node with
  | raw text => exact .value text
  | page tag conditions =>
      rw [chain, XPath.Chain.render]
      exact follows_compileElement renders anchors XPath.Relation.page.token tag conditions
  | relative first =>
      rw [chain, XPath.Chain.render]
      exact follows_compileStep renders anchors first
  | step before last =>
      rw [chain, XPath.Chain.render]
      apply (renders before).sequence
      intro text _
      exact (follows_compileStep renders anchors last).make
  | limitedBy before boundary =>
      rw [chain, XPath.Chain.render_limitedBy]
      apply (renders before).sequence
      intro text _
      exact (follows_compileTest renders anchors boundary).make

theorem kept_before {node : XPathNode Link} {before : Link} (linked : node.before? = some before)
    {cells : Cells Vertex} (sound : cells.Sound plain) :
    (perform (render before) cells).2.Kept (perform (node.compile render isAbsolute) cells).2 := by
  cases node with
  | raw | page | relative => cases linked
  | step first last =>
      obtain rfl := Option.some.inj linked
      exact (renders first).kept_sequence
        (fun _ => (follows_compileStep renders anchors last).make) sound
  | limitedBy first boundary =>
      obtain rfl := Option.some.inj linked
      exact (renders first).kept_sequence
        (fun _ => (follows_compileTest renders anchors boundary).make) sound

end XPathNode

end Compile

end PageSelectors.Graph
