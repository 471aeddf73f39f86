import PageSelectors.Proofs.Catalog.StepCompilation

/-!
Definitions, from the file to the text. A definition is put together and rendered exactly if it is
well formed and its boundaries resolve, and its text is the one read off its steps.
-/

namespace PageSelectors.Catalog

open Outcome

section Steps

variable {Chain : Type} {raw : String → Chain} {start : StepDefinition → Except Fault Chain}
variable {next : Chain → StepDefinition → Except Fault Chain}

section Rendering

variable {render : Chain → Except Fault String} {Starts Continues : StepDefinition → Prop}
variable {append : String → StepDefinition → String}

theorem foldlM_render_iff
    (continues : ∀ before step text, (next before step >>= render) = .ok text ↔
      ∃ start, render before = .ok start ∧ Continues step ∧ text = append start step)
    {steps : List StepDefinition} {before : Chain} {text : String} :
    (steps.foldlM next before >>= render) = .ok text ↔
      ∃ start, render before = .ok start ∧ (∀ step ∈ steps, Continues step) ∧
        text = steps.foldl append start := by
  induction steps generalizing before with
  | nil =>
      rw [List.foldlM_nil, pure_bind]
      simp
  | cons step rest ih =>
      rw [List.foldlM_cons, bind_assoc, bind_eq_ok_iff]
      simp only [ih, List.forall_mem_cons, List.foldl_cons]
      constructor
      · rintro ⟨chain, continued, start, rendered, others, rfl⟩
        obtain ⟨first, renderedFirst, passes, rfl⟩ :=
          (continues before step start).1 (bind_eq_ok_iff.2 ⟨chain, continued, rendered⟩)
        exact ⟨first, renderedFirst, ⟨passes, others⟩, rfl⟩
      · rintro ⟨first, renderedFirst, ⟨passes, others⟩, rfl⟩
        obtain ⟨chain, continued, rendered⟩ :=
          bind_eq_ok_iff.1 ((continues before step _).2 ⟨first, renderedFirst, passes, rfl⟩)
        exact ⟨chain, continued, _, rendered, others, rfl⟩

/-- What holds for a first step and for every later step holds for a whole definition. -/
theorem assembleSteps_render_iff (append : String → StepDefinition → String)
    (raws : ∀ text, render (raw text) = .ok text)
    (starts : ∀ step text, (start step >>= render) = .ok text ↔
      Starts step ∧ text = append "" step)
    (continues : ∀ before step text, (next before step >>= render) = .ok text ↔
      ∃ start, render before = .ok start ∧ Continues step ∧ text = append start step)
    {definition : Definition} {text : String} :
    (assembleSteps raw start next definition >>= render) = .ok text ↔
      ((definition.raw.isSome ∨ definition.steps ≠ []) ∧
        (definition.raw = none → ∀ first ∈ definition.steps.head?, Starts first) ∧
          ∀ step ∈ definition.laterSteps, Continues step) ∧
        text = definition.steps.foldl append (definition.raw.getD "") := by
  unfold assembleSteps Definition.laterSteps
  cases written : definition.raw with
  | some text =>
      simp [foldlM_render_iff continues, raws]
  | none =>
      cases definition.steps with
      | nil => simp
      | cons first rest =>
          rw [bind_assoc, bind_eq_ok_iff]
          simp only [foldlM_render_iff continues, List.head?_cons, Option.mem_some_iff, forall_eq',
            List.tail_cons, List.foldl_cons, Option.getD_none, reduceCtorEq, ne_eq,
            not_false_eq_true, or_true, true_and, true_imp_iff]
          constructor
          · rintro ⟨chain, started, text, rendered, others, rfl⟩
            obtain ⟨passes, rfl⟩ :=
              (starts first text).1 (bind_eq_ok_iff.2 ⟨chain, started, rendered⟩)
            exact ⟨⟨passes, others⟩, rfl⟩
          · rintro ⟨⟨passes, others⟩, rfl⟩
            obtain ⟨chain, started, rendered⟩ :=
              bind_eq_ok_iff.1 ((starts first _).2 ⟨passes, rfl⟩)
            exact ⟨chain, started, _, rendered, others, rfl⟩

end Rendering

section Absolute

variable {isAbsolute : Chain → Bool}

theorem isAbsolute_of_foldlM
    (continues : ∀ before step chain, next before step = .ok chain →
      isAbsolute chain = isAbsolute before)
    {steps : List StepDefinition} {before chain : Chain}
    (assembled : steps.foldlM next before = .ok chain) : isAbsolute chain = isAbsolute before := by
  induction steps generalizing before with
  | nil => rw [pure_eq_ok_iff.1 assembled]
  | cons step rest ih =>
      obtain ⟨middle, continued, assembled⟩ := bind_eq_ok_iff.1 assembled
      rw [ih assembled, continues before step middle continued]

theorem isAbsolute_of_assembleSteps (raws : ∀ text, isAbsolute (raw text) = false)
    (starts : ∀ step chain, start step = .ok chain →
      isAbsolute chain = decide (step.kind = .page))
    (continues : ∀ before step chain, next before step = .ok chain →
      isAbsolute chain = isAbsolute before)
    {definition : Definition} {chain : Chain}
    (assembled : assembleSteps raw start next definition = .ok chain) :
    isAbsolute chain = definition.isPageRooted := by
  unfold assembleSteps at assembled
  unfold Definition.isPageRooted
  split at assembled
  · next text steps written =>
    rw [isAbsolute_of_foldlM continues assembled, raws, written]
    rfl
  · next first rest written listed =>
    obtain ⟨middle, started, assembled⟩ := bind_eq_ok_iff.1 assembled
    rw [isAbsolute_of_foldlM continues assembled, starts first middle started, written, listed]
    rfl
  · simp at assembled

end Absolute

end Steps

variable {resolve : String → Except Fault XPath.Chain}

theorem isAbsolute_of_startCss {step : StepDefinition} {chain : Css.Chain}
    (started : startCss resolve step = .ok chain) :
    chain.isAbsolute = decide (step.kind = .page) := by
  simp only [startCss, settle_eq] at started
  obtain ⟨-, started⟩ := guard_eq_ok_iff.1 started
  obtain ⟨conditions, -, started⟩ := bind_eq_ok_iff.1 started
  cases kind : step.kind <;> rw [kind, cssStart] at started <;> cases started <;> rfl

theorem isAbsolute_of_continueCss {before chain : Css.Chain} {step : StepDefinition}
    (continued : continueCss resolve before step = .ok chain) :
    chain.isAbsolute = before.isAbsolute := by
  simp only [continueCss, settle_eq] at continued
  obtain ⟨-, continued⟩ := guard_eq_ok_iff.1 continued
  obtain ⟨conditions, -, continued⟩ := bind_eq_ok_iff.1 continued
  cases kind : step.kind <;> rw [kind, cssNext] at continued <;> cases continued <;> rfl

theorem isAbsolute_of_startXPath {step : StepDefinition} {chain : XPath.Chain}
    (started : startXPath resolve step = .ok chain) :
    chain.isAbsolute = decide (step.kind = .page) := by
  simp only [startXPath, settle_eq] at started
  obtain ⟨-, started⟩ := guard_eq_ok_iff.1 started
  obtain ⟨conditions, -, started⟩ := bind_eq_ok_iff.1 started
  cases kind : step.kind <;> rw [kind, xpathStart] at started <;> cases started <;> rfl

theorem isAbsolute_of_continueXPath {before chain : XPath.Chain} {step : StepDefinition}
    (continued : continueXPath resolve before step = .ok chain) :
    chain.isAbsolute = before.isAbsolute := by
  simp only [continueXPath, settle_eq] at continued
  obtain ⟨-, continued⟩ := guard_eq_ok_iff.1 continued
  split at continued
  · split at continued
    · obtain ⟨limit, -, rfl⟩ := bind_pure_eq_ok_iff.1 continued
      rfl
    · simp at continued
  · obtain ⟨conditions, -, continued⟩ := bind_eq_ok_iff.1 continued
    cases kind : step.kind <;> rw [kind, xpathNext] at continued <;> cases continued <;> rfl

namespace Definition

structure Fits (resolve : String → Except Fault XPath.Chain) (definition : Definition) : Prop where
  wellFormed : definition.WellFormed
  resolves : ∀ mentioned ∈ definition.mentions, Resolves resolve mentioned

variable {definition : Definition}

theorem mem_steps_iff {step : StepDefinition} :
    step ∈ definition.steps ↔
      definition.raw = none ∧ step ∈ definition.steps.head? ∨ step ∈ definition.laterSteps := by
  unfold laterSteps
  cases definition.raw with
  | some text => simp
  | none =>
      cases definition.steps with
      | nil => simp
      | cons first rest => simp [eq_comm]

theorem fits_iff :
    definition.Fits resolve ↔ (definition.raw.isSome ∨ definition.steps ≠ []) ∧
      (definition.raw = none → ∀ first ∈ definition.steps.head?,
        first.kind ∈ startKinds definition.grammar ∧ first.Fits definition.grammar resolve) ∧
      ∀ step ∈ definition.laterSteps,
        step.kind ∈ laterKinds definition.grammar ∧ step.Fits definition.grammar resolve := by
  constructor
  · rintro ⟨⟨nonempty, starts, continues, steps⟩, resolves⟩
    have fits {step : StepDefinition} (member : step ∈ definition.steps) :
        step.Fits definition.grammar resolve :=
      ⟨steps step member, fun mentioned inStep =>
        resolves mentioned (List.mem_flatMap_of_mem member inStep)⟩
    refine ⟨nonempty, fun unwritten first leads => ?_, fun step later => ?_⟩
    · exact ⟨starts unwritten first leads, fits (mem_steps_iff.2 (.inl ⟨unwritten, leads⟩))⟩
    · exact ⟨continues step later, fits (mem_steps_iff.2 (.inr later))⟩
  · rintro ⟨nonempty, starts, continues⟩
    have fits {step : StepDefinition} (member : step ∈ definition.steps) :
        step.Fits definition.grammar resolve := by
      rcases mem_steps_iff.1 member with ⟨unwritten, leads⟩ | later
      · exact (starts unwritten step leads).2
      · exact (continues step later).2
    constructor
    · exact {
        nonempty
        starts := fun unwritten first leads => (starts unwritten first leads).1
        continues := fun step later => (continues step later).1
        steps := fun step member => (fits member).wellFormed }
    · intro mentioned member
      obtain ⟨step, inDefinition, inStep⟩ := List.mem_flatMap.1 member
      exact (fits inDefinition).resolves mentioned inStep

/-- A definition compiles exactly if it fits, to the text read off its steps. -/
theorem assemble_render_iff {text : String} :
    (definition.assemble resolve >>= Selector.render) = .ok text ↔
      definition.Fits resolve ∧ text = definition.text (limitText resolve) := by
  rw [fits_iff, assemble, Definition.text]
  cases definition.grammar with
  | css =>
      have raws (raw : String) : Css.Chain.render (.raw raw) = .ok raw := rfl
      rw [bind_assoc]
      apply assembleSteps_render_iff StepDefinition.appendCss raws
      · exact fun _ _ => startCss_render_iff
      · exact fun _ _ _ => continueCss_render_iff
  | xpath =>
      have raws (raw : String) : XPath.Chain.render (.raw raw) = .ok raw := by
        rw [XPath.Chain.render]
      rw [bind_assoc]
      exact assembleSteps_render_iff (StepDefinition.appendXPath (limitText resolve)) raws
        (fun _ _ => startXPath_render_iff)
        fun _ _ _ => continueXPath_render_iff

variable {selector : Selector}

theorem grammar_of_assemble (assembled : definition.assemble resolve = .ok selector) :
    selector.grammar = definition.grammar := by
  unfold assemble at assembled
  split at assembled
  · next css =>
    obtain ⟨chain, -, rfl⟩ := bind_pure_eq_ok_iff.1 assembled
    exact css.symm
  · next xpath =>
    obtain ⟨chain, -, rfl⟩ := bind_pure_eq_ok_iff.1 assembled
    exact xpath.symm

theorem isAbsolute_of_assemble (assembled : definition.assemble resolve = .ok selector) :
    selector.isAbsolute = definition.isPageRooted := by
  unfold assemble at assembled
  split at assembled
  · have raws (raw : String) : Css.Chain.isAbsolute (.raw raw) = false := rfl
    obtain ⟨chain, steps, rfl⟩ := bind_pure_eq_ok_iff.1 assembled
    exact isAbsolute_of_assembleSteps raws (fun _ _ => isAbsolute_of_startCss)
      (fun _ _ _ => isAbsolute_of_continueCss) steps
  · have raws (raw : String) : XPath.Chain.isAbsolute (.raw raw) = false := rfl
    obtain ⟨chain, steps, rfl⟩ := bind_pure_eq_ok_iff.1 assembled
    exact isAbsolute_of_assembleSteps raws (fun _ _ => isAbsolute_of_startXPath)
      (fun _ _ _ => isAbsolute_of_continueXPath) steps

end Definition

end PageSelectors.Catalog
