import PageSelectors.Proofs.Catalog.Acceptance
import PageSelectors.Proofs.Catalog.Locality

/-!
Which entry a fault is blamed on. A fault that is met while an entry is put together is blamed on
the entry whose definition has it. A fault that is only met in the text is blamed on the entry being
compiled, which may have it from a boundary: then the definition at fault belongs to an entry that
comes later in the catalog and is reached along boundaries.
-/

namespace PageSelectors

open Outcome

def Fault.IsLocal : Fault → Prop
  | .unconstrained _ | .emptyTag _ | .whitespace _ _ | .invalid _ => True
  | _ => False

theorem Fault.IsLocal.isBare {fault : Fault} (isLocal : fault.IsLocal) : fault.IsBare :=
  isBare_of isLocal (fun _ _ => id) (fun _ _ => id)

namespace Catalog

theorem Agrees.own_of_error {borrowed : Fault → Prop} {α β : Type} {related : α → β → Prop}
    {left : Except Fault α} {right : Except Fault β} (agrees : Agrees borrowed related left right)
    {fault : Fault} (failed : left = .error fault) (own : ¬ borrowed fault) :
    fault.IsBare ∧ right = .error fault := by
  cases agrees with
  | value _ => simp at failed
  | own bare =>
      cases failed
      exact ⟨bare, rfl⟩
  | borrowed found =>
      cases failed
      exact absurd found own

namespace Definition

def compile (resolve : String → Except Fault XPath.Chain) (definition : Definition) :
    Except Fault String :=
  definition.assemble resolve >>= Selector.render

def Bound (resolve : String → Except Fault XPath.Chain) (definition : Definition) : Prop :=
  ∀ mentioned ∈ definition.mentions, Resolves resolve mentioned

/-- Whether a definition is at fault itself: it fails to build or compile with the fault, whatever
good boundaries it is given. -/
def AtFault (definition : Definition) (fault : Fault) : Prop :=
  ∀ resolve, definition.Bound resolve → definition.compile resolve = .error fault

variable {definition : Definition} {resolve : String → Except Fault XPath.Chain} {fault : Fault}

def pageRoot (_ : String) : Except Fault XPath.Chain :=
  .ok (.page "html" [])

theorem bound_pageRoot (definition : Definition) : definition.Bound pageRoot := by
  have rendered : (XPath.Chain.page "html" []).render = .ok "/descendant::html" := by
    decide +kernel
  exact fun _ _ => ⟨_, _, rfl, rfl, rendered⟩

/-- While a definition is put together, a fault is one of looking up a boundary or its own. -/
theorem atFault_of_assemble (failed : definition.assemble resolve = .error fault) :
    (∃ mentioned ∈ definition.mentions, resolve mentioned = .error fault) ∨
      fault.IsBare ∧ definition.AtFault fault := by
  by_cases unresolved : ∃ mentioned ∈ definition.mentions, resolve mentioned = .error fault
  · exact .inl unresolved
  · have own {other : String → Except Fault XPath.Chain} (bound : definition.Bound other) :
        fault.IsBare ∧ definition.assemble other = .error fault := by
      have alike : ∀ name ∈ definition.mentions, ResolveAlike (fun _ => True)
          (fun reason => ∃ mentioned ∈ definition.mentions, resolve mentioned = .error reason)
          resolve other name := by
        intro name member
        exact resolveAlike (bound name member) (fun reason found => ⟨name, member, found⟩)
          fun _ _ _ _ => trivial
      exact (agrees_assemble alike).own_of_error failed unresolved
    refine .inr ⟨(own (bound_pageRoot definition)).1, fun other bound => ?_⟩
    rw [compile, (own bound).2]
    rfl

theorem atFault_of_compile (failed : definition.compile resolve = .error fault) :
    (∃ mentioned ∈ definition.mentions,
      (resolve mentioned >>= XPath.boundaryTest) = .error fault) ∨
        fault.IsBare ∧ definition.AtFault fault := by
  by_cases borrowed : ∃ mentioned ∈ definition.mentions,
      (resolve mentioned >>= XPath.boundaryTest) = .error fault
  · exact .inl borrowed
  · have own {other : String → Except Fault XPath.Chain} (bound : definition.Bound other) :
        fault.IsBare ∧ definition.compile other = .error fault := by
      let brought (reason : Fault) : Prop := ∃ mentioned ∈ definition.mentions,
        (resolve mentioned >>= XPath.boundaryTest) = .error reason
      have alike :
          ∀ name ∈ definition.mentions, ResolveAlike brought brought resolve other name := by
        intro name member
        apply resolveAlike (bound name member)
        · intro reason found
          exact ⟨name, member, by rw [found]; rfl⟩
        · intro chain reason found tested
          exact ⟨name, member, by rw [found, ok_bind, tested]⟩
      have agrees := (agrees_assemble alike).bind fun _ _ like => like.render
      exact agrees.own_of_error failed borrowed
    exact .inr ⟨(own (bound_pageRoot definition)).1, fun other bound => (own bound).2⟩

end Definition

theorem isBare_of_render {selector : Selector} {fault : Fault}
    (failed : selector.render = .error fault) : fault.IsBare :=
  (selector.failsOnly_render fault failed).isBare

variable {definitions : Table Definition} {stack : List String} {name entry : String}
variable {fault : Fault}

/-- Whether an entry, or one that it mentions along boundaries, is at fault itself. -/
def Reaches (definitions : Table Definition) (name : String) (fault : Fault) (culprit : String) :
    Prop :=
  Relation.ReflTransGen (Mentions definitions) name culprit ∧
    ∃ definition, definitions.get? culprit = some definition ∧ definition.AtFault fault

theorem Reaches.of_mentions {mentioned culprit : String}
    (mentions : Mentions definitions name mentioned)
    (reaches : Reaches definitions mentioned fault culprit) :
    Reaches definitions name fault culprit :=
  ⟨.head mentions reaches.1, reaches.2⟩

theorem not_isBare_of_buildAfresh (failed : buildAfresh definitions stack name = .error fault) :
    ¬ fault.IsBare := by
  by_cases onStack : name ∈ stack
  · rw [buildAfresh_of_mem onStack] at failed
    cases failed
    exact fun bare => bare
  · cases found : definitions.get? name with
    | none =>
        rw [buildAfresh_of_none onStack found] at failed
        cases failed
        exact fun bare => bare
    | some definition =>
        rw [buildAfresh_of_some onStack found] at failed
        cases assembled : definition.assemble
            (boundaryOf (buildAfresh definitions (stack ++ [name]))) with
        | ok selector => simp [assembled, Except.mapError] at failed
        | error reason =>
            rw [assembled] at failed
            cases failed
            exact reason.not_isBare_within

theorem boundaryOf_eq_error {mentioned : String}
    (failed : boundaryOf (buildAfresh definitions stack) mentioned = .error fault) :
    buildAfresh definitions stack mentioned = .error fault ∨
      ∃ what grammar, fault = .grammarMismatch what grammar := by
  unfold boundaryOf at failed
  cases built : buildAfresh definitions stack mentioned with
  | error reason =>
      rw [built, error_bind] at failed
      cases failed
      exact .inl rfl
  | ok selector =>
      rw [built, ok_bind] at failed
      cases selector with
      | css chain =>
          cases failed
          exact .inr ⟨_, _, rfl⟩
      | xpath chain => simp [boundaryChain] at failed

/-- A fault that is met while entries are built is blamed on the entry that is at fault. -/
theorem reaches_of_buildAfresh (stack : List String) (name : String)
    (failed : buildAfresh definitions stack name = .error (.inEntry entry fault))
    (isLocal : fault.IsLocal) : Reaches definitions name fault entry := by
  by_cases onStack : name ∈ stack
  · simp [buildAfresh_of_mem onStack] at failed
  · cases found : definitions.get? name with
    | none => simp [buildAfresh_of_none onStack found] at failed
    | some definition =>
        have shorter := remaining_push_lt onStack (Table.mem_names_iff.2 ⟨definition, found⟩)
        rw [buildAfresh_of_some onStack found] at failed
        cases assembled : definition.assemble
            (boundaryOf (buildAfresh definitions (stack ++ [name]))) with
        | ok selector => simp [assembled, Except.mapError] at failed
        | error reason =>
            rw [assembled] at failed
            rcases Fault.within_eq_inEntry (Except.error.inj failed) with rfl | ⟨rfl, rfl⟩
            · rcases Definition.atFault_of_assemble assembled with
                ⟨mentioned, member, unresolved⟩ | ⟨bare, -⟩
              · rcases boundaryOf_eq_error unresolved with unbuilt | ⟨_, _, mismatch⟩
                · have mentions : Mentions definitions name mentioned :=
                    ⟨definition, found, member⟩
                  exact .of_mentions mentions
                    (reaches_of_buildAfresh (stack ++ [name]) mentioned unbuilt isLocal)
                · simp at mismatch
              · exact bare.elim
            · rcases Definition.atFault_of_assemble assembled with
                ⟨mentioned, member, unresolved⟩ | ⟨-, atFault⟩
              · rcases boundaryOf_eq_error unresolved with unbuilt | ⟨_, _, rfl⟩
                · exact absurd isLocal.isBare (not_isBare_of_buildAfresh unbuilt)
                · exact isLocal.elim
              · exact ⟨.refl, definition, found, atFault⟩
termination_by (remaining definitions stack).length

/-- A fault that is met in the text of an entry is its own or that of one it mentions. -/
theorem exists_reaches_of_render (stack : List String) (name : String) {selector : Selector}
    (built : buildAfresh definitions stack name = .ok selector)
    (failed : selector.render = .error fault) (isLocal : fault.IsLocal) :
    ∃ culprit, Reaches definitions name fault culprit := by
  obtain ⟨fresh, definition, found, assembled⟩ := buildAfresh_eq_ok_iff.1 built
  have shorter := remaining_push_lt fresh (Table.mem_names_iff.2 ⟨definition, found⟩)
  have compiled : definition.compile (boundaryOf (buildAfresh definitions (stack ++ [name]))) =
      .error fault := by
    rw [Definition.compile, assembled]
    exact failed
  rcases Definition.atFault_of_compile compiled with ⟨mentioned, member, borrowed⟩ | ⟨-, atFault⟩
  · cases resolved : boundaryOf (buildAfresh definitions (stack ++ [name])) mentioned with
    | error reason =>
        rw [resolved] at borrowed
        cases borrowed
        rcases boundaryOf_eq_error resolved with unbuilt | ⟨_, _, rfl⟩
        · exact absurd isLocal.isBare (not_isBare_of_buildAfresh unbuilt)
        · exact isLocal.elim
    | ok chain =>
        obtain ⟨boundary, builtBoundary, isChain⟩ := bind_eq_ok_iff.1 resolved
        obtain rfl := boundaryChain_eq_ok_iff.1 isChain
        rw [resolved, ok_bind, XPath.boundaryTest] at borrowed
        cases rendered : chain.render with
        | error reason =>
            rw [rendered] at borrowed
            cases borrowed
            obtain ⟨culprit, reaches⟩ :=
              exists_reaches_of_render (stack ++ [name]) mentioned builtBoundary rendered isLocal
            exact ⟨culprit, reaches.of_mentions ⟨definition, found, member⟩⟩
        | ok text =>
            rw [rendered, ok_bind, XPath.followingTest] at borrowed
            split at borrowed
            · simp at borrowed
            · cases borrowed
              exact isLocal.elim
  · exact ⟨name, .refl, definition, found, atFault⟩
termination_by (remaining definitions stack).length

theorem not_atFault_of_compiles {definition : Definition}
    (compiles : Compiles definitions stack name)
    (found : definitions.get? name = some definition) : ¬ definition.AtFault fault := by
  intro atFault
  obtain ⟨text, compiled⟩ := compiles
  obtain ⟨-, other, foundOther, fits, rfl⟩ := textAfresh_eq_ok_iff.1 compiled
  obtain rfl : definition = other := Table.eq_of_get? found foundOther
  have passes := Definition.assemble_render_iff.2 ⟨fits, rfl⟩
  have fails := atFault _ fits.resolves
  rw [Definition.compile, passes] at fails
  cases fails

theorem compile_eq_error_iff {selector : Selector} :
    Query.compile selector = .error fault ↔ selector.render = .error fault :=
  bind_pure_eq_error_iff

/-- An entry is compiled with a fault because it cannot be built, or because its text has one. -/
theorem compileAfresh_eq_error {definition : Definition}
    (failed : compileAfresh definitions name definition = .error fault) :
    buildAfresh definitions [] name = .error fault ∨
      ∃ selector reason, buildAfresh definitions [] name = .ok selector ∧
        selector.render = .error reason ∧ fault = .inEntry name reason := by
  unfold compileAfresh at failed
  cases built : buildAfresh definitions [] name with
  | error reason =>
      rw [built] at failed
      cases failed
      exact .inl rfl
  | ok selector =>
      rw [built, ok_bind, bind_pure_eq_error_iff] at failed
      cases compiled : Query.compile selector with
      | ok query => simp [compiled, Except.mapError] at failed
      | error reason =>
          have rendered := compile_eq_error_iff.1 compiled
          rw [compiled] at failed
          cases failed
          refine .inr ⟨selector, reason, rfl, rendered, ?_⟩
          have bare := isBare_of_render rendered
          cases reason with
          | catalog | inEntry => exact bare.elim
          | _ => rfl

/-- The definition at fault is reached along boundaries from the entry that is blamed: it is that
entry's own, or that of an entry after it in the order of the names. -/
theorem exists_atFault_of_ofFile {file : File}
    (failed : ofFile file = .error (.inEntry name fault)) (isLocal : fault.IsLocal) :
    ∃ culprit, (culprit = name ∨ name < culprit) ∧ Reaches file.selectors name fault culprit := by
  rw [ofFile_eq_afresh, ofFileAfresh, bind_pure_eq_error_iff, mapM_eq_error_iff] at failed
  obtain ⟨before, ⟨compiled, definition⟩, after, split, passed, failed⟩ := failed
  rcases compileAfresh_eq_error failed with unbuilt | ⟨selector, reason, built, rendered, same⟩
  · have reaches := reaches_of_buildAfresh [] compiled unbuilt isLocal
    exact ⟨name, .inl rfl, .refl, reaches.2⟩
  · cases same
    obtain ⟨culprit, reaches⟩ := exists_reaches_of_render [] compiled built rendered isLocal
    refine ⟨culprit, ?_, reaches⟩
    obtain ⟨-, culpritDefinition, found, atFault⟩ := reaches
    have member : (culprit, culpritDefinition) ∈ before ++ (compiled, definition) :: after :=
      split ▸ Table.get?_eq_some_iff.1 found
    have notBefore : ¬ culprit < compiled := by
      intro less
      have inside := (fst_lt_iff_mem_before (split ▸ file.selectors.sorted) member).1 less
      have compiles := compileAfresh_isOk_iff.1 (passed _ inside)
      exact not_atFault_of_compiles compiles found atFault
    by_cases own : culprit = compiled
    · exact .inl own
    · exact .inr (Std.lt_of_le_of_ne (String.not_lt.1 notBefore) (Ne.symm own))

def rowsDefinition : Definition :=
  ⟨.xpath, none, none, [⟨.page, some "tr", [], none⟩, ⟨.limitedBy, none, [], some "total"⟩]⟩

def looseLimitFile : File where
  selectors := .ofList
    [("rows", rowsDefinition), ("total", ⟨.xpath, none, none, [⟨.page, some "*", [], none⟩]⟩)]

theorem wellFormed_rowsDefinition : rowsDefinition.WellFormed where
  nonempty := by decide
  starts := by
    intro _ first leads
    cases leads
    decide
  continues := by
    intro step later
    rw [List.mem_singleton.1 later]
    decide
  steps := by
    intro step member
    rcases List.mem_cons.1 member with rfl | later
    · exact {
        bare := fun tagless => absurd ⟨by decide, by decide⟩ tagless
        limited := by decide
        supported := by simp
        tagged := fun _ => ⟨by decide, by decide, by decide⟩
        named := by simp }
    · rw [List.mem_singleton.1 later]
      exact {
        bare := fun _ => ⟨rfl, rfl⟩
        limited := by decide
        supported := by simp
        tagged := fun tagged => absurd rfl tagged.2
        named := by simp }

theorem ofFile_looseLimitFile :
    ofFile looseLimitFile = .error (.inEntry "rows" (.unconstrained "*")) := by
  have failed : (do return (fun _ => ()) (← ofFile looseLimitFile)) =
      (.error (.inEntry "rows" (.unconstrained "*")) : Except Fault Unit) := by
    decide +kernel
  exact bind_pure_eq_error_iff.1 failed

/-- An entry can be blamed though it compiles with any good boundary in the place of its own. -/
theorem blamed_without_fault :
    ofFile looseLimitFile = .error (.inEntry "rows" (.unconstrained "*")) ∧
      (Fault.unconstrained "*").IsLocal ∧
        looseLimitFile.selectors.get? "rows" = some rowsDefinition ∧
          ∀ resolve, rowsDefinition.Bound resolve →
            ∃ text, rowsDefinition.compile resolve = .ok text := by
  refine ⟨ofFile_looseLimitFile, trivial, by decide +kernel, fun resolve bound => ?_⟩
  exact ⟨_, Definition.assemble_render_iff.2 ⟨⟨wellFormed_rowsDefinition, bound⟩, rfl⟩⟩

theorem exists_atFault_of_looseLimitFile :
    ofFile looseLimitFile = .error (.inEntry "rows" (.unconstrained "*")) ∧
      (Fault.unconstrained "*").IsLocal ∧
        ∃ culprit, (culprit = "rows" ∨ "rows" < culprit) ∧
          Reaches looseLimitFile.selectors "rows" (.unconstrained "*") culprit :=
  ⟨ofFile_looseLimitFile, trivial, exists_atFault_of_ofFile ofFile_looseLimitFile trivial⟩

end Catalog

end PageSelectors
