import PageSelectors.Proofs.Css.Steps
import PageSelectors.Proofs.XPath.Rendering

/-!
Which fault a chain reports. A chain is refused by the first of its checks that fails, so its fault
is settled by the order of its checks. XPath checks from the root on: each step its tag, then its
conditions. CSS checks all tags first, the last one first, and then all conditions from the root on.
-/

namespace PageSelectors

open Text (trim)
open Outcome

def Outcome.fault? {ε α : Type} : Except ε α → Option ε
  | .ok _ => none
  | .error fault => some fault

theorem Outcome.fault?_eq_some_iff {ε α : Type} {outcome : Except ε α} {fault : ε} :
    fault? outcome = some fault ↔ outcome = .error fault := by
  cases outcome with
  | error reason => simp [fault?]
  | ok value => simp [fault?]

inductive Check where
  | tag (grammar : Grammar) (name : String) (constrained : Bool)
  | named (what name : String)
  | someClass (names : List String)
  | inRange (index : Nat)
  | rooted (boundary : XPath.Chain)

namespace Check

def fault? : Check → Option Fault
  | .tag grammar name constrained => Outcome.fault? (checkTag grammar (trim name) constrained)
  | .named what name => Outcome.fault? (checkName what name)
  | .someClass names => if names.isEmpty then some (.invalid .noClasses) else none
  | .inRange index => Outcome.fault? (ordinal index)
  | .rooted boundary =>
      if boundary.isAbsolute then none else boundary.render.toOption.map .relativeBoundary

def first? (checks : List Check) : Option Fault :=
  checks.findSome? fault?

end Check

/-- Whether a list of checks settles an outcome: its fault is that of the first check that fails. -/
def Reports {α : Type} (checks : List Check) (outcome : Except Fault α) : Prop :=
  Outcome.fault? outcome = Check.first? checks

namespace Reports

variable {α β : Type} {checks others : List Check}

theorem eq_error_iff {outcome : Except Fault α} (reports : Reports checks outcome) (fault : Fault) :
    outcome = .error fault ↔ Check.first? checks = some fault := by
  rw [← reports, fault?_eq_some_iff]

theorem value (result : α) : Reports [] (.ok result) := rfl

theorem check {outcome : Except Fault α} {check : Check}
    (same : check.fault? = Outcome.fault? outcome) : Reports [check] outcome := by
  rw [Reports, ← same, Check.first?, List.findSome?_singleton]

theorem bind {outcome : Except Fault α} {next : α → Except Fault β} (first : Reports checks outcome)
    (rest : ∀ result, outcome = .ok result → Reports others (next result)) :
    Reports (checks ++ others) (outcome >>= next) := by
  unfold Reports Check.first? at *
  rw [List.findSome?_append, ← first]
  cases outcome with
  | error fault => rfl
  | ok result => exact rest result rfl

theorem make {outcome : Except Fault α} {result : α → β} (first : Reports checks outcome) :
    Reports checks (do return result (← outcome)) := by
  rw [← List.append_nil checks]
  exact first.bind fun _ _ => value _

theorem mapM {Item : Type} {run : Item → Except Fault β} {check : Item → Check}
    (reports : ∀ item, Reports [check item] (run item)) (items : List Item) :
    Reports (items.map check) (items.mapM run) := by
  induction items with
  | nil => exact value []
  | cons item rest ih =>
      rw [List.mapM_cons]
      exact (reports item).bind fun _ _ => ih.make

end Reports

theorem reports_checkName (what name : String) :
    Reports [.named what name] (checkName what name) :=
  .check rfl

theorem reports_ordinal (index : Nat) : Reports [.inRange index] (ordinal index) :=
  .check rfl

def SharedCriterion.checks : SharedCriterion → List Check
  | .attribute name _ _ => [.named "Attribute" name]
  | .classes names => .someClass names :: names.map (.named "CSS class")

theorem reports_checkClasses (names : List String) :
    Reports (SharedCriterion.classes names).checks (checkClasses names) := by
  unfold checkClasses
  cases names with
  | nil => rfl
  | cons name rest => exact Reports.mapM (reports_checkName "CSS class") (name :: rest)

namespace Css

def Pseudo.checks : Pseudo → List Check
  | .nthChild index | .nthLastChild index | .nthOfType index | .nthLastOfType index =>
      [.inRange index]
  | _ => []

def Native.checks : Native → List Check
  | .tag name => [.named "Tag" name]
  | .id value => [.named "ID" value]
  | .pseudo which => which.checks

def conditionChecks (condition : Condition Native) : List Check :=
  match condition.criterion with
  | .shared criterion => criterion.checks
  | .native native => native.checks

theorem Pseudo.reports_render (pseudo : Pseudo) : Reports pseudo.checks pseudo.render := by
  cases pseudo with
  | firstChild | lastChild | firstOfType | lastOfType => exact .value _
  | nthChild index | nthLastChild index | nthOfType index | nthLastOfType index =>
      exact (reports_ordinal index).make

theorem reports_renderCondition (condition : Condition Native) :
    Reports (conditionChecks condition) (renderCondition condition) := by
  match condition with
  | ⟨.shared (.attribute name op operand), negated⟩ =>
      exact (reports_checkName "Attribute" name).make.make
  | ⟨.shared (.classes names), negated⟩ => exact (reports_checkClasses names).make.make
  | ⟨.native (.tag name), negated⟩ => exact (reports_checkName "Tag" name).make
  | ⟨.native (.id value), negated⟩ => exact (reports_checkName "ID" value).make.make
  | ⟨.native (.pseudo pseudo), negated⟩ => exact pseudo.reports_render.make

theorem reports_renderConditions (conditions : List (Condition Native)) :
    Reports (conditions.flatMap conditionChecks) (renderConditions conditions) := by
  induction conditions with
  | nil => exact .value _
  | cons condition rest ih =>
      exact (reports_renderCondition condition).bind fun _ _ => ih.make

def Step.tagCheck (step : Step) : Check :=
  .tag .css step.tag !step.conditions.isEmpty

def Root.steps : Root → List Step
  | .raw _ => []
  | .step first => [first]

def Chain.steps (chain : Chain) : List Step :=
  chain.root.steps ++ chain.joined.map Prod.snd

def Chain.tagChecks (chain : Chain) : List Check :=
  chain.steps.reverse.map Step.tagCheck

def Chain.conditionChecks (chain : Chain) : List Check :=
  chain.steps.flatMap fun step => step.conditions.flatMap Css.conditionChecks

namespace Chain

theorem steps_step (before : Chain) (combinator : Combinator) (tag : String)
    (conditions : List (Condition Native)) :
    (step before combinator tag conditions).steps = before.steps ++ [⟨tag, conditions⟩] := by
  simp [steps, root, joined]

theorem reports_first (tag : String) (conditions : List (Condition Native)) :
    Reports ((page tag conditions).tagChecks ++ (page tag conditions).conditionChecks)
      (page tag conditions).render := by
  have checks : (page tag conditions).tagChecks ++ (page tag conditions).conditionChecks =
      [Step.tagCheck ⟨tag, conditions⟩] ++ conditions.flatMap Css.conditionChecks := by
    simp [tagChecks, conditionChecks, steps, root, joined, Root.steps]
  rw [checks]
  exact (Reports.check rfl).bind fun _ _ => (reports_renderConditions conditions).make

theorem reports_render (chain : Chain) :
    Reports (chain.tagChecks ++ chain.conditionChecks) chain.render := by
  induction chain with
  | raw text => exact .value text
  | page tag conditions | relative tag conditions => exact reports_first tag conditions
  | step before combinator tag conditions ih =>
      have checks : (step before combinator tag conditions).tagChecks ++
            (step before combinator tag conditions).conditionChecks =
          [Step.tagCheck ⟨tag, conditions⟩] ++ ((before.tagChecks ++ before.conditionChecks) ++
            conditions.flatMap Css.conditionChecks) := by
        simp [tagChecks, conditionChecks, steps_step]
      rw [checks]
      exact (Reports.check rfl).bind fun _ _ =>
        ih.bind fun _ _ => (reports_renderConditions conditions).make

end Chain

end Css

namespace XPath

def Place.checks : Place → List Check
  | .exactly index | .atLeast index | .atMost index => [.inRange index]
  | .last => []

mutual

/-- The checks of a chain, from the root on. The checks of a boundary come where it stands, and after
them the one that it starts at the page. -/
def Chain.checks : Chain → List Check
  | .raw _ => []
  | .page tag conditions => .tag .xpath tag (!conditions.isEmpty) :: conditionsChecks conditions
  | .relative step => stepChecks step
  | .step before step => before.checks ++ stepChecks step
  | .limitedBy before boundary => before.checks ++ (boundary.checks ++ [.rooted boundary])

def stepChecks : Step Chain → List Check
  | .element _ tag conditions =>
      .tag .xpath tag (!conditions.isEmpty) :: conditionsChecks conditions
  | .parent => []

def conditionsChecks : List (Condition (Native Chain)) → List Check
  | [] => []
  | condition :: rest => conditionChecks condition ++ conditionsChecks rest

def conditionChecks : Condition (Native Chain) → List Check
  | ⟨.shared criterion, _⟩ => criterion.checks
  | ⟨.native (.text _ _), _⟩ => []
  | ⟨.native (.place place), _⟩ => place.checks
  | ⟨.native (.boundary chain), _⟩ => chain.checks ++ [.rooted chain]

end

theorem Place.reports_test (place : Place) : Reports place.checks place.test := by
  cases place with
  | exactly index | atLeast index | atMost index => exact (reports_ordinal index).make
  | last => exact .value _

theorem reports_renderShared (negated : Bool) (criterion : SharedCriterion) :
    Reports criterion.checks (renderShared negated criterion) := by
  cases criterion with
  | «attribute» name op operand => exact (reports_checkName "Attribute" name).make
  | classes names => exact (reports_checkClasses names).make

theorem reports_boundaryTest {chain : Chain} (reports : Reports chain.checks chain.render) :
    Reports (chain.checks ++ [.rooted chain]) (boundaryTest chain) := by
  apply reports.bind
  intro text rendered
  apply Reports.check
  rw [Check.fault?, rendered, followingTest]
  split <;> rfl

theorem reports_renderElement (axis tag : String) {conditions : List (Condition (Native Chain))}
    (reports : Reports (conditionsChecks conditions) (renderConditions conditions)) :
    Reports (.tag .xpath tag (!conditions.isEmpty) :: conditionsChecks conditions) (do
      checkTag .xpath (trim tag) !conditions.isEmpty
      return axis ++ trim tag ++ (← renderConditions conditions)) := by
  have tagged : Reports [.tag .xpath tag !conditions.isEmpty]
      (checkTag .xpath (trim tag) !conditions.isEmpty) := .check rfl
  exact tagged.bind fun _ _ => reports.make

theorem reports_render :
    (∀ chain : Chain, Reports chain.checks chain.render) ∧
      (∀ step, Reports (stepChecks step) (renderStep step)) ∧
      (∀ conditions, Reports (conditionsChecks conditions) (renderConditions conditions)) ∧
      ∀ condition, Reports (conditionChecks condition) (renderCondition condition) := by
  refine Chain.render.mutual_induct _ _ _ _ ?raw ?page ?relative ?step ?limitedBy ?none ?more
    ?element ?parent ?shared ?text ?place ?boundary
  case raw =>
    intro text
    rw [Chain.checks, Chain.render]
    exact .value text
  case page =>
    intro tag conditions ih
    rw [Chain.checks, Chain.render]
    exact reports_renderElement Relation.page.token tag ih
  case relative =>
    intro first ih
    rwa [Chain.checks, Chain.render]
  case step =>
    intro before last ihBefore ihLast
    rw [Chain.checks, Chain.render]
    exact ihBefore.bind fun _ _ => ihLast.make
  case limitedBy =>
    intro before boundary ihBefore ihBoundary
    rw [Chain.checks, Chain.render_limitedBy]
    exact ihBefore.bind fun _ _ => (reports_boundaryTest ihBoundary).make
  case none =>
    rw [conditionsChecks, renderConditions]
    exact .value _
  case more =>
    intro condition rest ihCondition ihRest
    rw [conditionsChecks, renderConditions]
    exact ihCondition.bind fun _ _ => ihRest.make
  case element =>
    intro axis tag conditions ih
    rw [stepChecks, renderStep]
    exact reports_renderElement axis.token tag ih
  case parent =>
    rw [stepChecks, renderStep]
    exact .value _
  case shared =>
    intro criterion negated
    rw [conditionChecks, renderCondition]
    exact reports_renderShared negated criterion
  case text =>
    intro op operand negated
    rw [conditionChecks, renderCondition]
    exact .value _
  case place =>
    intro place negated
    rw [conditionChecks, renderCondition]
    exact place.reports_test.make
  case boundary =>
    intro chain negated ih
    rw [conditionChecks, renderCondition_boundary]
    exact (reports_boundaryTest ih).make

end XPath

/-- The fault of a chain that does not render is that of its first failing check. In XPath all checks
are made from the root on, and a boundary is held to its own checks before it is asked where it
starts. In CSS a failing tag goes before all conditions, and of two failing tags the one nearer the
end is reported. Raw text is not checked. -/
theorem render_eq_error_iff_first :
    (∀ (chain : XPath.Chain) (fault : Fault),
      chain.render = .error fault ↔ Check.first? chain.checks = some fault) ∧
      (∀ (chain : Css.Chain) (fault : Fault),
        chain.render = .error fault ↔
          Check.first? chain.tagChecks = some fault ∨
            Check.first? chain.tagChecks = none ∧
              Check.first? chain.conditionChecks = some fault) ∧
      ∀ text : String, (XPath.Chain.raw text).render = .ok text ∧
        (Css.Chain.raw text).render = .ok text := by
  refine ⟨?xpath, ?css, ?raw⟩
  case xpath =>
    intro chain fault
    exact (XPath.reports_render.1 chain).eq_error_iff fault
  case css =>
    intro chain fault
    rw [chain.reports_render.eq_error_iff fault, Check.first?, List.findSome?_append,
      Option.or_eq_some_iff]
    rfl
  case raw =>
    intro text
    exact ⟨by rw [XPath.Chain.render], rfl⟩

example : ((Css.Chain.page "ul" [⟨.native (.id " "), false⟩]).step .child "a b" []).render =
    .error (.whitespace "Tag" "a b") := by
  decide +kernel

end PageSelectors
