import PageSelectors.Proofs.XPath.Pieces
import PageSelectors.Proofs.XPath.Values

/-!
Chains as location paths. If the tags and attribute names of a chain are made of name characters,
the test it makes as a boundary is read as a path, however chains and conditions are nested in it,
and that path has a value in every document.
-/

namespace PageSelectors.XPath

open Text (trim)
open Outcome

def IsTagName (tag : String) : Prop :=
  IsRun tag ∨ tag = anyTag

instance (tag : String) : Decidable (IsTagName tag) :=
  inferInstanceAs (Decidable (_ ∨ _))

mutual

def Chain.Named : Chain → Prop
  | .raw _ => True
  | .page tag conditions => IsTagName (trim tag) ∧ NamedConditions conditions
  | .relative step => NamedStep step
  | .step before step => before.Named ∧ NamedStep step
  | .limitedBy before boundary => before.Named ∧ boundary.Named

def NamedStep : Step Chain → Prop
  | .element _ tag conditions => IsTagName (trim tag) ∧ NamedConditions conditions
  | .parent => True

def NamedConditions : List (Condition (Native Chain)) → Prop
  | [] => True
  | condition :: rest => NamedCondition condition ∧ NamedConditions rest

def NamedCondition : Condition (Native Chain) → Prop
  | ⟨.shared (.attribute name _ _), _⟩ => IsRun (trim name)
  | ⟨.native (.boundary chain), _⟩ => chain.Named
  | _ => True

end

section Pieces

def TailReads (tail : String) : Prop :=
  ∃ token tokens test predicates,
    LexesFrom .naming tail.toList (token :: tokens) ∧
      (∀ axis direction, direction? axis = some direction →
        Heads [.word axis, .along, token] direction test) ∧
      ReadsPredicates tokens predicates ∧ ∀ predicate ∈ predicates, Total predicate

def IsAxis (axis : String) : Prop :=
  (∃ direction, direction? axis = some direction) ∧
    ∀ text, tokens ((axis ++ "::").toList ++ text) =
      .word axis :: .along :: Lexer.naming.tokens text

theorem isAxis_axisName (relation : Relation) : IsAxis relation.axisName := by
  match relation with
  | .page | .parent => exact ⟨⟨_, rfl⟩, fun _ => rfl⟩
  | .axis .descendant | .axis .child | .axis .sibling | .axis .precedingSibling
  | .axis .following | .axis .preceding => exact ⟨⟨_, rfl⟩, fun _ => rfl⟩

theorem isAxis_following : IsAxis "following" :=
  isAxis_axisName (.axis .following)

def ReadsPath (text : String) : Prop :=
  ∃ tokens steps, Lexes text.toList tokens ∧ ReadsSteps tokens steps ∧ ∀ step ∈ steps, step.Total

theorem lexes_axis {axis tail : String} (isAxis : IsAxis axis) {token : Token}
    {rest : List Token} (lexes : LexesFrom .naming tail.toList (token :: rest)) :
    Lexes (axis ++ "::" ++ tail).toList ([.word axis, .along, token] ++ rest) := by
  intro others separates
  have read := lexes others separates
  have entered : tokens ((axis ++ "::" ++ tail).toList ++ others) =
      .word axis :: .along :: Lexer.naming.tokens (tail.toList ++ others) := by
    rw [String.toList_append, List.append_assoc]
    exact isAxis.2 _
  exact entered.trans (by rw [read]; rfl)

theorem readsPath_last {axis tail : String} (isAxis : IsAxis axis) (reads : TailReads tail) :
    ReadsPath (axis ++ "::" ++ tail) := by
  obtain ⟨token, tokens, test, predicates, lexes, heads, readsPredicates, total⟩ := reads
  obtain ⟨direction, known⟩ := isAxis.1
  exact ⟨_, _, lexes_axis isAxis lexes, .last (heads axis direction known) readsPredicates,
    by simpa [PathStep.Total] using total⟩

theorem readsPath_more {axis tail rest : String} (isAxis : IsAxis axis) (reads : TailReads tail)
    (readsRest : ReadsPath rest) : ReadsPath (axis ++ "::" ++ tail ++ ("/" ++ rest)) := by
  obtain ⟨token, tokens, test, predicates, lexes, heads, readsPredicates, total⟩ := reads
  obtain ⟨others, steps, lexesRest, readsSteps, totalSteps⟩ := readsRest
  obtain ⟨direction, known⟩ := isAxis.1
  have slash : Closes "/".toList [.mark '/'] := fun rest => rfl
  have begins : Begins "/".toList := by decide
  have whole := (lexes_axis isAxis lexes).append_lexes (slash.append_lexes lexesRest)
    fun rest _ => ((begins.append _).append rest).2
  have readsAll := ReadsSteps.more (heads axis direction known) readsPredicates readsSteps
  refine ⟨_, _, ?_, readsAll, ?_⟩
  · simp only [String.toList_append, List.append_assoc, List.cons_append, List.nil_append]
      at whole ⊢
    exact whole
  · exact List.forall_mem_cons.2 ⟨total, totalSteps⟩

def TestReads (test : String) : Prop :=
  ∃ expression, Expresses 0 test expression ∧ Total expression

structure Node.Readable (node : Node) : Prop where
  named : IsTagName node.tag
  predicates : ∀ groups, node.predicates = .ok groups → ∃ expressions,
    List.Forall₂ Encloses groups expressions ∧ ∀ expression ∈ expressions, Total expression

theorem IsTagName.lexes {tag : String} (named : IsTagName tag) :
    ∃ token test, LexesFrom .naming tag.toList [token] ∧ ∀ axis direction,
      direction? axis = some direction → Heads [.word axis, .along, token] direction test := by
  rcases named with isRun | rfl
  · exact ⟨_, _, isRun.lexes, fun _ _ known => .name known tag⟩
  · exact ⟨_, _, fun _ _ => rfl, fun _ _ known => .any known⟩

theorem Node.Readable.tailReads {node : Node} (readable : node.Readable) {piece : String}
    (spells : node.Spells piece) :
    ∃ tail, piece = node.relation.axisName ++ "::" ++ tail ∧ TailReads tail := by
  obtain ⟨groups, written, rfl⟩ := spells
  obtain ⟨expressions, enclose, total⟩ := readable.predicates groups written
  obtain ⟨tokens, closes, reads, separates⟩ := reads_join enclose
  obtain ⟨token, test, lexes, heads⟩ := readable.named.lexes
  refine ⟨node.tag ++ String.join groups, ?_, token, tokens, test, expressions, ?_, heads, reads,
    total⟩
  · simp only [Node.head, String.append_assoc]
  · rw [String.toList_append]
    exact lexes.append_lexes closes.lexes separates

theorem readsPath_pieces {node : Node} {nodes : List Node} {piece : String} {pieces : List String}
    (readable : ∀ other ∈ node :: nodes, other.Readable)
    (spells : List.Forall₂ Node.Spells (node :: nodes) (piece :: pieces)) :
    ∃ tail, piece = node.relation.axisName ++ "::" ++ tail ∧ ∀ axis, IsAxis axis →
      ReadsPath (axis ++ "::" ++ tail ++ String.join (pieces.map ("/" ++ ·))) := by
  induction nodes generalizing node piece pieces with
  | nil =>
      obtain ⟨first, others⟩ := List.forall₂_cons.1 spells
      obtain rfl := List.forall₂_nil_left_iff.1 others
      obtain ⟨tail, written, reads⟩ := (readable _ List.mem_cons_self).tailReads first
      refine ⟨tail, written, fun axis isAxis => ?_⟩
      simpa using readsPath_last isAxis reads
  | cons next nodes ih =>
      obtain ⟨first, others⟩ := List.forall₂_cons.1 spells
      obtain ⟨nextPiece, rest, -, -, rfl⟩ := List.forall₂_cons_left_iff.1 others
      obtain ⟨firstReadable, restReadable⟩ := List.forall_mem_cons.1 readable
      obtain ⟨tail, written, reads⟩ := firstReadable.tailReads first
      obtain ⟨nextTail, rfl, readsNext⟩ := ih restReadable others
      refine ⟨tail, written, fun axis isAxis => ?_⟩
      have readsRest := readsNext _ (isAxis_axisName next.relation)
      have whole := readsPath_more isAxis reads readsRest
      simpa only [List.map_cons, String.join_cons, String.append_assoc] using whole

theorem replaceRoot_axis (relation : Relation) (rest : String) :
    String.ofList (replaceRoot ("/" ++ (relation.axisName ++ "::" ++ rest)).toList) =
      "following" ++ "::" ++ rest := by
  have chars : ("/" ++ (relation.axisName ++ "::" ++ rest)).toList =
      '/' :: (relation.axisName.toList ++ ("::".toList ++ rest.toList)) := by
    simp [String.toList_append, List.append_assoc]
  have replaced : replaceRoot ('/' :: (relation.axisName.toList ++ ("::".toList ++ rest.toList))) =
      "following".toList ++ ("::".toList ++ rest.toList) := by
    match relation with
    | .page | .parent => simp [replaceRoot, Relation.axisName, isAxisChar]
    | .axis .descendant | .axis .child | .axis .sibling | .axis .precedingSibling
    | .axis .following | .axis .preceding => simp [replaceRoot, Relation.axisName, isAxisChar]
  rw [chars, replaced, ← String.toList_inj, String.toList_ofList]
  simp only [String.toList_append, List.append_assoc]

theorem readsPath_boundaryTest {chain : Chain} {test : String}
    (readable : chain.isRaw = false → ∀ node ∈ chain.nodes, node.Readable)
    (tested : boundaryTest chain = .ok test) : ReadsPath test := by
  obtain ⟨text, rendered, tested⟩ := bind_eq_ok_iff.1 tested
  obtain ⟨absolute, rfl⟩ := followingTest_eq_ok_iff.1 tested
  have unrooted := Chain.isRaw_of_isAbsolute absolute
  have unlimited : ([] : List Chain).mapM limitPredicate = .ok [] := rfl
  obtain ⟨pieces, spells, joined⟩ := chain.exists_pieces unrooted rendered unlimited
  have all := readable unrooted
  rw [String.join_nil, String.append_empty] at joined
  cases pieces with
  | nil =>
      obtain ⟨rest, written⟩ := Chain.render_of_isAbsolute absolute rendered
      have empty : ("/descendant::" ++ rest).toList = [] := by
        rw [← written, joined]
        rfl
      simp at empty
  | cons piece pieces =>
      obtain ⟨node, nodes, -, -, listed⟩ := List.forall₂_cons_right_iff.1 spells
      have whole : List.Forall₂ Node.Spells (node :: nodes) (piece :: pieces) := listed ▸ spells
      have allReadable : ∀ other ∈ node :: nodes, other.Readable := listed ▸ all
      obtain ⟨tail, rfl, reads⟩ := readsPath_pieces allReadable whole
      have root := replaceRoot_axis node.relation (tail ++ String.join (pieces.map ("/" ++ ·)))
      have read := reads _ isAxis_following
      rw [List.map_cons, String.join_cons] at joined
      rw [joined]
      simp only [String.append_assoc] at root read ⊢
      rw [root]
      exact read

end Pieces

section Nesting

def ConditionReads (condition : Condition (Native Chain)) : Prop :=
  ∀ tests, criterionTests condition.criterion = .ok tests → ∀ test ∈ tests, TestReads test

def LimitReads (limit : Chain) : Prop :=
  ∀ test, boundaryTest limit = .ok test → ReadsPath test

theorem ReadsPath.expresses {test : String} (reads : ReadsPath test) :
    ∃ steps, Expresses 0 test (.path steps) ∧ ∀ step ∈ steps, step.Total := by
  obtain ⟨tokens, steps, lexes, readsSteps, total⟩ := reads
  exact ⟨steps, ⟨tokens, lexes, (Reads.path readsSteps).outermost⟩, total⟩

theorem ReadsPath.testReads {test : String} (reads : ReadsPath test) : TestReads test := by
  obtain ⟨steps, expresses, total⟩ := reads.expresses
  exact ⟨_, expresses, (isTest_path total).total⟩

theorem exists_encloses {tests : List String} (read : ∀ test ∈ tests, TestReads test)
    (negated : Bool) :
    ∃ expressions, List.Forall₂ Encloses (tests.map (predicate negated)) expressions ∧
      ∀ expression ∈ expressions, Total expression := by
  induction tests with
  | nil => exact ⟨[], .nil, by simp⟩
  | cons test tests ih =>
      obtain ⟨⟨expression, expresses, total⟩, others⟩ := List.forall_mem_cons.1 read
      obtain ⟨expressions, enclose, totals⟩ := ih others
      exact ⟨_, .cons (encloses_predicate expresses negated) enclose,
        List.forall_mem_cons.2 ⟨total_predicateExpression total negated, totals⟩⟩

theorem exists_encloses_flatten {lists : List (List String)}
    (read : ∀ groups ∈ lists, ∃ expressions, List.Forall₂ Encloses groups expressions ∧
      ∀ expression ∈ expressions, Total expression) :
    ∃ expressions, List.Forall₂ Encloses lists.flatten expressions ∧
      ∀ expression ∈ expressions, Total expression := by
  induction lists with
  | nil => exact ⟨[], .nil, by simp⟩
  | cons groups lists ih =>
      obtain ⟨⟨first, encloseFirst, totalFirst⟩, rest⟩ := List.forall_mem_cons.1 read
      obtain ⟨others, encloseOthers, totalOthers⟩ := ih rest
      exact ⟨first ++ others, List.rel_append encloseFirst encloseOthers,
        List.forall_mem_append.2 ⟨totalFirst, totalOthers⟩⟩

theorem Node.readable {node : Node} (named : IsTagName node.tag)
    (conditions : ∀ condition ∈ node.conditions, ConditionReads condition)
    (limits : ∀ limit ∈ node.limits, LimitReads limit) : node.Readable where
  named := named
  predicates := by
    intro groups written
    obtain ⟨own, ownWritten, written⟩ := bind_eq_ok_iff.1 written
    obtain ⟨limitGroups, limitsWritten, rfl⟩ := bind_pure_eq_ok_iff.1 written
    have single : own.flatten ++ limitGroups = (own ++ limitGroups.map ([·])).flatten := by
      rw [List.flatten_append, ← List.flatMap_def, List.flatMap_singleton']
    rw [single]
    refine exists_encloses_flatten (List.forall_mem_append.2 ⟨?_, ?_⟩)
    · intro groups listed
      obtain ⟨condition, given, found⟩ := exists_of_mem_right (mapM_eq_ok_iff.1 ownWritten) listed
      obtain ⟨tests, tested, rfl⟩ := bind_pure_eq_ok_iff.1 found
      exact exists_encloses (conditions condition given tests tested) condition.negated
    · intro groups listed
      obtain ⟨group, inside, rfl⟩ := List.mem_map.1 listed
      obtain ⟨limit, given, found⟩ :=
        exists_of_mem_right (mapM_eq_ok_iff.1 limitsWritten) inside
      obtain ⟨test, tested, rfl⟩ := bind_pure_eq_ok_iff.1 found
      have reads : ∀ test' ∈ [test], TestReads test' := by
        simpa using (limits limit given test tested).testReads
      exact exists_encloses reads false

theorem Step.readable_node {step : Step Chain} (named : NamedStep step)
    (conditions : ∀ axis tag own, step = .element axis tag own →
      ∀ condition ∈ own, ConditionReads condition)
    {limits : List Chain} (readLimits : ∀ limit ∈ limits, LimitReads limit) :
    (step.node limits).Readable := by
  cases step with
  | element axis tag own =>
      rw [NamedStep] at named
      exact Node.readable named.1 (conditions axis tag own rfl) readLimits
  | parent => exact Node.readable (.inr rfl) (by simp [Step.node]) readLimits

theorem conditionReads_shared {criterion : SharedCriterion} {negated : Bool}
    (named : NamedCondition ⟨.shared criterion, negated⟩) :
    ConditionReads ⟨.shared criterion, negated⟩ := by
  intro tests tested test member
  obtain ⟨-, rfl⟩ := (criterionTests_shared_eq_ok_iff criterion).1 tested
  cases criterion with
  | «attribute» name op operand =>
      rw [NamedCondition] at named
      rw [List.mem_singleton.1 member]
      exact ⟨_, expresses_attributeTest named op operand,
        (isTest_attributeExpression (trim name) op operand).total⟩
  | classes names =>
      obtain ⟨name, -, rfl⟩ := List.mem_map.1 member
      have subject := expresses_attributePath (by decide : IsRun "class")
      exact ⟨_, expresses_comparison subject .wholeWord (trim name),
        (isTest_comparisonExpression total_along .wholeWord (trim name)).total⟩

theorem conditionReads_text {op : TextOp} {operand : String} {negated : Bool} :
    ConditionReads ⟨.native (.text op operand), negated⟩ := by
  intro tests tested test member
  rw [criterionTests] at tested
  rw [← Except.ok.inj tested, List.mem_singleton] at member
  rw [member]
  exact ⟨_, expresses_comparison expresses_textPath op operand,
    (isTest_textExpression op operand).total⟩

theorem conditionReads_place {place : Place} {negated : Bool} :
    ConditionReads ⟨.native (.place place), negated⟩ := by
  intro tests tested test member
  obtain ⟨-, rfl⟩ := criterionTests_place_eq_ok_iff.1 tested
  rw [List.mem_singleton.1 member]
  exact ⟨_, expresses_place place, total_placeExpression place⟩

theorem conditionReads_boundary {chain : Chain} {negated : Bool} (reads : LimitReads chain) :
    ConditionReads ⟨.native (.boundary chain), negated⟩ := by
  intro tests tested test member
  rw [criterionTests] at tested
  obtain ⟨only, testedChain, rfl⟩ := bind_pure_eq_ok_iff.1 tested
  rw [List.mem_singleton.1 member]
  exact (reads only testedChain).testReads

/-- The steps of named chains are readable, by induction on how chains and conditions are nested. -/
theorem readable_of_named :
    (∀ chain : Chain, chain.Named → ∀ limits, (∀ limit ∈ limits, LimitReads limit) →
      ∀ node ∈ chain.nodesUnder limits, node.Readable) ∧
    (∀ step, NamedStep step → ∀ axis tag own, step = .element axis tag own →
      ∀ condition ∈ own, ConditionReads condition) ∧
    (∀ conditions, NamedConditions conditions → ∀ condition ∈ conditions,
      ConditionReads condition) ∧
    (∀ condition, NamedCondition condition → ConditionReads condition) := by
  refine Chain.render.mutual_induct _ _ _ _ ?raw ?page ?relative ?step ?limitedBy ?none ?more
    ?element ?parent ?shared ?text ?place ?boundary
  case raw =>
    intro text _ limits _ node member
    simp [Chain.nodesUnder] at member
  case page =>
    intro tag conditions ih named limits readLimits node member
    rw [Chain.Named] at named
    rw [List.mem_singleton.1 member]
    exact Node.readable named.1 (ih named.2) readLimits
  case relative =>
    intro step ih named limits readLimits node member
    rw [Chain.Named] at named
    rw [List.mem_singleton.1 member]
    exact Step.readable_node named (ih named) readLimits
  case step =>
    intro before step ihBefore ihStep named limits readLimits node member
    rw [Chain.Named] at named
    rcases List.mem_append.1 member with earlier | last
    · exact ihBefore named.1 [] (by simp) node earlier
    · rw [List.mem_singleton.1 last]
      exact Step.readable_node named.2 (ihStep named.2) readLimits
  case limitedBy =>
    intro before boundary ihBefore ihBoundary named limits readLimits node member
    rw [Chain.Named] at named
    have readBoundary : LimitReads boundary := fun test tested =>
      readsPath_boundaryTest (fun _ => ihBoundary named.2 [] (by simp)) tested
    exact ihBefore named.1 (boundary :: limits)
      (List.forall_mem_cons.2 ⟨readBoundary, readLimits⟩) node member
  case none =>
    intro _ condition member
    simp at member
  case more =>
    intro condition rest ihCondition ihRest named
    rw [NamedConditions] at named
    exact List.forall_mem_cons.2 ⟨ihCondition named.1, ihRest named.2⟩
  case element =>
    intro axis tag conditions ih named other name own same
    rw [NamedStep] at named
    obtain ⟨-, -, rfl⟩ := Step.element.inj same
    exact ih named.2
  case parent =>
    intro _ axis tag own same
    simp at same
  case shared => exact fun _ _ => conditionReads_shared
  case text => exact fun _ _ _ _ => conditionReads_text
  case place => exact fun _ _ _ => conditionReads_place
  case boundary =>
    intro chain negated ih named
    rw [NamedCondition] at named
    exact conditionReads_boundary fun test tested =>
      readsPath_boundaryTest (fun _ => ih named [] (by simp)) tested

theorem Chain.Named.limitReads {chain : Chain} (named : chain.Named) : LimitReads chain :=
  fun _ tested => readsPath_boundaryTest
    (fun _ => readable_of_named.1 chain named [] (by simp)) tested

end Nesting

end PageSelectors.XPath
