import PageSelectors.Proofs.XPath.Plain

/-!
No operand escapes its place. The text of a chain with plain names, read from the left, falls into
exactly the steps of the chain, and each step into its axis, its tag and its predicates.
-/

namespace PageSelectors.XPath

open Text (trim)
open Outcome

def Relation.axisName : Relation → String
  | .page | .axis .descendant => "descendant"
  | .axis .child => "child"
  | .axis .sibling => "following-sibling"
  | .axis .precedingSibling => "preceding-sibling"
  | .axis .following => "following"
  | .axis .preceding => "preceding"
  | .parent => "parent"

theorem Relation.token_eq (relation : Relation) :
    relation.token = "/" ++ (relation.axisName ++ "::") := by
  match relation with
  | .page | .parent => rfl
  | .axis .descendant | .axis .child | .axis .sibling | .axis .precedingSibling
  | .axis .following | .axis .preceding => rfl

/-- An axis step of a chain, with the boundaries that limit it. -/
structure Node where
  relation : Relation
  tag : String
  conditions : List (Condition (Native Chain))
  limits : List Chain

def conditionPredicates (condition : Condition (Native Chain)) : Except Fault (List String) := do
  return (← criterionTests condition.criterion).map (predicate condition.negated)

def limitPredicate (boundary : Chain) : Except Fault String := do
  return predicate false (← boundaryTest boundary)

namespace Node

def head (node : Node) : String :=
  node.relation.axisName ++ "::" ++ node.tag

def predicates (node : Node) : Except Fault (List String) := do
  let own ← node.conditions.mapM conditionPredicates
  let limits ← node.limits.mapM limitPredicate
  return own.flatten ++ limits

structure Plain (node : Node) : Prop where
  tag : IsPlain node.tag
  conditions : PlainConditions node.conditions
  limits : ∀ limit ∈ node.limits, limit.Plain

def Spells (node : Node) (piece : String) : Prop :=
  ∃ predicates, node.predicates = .ok predicates ∧ piece = node.head ++ String.join predicates

/-- Whether a text is a step and can be read as no other: there are no brackets, quotes and slashes
in its axis and tag, and each of its predicates is a bracket group. -/
def IsPiece (node : Node) (piece : String) : Prop :=
  ∃ predicates, node.predicates = .ok predicates ∧ piece = node.head ++ String.join predicates ∧
    IsPlain node.head ∧ ∀ group ∈ predicates, IsGroup group.toList

end Node

def Step.node (limits : List Chain) : Step Chain → Node
  | .element axis tag conditions => ⟨.axis axis, trim tag, conditions, limits⟩
  | .parent => ⟨.parent, anyTag, [], limits⟩

def Chain.nodesUnder (limits : List Chain) : Chain → List Node
  | .raw _ => []
  | .page tag conditions => [⟨.page, trim tag, conditions, limits⟩]
  | .relative last => [last.node limits]
  | .step before last => before.nodesUnder [] ++ [last.node limits]
  | .limitedBy before boundary => before.nodesUnder (boundary :: limits)

def Chain.nodes (chain : Chain) : List Node :=
  chain.nodesUnder []

def pieces (text : String) : List String :=
  (split .start text.toList).map String.ofList

theorem renderConditions_predicates {conditions : List (Condition (Native Chain))} {text : String}
    (rendered : renderConditions conditions = .ok text) :
    ∃ own, conditions.mapM conditionPredicates = .ok own ∧ text = String.join own.flatten := by
  induction conditions generalizing text with
  | nil =>
      rw [renderConditions] at rendered
      exact ⟨[], rfl, (Except.ok.inj rendered).symm⟩
  | cons condition rest ih =>
      rw [renderConditions, renderCondition_eq] at rendered
      obtain ⟨first, renderedFirst, rendered⟩ := bind_eq_ok_iff.1 rendered
      obtain ⟨others, renderedOthers, rfl⟩ := bind_pure_eq_ok_iff.1 rendered
      obtain ⟨tests, tested, rfl⟩ := bind_pure_eq_ok_iff.1 renderedFirst
      obtain ⟨own, listed, rfl⟩ := ih renderedOthers
      refine ⟨tests.map (predicate condition.negated) :: own, ?_, ?_⟩
      · rw [List.mapM_cons, conditionPredicates, tested, listed]
        rfl
      · rw [List.flatten_cons, String.join_append]
        rfl

section Composition

variable {limits : List Chain} {groups : List String} {text : String}

theorem exists_piece_element {relation : Relation} {tag : String}
    {conditions : List (Condition (Native Chain))}
    (element : Element relation.token tag conditions text)
    (limited : limits.mapM limitPredicate = .ok groups) :
    ∃ piece, Node.Spells ⟨relation, trim tag, conditions, limits⟩ piece ∧
      text ++ String.join groups = "/" ++ piece := by
  obtain ⟨-, others, rendered, rfl⟩ := element
  obtain ⟨own, listed, rfl⟩ := renderConditions_predicates rendered
  refine ⟨_, ⟨own.flatten ++ groups, ?_, rfl⟩, ?_⟩
  · rw [Node.predicates, listed, limited]
    rfl
  · simp only [Node.head, relation.token_eq, String.join_append, String.append_assoc]

theorem exists_piece_step {step : Step Chain} (rendered : renderStep step = .ok text)
    (limited : limits.mapM limitPredicate = .ok groups) :
    ∃ piece, (step.node limits).Spells piece ∧ text ++ String.join groups = "/" ++ piece := by
  cases step with
  | element axis tag conditions =>
      rw [renderStep_element_eq_ok_iff] at rendered
      exact exists_piece_element rendered limited
  | parent =>
      rw [renderStep_parent_eq_ok_iff.1 rendered]
      refine ⟨_, ⟨groups, ?_, rfl⟩, ?_⟩
      · rw [Step.node, Node.predicates, limited]
        rfl
      · simp only [Step.node, Node.head, Relation.token_eq, String.append_assoc]

theorem Chain.exists_pieces {chain : Chain} (unrooted : chain.isRaw = false)
    (rendered : chain.render = .ok text) (limited : limits.mapM limitPredicate = .ok groups) :
    ∃ pieces, List.Forall₂ Node.Spells (chain.nodesUnder limits) pieces ∧
      text ++ String.join groups = String.join (pieces.map ("/" ++ ·)) := by
  induction chain using Chain.isAbsolute.induct generalizing limits groups text with
  | case1 raw => simp [isRaw] at unrooted
  | case2 tag conditions =>
      rw [render_page, renderStep_element_eq_ok_iff] at rendered
      have start : Element Relation.page.token tag conditions text := rendered
      obtain ⟨piece, spells, written⟩ := exists_piece_element start limited
      exact ⟨[piece], .cons spells .nil, by simpa using written⟩
  | case3 step =>
      rw [Chain.render] at rendered
      obtain ⟨piece, spells, written⟩ := exists_piece_step rendered limited
      exact ⟨[piece], .cons spells .nil, by simpa using written⟩
  | case4 before step ih =>
      obtain ⟨start, renderedStart, last, renderedLast, rfl⟩ := render_step_eq_ok_iff.1 rendered
      have unlimited : ([] : List Chain).mapM limitPredicate = .ok [] := rfl
      obtain ⟨pieces, spellAll, joined⟩ := ih unrooted renderedStart unlimited
      obtain ⟨piece, spells, written⟩ := exists_piece_step renderedLast limited
      refine ⟨pieces ++ [piece], List.rel_append spellAll (.cons spells .nil), ?_⟩
      calc start ++ last ++ String.join groups
          = (start ++ String.join []) ++ (last ++ String.join groups) := by
            simp [String.append_assoc]
        _ = String.join (pieces.map ("/" ++ ·)) ++ ("/" ++ piece) := by rw [joined, written]
        _ = String.join ((pieces ++ [piece]).map ("/" ++ ·)) := by
            simp [String.join_append]
  | case5 before boundary ih =>
      obtain ⟨start, renderedStart, test, tested, rfl⟩ := render_limitedBy_eq_ok_iff.1 rendered
      have further : (boundary :: limits).mapM limitPredicate =
          .ok (predicate false test :: groups) := by
        rw [List.mapM_cons, limitPredicate, tested, limited]
        rfl
      obtain ⟨pieces, spellAll, joined⟩ := ih unrooted renderedStart further
      exact ⟨pieces, spellAll, by rw [← joined, String.join_cons, String.append_assoc]⟩

end Composition

section Groups

variable {node : Node}

theorem Step.plain_node {step : Step Chain} (plain : PlainStep step) {limits : List Chain}
    (plainLimits : ∀ limit ∈ limits, limit.Plain) : (step.node limits).Plain := by
  cases step with
  | element axis tag conditions =>
      rw [PlainStep] at plain
      exact ⟨plain.1.trimmed, plain.2, plainLimits⟩
  | parent =>
      have any : IsPlain anyTag := by decide
      refine ⟨any, ?_, plainLimits⟩
      rw [Step.node, PlainConditions]
      trivial

theorem Chain.plain_of_mem_nodesUnder {chain : Chain} (plain : chain.Plain) {limits : List Chain}
    (plainLimits : ∀ limit ∈ limits, limit.Plain) (member : node ∈ chain.nodesUnder limits) :
    node.Plain := by
  induction chain using Chain.isAbsolute.induct generalizing limits with
  | case1 raw => simp [nodesUnder] at member
  | case2 tag conditions =>
      rw [Chain.Plain] at plain
      rw [List.mem_singleton.1 member]
      exact ⟨plain.1.trimmed, plain.2, plainLimits⟩
  | case3 step =>
      rw [Chain.Plain] at plain
      rw [List.mem_singleton.1 member]
      exact Step.plain_node plain plainLimits
  | case4 before step ih =>
      rw [Chain.Plain] at plain
      rcases List.mem_append.1 member with earlier | last
      · exact ih plain.1 (by simp) earlier
      · rw [List.mem_singleton.1 last]
        exact Step.plain_node plain.2 plainLimits
  | case5 before boundary ih =>
      rw [Chain.Plain] at plain
      exact ih plain.1 (List.forall_mem_cons.2 ⟨plain.2, plainLimits⟩) member

theorem isGroup_of_limitPredicate {limit : Chain} (plain : limit.Plain) {group : String}
    (written : limitPredicate limit = .ok group) : IsGroup group.toList := by
  obtain ⟨test, tested, rfl⟩ := bind_pure_eq_ok_iff.1 written
  exact (balanced_boundaryTest (balances_of_plain.1 limit plain) tested).isGroup_predicate false

theorem isGroup_of_conditionPredicates {condition : Condition (Native Chain)}
    (plain : PlainCondition condition) {groups : List String}
    (written : conditionPredicates condition = .ok groups) :
    ∀ group ∈ groups, IsGroup group.toList := by
  obtain ⟨tests, tested, rfl⟩ := bind_pure_eq_ok_iff.1 written
  intro group member
  obtain ⟨test, inside, rfl⟩ := List.mem_map.1 member
  have balanced := balances_of_plain.2.2.2 condition plain tests tested test inside
  exact balanced.isGroup_predicate condition.negated

theorem plainConditions_iff {conditions : List (Condition (Native Chain))} :
    PlainConditions conditions ↔ ∀ condition ∈ conditions, PlainCondition condition := by
  induction conditions with
  | nil => simp [PlainConditions]
  | cons condition rest ih => rw [PlainConditions, List.forall_mem_cons, ih]

theorem Node.Plain.isGroup (plain : node.Plain) {groups : List String}
    (written : node.predicates = .ok groups) : ∀ group ∈ groups, IsGroup group.toList := by
  obtain ⟨own, ownWritten, written⟩ := bind_eq_ok_iff.1 written
  obtain ⟨limits, limitsWritten, rfl⟩ := bind_pure_eq_ok_iff.1 written
  intro group member
  rcases List.mem_append.1 member with inside | inside
  · obtain ⟨groups, listed, inside⟩ := List.mem_flatten.1 inside
    obtain ⟨condition, given, written⟩ := exists_of_mem_right (mapM_eq_ok_iff.1 ownWritten) listed
    exact isGroup_of_conditionPredicates
      (plainConditions_iff.1 plain.conditions condition given) written group inside
  · obtain ⟨limit, given, written⟩ := exists_of_mem_right (mapM_eq_ok_iff.1 limitsWritten) inside
    exact isGroup_of_limitPredicate (plain.limits limit given) written

theorem Node.Plain.isPlain_head (plain : node.Plain) : IsPlain node.head := by
  have axis : IsPlain node.relation.axisName := by
    match node.relation with
    | .page | .parent => decide
    | .axis .descendant | .axis .child | .axis .sibling | .axis .precedingSibling
    | .axis .following | .axis .preceding => decide
  have colons : IsPlain "::" := by decide
  exact (axis.append colons).append plain.tag

theorem Node.Plain.isPiece (plain : node.Plain) {piece : String} (spells : node.Spells piece) :
    node.IsPiece piece := by
  obtain ⟨predicates, written, same⟩ := spells
  exact ⟨predicates, written, same, plain.isPlain_head, plain.isGroup written⟩

theorem uncut_join {groups : List String} (isGroup : ∀ group ∈ groups, IsGroup group.toList) :
    Uncut (String.join groups).toList := by
  induction groups with
  | nil => exact .of_not_mem (by simp)
  | cons group rest ih =>
      obtain ⟨first, others⟩ := List.forall_mem_cons.1 isGroup
      rw [String.join_cons, String.toList_append]
      exact .append first.balanced (.of_isGroup first) (ih others)

theorem Node.IsPiece.solid {piece : String} (isPiece : node.IsPiece piece) :
    Balanced piece.toList ∧ Uncut piece.toList := by
  obtain ⟨predicates, -, rfl, plain, isGroup⟩ := isPiece
  have head : Balanced node.head.toList := .of_plain fun c member => (plain c member).1
  have groups : Balanced (String.join predicates).toList :=
    .join fun group member => (isGroup group member).balanced
  refine ⟨head.text_append groups, ?_⟩
  rw [String.toList_append]
  refine .append head (.of_not_mem fun member => ?_) (uncut_join isGroup)
  exact (plain '/' member).2 rfl

theorem pieces_join {steps : List String}
    (solid : ∀ step ∈ steps, Balanced step.toList ∧ Uncut step.toList) :
    pieces (String.join (steps.map ("/" ++ ·))) = "" :: steps := by
  have texts : (String.join (steps.map ("/" ++ ·))).toList =
      ((steps.map String.toList).map ('/' :: ·)).flatten := by
    rw [String.toList_join, List.flatMap_map, List.map_map, ← List.flatMap_def]
    congr
    funext step
    rw [Function.comp_apply, String.toList_append]
    rfl
  rw [pieces, texts, split_pieces (List.forall_mem_map.2 solid)]
  simp

end Groups

/-- No operand escapes its place. The text of a chain is balanced, and its pieces between slashes
outside all brackets and literals are an empty one and then the steps of the chain in order, each of
them its axis and tag followed by its predicates as bracket groups. -/
theorem Chain.pieces_render {chain : Chain} (unrooted : chain.isRaw = false) (plain : chain.Plain)
    {text : String} (rendered : chain.render = .ok text) :
    Balanced text.toList ∧
      ∃ steps, pieces text = "" :: steps ∧ List.Forall₂ Node.IsPiece chain.nodes steps := by
  refine ⟨balances_of_plain.1 chain plain unrooted text rendered, ?_⟩
  have unlimited : ([] : List Chain).mapM limitPredicate = .ok [] := rfl
  obtain ⟨steps, spells, joined⟩ := chain.exists_pieces unrooted rendered unlimited
  have nodes : ∀ node ∈ chain.nodes, node.Plain := fun node member =>
    chain.plain_of_mem_nodesUnder plain (by simp) member
  have isPiece : List.Forall₂ Node.IsPiece chain.nodes steps :=
    ((List.forall₂_and_left _ _).2 ⟨nodes, spells⟩).imp fun _ _ both => both.1.isPiece both.2
  refine ⟨steps, ?_, isPiece⟩
  rw [String.join_nil, String.append_empty] at joined
  rw [joined]
  apply pieces_join
  intro step member
  obtain ⟨node, -, piece⟩ := exists_of_mem_right isPiece member
  exact piece.solid

def hostileChain : Chain :=
  .limitedBy
    (.step
      (.page "div" [⟨.shared (.attribute "title" (.compare .endsWith) "a']/\"b["), false⟩])
      (.element .child " li " [⟨.shared (.classes ["x'y", "]/"]), true⟩]))
    (.page "h2" [⟨.native (.text .is "']\"/["), false⟩])

def hostileText : String :=
  "/descendant::div[substring(@title, string-length(@title) - string-length(concat('a', \"'\", " ++
    "']/\"b['))+1) = concat('a', \"'\", ']/\"b[')]" ++
    "/child::li[not(contains(concat(' ', normalize-space(@class), ' '), \" x'y \"))]" ++
    "[not(contains(concat(' ', normalize-space(@class), ' '), ' ]/ '))]" ++
    "[following::h2[text()=concat('', \"'\", ']\"/[')]]"

theorem pieces_render_hostileChain :
    hostileChain.isRaw = false ∧ hostileChain.Plain ∧ hostileChain.render = .ok hostileText ∧
      Balanced hostileText.toList ∧
        ∃ steps, pieces hostileText = "" :: steps ∧
          List.Forall₂ Node.IsPiece hostileChain.nodes steps := by
  have plain : hostileChain.Plain := by
    simp only [hostileChain, Chain.Plain, PlainStep, PlainConditions, PlainCondition]
    decide
  have rendered : hostileChain.render = .ok hostileText := by
    decide +kernel
  exact ⟨rfl, plain, rendered, hostileChain.pieces_render rfl plain rendered⟩

end PageSelectors.XPath
