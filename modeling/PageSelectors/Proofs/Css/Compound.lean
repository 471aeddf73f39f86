import PageSelectors.Proofs.Css.Reading

/-!
The compound selector that a step adds to a chain. Its text is read as the tag and the selectors of
the conditions in their order, exactly if a condition that names an element comes first of all.
-/

namespace PageSelectors.Css

open Text (trim)

theorem mapM_cons_eq_some_iff {α β : Type} {read : α → Option β} {item : α} {rest : List α}
    {results : List β} :
    (item :: rest).mapM read = some results ↔
      ∃ first, read item = some first ∧
        ∃ others, rest.mapM read = some others ∧ first :: others = results := by
  simp only [List.mapM_cons, Option.bind_eq_bind, Option.bind_eq_some_iff, Option.pure_def,
    Option.some.injEq]

def criterionSelectors? : Criterion Native → Option (List Simple)
  | .shared (.attribute name op operand) =>
      (identifier? (trim name)).map fun value => [.attribute value (testOf op operand)]
  | .shared (.classes names) =>
      (names.mapM fun name => identifier? (trim name)).map fun values => values.map .class
  | .native (.tag name) => (identifier? (trim name)).map fun value => [.type value]
  | .native (.id value) => some [.attribute "id" (some (.is, trim value))]
  | .native (.pseudo pseudo) => some [.pseudo pseudo.name pseudo.number?]

def conditionParts? (condition : Condition Native) : Option (List Part) :=
  (criterionSelectors? condition.criterion).map fun selectors =>
    if condition.negated then [.not selectors] else selectors.map .simple

def tagSelector? (tag : String) : Option (Option Simple) :=
  if tag = "" then some none
  else if tag = anyTag then some (some .universal)
  else (identifier? tag).map fun name => some (.type name)

def stepParts? (tag : String) (conditions : List (Condition Native)) : Option (List Part) := do
  let element ← tagSelector? (trim tag)
  let parts ← conditions.mapM conditionParts?
  return (element.map .simple).toList ++ parts.flatten

def operand? : Criterion Native → Option String
  | .shared (.attribute _ _ operand) => some operand
  | .native (.id value) => some (trim value)
  | _ => none

def Clean (criterion : Criterion Native) : Prop :=
  ∀ operand ∈ operand? criterion, IsClean operand

instance (criterion : Criterion Native) : Decidable (Clean criterion) :=
  Option.decidableForallMem (operand? criterion)

def NamesElement : Condition Native → Prop
  | ⟨.native (.tag _), negated⟩ => negated = false
  | _ => False

instance (condition : Condition Native) : Decidable (NamesElement condition) :=
  match condition with
  | ⟨.native (.tag _), negated⟩ => inferInstanceAs (Decidable (negated = false))
  | ⟨.native (.id _), _⟩ | ⟨.native (.pseudo _), _⟩ | ⟨.shared _, _⟩ =>
      inferInstanceAs (Decidable False)

section Criteria

theorem opens_cons {c : Char} (member : c ∈ ['.', '[', ':']) (rest : List Char) :
    Opens (c :: rest) :=
  ⟨c, member, rest, rfl⟩

theorem opens_attribute (name : String) (op : AttributeOp) (operand : String) :
    Opens (attributeSelector name op operand).toList := by
  cases op with
  | isPresent | compare =>
      simp only [attributeSelector, String.toList_append, List.append_assoc]
      exact opens_cons (by decide) _

theorem opens_pseudo (pseudo : Pseudo) : Opens pseudo.text.toList := by
  simp only [Pseudo.text_eq, String.toList_append, List.append_assoc]
  exact opens_cons (by decide) _

theorem opens_class (name : String) : Opens ("." ++ name).toList := by
  rw [String.toList_append]
  exact opens_cons (by decide) _

theorem spells_classes {names values : List String}
    (identify : names.mapM (fun name => identifier? (trim name)) = some values) :
    Spells simple? (String.join (names.map fun name => "." ++ trim name)).toList
      (values.map .class) := by
  induction names generalizing values with
  | nil =>
      obtain rfl := Option.some.inj identify
      exact .nil
  | cons name names ih =>
      obtain ⟨value, identifies, others, identifyOthers, rfl⟩ := mapM_cons_eq_some_iff.1 identify
      rw [List.map_cons, String.join_cons, String.toList_append]
      exact .cons (opens_class _) (reads_class identifies) (ih identifyOthers)

theorem spells_criterion {criterion : Criterion Native} {selectors : List Simple}
    (selects : criterionSelectors? criterion = some selectors) (clean : Clean criterion)
    (nameless : ∀ name, criterion ≠ .native (.tag name)) :
    Spells simple? (criterionText criterion).toList selectors := by
  cases criterion with
  | shared criterion =>
      cases criterion with
      | «attribute» name op operand =>
          rw [criterionSelectors?, Option.map_eq_some_iff] at selects
          obtain ⟨value, identifies, rfl⟩ := selects
          exact .single (opens_attribute _ _ _) (reads_attribute op identifies (clean _ rfl))
      | classes names =>
          rw [criterionSelectors?, Option.map_eq_some_iff] at selects
          obtain ⟨values, identify, rfl⟩ := selects
          exact spells_classes identify
  | native criterion =>
      cases criterion with
      | tag name => exact (nameless name rfl).elim
      | id value =>
          obtain rfl := Option.some.inj selects
          exact .single (opens_attribute _ _ _) (reads_attribute _ (by decide) (clean _ rfl))
      | pseudo pseudo =>
          obtain rfl := Option.some.inj selects
          exact .single (opens_pseudo pseudo) (reads_pseudo pseudo)

theorem criterionSelectors?_ne_nil {criterion : Criterion Native} {selectors : List Simple}
    (named : WellNamed criterion) (selects : criterionSelectors? criterion = some selectors) :
    selectors ≠ [] := by
  cases criterion with
  | shared criterion =>
      cases criterion with
      | «attribute» name op operand =>
          rw [criterionSelectors?, Option.map_eq_some_iff] at selects
          obtain ⟨value, -, rfl⟩ := selects
          simp
      | classes names =>
          rw [criterionSelectors?, Option.map_eq_some_iff] at selects
          obtain ⟨values, identify, rfl⟩ := selects
          cases names with
          | nil => exact (named.1 rfl).elim
          | cons name names =>
              obtain ⟨value, -, others, -, rfl⟩ := mapM_cons_eq_some_iff.1 identify
              simp
  | native criterion =>
      cases criterion with
      | tag name =>
          rw [criterionSelectors?, Option.map_eq_some_iff] at selects
          obtain ⟨value, -, rfl⟩ := selects
          simp
      | id | pseudo =>
          obtain rfl := Option.some.inj selects
          simp

end Criteria

section Parts

def IsElement : Simple → Prop
  | .universal | .type _ => True
  | _ => False

theorem not_isElement_of_simple? {symbols rest : List Symbol} {selector : Simple}
    (read : simple? symbols = some (selector, rest)) : ¬ IsElement selector := by
  unfold simple? at read
  split at read
  all_goals simp only [Option.bind_eq_bind, Option.bind_eq_some_iff, Option.pure_def,
    Option.some.injEq, Prod.mk.injEq, reduceCtorEq] at read
  · obtain ⟨_, -, rfl, -⟩ := read
    exact id
  · obtain ⟨_, -, _, -, _, -, rfl, -⟩ := read
    exact id
  · obtain ⟨_, -, _, -, rfl, -⟩ := read
    exact id

theorem part?_of_simple? {symbols rest : List Symbol} {selector : Simple}
    (read : simple? symbols = some (selector, rest))
    (other : ∀ number, selector ≠ .pseudo "not" number) :
    part? symbols = some (.simple selector, rest) := by
  unfold part?
  split
  · next after =>
    have readName : simple? (.plain ':' :: .plain 'n' :: .plain 'o' :: .plain 't' ::
        .plain '(' :: after) = some (.pseudo "not" none, .plain '(' :: after) := rfl
    rw [readName] at read
    exact (other none (Prod.mk.inj (Option.some.inj read)).1.symm).elim
  · rw [read]
    rfl

theorem Spells.parts {text : List Char} {selectors : List Simple}
    (spells : Spells simple? text selectors)
    (other : ∀ selector ∈ selectors, ∀ number, selector ≠ .pseudo "not" number) :
    Spells part? text (selectors.map .simple) := by
  induction spells with
  | nil => exact .nil
  | cons opens reads _ ih =>
      obtain ⟨first, others⟩ := List.forall_mem_cons.1 other
      exact .cons opens (fun rest stops => part?_of_simple? (reads rest stops) first) (ih others)

theorem reads_not {lead text : List Char} {element : Option Simple} {selectors : List Simple}
    (leads : Leads lead element) (spells : Spells simple? text selectors)
    (nonempty : element.toList ++ selectors ≠ []) :
    Reads part? (":not(".toList ++ (lead ++ (text ++ [')'])))
      (.not (element.toList ++ selectors)) := by
  intro rest stops
  have inner : compound id simple? (symbols (lead ++ (text ++ ')' :: rest))) =
      ((element.map id).toList ++ selectors, symbols (')' :: rest)) :=
    compound_append leads spells (.inr ⟨rest, rfl⟩) rfl
  have written : symbols (":not(".toList ++ (lead ++ (text ++ [')'])) ++ rest) =
      .plain ':' :: .plain 'n' :: .plain 'o' :: .plain 't' :: .plain '(' ::
        symbols (lead ++ (text ++ ')' :: rest)) := by
    simp only [List.append_assoc]
    rfl
  rw [written, part?, inner]
  simp [nonempty, expect, symbols_cons]

theorem ne_not_of_mem_criterionSelectors? {criterion : Criterion Native}
    {selectors : List Simple} (selects : criterionSelectors? criterion = some selectors)
    {selector : Simple} (member : selector ∈ selectors) (number : Option Nat) :
    selector ≠ .pseudo "not" number := by
  cases criterion with
  | shared criterion =>
      cases criterion with
      | «attribute» name op operand =>
          rw [criterionSelectors?, Option.map_eq_some_iff] at selects
          obtain ⟨_, -, rfl⟩ := selects
          simp [List.mem_singleton.1 member]
      | classes names =>
          rw [criterionSelectors?, Option.map_eq_some_iff] at selects
          obtain ⟨_, -, rfl⟩ := selects
          obtain ⟨_, -, rfl⟩ := List.mem_map.1 member
          simp
  | native criterion =>
      cases criterion with
      | tag name =>
          rw [criterionSelectors?, Option.map_eq_some_iff] at selects
          obtain ⟨_, -, rfl⟩ := selects
          simp [List.mem_singleton.1 member]
      | id value =>
          obtain rfl := Option.some.inj selects
          simp [List.mem_singleton.1 member]
      | pseudo pseudo =>
          obtain rfl := Option.some.inj selects
          rw [List.mem_singleton.1 member]
          cases pseudo <;> simp [Pseudo.name]

/-- The text of a criterion is that of a compound: led by its name if it names an element. -/
theorem exists_leads_criterion {criterion : Criterion Native} {selectors : List Simple}
    (selects : criterionSelectors? criterion = some selectors) (clean : Clean criterion) :
    ∃ lead text element others, (criterionText criterion).toList = lead ++ text ∧
      Leads lead element ∧ Spells simple? text others ∧ selectors = element.toList ++ others := by
  by_cases named : ∃ name, criterion = .native (.tag name)
  · obtain ⟨name, rfl⟩ := named
    rw [criterionSelectors?, Option.map_eq_some_iff] at selects
    obtain ⟨value, identifies, rfl⟩ := selects
    exact ⟨_, [], _, [], (List.append_nil _).symm, .name identifies, .nil, rfl⟩
  · have nameless : ∀ name, criterion ≠ .native (.tag name) := fun name same => named ⟨name, same⟩
    exact ⟨[], _, none, _, rfl, .nothing, spells_criterion selects clean nameless, rfl⟩

theorem spells_condition {condition : Condition Native} {parts : List Part}
    (named : WellNamed condition.criterion) (stand : conditionParts? condition = some parts)
    (clean : Clean condition.criterion) (nameless : ¬ NamesElement condition) :
    Spells part? (conditionText condition).toList parts := by
  obtain ⟨selectors, selects, rfl⟩ := Option.map_eq_some_iff.1 stand
  obtain ⟨criterion, negated⟩ := condition
  cases negated with
  | false =>
      have other : ∀ name, criterion ≠ .native (.tag name) := by
        rintro name rfl
        exact nameless rfl
      exact (spells_criterion selects clean other).parts fun _ member =>
        ne_not_of_mem_criterionSelectors? selects member
  | true =>
      obtain ⟨lead, text, element, others, spelled, leads, spells, rfl⟩ :=
        exists_leads_criterion selects clean
      have written : (conditionText ⟨criterion, true⟩).toList =
          ":not(".toList ++ (lead ++ (text ++ [')'])) := by
        simp only [conditionText, if_pos, String.toList_append, spelled, List.append_assoc]
        rfl
      rw [written]
      exact .single (opens_cons (by decide) _)
        (reads_not leads spells (criterionSelectors?_ne_nil named selects))

theorem spells_conditions {conditions : List (Condition Native)} {parts : List (List Part)}
    (named : ∀ condition ∈ conditions, WellNamed condition.criterion)
    (stand : conditions.mapM conditionParts? = some parts)
    (clean : ∀ condition ∈ conditions, Clean condition.criterion)
    (nameless : ∀ condition ∈ conditions, ¬ NamesElement condition) :
    Spells part? (String.join (conditions.map conditionText)).toList parts.flatten := by
  induction conditions generalizing parts with
  | nil =>
      obtain rfl := Option.some.inj stand
      exact .nil
  | cons condition conditions ih =>
      obtain ⟨first, standFirst, others, standOthers, rfl⟩ := mapM_cons_eq_some_iff.1 stand
      simp only [List.forall_mem_cons] at named clean nameless
      rw [List.map_cons, String.join_cons, String.toList_append, List.flatten_cons]
      exact (spells_condition named.1 standFirst clean.1 nameless.1).append
        (ih named.2 standOthers clean.2 nameless.2)

end Parts

section Steps

/-- Whether no condition of a step names an element but the first of all its parts. -/
def ElementFirst (tag : String) (conditions : List (Condition Native)) : Prop :=
  ∀ condition ∈ if trim tag = "" then conditions.tail else conditions, ¬ NamesElement condition

instance (tag : String) (conditions : List (Condition Native)) :
    Decidable (ElementFirst tag conditions) :=
  inferInstanceAs (Decidable (∀ condition ∈ _, _))

variable {tag text : String} {conditions : List (Condition Native)} {parts : List Part}

theorem renderConditions_eq_ok_iff :
    renderConditions conditions = .ok text ↔
      (∀ condition ∈ conditions, WellNamed condition.criterion) ∧
        text = String.join (conditions.map conditionText) := by
  rw [renderConditions_eq]
  exact Outcome.bind_pure_eq_ok_iff_of String.join fun _ =>
    Outcome.mapM_eq_ok_iff_map fun condition _ => renderCondition_eq_ok_iff condition

theorem leads_of_tagSelector? {element : Option Simple}
    (selects : tagSelector? tag = some element) :
    Leads tag.toList element := by
  unfold tagSelector? at selects
  split at selects
  · next empty =>
    obtain rfl := Option.some.inj selects
    rw [empty]
    exact .nothing
  · split at selects
    · next star =>
      obtain rfl := Option.some.inj selects
      rw [star]
      exact .star
    · obtain ⟨name, identifies, rfl⟩ := Option.map_eq_some_iff.1 selects
      exact .name identifies

theorem isSome_of_tagSelector? {element : Option Simple}
    (selects : tagSelector? tag = some element) :
    element.isSome ↔ tag ≠ "" := by
  unfold tagSelector? at selects
  split at selects
  · next empty =>
    obtain rfl := Option.some.inj selects
    simp [empty]
  · next filled =>
    split at selects
    · obtain rfl := Option.some.inj selects
      simp [filled]
    · obtain ⟨name, -, rfl⟩ := Option.map_eq_some_iff.1 selects
      simp [filled]

theorem compound?_of_compound (nonempty : parts ≠ [])
    (read : compound .simple part? (symbols text.toList) = (parts, [])) :
    compound? text = some parts := by
  cases parts with
  | nil => exact (nonempty rfl).elim
  | cons part parts => rw [compound?, read]

theorem compound?_of_spells {lead : String} {element : Option Simple} {others : List Part}
    (leads : Leads lead.toList element) (spells : Spells part? text.toList others)
    (nonempty : (element.map Part.simple).toList ++ others ≠ []) :
    compound? (lead ++ text) = some ((element.map Part.simple).toList ++ others) := by
  apply compound?_of_compound nonempty
  have read : compound .simple part? (symbols (lead.toList ++ (text.toList ++ []))) =
      ((element.map Part.simple).toList ++ others, symbols []) :=
    compound_append leads spells (.inl rfl) rfl
  rw [List.append_nil, ← String.toList_append] at read
  exact read

theorem conditionParts?_ne_nil {condition : Condition Native}
    (named : WellNamed condition.criterion) (stand : conditionParts? condition = some parts) :
    parts ≠ [] := by
  obtain ⟨selectors, selects, rfl⟩ := Option.map_eq_some_iff.1 stand
  have some_ := criterionSelectors?_ne_nil named selects
  split
  · simp
  · simpa using some_

theorem conditionParts?_of_namesElement {condition : Condition Native}
    (names : NamesElement condition) (stand : conditionParts? condition = some parts) :
    ∃ name value, condition = ⟨.native (.tag name), false⟩ ∧
      identifier? (trim name) = some value ∧ parts = [.simple (.type value)] := by
  obtain ⟨criterion, negated⟩ := condition
  cases criterion with
  | shared criterion => exact names.elim
  | native criterion =>
      cases criterion with
      | tag name =>
          obtain rfl : negated = false := names
          obtain ⟨selectors, selects, rfl⟩ := Option.map_eq_some_iff.1 stand
          rw [criterionSelectors?, Option.map_eq_some_iff] at selects
          obtain ⟨value, identifies, rfl⟩ := selects
          exact ⟨name, value, rfl, identifies, rfl⟩
      | id value => exact names.elim
      | pseudo pseudo => exact names.elim

theorem stepParts?_eq_some_iff :
    stepParts? tag conditions = some parts ↔
      ∃ element, tagSelector? (trim tag) = some element ∧
        ∃ others, conditions.mapM conditionParts? = some others ∧
          (element.map .simple).toList ++ others.flatten = parts := by
  simp only [stepParts?, Option.bind_eq_bind, Option.bind_eq_some_iff, Option.pure_def,
    Option.some.injEq]

theorem stepParts?_ne_nil (compound : Compound tag conditions text)
    (stand : stepParts? tag conditions = some parts) : parts ≠ [] := by
  obtain ⟨good, _, rendered, -⟩ := compound
  obtain ⟨named, -⟩ := renderConditions_eq_ok_iff.1 rendered
  obtain ⟨element, selects, lists, standAll, rfl⟩ := stepParts?_eq_some_iff.1 stand
  by_cases empty : trim tag = ""
  · have constrained := good.narrowed (.inl empty)
    cases conditions with
    | nil => simp at constrained
    | cons condition rest =>
        obtain ⟨first, standFirst, others, -, rfl⟩ :=
          mapM_cons_eq_some_iff.1 standAll
        have some_ := conditionParts?_ne_nil (named _ List.mem_cons_self) standFirst
        simp [some_]
  · obtain ⟨element, rfl⟩ := Option.isSome_iff_exists.1 ((isSome_of_tagSelector? selects).2 empty)
    simp

theorem compound?_of_elementFirst (compound : Compound tag conditions text)
    (stand : stepParts? tag conditions = some parts)
    (clean : ∀ condition ∈ conditions, Clean condition.criterion)
    (first : ElementFirst tag conditions) : compound? text = some parts := by
  have nonempty := stepParts?_ne_nil compound stand
  obtain ⟨-, _, rendered, rfl⟩ := compound
  obtain ⟨named, rfl⟩ := renderConditions_eq_ok_iff.1 rendered
  obtain ⟨element, selects, lists, standAll, rfl⟩ := stepParts?_eq_some_iff.1 stand
  by_cases nameless : ∀ condition ∈ conditions, ¬ NamesElement condition
  · exact compound?_of_spells (leads_of_tagSelector? selects)
      (spells_conditions named standAll clean nameless) nonempty
  · have empty : trim tag = "" := by
      by_contra filled
      rw [ElementFirst, if_neg filled] at first
      exact nameless first
    rw [ElementFirst, if_pos empty] at first
    cases conditions with
    | nil => simp at nameless
    | cons condition rest =>
        obtain ⟨parts, standFirst, others, standOthers, rfl⟩ :=
          mapM_cons_eq_some_iff.1 standAll
        have names : NamesElement condition := by
          by_contra other
          exact nameless (List.forall_mem_cons.2 ⟨other, first⟩)
        obtain ⟨name, value, rfl, identifies, rfl⟩ :=
          conditionParts?_of_namesElement names standFirst
        obtain rfl : none = element := by
          rw [empty] at selects
          exact Option.some.inj selects
        rw [List.forall_mem_cons] at named clean
        have spells := spells_conditions named.2 standOthers clean.2 first
        rw [empty, String.empty_append, List.map_cons, String.join_cons]
        have read := compound?_of_spells (.name identifies) spells (by simp)
        exact read

theorem forall_mem_many {α : Type} {read : List Symbol → Option (α × List Symbol)}
    {holds : α → Prop}
    (reads : ∀ symbols value rest, read symbols = some (value, rest) → holds value)
    (fuel : Nat) (symbols : List Symbol) : ∀ value ∈ (many read fuel symbols).1, holds value := by
  induction fuel generalizing symbols with
  | zero => simp [many]
  | succ fuel ih =>
      rw [many]
      split
      · simp
      · next value rest found => exact List.forall_mem_cons.2 ⟨reads _ _ _ found, ih rest⟩

theorem not_isElement_of_part? {symbols rest : List Symbol} {selector : Simple}
    (read : part? symbols = some (.simple selector, rest)) : ¬ IsElement selector := by
  unfold part? at read
  split at read
  · simp only at read
    split at read
    · simp at read
    · obtain ⟨after, -, same⟩ := Option.map_eq_some_iff.1 read
      simp at same
  · obtain ⟨⟨found, after⟩, readSimple, same⟩ := Option.map_eq_some_iff.1 read
    obtain ⟨rfl, rfl⟩ : found = selector ∧ after = rest := by simpa using same
    exact not_isElement_of_simple? readSimple

theorem not_isElement_of_compound? (read : compound? text = some parts) {selector : Simple}
    (member : .simple selector ∈ parts.tail) : ¬ IsElement selector := by
  have later (fuel : Nat) (symbols : List Symbol) :
      ∀ part ∈ (many part? fuel symbols).1, part = .simple selector → ¬ IsElement selector :=
    forall_mem_many (fun _ _ _ found same => not_isElement_of_part? (same ▸ found)) fuel symbols
  unfold compound? at read
  split at read
  · next part others whole =>
    obtain rfl := Option.some.inj read
    unfold compound at whole
    split at whole
    · have all := later (symbols text.toList).length (symbols text.toList)
      rw [whole] at all
      exact all _ (List.mem_cons_of_mem _ member) rfl
    · next rest _ =>
      obtain ⟨same, -⟩ := Prod.mk.inj whole
      obtain ⟨-, rfl⟩ := List.cons.inj same
      exact later _ _ _ member rfl
  · simp at read

theorem exists_mem_of_mapM {lists : List (List Part)}
    (standAll : conditions.mapM conditionParts? = some lists) {condition : Condition Native}
    (member : condition ∈ conditions) : ∃ list ∈ lists, conditionParts? condition = some list := by
  induction conditions generalizing lists with
  | nil => simp at member
  | cons head rest ih =>
      obtain ⟨first, standFirst, others, standOthers, rfl⟩ := mapM_cons_eq_some_iff.1 standAll
      rcases List.mem_cons.1 member with rfl | member
      · exact ⟨first, List.mem_cons_self, standFirst⟩
      · obtain ⟨list, inside, stand⟩ := ih standOthers member
        exact ⟨list, List.mem_cons_of_mem _ inside, stand⟩

/-- Whatever the operands are, the text of a step is read as the parts it stands for exactly if only
its first part names an element. -/
theorem compound?_eq_some_iff (compound : Compound tag conditions text)
    (stand : stepParts? tag conditions = some parts)
    (clean : ∀ condition ∈ conditions, Clean condition.criterion) :
    compound? text = some parts ↔ ElementFirst tag conditions := by
  constructor
  · intro read condition member names
    obtain ⟨-, _, rendered, -⟩ := compound
    obtain ⟨named, -⟩ := renderConditions_eq_ok_iff.1 rendered
    obtain ⟨element, selects, lists, standAll, rfl⟩ := stepParts?_eq_some_iff.1 stand
    suffices inside : ∃ list, conditionParts? condition = some list ∧
        list ⊆ ((element.map Part.simple).toList ++ lists.flatten).tail by
      obtain ⟨list, standOne, contained⟩ := inside
      obtain ⟨name, value, -, -, rfl⟩ := conditionParts?_of_namesElement names standOne
      exact not_isElement_of_compound? read (contained List.mem_cons_self) trivial
    split at member
    · next empty =>
      have headless : element = none := by
        rw [empty] at selects
        exact (Option.some.inj selects).symm
      cases conditions with
      | nil => simp at member
      | cons first rest =>
          obtain ⟨list, standFirst, others, standOthers, rfl⟩ := mapM_cons_eq_some_iff.1 standAll
          obtain ⟨own, inside, standOne⟩ := exists_mem_of_mapM standOthers member
          have some_ := conditionParts?_ne_nil (named first List.mem_cons_self) standFirst
          obtain ⟨head, tail, rfl⟩ := List.exists_cons_of_ne_nil some_
          refine ⟨own, standOne, fun part member => ?_⟩
          rw [headless]
          exact List.mem_append_right tail (List.mem_flatten_of_mem inside member)
    · next filled =>
      have present := (isSome_of_tagSelector? selects).2 filled
      obtain ⟨element, rfl⟩ := Option.isSome_iff_exists.1 present
      obtain ⟨own, inside, standOne⟩ := exists_mem_of_mapM standAll member
      exact ⟨own, standOne, fun part member => List.mem_flatten_of_mem inside member⟩
  · exact compound?_of_elementFirst compound stand clean

end Steps

namespace Chain

def last? : Chain → Option (String × List (Condition Native))
  | raw _ => none
  | page tag conditions | relative tag conditions | step _ _ tag conditions =>
      some (tag, conditions)

def opening : Chain → Except Fault String
  | raw _ | page _ _ | relative _ _ => .ok ""
  | step before combinator _ _ => do
      let start ← before.render
      return start ++ if start = "" then "" else combinator.token

/-- A chain that renders adds a compound selector to the text before its last step. -/
theorem exists_compound_of_last? {chain : Chain} {tag text : String}
    {conditions : List (Condition Native)} (last : chain.last? = some (tag, conditions))
    (rendered : chain.render = .ok text) :
    ∃ opening compound, chain.opening = .ok opening ∧ text = opening ++ compound ∧
      Compound tag conditions compound := by
  cases chain with
  | raw => simp [last?] at last
  | page | relative =>
      obtain ⟨rfl, rfl⟩ := Prod.mk.inj (Option.some.inj last)
      exact ⟨"", text, rfl, String.empty_append.symm, render_page_eq_ok_iff.1 rendered⟩
  | step before combinator =>
      obtain ⟨rfl, rfl⟩ := Prod.mk.inj (Option.some.inj last)
      obtain ⟨start, renderedStart, compound, good, rfl⟩ := render_step_eq_ok_iff.1 rendered
      refine ⟨_, compound, ?_, rfl, good⟩
      rw [opening, renderedStart]
      rfl

/-- The text that the last step of a chain adds is read as the step's tag followed by the selectors
of its conditions in order, whatever its operands are, exactly if no condition after the front of
the compound names an element. -/
theorem reads_last_iff {chain : Chain} {tag text : String} {conditions : List (Condition Native)}
    {parts : List Part} (last : chain.last? = some (tag, conditions))
    (rendered : chain.render = .ok text) (stand : stepParts? tag conditions = some parts)
    (clean : ∀ condition ∈ conditions, Clean condition.criterion) :
    ∃ opening compound, chain.opening = .ok opening ∧ text = opening ++ compound ∧
      (compound? compound = some parts ↔ ElementFirst tag conditions) := by
  obtain ⟨opening, compound, opened, rfl, good⟩ := exists_compound_of_last? last rendered
  exact ⟨opening, compound, opened, rfl, compound?_eq_some_iff good stand clean⟩

def guardedConditions : List (Condition Native) :=
  [⟨.native (.tag "td"), false⟩, ⟨.shared (.classes ["wide", "a\\:b"]), true⟩,
    ⟨.shared (.attribute "title" (.compare .contains) "'] .x, b:not("), false⟩,
    ⟨.native (.tag "th"), true⟩, ⟨.native (.pseudo (.nthChild 2)), false⟩]

def guardedParts : List Part :=
  [.simple (.type "td"), .not [.class "wide", .class "a:b"],
    .simple (.attribute "title" (some (.contains, "'] .x, b:not("))), .not [.type "th"],
    .simple (.pseudo "nth-child" (some 3))]

theorem reads_last_guardedConditions :
    ∃ opening compound,
      ((page "tr" [⟨.native (.id "total"), false⟩]).step .child "" guardedConditions).opening =
          .ok opening ∧
        "tr[id='total'] > td:not(.wide.a\\:b)[title*='\\'] .x, b:not(']:not(th):nth-child(3)" =
          opening ++ compound ∧
        (compound? compound = some guardedParts ↔ ElementFirst "" guardedConditions) :=
  reads_last_iff rfl rfl (by decide) (by decide)

/-- Without anything between them, the tag of a step and a name after it are read as one name. -/
theorem reads_divspan :
    (relative "div" [⟨.native (.tag "span"), false⟩]).render = .ok "divspan" ∧
      stepParts? "div" [⟨.native (.tag "span"), false⟩] =
        some [.simple (.type "div"), .simple (.type "span")] ∧
      compound? "divspan" = some [.simple (.type "divspan")] :=
  ⟨rfl, by decide, by decide⟩

end Chain

end PageSelectors.Css
