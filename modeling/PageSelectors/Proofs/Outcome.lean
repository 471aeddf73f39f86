import Mathlib.Data.List.Forall2
import PageSelectors.Fault

/-!
Outcomes of checks, a value or a fault: when a sequence of checks gives a value, and what it was
made of.
-/

namespace PageSelectors.Outcome

variable {ε α β : Type}

@[simp] theorem ok_bind (value : α) (next : α → Except ε β) :
    (Except.ok value >>= next) = next value := rfl

@[simp] theorem error_bind (fault : ε) (next : α → Except ε β) :
    (Except.error fault >>= next) = Except.error fault := rfl

@[simp] theorem pure_eq_ok_iff {value result : α} :
    (pure value : Except ε α) = .ok result ↔ value = result := by
  simp [pure, Except.pure]

@[simp] theorem throw_eq (fault : ε) : (throw fault : Except ε α) = .error fault := rfl

theorem bind_eq_ok_iff {outcome : Except ε α} {next : α → Except ε β} {result : β} :
    (outcome >>= next) = .ok result ↔ ∃ value, outcome = .ok value ∧ next value = .ok result := by
  cases outcome with
  | error fault => simp
  | ok value => simp

theorem guard_eq_ok_iff {check : Except ε Unit} {next : Except ε β} {result : β} :
    (do check; next) = .ok result ↔ check = .ok () ∧ next = .ok result := by
  rw [bind_eq_ok_iff]
  exact ⟨fun ⟨(), both⟩ => both, fun both => ⟨(), both⟩⟩

theorem bind_pure_eq_ok_iff {outcome : Except ε α} {make : α → β} {result : β} :
    (do return make (← outcome)) = (.ok result : Except ε β) ↔
      ∃ value, outcome = .ok value ∧ make value = result := by
  rw [bind_eq_ok_iff]
  simp only [pure_eq_ok_iff]

/-- What is made of a value that a check decides on is decided on by the same check. -/
theorem bind_pure_eq_ok_iff_of {outcome : Except ε α} {passes : Prop} {value : α}
    (make : α → β) (decides : ∀ result, outcome = .ok result ↔ passes ∧ result = value)
    {result : β} :
    (do return make (← outcome)) = (.ok result : Except ε β) ↔ passes ∧ result = make value := by
  rw [bind_pure_eq_ok_iff]
  constructor
  · rintro ⟨found, decided, rfl⟩
    obtain ⟨passed, rfl⟩ := (decides found).1 decided
    exact ⟨passed, rfl⟩
  · rintro ⟨passed, rfl⟩
    exact ⟨value, (decides value).2 ⟨passed, rfl⟩, rfl⟩

theorem bind_pure_eq_error_iff {outcome : Except ε α} {make : α → β} {fault : ε} :
    (do return make (← outcome)) = (.error fault : Except ε β) ↔ outcome = .error fault := by
  cases outcome with
  | error other => simp
  | ok value => simp [pure, Except.pure]

theorem mapError_eq_ok_iff {δ : Type} {outcome : Except ε α} {rename : ε → δ} {result : α} :
    outcome.mapError rename = .ok result ↔ outcome = .ok result := by
  cases outcome with
  | error fault => simp [Except.mapError]
  | ok value => simp [Except.mapError]

theorem mapM_eq_ok_iff {check : α → Except ε β} {items : List α} {results : List β} :
    items.mapM check = .ok results ↔
      List.Forall₂ (fun item result => check item = .ok result) items results := by
  induction items generalizing results with
  | nil =>
      rw [List.mapM_nil, pure_eq_ok_iff, List.forall₂_nil_left_iff]
      exact eq_comm
  | cons item rest ih =>
      rw [List.mapM_cons, bind_eq_ok_iff, List.forall₂_cons_left_iff]
      simp only [bind_eq_ok_iff, pure_eq_ok_iff, ih]
      constructor
      · rintro ⟨first, checked, others, checkedOthers, rfl⟩
        exact ⟨first, others, checked, checkedOthers, rfl⟩
      · rintro ⟨first, others, checked, checkedOthers, rfl⟩
        exact ⟨first, checked, others, checkedOthers, rfl⟩

theorem exists_of_mem_right {holds : α → β → Prop} {items : List α} {results : List β}
    (all : List.Forall₂ holds items results) {result : β} (member : result ∈ results) :
    ∃ item ∈ items, holds item result := by
  induction all with
  | nil => simp at member
  | cons first _ ih =>
      rcases List.mem_cons.1 member with rfl | member
      · exact ⟨_, List.mem_cons_self, first⟩
      · obtain ⟨item, inside, found⟩ := ih member
        exact ⟨item, List.mem_cons_of_mem _ inside, found⟩

theorem mapM_isOk_iff {check : α → Except ε β} {items : List α} :
    (∃ results, items.mapM check = .ok results) ↔
      ∀ item ∈ items, ∃ result, check item = .ok result := by
  simp only [mapM_eq_ok_iff]
  induction items with
  | nil => simp
  | cons item rest ih =>
      rw [List.forall_mem_cons, ← ih]
      simp only [List.forall₂_cons_left_iff]
      constructor
      · rintro ⟨_, result, others, checked, checkedOthers, -⟩
        exact ⟨⟨result, checked⟩, others, checkedOthers⟩
      · rintro ⟨⟨result, checked⟩, others, checkedOthers⟩
        exact ⟨_, result, others, checked, checkedOthers, rfl⟩

theorem mapM_eq_ok_iff_map {check : α → Except ε β} {passes : α → Prop} {make : α → β}
    (decides : ∀ item result, check item = .ok result ↔ passes item ∧ result = make item)
    {items : List α} {results : List β} :
    items.mapM check = .ok results ↔
      (∀ item ∈ items, passes item) ∧ results = items.map make := by
  rw [mapM_eq_ok_iff]
  induction items generalizing results with
  | nil => simp
  | cons item rest ih =>
      rw [List.forall₂_cons_left_iff, List.forall_mem_cons]
      constructor
      · rintro ⟨first, others, checked, checkedOthers, rfl⟩
        obtain ⟨passed, rfl⟩ := (decides item first).1 checked
        obtain ⟨passedOthers, rfl⟩ := ih.1 checkedOthers
        exact ⟨⟨passed, passedOthers⟩, rfl⟩
      · rintro ⟨⟨passed, passedOthers⟩, rfl⟩
        exact ⟨_, _, (decides item _).2 ⟨passed, rfl⟩, ih.2 ⟨passedOthers, rfl⟩, rfl⟩

/-- Two rounds of checks over a list give values exactly if one round of both checks does. -/
theorem mapM_mapM_eq_ok_iff {γ : Type} {first : α → Except ε β} {second : β → Except ε γ}
    {items : List α} {results : List γ} :
    (items.mapM first >>= List.mapM second) = .ok results ↔
      items.mapM (fun item => first item >>= second) = .ok results := by
  induction items generalizing results with
  | nil => rfl
  | cons item rest ih =>
      simp only [List.mapM_cons, bind_eq_ok_iff, pure_eq_ok_iff] at ih ⊢
      constructor
      · rintro ⟨_, ⟨middle, checked, others, checkedOthers, rfl⟩, rechecked⟩
        rw [List.mapM_cons] at rechecked
        obtain ⟨result, done, rechecked⟩ := bind_eq_ok_iff.1 rechecked
        obtain ⟨otherResults, doneOthers, rfl⟩ := bind_pure_eq_ok_iff.1 rechecked
        exact ⟨result, ⟨middle, checked, done⟩, otherResults,
          ih.1 ⟨others, checkedOthers, doneOthers⟩, rfl⟩
      · rintro ⟨result, ⟨middle, checked, done⟩, otherResults, both, rfl⟩
        obtain ⟨others, checkedOthers, doneOthers⟩ := ih.2 both
        refine ⟨middle :: others, ⟨middle, checked, others, checkedOthers, rfl⟩, ?_⟩
        rw [List.mapM_cons, done, ok_bind, doneOthers]
        rfl

theorem mapM_cons_eq_error_iff {check : α → Except ε β} {item : α} {rest : List α} {fault : ε} :
    (item :: rest).mapM check = .error fault ↔
      check item = .error fault ∨
        (∃ result, check item = .ok result) ∧ rest.mapM check = .error fault := by
  rw [List.mapM_cons]
  cases check item with
  | error first => simp
  | ok result =>
      rw [ok_bind]
      cases rest.mapM check with
      | error other => simp
      | ok others => simp [pure, Except.pure]

/-- A list of checks fails with the fault of its first failing check. -/
theorem mapM_eq_error_iff {check : α → Except ε β} {items : List α} {fault : ε} :
    items.mapM check = .error fault ↔
      ∃ before item after, items = before ++ item :: after ∧
        (∀ earlier ∈ before, ∃ result, check earlier = .ok result) ∧ check item = .error fault := by
  induction items with
  | nil => simp [pure, Except.pure]
  | cons item rest ih =>
      rw [mapM_cons_eq_error_iff, ih]
      constructor
      · rintro (failed | ⟨passed, before, failing, after, rfl, passedBefore, failed⟩)
        · exact ⟨[], item, rest, rfl, by simp, failed⟩
        · refine ⟨item :: before, failing, after, rfl, ?_, failed⟩
          exact List.forall_mem_cons.2 ⟨passed, passedBefore⟩
      · rintro ⟨before, failing, after, split, passed, failed⟩
        cases before with
        | nil =>
            obtain ⟨rfl, -⟩ := List.cons.inj split
            exact .inl failed
        | cons head tail =>
            obtain ⟨rfl, rfl⟩ := List.cons.inj split
            obtain ⟨passedFirst, passedTail⟩ := List.forall_mem_cons.1 passed
            exact .inr ⟨passedFirst, tail, failing, after, rfl, passedTail, failed⟩

end PageSelectors.Outcome
