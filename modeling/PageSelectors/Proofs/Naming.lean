import PageSelectors.Fault

/-!
Faults and the entries that they name. A fault without a name takes the first one that it is given,
and one that has a name keeps it. What lies at the bottom of a fault is the same under any names, and
so is whether the selector itself is at fault.
-/

namespace PageSelectors.Fault

def IsBare : Fault → Prop
  | catalog _ _ | inEntry _ _ => False
  | _ => True

variable {fault : Fault}

theorem isBare_of {faults : Fault → Prop} (given : faults fault)
    (noReference : ∀ entry reference, ¬ faults (.catalog entry reference))
    (noEntry : ∀ entry source, ¬ faults (.inEntry entry source)) : fault.IsBare := by
  cases fault with
  | catalog entry reference => exact noReference entry reference given
  | inEntry entry source => exact noEntry entry source given
  | _ => trivial

section OneName

theorem IsBare.within (bare : fault.IsBare) (name : String) :
    fault.within name = .inEntry name fault := by
  cases fault with
  | catalog | inEntry => exact bare.elim
  | _ => rfl

theorem within_of_not_isBare (named : ¬ fault.IsBare) (name : String) :
    fault.within name = fault := by
  cases fault with
  | catalog | inEntry => rfl
  | _ => exact (named trivial).elim

theorem within_eq_inEntry {name entry : String} {source : Fault}
    (same : fault.within name = .inEntry entry source) :
    fault = .inEntry entry source ∨ name = entry ∧ fault = source := by
  by_cases bare : fault.IsBare
  · obtain ⟨sameEntry, sameFault⟩ := inEntry.inj ((bare.within name).symm.trans same)
    exact .inr ⟨sameEntry, sameFault⟩
  · exact .inl ((within_of_not_isBare bare name).symm.trans same)

theorem not_isBare_within {name : String} (fault : Fault) : ¬ (fault.within name).IsBare := by
  by_cases bare : fault.IsBare
  · rw [bare.within name]
    exact id
  · rwa [within_of_not_isBare bare name]

theorem rootCause_within (fault : Fault) (name : String) :
    (fault.within name).rootCause = fault.rootCause := by
  by_cases bare : fault.IsBare
  · rw [bare.within name, rootCause]
  · rw [within_of_not_isBare bare name]

end OneName

/-- The bottom of a fault has no name around it, however many there are above it. -/
theorem rootCause_ne_inEntry (fault : Fault) (entry : String) (source : Fault) :
    fault.rootCause ≠ .inEntry entry source := by
  induction fault with
  | inEntry name inside ih => rwa [rootCause]
  | _ => simp [rootCause]

theorem isValidation_eq_of_rootCause {other : Fault} (same : fault.rootCause = other.rootCause) :
    fault.isValidation = other.isValidation := by
  rw [isValidation, isValidation, same]

/-- Name one entry after another, from the innermost on. -/
def withinAll (names : List String) (fault : Fault) : Fault :=
  names.foldl (fun named name => named.within name) fault

theorem rootCause_withinAll (names : List String) (fault : Fault) :
    (fault.withinAll names).rootCause = fault.rootCause := by
  induction names generalizing fault with
  | nil => rfl
  | cons name names ih => exact (ih (fault.within name)).trans (rootCause_within fault name)

theorem withinAll_of_not_isBare (named : ¬ fault.IsBare) (names : List String) :
    fault.withinAll names = fault := by
  induction names with
  | nil => rfl
  | cons name names ih =>
      change (fault.within name).withinAll names = fault
      rwa [within_of_not_isBare named]

theorem IsBare.withinAll_cons (bare : fault.IsBare) (first : String) (others : List String) :
    fault.withinAll (first :: others) = .inEntry first fault := by
  change (fault.within first).withinAll others = _
  rw [withinAll_of_not_isBare fault.not_isBare_within, bare.within]

/-- Names of entries never change what went wrong. Whatever names a fault is given, one after
another, its root cause is the same fault with the same content, free of names around it, and counts
as a fault of the selector or not as before. A fault that names an entry stays as it is; any other
one takes the first name and stands below it unchanged, so its wording follows that name. -/
theorem withinAll_keeps_cause (refusal : Format → String) (names : List String) (fault : Fault) :
    ((fault.withinAll names).rootCause = fault.rootCause ∧
      (∀ entry source, (fault.withinAll names).rootCause ≠ .inEntry entry source) ∧
      (fault.withinAll names).isValidation = fault.isValidation) ∧
    (¬ fault.IsBare → fault.withinAll names = fault) ∧
    (fault.IsBare → ∀ first others, names = first :: others →
      fault.withinAll names = .inEntry first fault ∧
        (fault.withinAll names).wording refusal =
          "Catalog entry '" ++ first ++ "': " ++ fault.wording refusal) := by
  have cause := rootCause_withinAll names fault
  refine ⟨⟨cause, rootCause_ne_inEntry _, isValidation_eq_of_rootCause cause⟩,
    fun named => withinAll_of_not_isBare named names, ?_⟩
  rintro bare first others rfl
  have wrapped := bare.withinAll_cons first others
  refine ⟨wrapped, ?_⟩
  rw [wrapped, wording_inEntry]

/-- A boundary that is not valid, on its way out through three entries, and a name that is missing
below two names already. -/
theorem withinAll_keeps_cause_boundary :
    withinAll ["row", "row", "table"] (.relativeBoundary "/child::tr") =
        .inEntry "row" (.relativeBoundary "/child::tr") ∧
      (withinAll ["row", "row", "table"] (.relativeBoundary "/child::tr")).isValidation = true ∧
      (withinAll ["row", "row", "table"] (.relativeBoundary "/child::tr")).message =
        "Catalog entry 'row': Boundary expressions must be page-rooted, but '/child::tr' is " ++
          "relative" ∧
      withinAll ["page"] (.inEntry "row" (.inEntry "cell" (.catalog "end" .absent))) =
        .inEntry "row" (.inEntry "cell" (.catalog "end" .absent)) ∧
      (withinAll ["page"] (.inEntry "row" (.inEntry "cell" (.catalog "end" .absent)))).rootCause =
        .catalog "end" .absent := by
  obtain ⟨⟨-, -, validation⟩, -, bare⟩ := withinAll_keeps_cause (fun _ => "not well-formed")
    ["row", "row", "table"] (.relativeBoundary "/child::tr")
  obtain ⟨⟨cause, -, -⟩, named, -⟩ := withinAll_keeps_cause (fun _ => "not well-formed")
    ["page"] (.inEntry "row" (.inEntry "cell" (.catalog "end" .absent)))
  obtain ⟨wrapped, wording⟩ := bare trivial "row" ["row", "table"] rfl
  exact ⟨wrapped, validation, wording, named id, cause⟩

end PageSelectors.Fault
