import PageSelectors.Proofs.Json.Forms

/-!
Printed JSON read back. Either printer writes one of the forms of a document, so what is printed is
read as the document it was printed from.
-/

namespace PageSelectors.Json

namespace Value

mutual

def IsPlain : Value → Prop
  | .otherNumber _ | .brokenString => False
  | .array items => ArePlain items
  | .object members => ArePlainMembers members
  | _ => True

def ArePlain : List Value → Prop
  | [] => True
  | item :: rest => item.IsPlain ∧ ArePlain rest

def ArePlainMembers : List (Option String × Value) → Prop
  | [] => True
  | (name, value) :: rest => name ≠ none ∧ value.IsPlain ∧ ArePlainMembers rest

end

end Value

abbrev Write (forms : List Form) (texts : List String) : Prop :=
  List.Forall₂ (fun form text => form text.toList) forms texts

section Lists

variable {forms : List Form} {lines : List String} {newline gap tail : String}

theorem isBlank_append {before after : List Char} (spaces : IsBlank before)
    (spacesAfter : IsBlank after) : IsBlank (before ++ after) :=
  List.forall_mem_append.2 ⟨spaces, spacesAfter⟩

/-- Lines that are joined by commas, each on a new line and behind a gap. -/
theorem separated_intercalate (each : Write forms lines) (spaces : IsBlank newline.toList)
    (spacesGap : IsBlank gap.toList) (spacesTail : IsBlank tail.toList) :
    separated forms
      (newline ++ String.intercalate ("," ++ newline) (lines.map (gap ++ ·)) ++ tail).toList := by
  induction each with
  | nil =>
      simp only [List.map_nil, String.intercalate_nil, String.append_empty, String.toList_append]
      exact isBlank_append spaces spacesTail
  | @cons form line forms lines writes each ih =>
      cases each with
      | nil =>
          refine ⟨newline.toList ++ gap.toList, line.toList, tail.toList,
            isBlank_append spaces spacesGap, writes, spacesTail, ?_⟩
          simp
      | @cons next nextLine forms lines nextWrites each =>
          refine ⟨newline.toList ++ gap.toList ++ line.toList, _, ?_, ih, ?_⟩
          · exact ⟨newline.toList ++ gap.toList, line.toList, [],
              isBlank_append spaces spacesGap, writes, by simp [IsBlank], by simp⟩
          · simp only [List.map_cons, String.intercalate_cons_cons, String.toList_append]
            simp

theorem separated_commas (each : Write forms lines) :
    separated forms (String.intercalate "," lines).toList := by
  have nothing : IsBlank "".toList := by simp [IsBlank]
  simpa using separated_intercalate each nothing nothing nothing

theorem bracketed_block {opening closing : Char} {indent start finish : String}
    (opens : start.toList = [opening]) (closes : finish.toList = [closing])
    (each : Write forms lines) (spaces : IsBlank indent.toList) :
    bracketed opening closing (separated forms) (Value.block indent start finish lines).toList := by
  cases each with
  | nil =>
      refine ⟨[], by simp [separated, IsBlank], ?_⟩
      simp [Value.block, opens, closes]
  | @cons form line forms lines writes each =>
      have newline : IsBlank "\n".toList := by simp [IsBlank, isSpace]
      have gap : IsBlank (indent ++ "  ").toList := by
        rw [String.toList_append]
        exact isBlank_append spaces (by simp [IsBlank, isSpace])
      have tail : IsBlank ("\n" ++ indent).toList := by
        rw [String.toList_append]
        exact isBlank_append newline spaces
      refine ⟨_, separated_intercalate (.cons writes each) newline gap tail, ?_⟩
      simp [Value.block, opens, closes]

end Lists

section Printers

mutual

theorem form_compact (value : Value) (plain : value.IsPlain) :
    value.form value.compact.toList := by
  match value with
  | .null | .bool _ | .natural _ | .string _ => rw [Value.form, Value.compact]
  | .array items =>
      rw [Value.form, Value.compact]
      rw [Value.IsPlain] at plain
      exact ⟨_, separated_commas (write_compactItems items plain), by simp⟩
  | .object members =>
      rw [Value.form, Value.compact]
      rw [Value.IsPlain] at plain
      exact ⟨_, separated_commas (write_compactMembers members plain), by simp⟩

theorem write_compactItems (items : List Value) (plain : Value.ArePlain items) :
    Write (itemForms items) (Value.compactItems items) := by
  match items with
  | [] => exact .nil
  | item :: rest =>
      rw [Value.ArePlain] at plain
      rw [itemForms, Value.compactItems]
      exact .cons (form_compact item plain.1) (write_compactItems rest plain.2)

theorem write_compactMembers (members : List (Option String × Value))
    (plain : Value.ArePlainMembers members) :
    Write (memberForms members) (Value.compactMembers members) := by
  match members with
  | [] => exact .nil
  | (none, value) :: rest =>
      rw [Value.ArePlainMembers] at plain
      exact (plain.1 rfl).elim
  | (some name, value) :: rest =>
      rw [Value.ArePlainMembers] at plain
      rw [memberForms, Value.compactMembers]
      refine .cons ?_ (write_compactMembers rest plain.2.2)
      exact ⟨name, [], [], _, rfl, by simp [IsBlank], by simp [IsBlank],
        form_compact value plain.2.1, by simp [quoteName]⟩

end

mutual

theorem form_indented (value : Value) (plain : value.IsPlain) {indent : String}
    (spaces : IsBlank indent.toList) : value.form (value.indented indent).toList := by
  have deeper : IsBlank (indent ++ "  ").toList := by
    rw [String.toList_append]
    exact isBlank_append spaces (by simp [IsBlank, isSpace])
  match value with
  | .null | .bool _ | .natural _ | .string _ =>
      rw [Value.indented]
      · exact form_compact _ plain
      · simp
      · simp
  | .array items =>
      rw [Value.form, Value.indented]
      rw [Value.IsPlain] at plain
      exact bracketed_block rfl rfl (write_indentedItems items plain deeper) spaces
  | .object members =>
      rw [Value.form, Value.indented]
      rw [Value.IsPlain] at plain
      exact bracketed_block rfl rfl (write_indentedMembers members plain deeper) spaces

theorem write_indentedItems (items : List Value) (plain : Value.ArePlain items) {indent : String}
    (spaces : IsBlank indent.toList) :
    Write (itemForms items) (Value.indentedItems indent items) := by
  match items with
  | [] => exact .nil
  | item :: rest =>
      rw [Value.ArePlain] at plain
      rw [itemForms, Value.indentedItems]
      exact .cons (form_indented item plain.1 spaces) (write_indentedItems rest plain.2 spaces)

theorem write_indentedMembers (members : List (Option String × Value))
    (plain : Value.ArePlainMembers members) {indent : String} (spaces : IsBlank indent.toList) :
    Write (memberForms members) (Value.indentedMembers indent members) := by
  match members with
  | [] => exact .nil
  | (none, value) :: rest =>
      rw [Value.ArePlainMembers] at plain
      exact (plain.1 rfl).elim
  | (some name, value) :: rest =>
      rw [Value.ArePlainMembers] at plain
      rw [memberForms, Value.indentedMembers]
      refine .cons ?_ (write_indentedMembers rest plain.2.2 spaces)
      exact ⟨name, [], [' '], _, rfl, by simp [IsBlank], by simp [IsBlank, isSpace],
        form_indented value plain.2.1 spaces, by simp [quoteName]⟩

end

end Printers

theorem padded_of_form {form : Form} {cs : List Char} (writes : form cs) : padded form cs :=
  ⟨[], cs, [], by simp [IsBlank], writes, by simp [IsBlank], by simp⟩

theorem parse?_compact {value : Value} (plain : value.IsPlain) :
    Value.parse? value.compact = some value :=
  parse?_of_padded (padded_of_form (form_compact value plain))

theorem parse?_pretty {value : Value} (plain : value.IsPlain) :
    Value.parse? value.pretty = some value :=
  parse?_of_padded (padded_of_form (form_indented value plain (by simp [IsBlank])))

end PageSelectors.Json
