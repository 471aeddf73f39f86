import PageSelectors.Proofs.Catalog.Acceptance
import PageSelectors.Proofs.Command.Output

/-!
What checking a catalog and compiling it have to do with each other. Both stand and fall with the
catalog as a whole. Of a catalog that can be had, compiling all entries writes what compiling each
of them writes, one after another in the order in which checking lists the names.
-/

namespace PageSelectors

open Outcome

section Arrays

open Json (Value)

theorem Json.Value.indentedItems_eq (indent : String) (items : List Value) :
    Value.indentedItems indent items = items.map (Value.indented indent) := by
  induction items with
  | nil => rfl
  | cons item rest ih => rw [Value.indentedItems, ih, List.map_cons]

theorem Json.Value.pretty_array (items : List Value) :
    (Value.array items).pretty =
      Value.block "" "[" "]" (items.map (Value.indented "  ")) := by
  rw [Value.pretty, Value.indented, Value.indentedItems_eq]
  rfl

/-- The lines of an item are all that an array with no other item consists of. -/
theorem Json.Value.indented_eq_of_pretty {item other : Value}
    (same : (Value.array [item]).pretty = (Value.array [other]).pretty) :
    item.indented "  " = other.indented "  " := by
  have lines (value : Value) : (Value.array [value]).pretty =
      "[" ++ "\n" ++ (("" ++ "  ") ++ value.indented "  ") ++ "\n" ++ "" ++ "]" := by
    rw [Value.pretty_array]
    rfl
  simpa only [lines, String.append_left_inj, String.append_right_inj] using same

end Arrays

namespace Command

/-- What is written of all entries, put together from what is written of each: texts follow one
another, and the arrays of JSON documents are joined to one. -/
def Composes (format : OutputFormat) (outputs : List String) (output : String) : Prop :=
  match format with
  | .text => output = String.join outputs
  | .json => ∃ documents : List Json.Value,
      outputs = documents.map (fun document => (Json.Value.array [document]).pretty ++ "\n") ∧
        output = (Json.Value.array documents).pretty ++ "\n"

/-- What is written of each entry determines what is written of all of them. -/
theorem Composes.unique {format : OutputFormat} {outputs : List String} {output other : String}
    (composed : Composes format outputs output) (again : Composes format outputs other) :
    output = other := by
  cases format with
  | text => exact composed.trans again.symm
  | json =>
      obtain ⟨documents, each, rfl⟩ := composed
      obtain ⟨others, eachOther, rfl⟩ := again
      have same := each.symm.trans eachOther
      have lines : documents.map (Json.Value.indented "  ") =
          others.map (Json.Value.indented "  ") := by
        rw [← List.forall₂_eq_eq_eq, List.forall₂_map_left_iff, List.forall₂_map_right_iff] at same ⊢
        exact same.imp fun document other equal =>
          Json.Value.indented_eq_of_pretty (String.append_left_inj "\n" |>.1 equal)
      rw [Json.Value.pretty_array, Json.Value.pretty_array, lines]

theorem exists_composes (settings : Settings) (colors : Bool) (format : OutputFormat)
    {entries : List Catalog.Entry}
    (compiled : ∀ entry ∈ entries, Query.compile entry.selector = .ok entry.query) :
    ∃ outputs output,
      List.Forall₂ (fun entry output => writeEntries settings colors format [entry] = .ok output)
        entries outputs ∧
      writeEntries settings colors format entries = .ok output ∧
        Composes format outputs output := by
  cases format with
  | text =>
      refine ⟨entries.map (entryLines settings colors), _, ?_, rfl, rfl⟩
      rw [List.forall₂_map_right_iff, List.forall₂_same]
      intro entry _
      simp [writeEntries]
  | json =>
      obtain ⟨documents, each, all⟩ := exists_documents compiled
      refine ⟨documents.map fun document => (Json.Value.array [document]).pretty ++ "\n",
        (Json.Value.array documents).pretty ++ "\n", ?_, all, documents, rfl, rfl⟩
      rw [List.forall₂_map_right_iff]
      refine each.imp fun entry document documented => ?_
      rw [writeEntries, List.mapM_cons, documented]
      rfl

section Loaded

variable {path : String} {content : Except FileFault String} {catalog : Catalog}
variable {settings : Settings} {colors : Bool} {format : Option OutputFormat}

theorem check_verbose (loaded : Catalog.load path content = .ok catalog) {verbosity : Verbosity}
    (verbose : verbosity.isVerbose = true) :
    check { settings with verbosity } colors path content =
      .ok (summary colors path catalog.names.length ++ nameLines catalog.names) := by
  have loud : verbosity ≠ .quiet := by
    rintro rfl
    cases verbose
  rw [check_of_ok loaded]
  simp only [loud, verbose, if_true, if_false]

/-- What is written of each entry by its name, and of all of them. -/
theorem exists_outputs (settings : Settings) (colors : Bool) (format : Option OutputFormat)
    (loaded : Catalog.load path content = .ok catalog) :
    ∃ outputs output,
      List.Forall₂ (fun name output =>
        compile settings colors path content (some name) format = .ok output)
        catalog.names outputs ∧
      compile settings colors path content none format = .ok output ∧
        Composes (format.getD settings.format) outputs output := by
  obtain ⟨file, made⟩ := exists_ofFile_of_load loaded
  obtain ⟨outputs, output, each, all, composes⟩ :=
    exists_composes settings colors (format.getD settings.format)
      fun entry member => Catalog.compile_of_mem made member
  refine ⟨outputs, output, ?_, ?_, composes⟩
  · rw [Catalog.names, List.forall₂_map_left_iff]
    have listed := (List.forall₂_and_left _ _).2 ⟨fun entry member => member, each⟩
    refine listed.imp fun entry output both => ?_
    rw [compile_one loaded both.1, both.2]
    rfl
  · rw [compile_all loaded, all]
    rfl

theorem noEntry_iff (loaded : Catalog.load path content = .ok catalog) {name : String} :
    (∃ available, compile settings colors path content (some name) format =
      .error (.noEntry name available)) ↔ name ∉ catalog.names := by
  constructor
  · rintro ⟨available, failed⟩ listed
    obtain ⟨outputs, -, each, -⟩ := exists_outputs settings colors format loaded
    obtain ⟨output, -, compiled⟩ := exists_of_mem_right each.flip listed
    rw [compiled] at failed
    cases failed
  · intro unlisted
    exact ⟨catalog.names, compile_other loaded unlisted⟩

theorem acceptable_of_load {text : String}
    (loaded : Catalog.load path (.ok text) = .ok catalog) {file : Catalog.File}
    (read : Catalog.File.ofText (.ofPath path) text = .ok file) {name : String}
    {definition : Catalog.Definition} (member : (name, definition) ∈ file.selectors.entries) :
    Catalog.Acceptable file.selectors name definition := by
  have made : Catalog.ofFile file = .ok catalog := by
    have opened : Catalog.load path (.ok text) =
        (Catalog.File.ofText (.ofPath path) text >>= Catalog.ofFile) := rfl
    rw [opened, read] at loaded
    exact loaded
  exact Catalog.acceptable_of_compiles (Table.get?_eq_some_iff.2 member)
    ((Catalog.ofFile_isOk_iff_compiles file).1 ⟨catalog, made⟩ _ member)

end Loaded

/-- Checking and compiling agree, whatever their settings. They fail together and with the same
fault, and then no entry is compiled alone either, which is so for every file with an entry that is
not acceptable. Otherwise the names that checking lists, in their order, are those under which an
entry can be compiled alone, and what is written of all entries is composed of what is written of
each. -/
theorem compile_agrees_with_check (path : String) (content : Except FileFault String)
    (settings checking : Settings) (colors checkColors : Bool) (format : Option OutputFormat) :
    (∀ fault, check checking checkColors path content = .error fault ↔
      compile settings colors path content none format = .error fault) ∧
    (∀ fault, check checking checkColors path content = .error fault → ∀ name,
      compile settings colors path content (some name) format = .error fault) ∧
    (∀ text file name definition, content = .ok text →
      Catalog.File.ofText (.ofPath path) text = .ok file →
      (name, definition) ∈ file.selectors.entries →
      ¬ Catalog.Acceptable file.selectors name definition →
        ∃ fault, check checking checkColors path content = .error fault ∧
          ∀ asked, compile settings colors path content asked format = .error fault) ∧
    ∀ report, check checking checkColors path content = .ok report →
      ∃ names outputs output, names.Pairwise (· < ·) ∧
        (∀ verbosity : Verbosity, verbosity.isVerbose = true →
          check { checking with verbosity } checkColors path content =
            .ok (summary checkColors path names.length ++ nameLines names)) ∧
        List.Forall₂ (fun name output =>
          compile settings colors path content (some name) format = .ok output) names outputs ∧
        compile settings colors path content none format = .ok output ∧
        (∀ other, Composes (format.getD settings.format) outputs other ↔ other = output) ∧
        ∀ name, (∃ available, compile settings colors path content (some name) format =
          .error (.noEntry name available)) ↔ name ∉ names := by
  cases loaded : Catalog.load path content with
  | error fault =>
      rw [check_of_error loaded, compile_of_error loaded]
      refine ⟨fun _ => Iff.rfl, ?alone, ?invalid, ?passes⟩
      case alone =>
        rintro _ ⟨⟩ name
        exact compile_of_error loaded
      case invalid =>
        intro text file name definition _ _ _ _
        exact ⟨_, rfl, fun asked => compile_of_error loaded⟩
      case passes =>
        intro report checked
        cases checked
  | ok catalog =>
      obtain ⟨file, made⟩ := exists_ofFile_of_load loaded
      obtain ⟨outputs, output, each, all, composes⟩ := exists_outputs settings colors format loaded
      rw [check_of_ok loaded, all]
      refine ⟨by simp, by simp, ?invalid, fun _ _ => ?passes⟩
      case invalid =>
        rintro text file name definition rfl read member unacceptable
        exact absurd (acceptable_of_load loaded read member) unacceptable
      refine ⟨catalog.names, outputs, output, Catalog.pairwise_names made,
        fun _ => check_verbose loaded, each, rfl, fun other => ?_, fun _ => noEntry_iff loaded⟩
      exact ⟨fun again => again.unique composes, fun same => same ▸ composes⟩

end Command

end PageSelectors
