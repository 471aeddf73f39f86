import PageSelectors.Command.Run
import PageSelectors.Proofs.Catalog.Entries

/-!
What the commands on catalogs write. All that can go wrong once a catalog is there is that it has no
entry of the name that is asked for: its queries are compiled already, and under other settings they
differ in nothing but the lead.
-/

namespace PageSelectors

open Outcome

def Json.Value.member? (name : String) : Json.Value → Option Json.Value
  | .object members => members.lookup (some name)
  | _ => none

namespace Command

variable {path : String} {content : Except FileFault String} {catalog : Catalog}
variable {settings : Settings} {colors : Bool} {format : Option OutputFormat}

theorem exists_ofFile_of_load (loaded : Catalog.load path content = .ok catalog) :
    ∃ file, Catalog.ofFile file = .ok catalog := by
  obtain ⟨text, -, read⟩ := bind_eq_ok_iff.1 loaded
  obtain ⟨file, -, made⟩ := bind_eq_ok_iff.1 read
  exact ⟨file, made⟩

theorem check_of_error {fault : PageSelectors.Fault}
    (failed : Catalog.load path content = .error fault) :
    check settings colors path content = .error (.catalog fault) := by
  rw [check, failed]
  rfl

theorem compile_of_error {fault : PageSelectors.Fault} {name : Option String}
    (failed : Catalog.load path content = .error fault) :
    compile settings colors path content name format = .error (.catalog fault) := by
  rw [compile, failed]
  rfl

def summary (colors : Bool) (path : String) (count : Nat) : String :=
  styled colors "32" "✓" ++ " " ++ path ++ ": " ++ toString count ++ " selector(s) compiled\n"

def nameLines (names : List String) : String :=
  String.join (names.map fun name => "  " ++ name ++ "\n")

theorem check_of_ok (loaded : Catalog.load path content = .ok catalog) :
    check settings colors path content = .ok (
      if settings.verbosity = .quiet then ""
      else summary colors path catalog.names.length ++
        nameLines (if settings.verbosity.isVerbose then catalog.names else [])) := by
  have counted : catalog.names.length = catalog.entries.length := by simp [Catalog.names]
  rw [check, loaded, counted]
  simp only [Except.mapError, ok_bind]
  by_cases quiet : settings.verbosity = .quiet
  · simp only [quiet]
    rfl
  · simp only [quiet, if_false]
    by_cases verbose : settings.verbosity.isVerbose
    · simp only [verbose, if_true]
      rfl
    · simp only [verbose]
      rfl

theorem compile_of_ok {name : Option String} (loaded : Catalog.load path content = .ok catalog) :
    compile settings colors path content name format =
      (do
        let entries ← chooseEntries catalog name
        (writeEntries settings colors (format.getD settings.format) entries).mapError .catalog) := by
  rw [compile, loaded]
  rfl

theorem compile_all (loaded : Catalog.load path content = .ok catalog) :
    compile settings colors path content none format =
      (writeEntries settings colors (format.getD settings.format) catalog.entries).mapError
        .catalog :=
  compile_of_ok loaded

theorem compile_one (loaded : Catalog.load path content = .ok catalog) {entry : Catalog.Entry}
    (member : entry ∈ catalog.entries) :
    compile settings colors path content (some entry.name) format =
      (writeEntries settings colors (format.getD settings.format) [entry]).mapError .catalog := by
  obtain ⟨file, made⟩ := exists_ofFile_of_load loaded
  rw [compile_of_ok loaded, chooseEntries, Catalog.get?_of_mem (Catalog.pairwise_names made) member]
  rfl

theorem compile_other (loaded : Catalog.load path content = .ok catalog) {name : String}
    (unlisted : name ∉ catalog.names) :
    compile settings colors path content (some name) format =
      .error (.noEntry name catalog.names) := by
  rw [compile_of_ok loaded, chooseEntries, Catalog.get?_eq_none_iff.2 unlisted]
  rfl

/-- A selector that is compiled under the standard settings is compiled under all. -/
theorem exists_entryDocument {entry : Catalog.Entry}
    (compiled : Query.compile entry.selector = .ok entry.query) :
    ∃ query document, Query.compileWith settings.locator entry.selector = .ok query ∧
      entryDocument settings entry = .ok document ∧
        document.member? "name" = some (.string entry.name) ∧
          document.member? "scoped_text" = some (.string query.scopedText) := by
  obtain ⟨text, rendered, -⟩ := bind_pure_eq_ok_iff.1 compiled
  have queried : Query.compileWith settings.locator entry.selector =
      .ok ⟨text, entry.selector.grammar, entry.selector.isAbsolute,
        settings.locator.effectiveLead⟩ := by
    rw [Query.compileWith, rendered]
    rfl
  refine ⟨_, _, queried, bind_pure_eq_ok_iff.2 ⟨_, queried, rfl⟩, rfl, ?_⟩
  cases entry.description with
  | none => rfl
  | some description => rfl

/-- The documents that are written of entries are the ones of each. -/
theorem exists_documents {entries : List Catalog.Entry}
    (compiled : ∀ entry ∈ entries, Query.compile entry.selector = .ok entry.query) :
    ∃ documents,
      List.Forall₂ (fun entry document => entryDocument settings entry = .ok document)
        entries documents ∧
      writeEntries settings colors .json entries =
        .ok ((Json.Value.array documents).pretty ++ "\n") := by
  have documented : ∀ entry ∈ entries, ∃ document, entryDocument settings entry = .ok document := by
    intro entry member
    obtain ⟨-, document, -, made, -⟩ := exists_entryDocument (compiled entry member)
    exact ⟨document, made⟩
  obtain ⟨documents, all⟩ := mapM_isOk_iff.2 documented
  exact ⟨documents, mapM_eq_ok_iff.1 all, bind_pure_eq_ok_iff.2 ⟨documents, all, rfl⟩⟩

end Command

end PageSelectors
