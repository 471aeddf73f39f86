import PageSelectors.Proofs.JavaScript.Calls
import PageSelectors.Proofs.Json.Printing
import PageSelectors.Proofs.Json.Trees
import PageSelectors.Query

/-!
Queries that are stored as JSON and read back. The lead is not stored, so a query comes back with
the default one, and with everything else as it was. That makes a difference only where the lead is
written: before a relative XPath query under a context element. Members that a query does not have
are passed over.
-/

namespace PageSelectors

open Json (Value)

namespace Source

variable {Node : Type}

/-- An open record passes over the names that it has no field for. -/
theorem select_filter (names : List String) (members : List (String × Node)) :
    select names false (members.filter (·.1 ∈ names)) = select names false members := by
  induction members with
  | nil => rfl
  | cons member rest ih =>
      by_cases known : member.1 ∈ names
      · rw [List.filter_cons_of_pos (by simpa using known), select, select, ih]
      · rw [List.filter_cons_of_neg (by simpa using known), select, ih]
        simp [known]

end Source

theorem Json.Cursor.fields_ofMembers (names : List String) (closed : Bool) (depth : Nat)
    (members : List (String × Value)) :
    Cursor.fields names closed ⟨depth + 1, .ofMembers members⟩ =
      Source.select names closed (members.map fun member => (member.1, ⟨depth, member.2⟩)) := by
  have listed := Cursor.namedMembers_eq depth members
  rw [List.zip_map'] at listed
  change (Cursor.namedMembers depth _ >>= _) = _
  rw [listed, pure_bind]

namespace Query

section Members

def memberNames : List String :=
  ["text", "grammar", "absolute"]

def knownMembers (members : List (String × Value)) : List (String × Value) :=
  members.filter (·.1 ∈ memberNames)

theorem fields_knownMembers (depth : Nat) (members : List (String × Value)) :
    Json.Cursor.fields memberNames false ⟨depth + 1, .ofMembers (knownMembers members)⟩ =
      Json.Cursor.fields memberNames false ⟨depth + 1, .ofMembers members⟩ := by
  rw [Json.Cursor.fields_ofMembers, Json.Cursor.fields_ofMembers,
    ← Source.select_filter _ (members.map _), List.filter_map]
  rfl

theorem decode?_knownMembers (members : List (String × Value)) :
    decode? (.ofMembers (knownMembers members)) = decode? (.ofMembers members) := by
  have read_knownMembers : read Json.source ⟨126 + 1, .ofMembers (knownMembers members)⟩ =
      read Json.source ⟨126 + 1, .ofMembers members⟩ := by
    have fields : Json.source.fields ["text", "grammar", "absolute"] false
        ⟨126 + 1, .ofMembers (knownMembers members)⟩ =
        Json.source.fields ["text", "grammar", "absolute"] false ⟨126 + 1, .ofMembers members⟩ :=
      fields_knownMembers 126 members
    rw [read, read, fields]
  exact congrArg (fun reading => reading.run' 0) read_knownMembers

theorem ofJson_eq_of_knownMembers {text other : String} {members others : List (String × Value)}
    (parsed : Value.parse? text = some (.ofMembers members))
    (parsedOther : Value.parse? other = some (.ofMembers others))
    (same : knownMembers members = knownMembers others) : ofJson text = ofJson other := by
  have decoded : decode? (.ofMembers members) = decode? (.ofMembers others) := by
    rw [← decode?_knownMembers members, same, decode?_knownMembers]
  rw [ofJson, ofJson, parsed, parsedOther]
  simp only [Option.bind_eq_bind, Option.bind_some, decoded]

end Members

def stored (query : Query) : Query :=
  { query with lead := Locator.defaultLead }

theorem decode?_encode (query : Query) : decode? query.encode = some query.stored := by
  obtain ⟨text, grammar, absolute, lead⟩ := query
  cases grammar with
  | css | xpath => rfl

theorem ofJson_of_parse? {query : Query} {text : String}
    (parsed : Value.parse? text = some query.encode) : ofJson text = .ok query.stored := by
  rw [ofJson, parsed, Option.bind_eq_bind, Option.bind_some, decode?_encode]

theorem isPlain_encode (query : Query) : query.encode.IsPlain := by
  simp [encode, Value.ofMembers, Value.IsPlain, Value.ArePlainMembers]

theorem stored_eq_iff {query : Query} :
    query.stored = query ↔ query.lead = Locator.defaultLead := by
  obtain ⟨text, grammar, absolute, lead⟩ := query
  simp [stored, eq_comm]

section Scopes

/-- Whether the text under a context element is the same whatever the lead, or has the default
lead. -/
def KeepsScope (query : Query) : Prop :=
  query.grammar = .css ∨ query.absolute = true ∨ query.lead = Locator.defaultLead

variable {query : Query}

theorem scopedText_stored_iff : query.stored.scopedText = query.scopedText ↔ query.KeepsScope := by
  obtain ⟨text, grammar, absolute, lead⟩ := query
  cases grammar with
  | css => simp [stored, scopedText, KeepsScope]
  | xpath =>
      cases absolute with
      | false => simp [stored, scopedText, KeepsScope, String.append_left_inj, eq_comm]
      | true => simp [stored, scopedText, KeepsScope]

theorem scopedScript_stored_iff (wanted : Wanted) (scope : String) :
    query.stored.scopedScript wanted scope = query.scopedScript wanted scope ↔
      query.KeepsScope := by
  rw [scopedScript_eq, scopedScript_eq, textUnder_eq, textUnder_eq, ← scopedText_stored_iff]
  exact (Frame.fill_call_inj wanted query.grammar).trans (and_iff_left rfl)

theorem scopedJavascript_stored_iff (scope : String) :
    query.stored.scopedJavascript scope = query.scopedJavascript scope ↔ query.KeepsScope :=
  scopedScript_stored_iff .first scope

theorem scopedCountJavascript_stored_iff (scope : String) :
    query.stored.scopedCountJavascript scope = query.scopedCountJavascript scope ↔
      query.KeepsScope :=
  scopedScript_stored_iff .count scope

end Scopes

variable {settings : Locator.Settings} {selector : Selector} {query : Query}

/-- A query that is stored as JSON is read back with its text, its grammar and its anchor, so it
finds the same in the whole document, and however the JSON is laid out. It is the same query exactly
if the lead in force is a dot. Under a context element it searches with the same text exactly if it
is a CSS query, or searches the whole page, or the lead in force is a dot; and it is the same
JavaScript exactly if the text is. Members that a query does not have change nothing about what is
read, whether they stand among those of a stored query or in any other object. -/
theorem ofJson_encode (compiled : compileWith settings selector = .ok query) :
    (∃ back : Query,
      (ofJson query.encode.compact = .ok back ∧ ofJson query.encode.pretty = .ok back ∧
        ∀ text stored members, query.encode = .ofMembers stored →
          knownMembers members = stored → Value.parse? text = some (.ofMembers members) →
            ofJson text = .ok back) ∧
      (back.text = query.text ∧ back.grammar = query.grammar ∧ back.absolute = query.absolute ∧
        back.javascript = query.javascript ∧ back.countJavascript = query.countJavascript) ∧
      (back = query ↔ settings.effectiveLead = ".") ∧
      (back.scopedText = query.scopedText ↔
        query.grammar = .css ∨ query.absolute = true ∨ settings.effectiveLead = ".") ∧
      ∀ scope,
        (back.scopedJavascript scope = query.scopedJavascript scope ↔
          back.scopedText = query.scopedText) ∧
        (back.scopedCountJavascript scope = query.scopedCountJavascript scope ↔
          back.scopedText = query.scopedText)) ∧
    ∀ text other members others, Value.parse? text = some (.ofMembers members) →
      Value.parse? other = some (.ofMembers others) → knownMembers members = knownMembers others →
        ofJson text = ofJson other := by
  have lead : query.lead = settings.effectiveLead := by
    obtain ⟨text, -, rfl⟩ := Outcome.bind_pure_eq_ok_iff.1 compiled
    rfl
  have compact := Json.parse?_compact query.isPlain_encode
  refine ⟨⟨query.stored, ⟨?compact, ?pretty, ?extended⟩, ⟨rfl, rfl, rfl, rfl, rfl⟩, ?same, ?under,
    fun scope => ⟨?javascript, ?count⟩⟩, ?others⟩
  case compact => exact ofJson_of_parse? compact
  case pretty => exact ofJson_of_parse? (Json.parse?_pretty query.isPlain_encode)
  case extended =>
    rintro text _ members encoded rfl parsed
    have again : knownMembers (knownMembers members) = knownMembers members := by
      simp [knownMembers, List.filter_filter]
    rw [← ofJson_of_parse? compact]
    exact ofJson_eq_of_knownMembers parsed (compact.trans (congrArg some encoded)) again.symm
  case same => rw [stored_eq_iff, lead, Locator.defaultLead]
  case under => rw [scopedText_stored_iff, KeepsScope, lead, Locator.defaultLead]
  case javascript => rw [scopedJavascript_stored_iff, scopedText_stored_iff]
  case count => rw [scopedCountJavascript_stored_iff, scopedText_stored_iff]
  case others => exact fun _ _ _ _ => ofJson_eq_of_knownMembers

def cellSettings : Locator.Settings where
  lead := ".//"
  leadRelative := true
  logQueries := false

def cells : Selector :=
  .xpath (.relative (.element .child "td" []))

def cellQuery : Query :=
  ⟨"/child::td", .xpath, false, ".//"⟩

/-- The lead does not come back, not even from a member that has it. -/
theorem ofJson_encode_cells :
    compileWith cellSettings cells = .ok cellQuery ∧
      ∃ back, ofJson cellQuery.encode.compact = .ok back ∧ back ≠ cellQuery ∧
        back.scopedText ≠ cellQuery.scopedText ∧
        ofJson (Value.ofMembers [("text", .string "/child::td"), ("context_prefix", .string ".//"),
          ("grammar", .string "xpath"), ("absolute", .bool false)]).compact = .ok back := by
  have compiled : compileWith cellSettings cells = .ok cellQuery := by decide +kernel
  obtain ⟨⟨back, ⟨compact, -, extended⟩, -, same, under, -⟩, -⟩ := ofJson_encode compiled
  have otherLead : cellSettings.effectiveLead ≠ "." := by decide
  refine ⟨compiled, back, compact, fun equal => otherLead (same.1 equal), fun equal => ?_, ?_⟩
  · rcases under.1 equal with css | absolute | lead
    · cases css
    · cases absolute
    · exact otherLead lead
  · refine extended _ _ _ rfl ?_ (Json.parse?_compact ?_)
    · rfl
    · simp [Value.ofMembers, Value.IsPlain, Value.ArePlainMembers]

end Query

end PageSelectors
