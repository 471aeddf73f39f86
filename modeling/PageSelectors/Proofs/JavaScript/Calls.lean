import PageSelectors.Proofs.JavaScript.Strings
import PageSelectors.Query

/-!
The calls in JavaScript that run a query. A call is a frame of fixed words and the scope, around one
literal for the text. JSON and JavaScript both end the literal at its closing quote and read the text
in it, so no text breaks out of its call, and the call tells the text.
-/

namespace PageSelectors.Query

inductive Wanted where
  | first
  | count

structure Frame where
  before : String
  after : String

namespace Frame

def call (wanted : Wanted) (grammar : Grammar) (scope : String) : Frame :=
  match grammar, wanted with
  | .css, .first => ⟨scope ++ ".querySelector(", ")"⟩
  | .css, .count => ⟨scope ++ ".querySelectorAll(", ").length"⟩
  | .xpath, .first =>
      ⟨"document.evaluate(",
        ", " ++ scope ++ ", null, XPathResult.FIRST_ORDERED_NODE_TYPE, null).singleNodeValue"⟩
  | .xpath, .count =>
      ⟨"document.evaluate(",
        ", " ++ scope ++ ", null, XPathResult.ORDERED_NODE_SNAPSHOT_TYPE, null).snapshotLength"⟩

/-- Whether a script is the frame around one literal between double quotes, and the text is what is
read in it. The literal ends at the quote before the rest of the frame, and would end there before
anything else. -/
def Carries (frame : Frame) (text script : String) : Prop :=
  ∃ literal : List Char,
    script.toList = frame.before.toList ++ '"' :: literal ++ '"' :: frame.after.toList ∧
    ∀ rest, Json.readString (literal ++ '"' :: rest) = some (some text, rest) ∧
      JavaScript.readString (literal ++ '"' :: rest) = some (some text, rest)

def fill (frame : Frame) (text : String) : String :=
  frame.before ++ Json.quote text ++ frame.after

theorem carries_fill (frame : Frame) (text : String) : frame.Carries text (frame.fill text) := by
  refine ⟨text.toList.flatMap Json.escapeChar, ?_, fun rest => ⟨?json, ?javaScript⟩⟩
  · rw [fill, String.toList_append, String.toList_append, Json.quote_toList]
    simp
  case json => exact Json.readString_quoted text rest
  case javaScript => exact JavaScript.readString_quoted text rest

theorem fill_inj_of_before {frame other : Frame} (same : frame.before = other.before)
    {text phrase : String} :
    frame.fill text = other.fill phrase ↔ text = phrase ∧ frame.after = other.after := by
  rw [fill, fill, ← String.toList_inj, same]
  simp only [String.toList_append, List.append_assoc, List.append_cancel_left_eq]
  rw [Json.quote_append_inj, String.toList_inj]

theorem fill_inj_of_after {frame other : Frame} (same : frame.after = other.after)
    (opened : frame.before.toList.getLast? = some '(')
    (otherOpened : other.before.toList.getLast? = some '(') {text phrase : String} :
    frame.fill text = other.fill phrase ↔ text = phrase ∧ frame.before = other.before := by
  rw [fill, fill, same, String.append_left_inj, ← String.toList_inj, String.toList_append,
    String.toList_append, Json.append_quote_inj (by simp [opened]) (by simp [otherOpened]),
    String.toList_inj, and_comm]

/-- A call tells its text and its scope. -/
theorem fill_call_inj (wanted : Wanted) (grammar : Grammar) {text phrase scope place : String} :
    (call wanted grammar scope).fill text = (call wanted grammar place).fill phrase ↔
      text = phrase ∧ scope = place := by
  have opened (wanted : Wanted) (scope : String) :
      (call wanted .css scope).before.toList.getLast? = some '(' := by
    cases wanted <;> simp [call]
  cases grammar with
  | css =>
      have sameAfter : (call wanted .css scope).after = (call wanted .css place).after := by
        cases wanted <;> rfl
      rw [fill_inj_of_after sameAfter (opened wanted scope) (opened wanted place)]
      cases wanted <;> simp [call, String.append_left_inj]
  | xpath =>
      have sameBefore : (call wanted .xpath scope).before = (call wanted .xpath place).before := by
        cases wanted <;> rfl
      rw [fill_inj_of_before sameBefore]
      cases wanted <;> simp [call, String.append_left_inj, String.append_right_inj]

end Frame

def Wanted.ask : Wanted → Grammar → String → String → String
  | .first => firstMatch
  | .count => matchCount

theorem Wanted.ask_eq (wanted : Wanted) (grammar : Grammar) (text scope : String) :
    wanted.ask grammar text scope = (Frame.call wanted grammar scope).fill text := by
  cases grammar with
  | css => cases wanted <;> rfl
  | xpath =>
      have grouped (tail : String) :
          "document.evaluate(" ++ Json.quote text ++ ", " ++ scope ++ tail =
            "document.evaluate(" ++ Json.quote text ++ (", " ++ scope ++ tail) := by
        simp only [String.append_assoc]
      cases wanted with
      | first | count => exact grouped _

def script (wanted : Wanted) (query : Query) : String :=
  match wanted with
  | .first => query.javascript
  | .count => query.countJavascript

def scopedScript (wanted : Wanted) (query : Query) (scope : String) : String :=
  match wanted with
  | .first => query.scopedJavascript scope
  | .count => query.scopedCountJavascript scope

def rootUnder (query : Query) (scope : String) : String :=
  if query.absolute then "document" else scope

def textUnder (query : Query) : String :=
  if query.absolute then query.text else query.scopedText

theorem textUnder_eq (query : Query) : query.textUnder = query.scopedText := by
  cases anchored : query.absolute with
  | true => simp [textUnder, scopedText, anchored]
  | false => simp [textUnder, anchored]

theorem scopedJavascript_eq (query : Query) (scope : String) :
    query.scopedJavascript scope =
      firstMatch query.grammar query.textUnder (query.rootUnder scope) := by
  cases anchored : query.absolute with
  | true => simp [scopedJavascript, javascript, textUnder, rootUnder, anchored]
  | false => simp [scopedJavascript, textUnder, rootUnder, anchored]

theorem scopedCountJavascript_eq (query : Query) (scope : String) :
    query.scopedCountJavascript scope =
      matchCount query.grammar query.textUnder (query.rootUnder scope) := by
  cases anchored : query.absolute with
  | true => simp [scopedCountJavascript, countJavascript, textUnder, rootUnder, anchored]
  | false => simp [scopedCountJavascript, textUnder, rootUnder, anchored]

theorem script_eq (wanted : Wanted) (query : Query) :
    query.script wanted = (Frame.call wanted query.grammar "document").fill query.text := by
  rw [← Wanted.ask_eq]
  cases wanted with
  | first | count => rfl

theorem scopedScript_eq (wanted : Wanted) (query : Query) (scope : String) :
    query.scopedScript wanted scope =
      (Frame.call wanted query.grammar (query.rootUnder scope)).fill query.textUnder := by
  rw [← Wanted.ask_eq]
  cases wanted with
  | first => exact query.scopedJavascript_eq scope
  | count => exact query.scopedCountJavascript_eq scope

theorem carries_script (wanted : Wanted) (query : Query) :
    (Frame.call wanted query.grammar "document").Carries query.text (query.script wanted) := by
  rw [script_eq]
  exact Frame.carries_fill _ _

theorem carries_scopedScript (wanted : Wanted) (query : Query) (scope : String) :
    (Frame.call wanted query.grammar (query.rootUnder scope)).Carries query.textUnder
      (query.scopedScript wanted scope) := by
  rw [scopedScript_eq]
  exact Frame.carries_fill _ _

/-- The JavaScript of a query carries its text without loss. Each call is a frame that the grammar
and the scope decide, around one literal in which JSON and JavaScript read the plain text, or under a
scope the text that a relative query has there, up to the closing quote. So two queries of one grammar
have the same JavaScript exactly if they have the same text in it, and under a scope also search the
same place. -/
theorem calls_carry_text (wanted : Wanted) (query : Query) (scope : String) :
    (Frame.call wanted query.grammar "document").Carries query.text (query.script wanted) ∧
    (Frame.call wanted query.grammar (query.rootUnder scope)).Carries query.textUnder
      (query.scopedScript wanted scope) ∧
    ∀ other : Query, other.grammar = query.grammar →
      (query.script wanted = other.script wanted ↔ query.text = other.text) ∧
      ∀ place,
        query.scopedScript wanted scope = other.scopedScript wanted place ↔
          query.textUnder = other.textUnder ∧ query.rootUnder scope = other.rootUnder place := by
  refine ⟨carries_script wanted query, carries_scopedScript wanted query scope,
    fun other same => ⟨?tells, fun place => ?tellsScoped⟩⟩
  case tells => rw [script_eq, script_eq, same, Frame.fill_call_inj, and_iff_left rfl]
  case tellsScoped => rw [scopedScript_eq, scopedScript_eq, same, Frame.fill_call_inj]

def hostileCells : Query :=
  ⟨"/child::td[text()='say \"hi\"\\\t\x7f\u2028😀']", .xpath, false, "."⟩

def escapedCells : Query :=
  ⟨"/child::td[text()='say \"hi\"\\\\t\x7f\u2028😀']", .xpath, false, "."⟩

theorem calls_carry_text_hostileCells :
    (Frame.call .first .xpath "row").Carries
        "./child::td[text()='say \"hi\"\\\t\x7f\u2028😀']" (hostileCells.scopedJavascript "row") ∧
      hostileCells.scopedJavascript "row" =
        "document.evaluate(\"./child::td[text()='say \\\"hi\\\"\\\\\\t\x7f\u2028😀']\", row, null, " ++
          "XPathResult.FIRST_ORDERED_NODE_TYPE, null).singleNodeValue" ∧
      hostileCells.scopedJavascript "row" ≠ escapedCells.scopedJavascript "row" := by
  obtain ⟨-, carried, tells⟩ := calls_carry_text .first hostileCells "row"
  refine ⟨carried, by decide +kernel, fun same => ?_⟩
  exact absurd (((tells escapedCells rfl).2 "row").1 same).1 (by decide)

end PageSelectors.Query
