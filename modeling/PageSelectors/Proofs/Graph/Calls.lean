import PageSelectors.Graph.Calls
import PageSelectors.Proofs.Graph.Node

/-!
What a program sees of the cells in a graph of shared nodes: nothing. Every call is answered as if
no text were ever written down, in whatever order calls succeed and fail before it.
-/

namespace PageSelectors.Graph

open Stateful
open Compiling (memoized)

theorem isAbsolute_eq (graph : Graph) (number : Fin graph.xpathSize) :
    graph.isAbsolute number = (graph.xpathChain number).isAbsolute := by
  rw [isAbsolute, xpathChain]
  cases graph.xpath number with
  | raw | page | relative => rfl
  | step before _ | limitedBy before _ => exact isAbsolute_eq graph (target before)
termination_by number.val
decreasing_by all_goals exact before.isLt

variable (graph : Graph)

def Vertex.number {graph : Graph} : graph.Vertex → Nat
  | css number => number
  | xpath number => number

def plainText (vertex : graph.Vertex) : Except Fault String :=
  (graph.selector vertex).render

def compile : graph.Vertex → Compiling graph.Vertex String
  | .css number => (graph.css number).compile fun link => graph.renderCss (target link)
  | .xpath number =>
      (graph.xpath number).compile (fun link => graph.renderXPath (target link))
        fun link => graph.isAbsolute (target link)

theorem render_eq_memoized (vertex : graph.Vertex) :
    graph.render vertex = memoized vertex (graph.compile vertex) := by
  cases vertex with
  | css number => rw [render, renderCss, compile]
  | xpath number => rw [render, renderXPath, compile]

theorem follows_compile (vertex : graph.Vertex) :
    Follows graph.plainText (graph.compile vertex) (graph.plainText vertex) := by
  have follows_link (linked : graph.Vertex) (earlier : linked.number < vertex.number) :
      Follows graph.plainText (graph.render linked) (graph.plainText linked) := by
    rw [render_eq_memoized]
    exact (follows_compile linked).memoized
  cases vertex with
  | css number =>
      rw [plainText, selector, Selector.render, cssChain]
      exact (graph.css number).follows_compile fun link => follows_link (.css (target link)) link.isLt
  | xpath number =>
      rw [plainText, selector, Selector.render, xpathChain]
      exact (graph.xpath number).follows_compile
        (fun link => follows_link (.xpath (target link)) link.isLt)
        fun link => graph.isAbsolute_eq (target link)
termination_by vertex.number

theorem follows_render (vertex : graph.Vertex) :
    Follows graph.plainText (graph.render vertex) (graph.plainText vertex) := by
  rw [render_eq_memoized]
  exact (graph.follows_compile vertex).memoized

theorem full_of_render {vertex : graph.Vertex} {text : String}
    (rendered : graph.plainText vertex = .ok text) {cells : Cells graph.Vertex}
    (sound : cells.Sound graph.plainText) :
    (perform (graph.render vertex) cells).2 vertex = some text := by
  rw [render_eq_memoized]
  exact (graph.follows_compile vertex).full_of_memoized rendered sound

theorem before_full_of_render {number : Fin graph.xpathSize} {before : Fin number}
    (linked : (graph.xpath number).before? = some before) {fault : Fault}
    (failed : graph.plainText (.xpath number) = .error fault) {text : String}
    (rendered : graph.plainText (.xpath (target before)) = .ok text) {cells : Cells graph.Vertex}
    (sound : cells.Sound graph.plainText) :
    (perform (graph.render (.xpath number)) cells).2 (.xpath (target before)) = some text := by
  have kept := XPathNode.kept_before (fun link => graph.follows_render (.xpath (target link)))
    (fun link => graph.isAbsolute_eq (target link)) linked sound
  rw [render_eq_memoized, (graph.follows_compile _).cells_of_memoized failed sound]
  exact kept _ text (graph.full_of_render rendered sound)

theorem yields_text? (vertex : graph.Vertex) :
    Yields graph.plainText (graph.text? vertex) (graph.selector vertex).text? :=
  Yields.sequence (graph.follows_render vertex) (.value _)

theorem grammar_selector (vertex : graph.Vertex) :
    (graph.selector vertex).grammar = vertex.grammar := by
  cases vertex with
  | css number => rfl
  | xpath number => rfl

theorem yields_answer (call : graph.Call) :
    Yields graph.plainText (graph.answer call) (graph.plainAnswer call) := by
  cases call with
  | render vertex => exact Yields.sequence (graph.follows_render vertex) (.value _)
  | build vertex grammar =>
      rw [answer, plainAnswer, Selector.build, grammar_selector]
      split
      · exact Yields.sequence (graph.follows_render vertex) (.value _)
      · exact .value _
  | equal left right =>
      have compared : (graph.selector left == graph.selector right) =
          (left.grammar == right.grammar &&
            (graph.selector left).text? == (graph.selector right).text?) := by
        rw [← grammar_selector, ← grammar_selector]
        rfl
      rw [answer, plainAnswer, compared]
      by_cases same : left.grammar = right.grammar
      · rw [if_pos same, beq_iff_eq.2 same, Bool.true_and]
        exact (graph.yields_text? left).sequence ((graph.yields_text? right).sequence (.value _))
      · rw [if_neg same, beq_eq_false_iff_ne.2 same, Bool.false_and]
        exact .value _
  | hash vertex => exact (graph.yields_text? vertex).sequence (.value _)

theorem sound_empty : Cells.Sound graph.plainText fun _ => none := by
  intro vertex text full
  cases full

theorem leads_run (calls : List graph.Call) :
    Leads graph.plainText (fun _ => none) (calls.map graph.plainAnswer) (graph.run calls) :=
  Yields.mapM graph.yields_answer calls _ graph.sound_empty

theorem run_append (calls later : List graph.Call) :
    (graph.run (calls ++ later)).2 = ((later.mapM graph.answer).run (graph.run calls).2).2 := by
  rw [run, List.mapM_append]
  rfl

/-- Cells change no answer. Every call of a sequence is answered as if nothing were written down. A
full cell holds the text of its node and keeps it through all later calls, and a node that is
rendered without fault fills its cell. The cell of a node at fault stays empty, though rendering it
fills the cell of the node before it, if there is one that has no fault. -/
theorem run_eq_plain (calls : List graph.Call) :
    (graph.run calls).1 = calls.map graph.plainAnswer ∧
      (∀ vertex text, (graph.run calls).2 vertex = some text →
        (graph.selector vertex).render = .ok text) ∧
      (∀ later vertex text, (graph.run calls).2 vertex = some text →
        (graph.run (calls ++ later)).2 vertex = some text) ∧
      (∀ vertex text, (graph.selector vertex).render = .ok text →
        (graph.run (calls ++ [.render vertex])).2 vertex = some text) ∧
      (∀ vertex fault, (graph.selector vertex).render = .error fault →
        (graph.run calls).2 vertex = none) ∧
      ∀ number before, (graph.xpath number).before? = some before → ∀ fault text,
        (graph.xpathChain number).render = .error fault →
          (graph.xpathChain (target before)).render = .ok text →
            (graph.run (calls ++ [.render (.xpath number)])).2 (.xpath (target before)) =
              some text := by
  obtain ⟨answers, sound, -⟩ := graph.leads_run calls
  refine ⟨answers, sound, ?later, ?rendered, fun vertex fault => sound.eq_none, ?before⟩
  case later =>
    intro later vertex text full
    rw [run_append]
    exact (Yields.mapM graph.yields_answer later _ sound).kept vertex text full
  case rendered =>
    intro vertex text rendered
    rw [run_append]
    exact graph.full_of_render rendered sound
  case before =>
    intro number before linked fault text failed rendered
    rw [run_append]
    exact graph.before_full_of_render linked failed rendered sound

def looseLimitGraph : Graph where
  cssSize := 0
  xpathSize := 3
  css := nofun
  xpath
    | 0 => .page "td" []
    | 1 => .relative (.element .descendant "tr" [])
    | 2 => .limitedBy (0 : Fin 2) (1 : Fin 2)

example :
    let cells := (looseLimitGraph.run [.render (.xpath (2 : Fin 3))]).2
    cells (.xpath (0 : Fin 3)) = some "/descendant::td" ∧
      cells (.xpath (1 : Fin 3)) = some "/descendant::tr" ∧ cells (.xpath (2 : Fin 3)) = none := by
  decide +kernel

end PageSelectors.Graph
