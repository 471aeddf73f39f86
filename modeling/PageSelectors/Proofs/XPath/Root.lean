import PageSelectors.Proofs.Outcome
import PageSelectors.XPath.Render

/-!
The root of an XPath chain. The text of a chain that starts at the page starts with the descendant
axis, and as a boundary it starts with the following axis instead and is otherwise the same.
-/

namespace PageSelectors.XPath

open Outcome

theorem followingTest_eq_ok_iff {absolute : Bool} {text test : String} :
    followingTest absolute text = .ok test ↔
      absolute = true ∧ test = String.ofList (replaceRoot text.toList) := by
  unfold followingTest
  cases absolute with
  | false => simp
  | true => simp [eq_comm]

theorem replaceRoot_descendant (rest : List Char) :
    replaceRoot ("/descendant::".toList ++ rest) = "following::".toList ++ rest := by
  have taken : ("descendant::".toList ++ rest).takeWhile isAxisChar = "descendant".toList := by
    simp [isAxisChar]
  have dropped : ("descendant::".toList ++ rest).dropWhile isAxisChar = "::".toList ++ rest := by
    simp [isAxisChar]
  calc replaceRoot ('/' :: ("descendant::".toList ++ rest))
      = "following".toList ++ ("descendant::".toList ++ rest).dropWhile isAxisChar := by
        rw [replaceRoot, taken, if_neg (by simp)]
    _ = "following::".toList ++ rest := by
        rw [dropped]
        rfl

theorem Chain.render_of_isAbsolute {chain : Chain} {text : String} (absolute : chain.isAbsolute)
    (rendered : chain.render = .ok text) : ∃ rest, text = "/descendant::" ++ rest := by
  induction chain using Chain.isAbsolute.induct generalizing text with
  | case1 raw => simp [isAbsolute] at absolute
  | case2 tag conditions =>
      rw [Chain.render] at rendered
      obtain ⟨_, _, rendered⟩ := bind_eq_ok_iff.1 rendered
      obtain ⟨others, _, rfl⟩ := bind_pure_eq_ok_iff.1 rendered
      exact ⟨Text.trim tag ++ others, by rw [String.append_assoc]; rfl⟩
  | case3 step => simp [isAbsolute] at absolute
  | case4 before step ih =>
      rw [Chain.render] at rendered
      obtain ⟨start, renderedStart, rendered⟩ := bind_eq_ok_iff.1 rendered
      obtain ⟨last, _, rfl⟩ := bind_pure_eq_ok_iff.1 rendered
      obtain ⟨rest, rfl⟩ := ih absolute renderedStart
      exact ⟨rest ++ last, String.append_assoc⟩
  | case5 before boundary ih =>
      rw [Chain.render] at rendered
      obtain ⟨start, renderedStart, rendered⟩ := bind_eq_ok_iff.1 rendered
      obtain ⟨limit, _, rendered⟩ := bind_eq_ok_iff.1 rendered
      obtain ⟨test, _, rfl⟩ := bind_pure_eq_ok_iff.1 rendered
      obtain ⟨rest, rfl⟩ := ih absolute renderedStart
      exact ⟨rest ++ predicate false test, String.append_assoc⟩

end PageSelectors.XPath
