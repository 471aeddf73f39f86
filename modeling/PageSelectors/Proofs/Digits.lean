import PageSelectors.Text.Digits

/-!
Decimal digits. A number is read back from the digits it is written with, and none but zero is
written with a zero in front.
-/

namespace PageSelectors.Text

/-- Only zero is written with a zero in front. -/
theorem eq_zero_of_toDigits {n : Nat} {rest : List Char}
    (leading : Nat.toDigits 10 n = '0' :: rest) : n = 0 := by
  induction n using Nat.strongRecOn generalizing rest with
  | ind n ih =>
      rcases Nat.lt_or_ge n 10 with small | large
      · have single : ∀ digit < 10, digit.digitChar = '0' → digit = 0 := by decide
        rw [Nat.toDigits_of_lt_base small] at leading
        exact single n small (List.cons.inj leading).1
      · rw [Nat.toDigits_of_base_le (by decide) large] at leading
        cases digits : Nat.toDigits 10 (n / 10) with
        | nil => exact absurd digits Nat.toDigits_ne_nil
        | cons first others =>
            rw [digits] at leading
            obtain rfl := (List.cons.inj leading).1
            have := ih (n / 10) (by omega) digits
            omega

theorem digitBelow_of_isDigit {c : Char} (digit : c.isDigit) :
    digitBelow 10 c = some (c.toNat - '0'.toNat) := by
  obtain ⟨lower, upper⟩ : '0' ≤ c ∧ c ≤ '9' := by
    simpa [Char.isDigit, Char.le_def] using digit
  have small : c.toNat - 48 < 10 := by
    have : c.toNat ≤ 57 := upper
    omega
  rw [digitBelow, digitValue, if_pos ⟨lower, upper⟩]
  simpa using small

theorem mapM_digitBelow {digits : List Char} (all : ∀ c ∈ digits, c.isDigit) :
    digits.mapM (digitBelow 10) = some (digits.map fun c => c.toNat - '0'.toNat) := by
  induction digits with
  | nil => rfl
  | cons c rest ih =>
      obtain ⟨head, tail⟩ := List.forall_mem_cons.1 all
      simp [digitBelow_of_isDigit head, ih tail]

theorem isDigit_of_mem_toDigits {n : Nat} : ∀ c ∈ Nat.toDigits 10 n, c.isDigit :=
  fun _ member => Nat.isDigit_of_mem_toDigits (by decide) (by decide) member

theorem number?_toDigits (n : Nat) : number? 10 (Nat.toDigits 10 n) = some n := by
  have read : Nat.ofDigitChars 10 (Nat.toDigits 10 n) 0 = n := Nat.ofDigitChars_ten_toDigits
  have something : (!(Nat.toDigits 10 n).isEmpty) = true := by simp [Nat.toDigits_ne_nil]
  rw [number?, something, mapM_digitBelow isDigit_of_mem_toDigits]
  change some (List.foldl _ 0 (List.map _ _)) = _
  rw [List.foldl_map]
  exact congrArg some read

end PageSelectors.Text
