/-!
Digits and the numbers they write, for every radix up to sixteen.
-/

namespace PageSelectors.Text

def digit (n : Nat) : Char :=
  if n < 10 then Char.ofNat (48 + n) else Char.ofNat (87 + n)

def capitalDigit (n : Nat) : Char :=
  if n < 10 then Char.ofNat (48 + n) else Char.ofNat (55 + n)

def digitValue (c : Char) : Option Nat :=
  if '0' ≤ c ∧ c ≤ '9' then some (c.toNat - 48)
  else if 'a' ≤ c ∧ c ≤ 'f' then some (c.toNat - 87)
  else if 'A' ≤ c ∧ c ≤ 'F' then some (c.toNat - 55)
  else none

def digitBelow (radix : Nat) (c : Char) : Option Nat :=
  (digitValue c).filter (· < radix)

def number? (radix : Nat) (digits : List Char) : Option Nat := do
  guard !digits.isEmpty
  return (← digits.mapM (digitBelow radix)).foldl (fun total value => radix * total + value) 0

end PageSelectors.Text
