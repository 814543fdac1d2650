/-!
Hexadecimal digits, as escapes and random names use them.
-/
namespace PhoneSignIn.Text.Hex

def lower (n : Nat) : Char := Char.ofNat (if n < 10 then 48 + n else 87 + n)

def upper (n : Nat) : Char := Char.ofNat (if n < 10 then 48 + n else 55 + n)

def value? (c : Char) : Option Nat :=
  let n := c.toNat
  if 48 ≤ n ∧ n ≤ 57 then some (n - 48)
  else if 97 ≤ n ∧ n ≤ 102 then some (n - 87)
  else if 65 ≤ n ∧ n ≤ 70 then some (n - 55)
  else none

/-- The last `width` lower-case digits of a number, most significant first. -/
def padded : (width n : Nat) → List Char
  | 0, _ => []
  | w + 1, n => padded w (n / 16) ++ [lower (n % 16)]

def digits (n : Nat) : List Char :=
  if n < 16 then [lower n] else digits (n / 16) ++ [lower (n % 16)]
termination_by n

theorem value?_lower : ∀ n < 16, value? (lower n) = some n := by decide

theorem value?_upper : ∀ n < 16, value? (upper n) = some n := by decide

end PhoneSignIn.Text.Hex
