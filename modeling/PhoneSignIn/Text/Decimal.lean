/-!
Whole numbers in decimal digits: `digits` writes a number without leading zeros, `value` reads any row of digits, and
`unsigned?` reads a setting or an answer with an optional plus sign and a bound. What is written reads back
(`value_digits`).
-/
namespace PhoneSignIn.Text.Decimal

def digit (n : Nat) : Char := Char.ofNat (48 + n)

/-- The digits of a number, most significant first; zero has one digit. -/
def digits (n : Nat) : List Char :=
  if n < 10 then [digit n] else digits (n / 10) ++ [digit (n % 10)]
termination_by n

def value (cs : List Char) : Nat := cs.foldl (fun n c => 10 * n + (c.toNat - 48)) 0

theorem toNat_digit : ∀ n < 10, (digit n).toNat - 48 = n := by decide

theorem value_append (cs : List Char) (c : Char) : value (cs ++ [c]) = 10 * value cs + (c.toNat - 48) := by
  simp [value]

theorem value_digits (n : Nat) : value (digits n) = n := by
  rw [digits]
  split
  · next h => simpa [value] using toNat_digit n h
  · rw [value_append,value_digits (n / 10),toNat_digit (n % 10) (by omega)]
    omega
termination_by n
decreasing_by omega

def ofNat (n : Nat) : String := String.ofList (digits n)

def ofInt (z : Int) : String :=
  if z < 0 then "-" ++ ofNat z.natAbs else ofNat z.natAbs

/-- The number below `bound` that a text spells: a plus sign or nothing, then one or more ASCII digits. -/
def unsigned? (bound : Nat) (s : String) : Option Nat :=
  let cs := match s.toList with
    | '+' :: r => r
    | r => r
  if cs ≠ [] ∧ cs.all Char.isDigit ∧ value cs < bound then some (value cs) else none

end PhoneSignIn.Text.Decimal
