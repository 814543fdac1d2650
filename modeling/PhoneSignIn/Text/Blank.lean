/-!
White space in what a person types: the blank characters, and text without the blanks around it.
-/
namespace PhoneSignIn.Text

def isBlank (c : Char) : Bool :=
  let n := c.toNat
  (9 ≤ n && n ≤ 13) || n == 0x20 || n == 0x85 || n == 0xA0 || n == 0x1680 ||
    (0x2000 ≤ n && n ≤ 0x200A) || n == 0x2028 || n == 0x2029 || n == 0x202F || n == 0x205F || n == 0x3000

/-- What is left of a list when the members with property `p` at both ends are taken away. -/
def strip (p : α → Bool) (l : List α) : List α :=
  ((l.dropWhile p).reverse.dropWhile p).reverse

def trim (s : String) : String := String.ofList (strip isBlank s.toList)

def isBlankText (s : String) : Bool := s.toList.all isBlank

theorem isBlank_of_isDigit {c : Char} (h : c.isDigit) : isBlank c = false := by
  have bounds : 48 ≤ c.toNat ∧ c.toNat ≤ 57 := by
    simpa [Char.isDigit,UInt32.le_iff_toNat_le] using h
  simp [isBlank]
  omega

theorem strip_of_kept {p : α → Bool} {l : List α} (kept : ∀ a ∈ l, p a = false) : strip p l = l := by
  have whole {l : List α} (kept : ∀ a ∈ l, p a = false) : l.dropWhile p = l := by
    cases l with
    | nil => rfl
    | cons a l => exact List.dropWhile_cons_of_neg (by simp [kept a List.mem_cons_self])
  rw [strip,whole kept,whole fun a member => kept a (List.mem_reverse.mp member),List.reverse_reverse]

theorem trim_of_kept {s : String} (kept : ∀ c ∈ s.toList, isBlank c = false) : trim s = s := by
  rw [trim,strip_of_kept kept,String.ofList_toList]

end PhoneSignIn.Text
