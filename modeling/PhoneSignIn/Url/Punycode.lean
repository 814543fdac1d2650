/-!
Punycode: a label of any characters in letters and digits. The ASCII characters come first, then a hyphen; after it the
others are inserted, in the order of their code points, each as a number that counts the places passed since the last
one.
-/
namespace PhoneSignIn.Url.Punycode

/-- The digit of a number below 36: the letters, then the decimal digits. -/
def digit (n : Nat) : Char := Char.ofNat (if n < 26 then 97 + n else 22 + n)

def value? (c : Char) : Option Nat :=
  if 'a' ≤ c ∧ c ≤ 'z' then some (c.toNat - 97)
  else if 'A' ≤ c ∧ c ≤ 'Z' then some (c.toNat - 65)
  else if c.isDigit then some (c.toNat - 22)
  else none

def threshold (place bias : Nat) : Nat :=
  if place ≤ bias then 1 else min 26 (place - bias)

theorem threshold_pos (place bias : Nat) : 1 ≤ threshold place bias := by
  unfold threshold
  split <;> omega

/-- Halve a delta, as it were, until it is small: the places passed are counted in `place`. -/
def scale (delta place : Nat) : Nat :=
  if delta ≤ 455 then place + 36 * delta / (delta + 38) else scale (delta / 35) (place + 36)
termination_by delta

def adapt (delta count : Nat) (first : Bool) : Nat :=
  let delta := if first then delta / 700 else delta / 2
  scale (delta + delta / count) 0

def digits (bias place q : Nat) : List Char :=
  let t := threshold place bias
  if q < t then [digit q]
  else digit (t + (q - t) % (36 - t)) :: digits bias (place + 36) ((q - t) / (36 - t))
termination_by q
decreasing_by
  have hp := threshold_pos place bias
  have := Nat.div_le_self (q - threshold place bias) (36 - threshold place bias)
  omega

/-- Where the writer stands: the delta so far, the bias, how many characters are written and whether a delta has been
    written. -/
structure Writer where
  delta : Nat := 0
  bias : Nat := 72
  count : Nat
  first : Bool := true

/-- Pass the characters of the label while those with code point `n` are written. -/
def passFor (n : Nat) : Writer → List Nat → Writer × List Char
  | w, [] => (w,[])
  | w, c :: r =>
    if c < n then passFor n { w with delta := w.delta + 1 } r
    else if c = n then
      let out := digits w.bias 36 w.delta
      let bias := adapt w.delta (w.count + 1) w.first
      let (w,rest) := passFor n { delta := 0, bias, count := w.count + 1, first := false } r
      (w,out ++ rest)
    else passFor n w r

def writePoints (label : List Nat) : Writer → Nat → List Nat → List Char
  | _, _, [] => []
  | w, last, n :: points =>
    let w := { w with delta := w.delta + (n - last) * (w.count + 1) }
    let (w,out) := passFor n w label
    out ++ writePoints label { w with delta := w.delta + 1 } (n + 1) points

def encode (label : List Char) : List Char :=
  let basic := label.filter (·.toNat < 0x80)
  let points := ((label.map Char.toNat).filter (0x80 ≤ ·)).eraseDups.mergeSort
  let start := if basic = [] then [] else basic ++ ['-']
  start ++ writePoints (label.map Char.toNat) { count := basic.length } 0x80 points

/-! ## Reading -/

def number? (bias place weight sum : Nat) : List Char → Option (Nat × List Char)
  | [] => none
  | c :: r => do
    let d ← value? c
    let sum := sum + d * weight
    let t := threshold place bias
    if d < t then some (sum,r) else number? bias (place + 36) (weight * (36 - t)) sum r

theorem number?_length {bias place weight sum n : Nat} {cs r : List Char}
    (h : number? bias place weight sum cs = some (n,r)) : r.length < cs.length := by
  induction cs generalizing place weight sum with
  | nil => simp [number?] at h
  | cons c cs ih =>
    simp only [number?,Option.bind_eq_bind,Option.bind_eq_some_iff] at h
    obtain ⟨d,-,h⟩ := h
    split at h
    · simp_all
    · have := ih h
      simp only [List.length_cons]
      omega

/-- Insert the characters that digits stand for into `label`, from place `i` and code point `n` on. -/
def insertAll (label : List Char) (n i bias : Nat) (first : Bool) (cs : List Char) : Option (List Char) :=
  match cs with
  | [] => some label
  | c :: r =>
    match h : number? bias 36 1 0 (c :: r) with
    | none => none
    | some (delta,rest) =>
      let count := label.length + 1
      let n := n + (i + delta) / count
      let i := (i + delta) % count
      if n.isValidChar then
        insertAll (label.insertIdx i (Char.ofNat n)) n (i + 1) (adapt delta count first) false rest
      else none
termination_by cs.length
decreasing_by exact number?_length h

def decode? (cs : List Char) : Option (List Char) :=
  let (tail,head) := (cs.reverse.takeWhile (· ≠ '-'),cs.reverse.dropWhile (· ≠ '-'))
  insertAll (head.drop 1).reverse 0x80 0 72 true tail.reverse

end PhoneSignIn.Url.Punycode
