import PhoneSignIn.Json.Value

/-!
The tokens of a JSON text. `Token.scan?` reads the longest token a text starts with, and `tokens?` reads a whole text,
in which white space may stand before, between and after tokens.
-/
namespace PhoneSignIn.Json
open PhoneSignIn.Text

/-! ## Strings -/

/-- A part of a string literal: a character, or the number of a `\u` escape. -/
inductive Piece where
  | char (c : Char)
  | unit (n : Nat)
deriving DecidableEq

def isHighSurrogate (n : Nat) : Bool := 0xD800 ≤ n && n < 0xDC00

def isLowSurrogate (n : Nat) : Bool := 0xDC00 ≤ n && n < 0xE000

def pairChar (high low : Nat) : Char := Char.ofNat (0x10000 + (high - 0xD800) * 0x400 + (low - 0xDC00))

/-- The text of the parts of a literal. Two escapes that form a surrogate pair are one character; a surrogate outside a
    pair stands for no text. -/
def Piece.join : List Piece → Option (List Char)
  | [] => some []
  | .char c :: r => (join r).map (c :: ·)
  | .unit h :: .unit l :: r =>
    if isHighSurrogate h then
      if isLowSurrogate l then (join r).map (pairChar h l :: ·) else none
    else if isLowSurrogate h then none
    else (join (.unit l :: r)).map (Char.ofNat h :: ·)
  | .unit n :: r =>
    if isHighSurrogate n || isLowSurrogate n then none else (join r).map (Char.ofNat n :: ·)

def unescape? : Char → Option Char
  | '"' => some '"'
  | '\\' => some '\\'
  | '/' => some '/'
  | 'b' => some '\x08'
  | 'f' => some '\x0c'
  | 'n' => some '\n'
  | 'r' => some '\r'
  | 't' => some '\t'
  | _ => none

def hexUnit? (a b c d : Char) : Option Nat := do
  let a ← Hex.value? a
  let b ← Hex.value? b
  let c ← Hex.value? c
  let d ← Hex.value? d
  return ((a * 16 + b) * 16 + c) * 16 + d

/-- The rest of a string literal after its opening quotation mark: its parts, and the text after its closing one.
    Control characters must be escaped. -/
def scanPieces? : List Char → Option (List Piece × List Char)
  | [] => none
  | '"' :: r => some ([],r)
  | '\\' :: 'u' :: a :: b :: c :: d :: r => do
    let n ← hexUnit? a b c d
    let (ps,rest) ← scanPieces? r
    return (.unit n :: ps,rest)
  | '\\' :: e :: r => do
    let c ← unescape? e
    let (ps,rest) ← scanPieces? r
    return (.char c :: ps,rest)
  | c :: r =>
    if c.toNat < 32 ∨ c = '\\' then none
    else do
      let (ps,rest) ← scanPieces? r
      return (.char c :: ps,rest)

/-! ## Numbers -/

def spanDigits (cs : List Char) : List Char × List Char :=
  (cs.takeWhile Char.isDigit,cs.dropWhile Char.isDigit)

/-- One or more digits after the characters `lead`, which are kept with them. -/
def digitsAfter? (lead cs : List Char) : Option (List Char × List Char) :=
  match spanDigits cs with
  | ([],_) => none
  | (ds,rest) => some (lead ++ ds,rest)

def scanFraction? : List Char → Option (List Char × List Char)
  | '.' :: r => digitsAfter? ['.'] r
  | cs => some ([],cs)

def scanExponent? : List Char → Option (List Char × List Char)
  | c :: r =>
    if c = 'e' ∨ c = 'E' then
      match r with
      | '+' :: r' => digitsAfter? [c,'+'] r'
      | '-' :: r' => digitsAfter? [c,'-'] r'
      | _ => digitsAfter? [c] r
    else some ([],c :: r)
  | [] => some ([],[])

def scanWhole? : List Char → Option (Nat × List Char)
  | '0' :: r => some (0,r)
  | cs =>
    match spanDigits cs with
    | ([],_) => none
    | (ds,rest) => some (Decimal.value ds,rest)

def scanNumber? (negative : Bool) (cs : List Char) : Option (Token × List Char) := do
  let (whole,rest) ← scanWhole? cs
  let (fraction,rest) ← scanFraction? rest
  let (exponent,rest) ← scanExponent? rest
  return (.number ⟨negative,whole,String.ofList (fraction ++ exponent)⟩,rest)

/-! ## Tokens -/

def Token.scan? : List Char → Option (Token × List Char)
  | '\x7b' :: r => some (.openObject,r)
  | '\x7d' :: r => some (.closeObject,r)
  | '[' :: r => some (.openArray,r)
  | ']' :: r => some (.closeArray,r)
  | ':' :: r => some (.colon,r)
  | ',' :: r => some (.comma,r)
  | 'n' :: 'u' :: 'l' :: 'l' :: r => some (.null,r)
  | 't' :: 'r' :: 'u' :: 'e' :: r => some (.bool true,r)
  | 'f' :: 'a' :: 'l' :: 's' :: 'e' :: r => some (.bool false,r)
  | '"' :: r => (scanPieces? r).map fun (ps,rest) => (.string ((Piece.join ps).map String.ofList),rest)
  | '-' :: r => scanNumber? true r
  | cs => scanNumber? false cs

/-! ### Each token takes at least one character -/

private theorem scanPieces?_length (cs : List Char) : ∀ {ps rest}, scanPieces? cs = some (ps,rest) →
    rest.length < cs.length := by
  fun_induction scanPieces? cs with
  | case1 => simp
  | case2 r => simp_all
  | case3 a b c d r ih | case4 e r _ ih | case6 c r _ _ _ _ ih =>
    intro ps rest h
    simp only [Option.bind_eq_bind,Option.bind_eq_some_iff,Option.pure_def,Option.some.injEq] at h
    grind
  | case5 => simp

private theorem dropWhile_length (p : α → Bool) (l : List α) : (l.dropWhile p).length ≤ l.length :=
  (List.dropWhile_sublist p).length_le

private theorem digitsAfter?_length {lead cs ds rest : List Char} (h : digitsAfter? lead cs = some (ds,rest)) :
    rest.length ≤ cs.length := by
  have := dropWhile_length Char.isDigit cs
  grind [digitsAfter?,spanDigits]

private theorem scanFraction?_length {cs ds rest : List Char} (h : scanFraction? cs = some (ds,rest)) :
    rest.length ≤ cs.length := by
  unfold scanFraction? at h
  split at h
  · have := digitsAfter?_length h
    grind
  · grind

private theorem scanExponent?_length {cs ds rest : List Char} (h : scanExponent? cs = some (ds,rest)) :
    rest.length ≤ cs.length := by
  unfold scanExponent? at h
  split at h
  · split at h
    · split at h <;> (have hl := digitsAfter?_length h; grind)
    · grind
  · grind

private theorem scanWhole?_length {cs rest : List Char} {n : Nat} (h : scanWhole? cs = some (n,rest)) :
    rest.length < cs.length := by
  unfold scanWhole? at h
  split at h
  · grind
  · cases cs with
    | nil => simp [spanDigits] at h
    | cons c r =>
      have := dropWhile_length Char.isDigit r
      by_cases hc : c.isDigit <;> simp [spanDigits,hc] at h
      obtain ⟨-,rfl⟩ := h
      simp; omega

private theorem scanNumber?_length {b : Bool} {cs rest : List Char} {t : Token}
    (h : scanNumber? b cs = some (t,rest)) : rest.length < cs.length := by
  simp only [scanNumber?,Option.bind_eq_bind,Option.bind_eq_some_iff,Option.pure_def] at h
  obtain ⟨⟨n,r₁⟩,h₁,⟨ds,r₂⟩,h₂,⟨es,r₃⟩,h₃,h⟩ := h
  have := scanWhole?_length h₁
  have := scanFraction?_length h₂
  have := scanExponent?_length h₃
  grind

theorem Token.scan?_length {cs rest : List Char} {t : Token} (h : Token.scan? cs = some (t,rest)) :
    rest.length < cs.length := by
  unfold Token.scan? at h
  split at h
  case h_10 r =>
    simp only [Option.map_eq_some_iff] at h
    obtain ⟨⟨ps,rest'⟩,hp,h⟩ := h
    have := scanPieces?_length r hp
    grind
  case h_11 r => have := scanNumber?_length h; grind
  case h_12 => exact scanNumber?_length h
  all_goals grind

/-- White space between tokens: space, tab, line feed and carriage return. -/
def isSpace (c : Char) : Bool := c == ' ' || c == '\t' || c == '\n' || c == '\r'

def tokens? (cs : List Char) : Option (List Token) :=
  match cs with
  | [] => some []
  | c :: r =>
    if isSpace c then tokens? r
    else
      match _h : Token.scan? (c :: r) with
      | none => none
      | some (t,rest) => (tokens? rest).map (t :: ·)
termination_by cs.length
decreasing_by
  · simp
  · exact Token.scan?_length _h

end PhoneSignIn.Json
