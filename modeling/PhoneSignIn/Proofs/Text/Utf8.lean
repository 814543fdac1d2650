import Mathlib.Tactic.SplitIfs
import PhoneSignIn.Text.Utf8

/-!
UTF-8 is read back. The octets of one character complete exactly that character, whatever follows them
(`pieces_char`); so the octets of a text are well formed and are read as that text (`decode_encode`). No other
octets are read as it (`decode_eq_some_iff`).
-/
namespace PhoneSignIn.Text.Utf8

variable {b owed least greatest bits : Nat} {rest : List UInt8}

/-- Every octet completes pieces and leaves a state that reads the others. -/
theorem pieces_octet (q : State) (o : UInt8) :
    piecesFrom q (o :: rest) = (q.step o.toNat).1 ++ piecesFrom (q.step o.toNat).2 rest := by
  cases q <;> rfl

/-- An octet that starts a character of several octets completes nothing. -/
theorem pieces_first (octet : b < 256) (starts : first b = ([],.within owed least greatest bits)) :
    piecesFrom .start (UInt8.ofNat b :: rest) = piecesFrom (.within owed least greatest bits) rest := by
  have same : (UInt8.ofNat b).toNat = b := by simpa using Nat.mod_eq_of_lt octet
  rw [pieces_octet,same,State.step,starts]
  rfl

/-- An octet inside a character adds six bits. -/
theorem pieces_next (low : least ≤ b) (high : b ≤ greatest) (octet : b < 256) (more : 1 < owed) :
    piecesFrom (.within owed least greatest bits) (UInt8.ofNat b :: rest) =
      piecesFrom (.within (owed - 1) 0x80 0xBF (bits * 64 + b % 64)) rest := by
  have same : (UInt8.ofNat b).toNat = b := by simpa using Nat.mod_eq_of_lt octet
  rw [pieces_octet,same,State.step,if_pos ⟨low,high⟩,if_neg (by omega)]
  rfl

/-- The last octet of a character completes it. -/
theorem pieces_last (low : least ≤ b) (high : b ≤ greatest) (octet : b < 256) :
    piecesFrom (.within 1 least greatest bits) (UInt8.ofNat b :: rest) =
      some (Char.ofNat (bits * 64 + b % 64)) :: piecesFrom .start rest := by
  have same : (UInt8.ofNat b).toNat = b := by simpa using Nat.mod_eq_of_lt octet
  rw [pieces_octet,same,State.step,if_pos ⟨low,high⟩,if_pos (by omega)]
  rfl

/-! ### Characters by the number of their octets -/

section
variable {v : Nat}

private theorem pieces_two (low : 0x80 ≤ v) (high : v ≤ 0x7FF) :
    piecesFrom .start (UInt8.ofNat (v / 64 % 32 + 192) :: UInt8.ofNat (v % 64 + 128) :: rest) =
      some (Char.ofNat v) :: piecesFrom .start rest := by
  have starts : first (v / 64 % 32 + 192) = ([],.within 1 0x80 0xBF (v / 64 % 32 + 192 - 0xC0)) := by
    rw [first,if_neg (by omega),if_pos (by omega)]
  have all : (v / 64 % 32 + 192 - 0xC0) * 64 + (v % 64 + 128) % 64 = v := by omega
  rw [pieces_first (by omega) starts,pieces_last (by omega) (by omega) (by omega),all]

/-- The first of three octets bounds the second one: no character of two octets, and no surrogate, can follow. -/
private theorem first_of_three (low : 0x800 ≤ v) (high : v ≤ 0xFFFF) (valid : v < 0xD800 ∨ 0xDFFF < v) :
    ∃ least greatest, first (v / 4096 % 16 + 224) = ([],.within 2 least greatest (v / 4096 % 16)) ∧
      least ≤ v / 64 % 64 + 128 ∧ v / 64 % 64 + 128 ≤ greatest := by
  by_cases least : v / 4096 % 16 = 0
  · refine ⟨0xA0,0xBF,?_,by omega,by omega⟩
    rw [least]
    rfl
  by_cases surrogates : v / 4096 % 16 = 13
  · refine ⟨0x80,0x9F,?_,by omega,by omega⟩
    rw [surrogates]
    rfl
  · refine ⟨0x80,0xBF,?_,by omega,by omega⟩
    rw [first,if_neg (by omega),if_neg (by omega),if_neg (by omega),if_neg (by omega),if_pos (by omega),
      Nat.add_sub_cancel]

/-- The first of four octets bounds the second one: no character of three octets, and nothing above the last
    character, can follow. -/
private theorem first_of_four (low : 0x10000 ≤ v) (high : v ≤ 0x10FFFF) :
    ∃ least greatest, first (v / 262144 % 8 + 240) = ([],.within 3 least greatest (v / 262144 % 8)) ∧
      least ≤ v / 4096 % 64 + 128 ∧ v / 4096 % 64 + 128 ≤ greatest := by
  by_cases least : v / 262144 % 8 = 0
  · refine ⟨0x90,0xBF,?_,by omega,by omega⟩
    rw [least]
    rfl
  by_cases last : v / 262144 % 8 = 4
  · refine ⟨0x80,0x8F,?_,by omega,by omega⟩
    rw [last]
    rfl
  · refine ⟨0x80,0xBF,?_,by omega,by omega⟩
    rw [first,if_neg (by omega),if_neg (by omega),if_neg (by omega),if_neg (by omega),if_neg (by omega),
      if_neg (by omega),if_pos (by omega),Nat.add_sub_cancel]

private theorem pieces_three (low : 0x800 ≤ v) (high : v ≤ 0xFFFF) (valid : v < 0xD800 ∨ 0xDFFF < v) :
    piecesFrom .start (UInt8.ofNat (v / 4096 % 16 + 224) :: UInt8.ofNat (v / 64 % 64 + 128) ::
      UInt8.ofNat (v % 64 + 128) :: rest) = some (Char.ofNat v) :: piecesFrom .start rest := by
  obtain ⟨least,greatest,starts,above,below⟩ := first_of_three low high valid
  have all : (v / 4096 % 16 * 64 + (v / 64 % 64 + 128) % 64) * 64 + (v % 64 + 128) % 64 = v := by omega
  rw [pieces_first (by omega) starts,pieces_next above below (by omega) (by omega),
    pieces_last (by omega) (by omega) (by omega),all]

private theorem pieces_four (low : 0x10000 ≤ v) (high : v ≤ 0x10FFFF) :
    piecesFrom .start (UInt8.ofNat (v / 262144 % 8 + 240) :: UInt8.ofNat (v / 4096 % 64 + 128) ::
      UInt8.ofNat (v / 64 % 64 + 128) :: UInt8.ofNat (v % 64 + 128) :: rest) =
        some (Char.ofNat v) :: piecesFrom .start rest := by
  obtain ⟨least,greatest,starts,above,below⟩ := first_of_four low high
  have all : ((v / 262144 % 8 * 64 + (v / 4096 % 64 + 128) % 64) * 64 + (v / 64 % 64 + 128) % 64) * 64 +
      (v % 64 + 128) % 64 = v := by omega
  rw [pieces_first (by omega) starts,pieces_next above below (by omega) (by omega),
    pieces_next (by omega) (by omega) (by omega) (by omega),pieces_last (by omega) (by omega) (by omega),all]

end

/-- The octets of a character complete that character, whatever follows them. -/
theorem pieces_char (c : Char) :
    piecesFrom .start (String.utf8EncodeChar c ++ rest) = some c :: piecesFrom .start rest := by
  have valid : c.val.toNat < 0xD800 ∨ 0xDFFF < c.val.toNat ∧ c.val.toNat < 0x110000 := c.valid
  have same : Char.ofNat c.val.toNat = c := Char.ofNat_toNat c
  suffices piecesFrom .start (String.utf8EncodeChar c ++ rest) =
      some (Char.ofNat c.val.toNat) :: piecesFrom .start rest by rwa [same] at this
  rw [String.utf8EncodeChar]
  generalize c.val.toNat = v at valid
  split_ifs with one two three
  · have octet : (UInt8.ofNat v).toNat = v := by simpa using Nat.mod_eq_of_lt (show v < 256 by omega)
    rw [List.singleton_append,pieces_octet,octet,State.step,first,if_pos one]
    rfl
  · exact pieces_two (by omega) two
  · exact pieces_three (by omega) three (by omega)
  · exact pieces_four (by omega) (by omega)

/-- The octets of characters are cut into these characters. -/
theorem pieces_chars (cs : List Char) : pieces (cs.flatMap String.utf8EncodeChar) = cs.map some := by
  induction cs with
  | nil => rfl
  | cons c cs ih =>
    rw [List.flatMap_cons,List.map_cons,← ih]
    exact pieces_char c

/-- A text is read back from its octets. -/
theorem decode_encode (s : String) : decode? (encode s) = some s := by
  have all : (s.toList.map some).mapM id = some s.toList := by
    rw [List.mapM_map]
    exact List.mapM_pure.trans (congrArg some (List.map_id _))
  rw [decode?,encode,pieces_chars,all,Option.map_some,String.ofList_toList]

/-- A text whose octets are read with replacements is read back without any. -/
theorem decodeLossy_encode (s : String) : decodeLossy (encode s) = s := by
  rw [decodeLossy,encode,pieces_chars,List.map_map]
  exact (congrArg String.ofList (List.map_id s.toList)).trans String.ofList_toList

/-! ### Only the octets of a text are read as it -/

section
variable {v : Nat} {bs : List UInt8} {cs : List Char}

/-- What the first octet of a piece says of the others. -/
private inductive Starts (b : Nat) : List (Option Char) × State → Prop where
  | one (small : b ≤ 0x7F) : Starts b ([some (Char.ofNat b)],.start)
  | two (low : 0xC2 ≤ b) (high : b ≤ 0xDF) : Starts b ([],.within 1 0x80 0xBF (b - 0xC0))
  | three {least greatest : Nat} (low : 0xE0 ≤ b) (high : b ≤ 0xEF) (above : 0x80 ≤ least) (below : greatest ≤ 0xBF)
    (noTwo : b = 0xE0 → 0xA0 ≤ least) (noSurrogate : b = 0xED → greatest ≤ 0x9F) :
    Starts b ([],.within 2 least greatest (b - 0xE0))
  | four {least greatest : Nat} (low : 0xF0 ≤ b) (high : b ≤ 0xF4) (above : 0x80 ≤ least) (below : greatest ≤ 0xBF)
    (noThree : b = 0xF0 → 0x90 ≤ least) (noMore : b = 0xF4 → greatest ≤ 0x8F) :
    Starts b ([],.within 3 least greatest (b - 0xF0))
  | illFormed : Starts b ([none],.start)

private theorem first_starts (b : Nat) : Starts b (first b) := by
  rw [first]
  split_ifs with one two e0 ed three f0 four f4
  · exact .one one
  · exact .two two.1 two.2
  · subst e0
    exact .three (by omega) (by omega) (by omega) (by omega) (by omega) (by omega)
  · subst ed
    exact .three (by omega) (by omega) (by omega) (by omega) (by omega) (by omega)
  · exact .three (by omega) (by omega) (by omega) (by omega) (by omega) (by omega)
  · subst f0
    exact .four (by omega) (by omega) (by omega) (by omega) (by omega) (by omega)
  · exact .four (by omega) (by omega) (by omega) (by omega) (by omega) (by omega)
  · subst f4
    exact .four (by omega) (by omega) (by omega) (by omega) (by omega) (by omega)
  · exact .illFormed

/-- Inside a character that is completed there is a further octet within its bounds. -/
private theorem within_octet (whole : piecesFrom (.within owed least greatest bits) bs = cs.map some) :
    ∃ o r, bs = o :: r ∧ least ≤ o.toNat ∧ o.toNat ≤ greatest ∧
      ((State.within owed least greatest bits).step o.toNat).1 ++
        piecesFrom ((State.within owed least greatest bits).step o.toNat).2 r = cs.map some := by
  cases bs with
  | nil => cases cs <;> simp [piecesFrom] at whole
  | cons o r =>
    rw [pieces_octet] at whole
    by_cases inside : least ≤ o.toNat ∧ o.toNat ≤ greatest
    · exact ⟨o,r,rfl,inside.1,inside.2,whole⟩
    · rw [State.step,if_neg inside] at whole
      cases cs <;> simp at whole

private theorem within_more (whole : piecesFrom (.within owed least greatest bits) bs = cs.map some) (more : 1 < owed) :
    ∃ o r, bs = o :: r ∧ least ≤ o.toNat ∧ o.toNat ≤ greatest ∧
      piecesFrom (.within (owed - 1) 0x80 0xBF (bits * 64 + o.toNat % 64)) r = cs.map some := by
  obtain ⟨o,r,rfl,low,high,later⟩ := within_octet whole
  rw [State.step,if_pos ⟨low,high⟩,if_neg (by omega)] at later
  exact ⟨o,r,rfl,low,high,later⟩

private theorem within_last (whole : piecesFrom (.within 1 least greatest bits) bs = cs.map some) :
    ∃ o r cs', bs = o :: r ∧ least ≤ o.toNat ∧ o.toNat ≤ greatest ∧
      cs = Char.ofNat (bits * 64 + o.toNat % 64) :: cs' ∧ piecesFrom .start r = cs'.map some := by
  obtain ⟨o,r,rfl,low,high,later⟩ := within_octet whole
  rw [State.step,if_pos ⟨low,high⟩,if_pos (by omega)] at later
  cases cs with
  | nil => cases later
  | cons c cs' =>
    obtain ⟨same,rest⟩ := List.cons.inj later
    exact ⟨o,r,cs',rfl,low,high,by rw [Option.some.inj same],rest⟩

private theorem encode_ofNat (valid : v.isValidChar) : String.utf8EncodeChar (Char.ofNat v) =
    if v ≤ 127 then [UInt8.ofNat v]
    else if v ≤ 2047 then [UInt8.ofNat (v / 64 % 32 + 192),UInt8.ofNat (v % 64 + 128)]
    else if v ≤ 65535 then
      [UInt8.ofNat (v / 4096 % 16 + 224),UInt8.ofNat (v / 64 % 64 + 128),UInt8.ofNat (v % 64 + 128)]
    else [UInt8.ofNat (v / 262144 % 8 + 240),UInt8.ofNat (v / 4096 % 64 + 128),UInt8.ofNat (v / 64 % 64 + 128),
      UInt8.ofNat (v % 64 + 128)] := by
  have number : (Char.ofNat v).val.toNat = v := by
    rw [Char.ofNat,dif_pos valid]
    rfl
  rw [String.utf8EncodeChar,number]

private theorem octet_eq {o : UInt8} (same : b = o.toNat) : UInt8.ofNat b = o := by
  rw [same,UInt8.ofNat_toNat]

/-- Octets that are cut into characters only are the octets of these characters. -/
private theorem octets_of_chars {bs : List UInt8} {cs : List Char} (whole : piecesFrom .start bs = cs.map some) :
    bs = cs.flatMap String.utf8EncodeChar := by
  match bs with
  | [] =>
    cases cs with
    | nil => rfl
    | cons c cs => cases whole
  | o :: r =>
    rw [pieces_octet,State.step] at whole
    have starts := first_starts o.toNat
    generalize first o.toNat = next at starts whole
    cases starts with
    | one small =>
      obtain ⟨c,cs,rfl⟩ : ∃ c cs', cs = c :: cs' := List.exists_cons_of_ne_nil (by rintro rfl; cases whole)
      obtain ⟨same,later⟩ := List.cons.inj whole
      rw [List.flatMap_cons,← octets_of_chars later,← Option.some.inj same,encode_ofNat (.inl (by omega)),if_pos small,
        UInt8.ofNat_toNat]
      rfl
    | two low high =>
      obtain ⟨o₁,r,cs,rfl,low₁,high₁,rfl,later⟩ := within_last whole
      rw [List.flatMap_cons,← octets_of_chars later,encode_ofNat (.inl (by omega)),if_neg (by omega),if_pos (by omega),
        octet_eq (o := o) (by omega),octet_eq (o := o₁) (by omega)]
      rfl
    | three low high above below noTwo noSurrogate =>
      obtain ⟨o₁,r,rfl,low₁,high₁,next⟩ := within_more whole (by omega)
      obtain ⟨o₂,r,cs,rfl,low₂,high₂,rfl,later⟩ := within_last next
      rw [List.flatMap_cons,← octets_of_chars later,encode_ofNat (by omega),if_neg (by omega),
        if_neg (by omega),if_pos (by omega),octet_eq (o := o) (by omega),octet_eq (o := o₁) (by omega),
        octet_eq (o := o₂) (by omega)]
      rfl
    | four low high above below noThree noMore =>
      obtain ⟨o₁,r,rfl,low₁,high₁,next⟩ := within_more whole (by omega)
      obtain ⟨o₂,r,rfl,low₂,high₂,last⟩ := within_more next (by omega)
      obtain ⟨o₃,r,cs,rfl,low₃,high₃,rfl,later⟩ := within_last last
      rw [List.flatMap_cons,← octets_of_chars later,encode_ofNat (.inr (by omega)),if_neg (by omega),
        if_neg (by omega),if_neg (by omega),octet_eq (o := o) (by omega),octet_eq (o := o₁) (by omega),
        octet_eq (o := o₂) (by omega),octet_eq (o := o₃) (by omega)]
      rfl
    | illFormed => cases cs <;> cases whole
termination_by bs.length

/-- Pieces that are all characters are these characters. -/
private theorem chars_of_pieces {ps : List (Option Char)} {cs : List Char} (all : ps.mapM id = some cs) :
    ps = cs.map some := by
  induction ps generalizing cs with
  | nil =>
    cases all
    rfl
  | cons p ps ih =>
    simp only [List.mapM_cons,id_eq,Option.bind_eq_bind,Option.bind_eq_some_iff,Option.pure_def,
      Option.some.injEq] at all
    obtain ⟨c,rfl,cs,later,rfl⟩ := all
    rw [List.map_cons,ih later]

/-- Octets are read as a text if and only if they are its octets. -/
theorem decode_eq_some_iff {s : String} : decode? bs = some s ↔ bs = encode s := by
  constructor
  · intro read
    obtain ⟨cs,whole,rfl⟩ := Option.map_eq_some_iff.mp read
    rw [encode,String.toList_ofList]
    exact octets_of_chars (chars_of_pieces whole)
  · rintro rfl
    exact decode_encode s

end

end PhoneSignIn.Text.Utf8
