import Mathlib.Data.List.Chain
import Mathlib.Data.List.Forall2
import PhoneSignIn.Json.Lexer

/-!
The tokens that are written are the tokens that are read. A character of a string is written as one part
of a literal that means it (`Piece.Means`), and a whole number is written without leading zeros, so each
token is read back when what follows cannot belong to it (`Token.scan_text`). In a row of tokens only a
number can be followed by what belongs to it; a row in which numbers are followed by separators is read
back as it is (`tokens_text`). White space around a text changes none of its tokens (`tokens_surrounded`).
-/
namespace PhoneSignIn.Text

theorem Hex.value_lower_mod (n : Nat) : Hex.value? (Hex.lower (n % 16)) = some (n % 16) :=
  Hex.value?_lower (n % 16) (Nat.mod_lt _ (by decide))

namespace Decimal

theorem isDigit_digit : ∀ n < 10, (digit n).isDigit = true := by decide

theorem digit_ne_zero : ∀ n < 10, n ≠ 0 → digit n ≠ '0' := by decide

/-- All that a number is written with are digits. -/
theorem isDigit_of_digits {n : Nat} {c : Char} (member : c ∈ digits n) : c.isDigit = true := by
  induction n using digits.induct with
  | case1 n small =>
    rw [digits,if_pos small] at member
    rw [List.mem_singleton.mp member]
    exact isDigit_digit n small
  | case2 n large ih =>
    rw [digits,if_neg large] at member
    rcases List.mem_append.mp member with before | last
    · exact ih before
    · rw [List.mem_singleton.mp last]
      exact isDigit_digit _ (Nat.mod_lt _ (by decide))

/-- A number is written with one digit at least, and only zero with a leading zero. -/
theorem digits_head (n : Nat) : ∃ d ds, digits n = d :: ds ∧ (n ≠ 0 → d ≠ '0') := by
  induction n using digits.induct with
  | case1 n small =>
    rw [digits,if_pos small]
    exact ⟨_,[],rfl,digit_ne_zero n small⟩
  | case2 n large ih =>
    obtain ⟨d,ds,written,nonzero⟩ := ih
    rw [digits,if_neg large,written]
    exact ⟨d,_,rfl,fun _ => nonzero (by omega)⟩

end Decimal

end PhoneSignIn.Text

namespace PhoneSignIn.Json
open PhoneSignIn.Text

/-! ### Strings -/

/-- The parts of a literal that a character is written as: itself, or the number of a control character. -/
inductive Piece.Means : Piece → Char → Prop where
  | char (c : Char) : Means (.char c) c
  | unit {c : Char} (control : c.toNat < 32) : Means (.unit c.toNat) c

/-- Parts that mean characters are joined to these. -/
theorem Piece.join_of_means {ps : List Piece} {cs : List Char} (means : List.Forall₂ Means ps cs) :
    join ps = some cs := by
  induction means with
  | nil => rfl
  | @cons p c ps cs first rest ih =>
    cases first with
    | char => simp [join,ih]
    | unit control =>
      have notHigh : isHighSurrogate c.toNat = false := by simp [isHighSurrogate]; omega
      have notLow : isLowSurrogate c.toNat = false := by simp [isLowSurrogate]; omega
      cases rest with
      | nil => simp [join,notHigh,notLow]
      | @cons p' c' ps cs next rest =>
        cases next with
        | char => simpa [join,notHigh,notLow] using ih
        | unit => simp [join,notHigh,notLow,ih]

/-- Four digits of a number below 65536 stand for that number. -/
theorem hexUnit_padded {n : Nat} (bound : n < 65536) (r : List Char) :
    ∃ a b c d, Hex.padded 4 n ++ r = a :: b :: c :: d :: r ∧ hexUnit? a b c d = some n := by
  refine ⟨_,_,_,_,by simp only [Hex.padded]; rfl,?_⟩
  simp only [hexUnit?,Hex.value_lower_mod,Option.bind_eq_bind,Option.bind_some,Option.pure_def,Option.some.injEq]
  omega

/-- The parts of a literal with one more before them. -/
def consPiece (p : Piece) : List Piece × List Char → List Piece × List Char := Prod.map (p :: ·) id

/-- A character that needs no escape is read as itself. -/
theorem scanPieces_char {c : Char} (printed : ¬c.toNat < 32) (noQuote : c ≠ '"') (noBackslash : c ≠ '\\') (r : List Char) :
    scanPieces? (c :: r) = (scanPieces? r).map (consPiece (.char c)) := by
  rw [scanPieces?.eq_def]
  split
  · simp_all
  · simp_all
  · simp_all
  · simp_all
  · rename_i same
    obtain ⟨rfl,rfl⟩ := List.cons.inj same
    rw [if_neg (by simp [printed,noBackslash]),Option.map_eq_bind]
    rfl

/-- A short escape is read as its character. -/
theorem scanPieces_short {e c : Char} (short : unescape? e = some c) (noUnit : e ≠ 'u') (r : List Char) :
    scanPieces? ('\\' :: e :: r) = (scanPieces? r).map (consPiece (.char c)) := by
  rw [scanPieces?.eq_def]
  split
  · simp_all
  · simp_all
  · simp_all
  · rename_i same
    obtain ⟨-,same⟩ := List.cons.inj same
    obtain ⟨rfl,rfl⟩ := List.cons.inj same
    rw [short,Option.map_eq_bind]
    rfl
  · rename_i noEscape same
    obtain ⟨rfl,rfl⟩ := List.cons.inj same
    exact absurd rfl (noEscape _ _ rfl)

/-- A numbered escape is read as its number. -/
theorem scanPieces_unit {n : Nat} (bound : n < 65536) (r : List Char) :
    scanPieces? ('\\' :: 'u' :: (Hex.padded 4 n ++ r)) = (scanPieces? r).map (consPiece (.unit n)) := by
  obtain ⟨a,b,c,d,written,number⟩ := hexUnit_padded bound r
  rw [written,scanPieces?,number,Option.map_eq_bind]
  rfl

/-- A character that is written is read as one part, which means it. -/
theorem scanPieces_escape (c : Char) (r : List Char) :
    ∃ p, p.Means c ∧ scanPieces? (escape c ++ r) = (scanPieces? r).map (consPiece p) := by
  unfold escape
  split
  · exact ⟨_,.char _,scanPieces_short rfl (by decide) r⟩
  · exact ⟨_,.char _,scanPieces_short rfl (by decide) r⟩
  · exact ⟨_,.char _,scanPieces_short rfl (by decide) r⟩
  · exact ⟨_,.char _,scanPieces_short rfl (by decide) r⟩
  · exact ⟨_,.char _,scanPieces_short rfl (by decide) r⟩
  · exact ⟨_,.char _,scanPieces_short rfl (by decide) r⟩
  · exact ⟨_,.char _,scanPieces_short rfl (by decide) r⟩
  · rename_i noQuote noBackslash _ _ _ _ _
    split
    · rename_i control
      exact ⟨_,.unit control,scanPieces_unit (by omega) r⟩
    · rename_i printed
      exact ⟨_,.char c,scanPieces_char printed noQuote noBackslash r⟩

/-- The characters of a string are read up to the closing quotation mark, as parts that mean them. -/
theorem scanPieces_escaped (cs rest : List Char) : ∃ ps, List.Forall₂ Piece.Means ps cs ∧
    scanPieces? (cs.flatMap escape ++ '"' :: rest) = some (ps,rest) := by
  induction cs with
  | nil => exact ⟨[],.nil,by simp [scanPieces?]⟩
  | cons c cs ih =>
    obtain ⟨ps,means,scanned⟩ := ih
    obtain ⟨p,first,scans⟩ := scanPieces_escape c (cs.flatMap escape ++ '"' :: rest)
    refine ⟨p :: ps,.cons first means,?_⟩
    rw [List.flatMap_cons,List.append_assoc,scans,scanned]
    rfl

/-- A string that is written is read back. -/
theorem scan_quote (s : String) (rest : List Char) :
    Token.scan? (quote s ++ rest) = some (.string (some s),rest) := by
  obtain ⟨ps,means,scanned⟩ := scanPieces_escaped s.toList rest
  simp [quote,Token.scan?,scanned,Piece.join_of_means means]

/-! ### Numbers -/

/-- Whether a text does not go on with what belongs to a number. -/
def EndsNumber (rest : List Char) : Prop :=
  ∀ c ∈ rest.head?, c.isDigit = false ∧ c ≠ '.' ∧ c ≠ 'e' ∧ c ≠ 'E'

theorem spanDigits_digits (n : Nat) {rest : List Char} (ends : EndsNumber rest) :
    spanDigits (Decimal.digits n ++ rest) = (Decimal.digits n,rest) := by
  have all : ∀ c ∈ Decimal.digits n, c.isDigit = true := fun c member => Decimal.isDigit_of_digits member
  rw [spanDigits,List.takeWhile_append_of_pos all,List.dropWhile_append_of_pos all]
  cases rest with
  | nil => simp
  | cons c rest =>
    have stops := (ends c rfl).1
    simp [stops]

theorem scanWhole_digits (n : Nat) {rest : List Char} (ends : EndsNumber rest) :
    scanWhole? (Decimal.digits n ++ rest) = some (n,rest) := by
  by_cases zero : n = 0
  · subst zero
    rw [Decimal.digits]
    rfl
  · obtain ⟨d,ds,written,nonzero⟩ := Decimal.digits_head n
    have span := spanDigits_digits n ends
    have value := Decimal.value_digits n
    rw [written] at span value ⊢
    rw [List.cons_append] at span ⊢
    simp [scanWhole?,nonzero zero,span,value]

theorem scanFraction_none {rest : List Char} (ends : EndsNumber rest) : scanFraction? rest = some ([],rest) := by
  cases rest with
  | nil => rfl
  | cons c rest =>
    have noPoint := (ends c rfl).2.1
    simp [scanFraction?,noPoint]

theorem scanExponent_none {rest : List Char} (ends : EndsNumber rest) : scanExponent? rest = some ([],rest) := by
  cases rest with
  | nil => rfl
  | cons c rest =>
    obtain ⟨-,-,small,capital⟩ := ends c rfl
    simp [scanExponent?,small,capital]

theorem scanNumber_digits (negative : Bool) (n : Nat) {rest : List Char} (ends : EndsNumber rest) :
    scanNumber? negative (Decimal.digits n ++ rest) = some (.number ⟨negative,n,""⟩,rest) := by
  simp [scanNumber?,scanWhole_digits n ends,scanFraction_none ends,scanExponent_none ends]

/-! ### Tokens -/

/-- Whether a token is written in the one way that it is read: a number is whole. -/
def Token.Whole : Token → Prop
  | .number n => n.rest = ""
  | _ => True

def Token.isNumber : Token → Bool
  | .number _ => true
  | _ => false

/-- A text that begins with a digit begins with a number. -/
theorem Token.scan_digit {d : Char} (digit : d.isDigit = true) (r : List Char) :
    scan? (d :: r) = scanNumber? false (d :: r) := by
  unfold scan?
  split <;> simp_all

/-- A token that is written is read back, when a number is followed by what does not belong to it. -/
theorem Token.scan_text {t : Token} (whole : t.Whole) {rest : List Char} (ends : t.isNumber = true → EndsNumber rest) :
    scan? (t.text ++ rest) = some (t,rest) := by
  cases t with
  | bool b => cases b <;> rfl
  | string literal =>
    cases literal with
    | some s => exact scan_quote s rest
    | none => rfl
  | number n =>
    obtain ⟨negative,value,fraction⟩ := n
    obtain rfl : fraction = "" := whole
    cases negative with
    | true => simpa [text,Numeral.text,scan?] using scanNumber_digits true value (ends rfl)
    | false =>
      obtain ⟨d,ds,written,-⟩ := Decimal.digits_head value
      have digit : d.isDigit = true := Decimal.isDigit_of_digits (written ▸ List.mem_cons_self)
      have scanned := scanNumber_digits false value (ends rfl)
      rw [written,List.cons_append] at scanned
      simp [text,Numeral.text,written,scan_digit digit,scanned]
  | _ => rfl

/-- Whether a token can stand right after a number. -/
def Token.separates : Token → Bool
  | .comma | .closeArray | .closeObject => true
  | _ => false

/-- Whether the first token of a row may stand right before the second. -/
def Token.Precedes (t next : Token) : Prop := t.isNumber = true → next.separates = true

theorem isSpace_of_isDigit {c : Char} (digit : c.isDigit = true) : isSpace c = false := by
  simp only [isSpace,Bool.or_eq_false_iff,beq_eq_false_iff_ne]
  refine ⟨⟨⟨?_,?_⟩,?_⟩,?_⟩ <;> rintro rfl <;> cases digit

/-- No token begins with white space. -/
theorem Token.text_head (t : Token) : ∃ c cs, t.text = c :: cs ∧ isSpace c = false := by
  cases t with
  | bool b => cases b <;> exact ⟨_,_,rfl,rfl⟩
  | string literal => cases literal <;> exact ⟨_,_,rfl,rfl⟩
  | number n =>
    obtain ⟨negative,value,fraction⟩ := n
    cases negative with
    | true => exact ⟨_,_,rfl,rfl⟩
    | false =>
      obtain ⟨d,ds,written,-⟩ := Decimal.digits_head value
      have digit : d.isDigit = true := Decimal.isDigit_of_digits (written ▸ List.mem_cons_self)
      exact ⟨d,_,by simp only [text,Numeral.text,written]; rfl,isSpace_of_isDigit digit⟩
  | _ => exact ⟨_,_,rfl,rfl⟩

/-- A separator ends a number. -/
theorem Token.separates_ends {t : Token} (separates : t.separates = true) (rest : List Char) :
    EndsNumber (t.text ++ rest) := by
  cases t <;> simp_all [Token.separates,EndsNumber,Token.text]

/-- A text that begins with a token has that token and those of the rest. -/
theorem tokens_scanned {c : Char} {r rest : List Char} {t : Token} (solid : isSpace c = false)
    (scanned : Token.scan? (c :: r) = some (t,rest)) : tokens? (c :: r) = (tokens? rest).map (t :: ·) := by
  rw [tokens?,solid]
  simp only [Bool.false_eq_true,if_false]
  split
  · next failed =>
    rw [scanned] at failed
    cases failed
  · next read =>
    rw [scanned] at read
    cases read
    rfl

/-- A row of whole tokens in which numbers are followed by separators is read back as it is. -/
theorem tokens_text {ts : List Token} (whole : ∀ t ∈ ts, t.Whole) (spaced : ts.IsChain Token.Precedes) :
    tokens? (ts.flatMap Token.text) = some ts := by
  induction ts with
  | nil => simp [tokens?]
  | cons t ts ih =>
    have next := ih (fun t member => whole t (List.mem_cons_of_mem _ member)) spaced.tail
    have ends : t.isNumber = true → EndsNumber (ts.flatMap Token.text) := by
      intro number
      cases ts with
      | nil => simp [EndsNumber]
      | cons t' ts =>
        rw [List.flatMap_cons]
        exact Token.separates_ends ((List.isChain_cons_cons.mp spaced).1 number) _
    have scanned := Token.scan_text (whole t List.mem_cons_self) ends
    obtain ⟨c,cs,written,noSpace⟩ := t.text_head
    rw [written,List.cons_append] at scanned
    rw [List.flatMap_cons,written,List.cons_append,tokens_scanned noSpace scanned,next]
    rfl

/-! ### White space around a text -/

section
variable {cs rest more ds lead : List Char}

/-- What follows a literal is not looked at. -/
theorem scanPieces_append {ps : List Piece} (scanned : scanPieces? cs = some (ps,rest)) (more : List Char) :
    scanPieces? (cs ++ more) = some (ps,rest ++ more) := by
  fun_induction scanPieces? cs generalizing ps with
  | case1 => cases scanned
  | case2 r =>
    cases scanned
    rfl
  | case3 a b c d r ih =>
    simp only [Option.bind_eq_bind,Option.bind_eq_some_iff,Option.pure_def,Option.some.injEq] at scanned
    obtain ⟨n,number,⟨ps,rest⟩,later,same⟩ := scanned
    cases same
    simp [scanPieces?,number,ih later]
  | case4 e r noUnit ih =>
    simp only [Option.bind_eq_bind,Option.bind_eq_some_iff,Option.pure_def,Option.some.injEq] at scanned
    obtain ⟨c,short,⟨ps,rest⟩,later,same⟩ := scanned
    cases same
    have other : e ≠ 'u' := by
      rintro rfl
      cases short
    rw [List.cons_append,List.cons_append,scanPieces_short short other,ih later]
    rfl
  | case5 c r noQuote _ _ refused => cases scanned
  | case6 c r noQuote _ _ printed ih =>
    simp only [Option.bind_eq_bind,Option.bind_eq_some_iff,Option.pure_def,Option.some.injEq] at scanned
    obtain ⟨⟨ps,rest⟩,later,same⟩ := scanned
    cases same
    rw [not_or] at printed
    rw [List.cons_append,scanPieces_char printed.1 (by simpa using noQuote) printed.2,ih later]
    rfl

theorem spanDigits_append (cs : List Char) (ends : EndsNumber more) :
    spanDigits (cs ++ more) = ((spanDigits cs).1,(spanDigits cs).2 ++ more) := by
  have stops : more.takeWhile Char.isDigit = [] ∧ more.dropWhile Char.isDigit = more := by
    cases more with
    | nil => exact ⟨rfl,rfl⟩
    | cons c more => simp [(ends c rfl).1]
  induction cs with
  | nil => exact Prod.ext stops.1 stops.2
  | cons c cs ih =>
    simp only [spanDigits,Prod.mk.injEq] at ih ⊢
    by_cases digit : c.isDigit = true <;> simp [digit,ih]

theorem digitsAfter_append (read : digitsAfter? lead cs = some (ds,rest)) (ends : EndsNumber more) :
    digitsAfter? lead (cs ++ more) = some (ds,rest ++ more) := by
  rw [digitsAfter?] at read ⊢
  rw [spanDigits_append cs ends]
  generalize spanDigits cs = span at read ⊢
  obtain ⟨_ | ⟨d,digits⟩,left⟩ := span
  · cases read
  · cases read
    rfl

theorem scanFraction_append (scanned : scanFraction? cs = some (ds,rest)) (ends : EndsNumber more) :
    scanFraction? (cs ++ more) = some (ds,rest ++ more) := by
  unfold scanFraction? at scanned
  split at scanned
  · exact digitsAfter_append scanned ends
  · next noPoint =>
    cases scanned
    cases cs with
    | nil => exact scanFraction_none ends
    | cons c r =>
      have other : c ≠ '.' := fun same => noPoint r (by rw [same])
      simp [scanFraction?,other]

theorem scanExponent_append (scanned : scanExponent? cs = some (ds,rest)) (ends : EndsNumber more) :
    scanExponent? (cs ++ more) = some (ds,rest ++ more) := by
  cases cs with
  | nil =>
    cases scanned
    exact scanExponent_none ends
  | cons c r =>
    rw [List.cons_append]
    unfold scanExponent? at scanned ⊢
    dsimp only at scanned ⊢
    split_ifs at scanned ⊢ with exponent
    · cases r with
      | nil => cases scanned
      | cons d r =>
        rw [List.cons_append]
        split at scanned
        · next same =>
          cases same
          exact digitsAfter_append scanned ends
        · next same =>
          cases same
          exact digitsAfter_append scanned ends
        · next noPlus noMinus =>
          have read := digitsAfter_append scanned ends
          have plus : d ≠ '+' := fun same => noPlus r (by rw [same])
          have minus : d ≠ '-' := fun same => noMinus r (by rw [same])
          simpa [plus,minus] using read
    · cases scanned
      rfl

theorem scanWhole_append {n : Nat} (scanned : scanWhole? cs = some (n,rest)) (ends : EndsNumber more) :
    scanWhole? (cs ++ more) = some (n,rest ++ more) := by
  unfold scanWhole? at scanned
  split at scanned
  · cases scanned
    rfl
  · next noZero =>
    cases cs with
    | nil => cases scanned
    | cons c r =>
      rw [List.cons_append,scanWhole?,← List.cons_append,spanDigits_append _ ends]
      · generalize spanDigits (c :: r) = span at scanned ⊢
        obtain ⟨_ | ⟨d,digits⟩,left⟩ := span
        · cases scanned
        · cases scanned
          rfl
      · simpa using noZero

theorem scanNumber_append {negative : Bool} {t : Token} (scanned : scanNumber? negative cs = some (t,rest))
    (ends : EndsNumber more) : scanNumber? negative (cs ++ more) = some (t,rest ++ more) := by
  simp only [scanNumber?,Option.bind_eq_bind,Option.bind_eq_some_iff,Option.pure_def,Option.some.injEq] at scanned
  obtain ⟨⟨n,r₁⟩,whole,⟨ds,r₂⟩,fraction,⟨es,r₃⟩,exponent,same⟩ := scanned
  cases same
  simp [scanNumber?,scanWhole_append whole ends,scanFraction_append fraction ends,scanExponent_append exponent ends]

/-- A number begins with a digit. -/
theorem scanNumber_head {t : Token} (scanned : scanNumber? false cs = some (t,rest)) :
    ∃ d r, cs = d :: r ∧ d.isDigit = true := by
  simp only [scanNumber?,Option.bind_eq_bind,Option.bind_eq_some_iff] at scanned
  obtain ⟨⟨n,left⟩,whole,-⟩ := scanned
  unfold scanWhole? at whole
  split at whole
  · exact ⟨_,_,rfl,rfl⟩
  · cases cs with
    | nil => cases whole
    | cons c r =>
      refine ⟨c,r,rfl,?_⟩
      by_contra other
      simp [spanDigits,other] at whole

/-- A token is read alike when something follows the text that does not belong to a number. -/
theorem Token.scan_append {t : Token} (scanned : scan? cs = some (t,rest)) (ends : EndsNumber more) :
    scan? (cs ++ more) = some (t,rest ++ more) := by
  unfold scan? at scanned
  split at scanned
  case h_10 r =>
    obtain ⟨⟨ps,left⟩,pieces,same⟩ := Option.map_eq_some_iff.mp scanned
    cases same
    rw [List.cons_append,scan?,scanPieces_append pieces more]
    rfl
  case h_11 r => exact scanNumber_append scanned ends
  case h_12 =>
    obtain ⟨d,r,rfl,digit⟩ := scanNumber_head scanned
    rw [List.cons_append,scan_digit digit]
    exact scanNumber_append scanned ends
  all_goals
    cases scanned
    rfl

theorem ends_of_space {c : Char} (space : isSpace c = true) (rest : List Char) : EndsNumber (c :: rest) := by
  intro d same
  cases same
  refine ⟨?_,?_,?_,?_⟩
  · by_contra digit
    rw [isSpace_of_isDigit (by simpa using digit)] at space
    cases space
  all_goals
    rintro rfl
    cases space

/-- White space separates the tokens before it from those after it. -/
theorem tokens_space {c : Char} {ts : List Token} (read : tokens? cs = some ts) (space : isSpace c = true)
    (more : List Char) : tokens? (cs ++ c :: more) = (tokens? more).map (ts ++ ·) := by
  fun_induction tokens? cs generalizing ts with
  | case1 =>
    cases read
    rw [List.nil_append,tokens?,if_pos space]
    simp
  | case2 d r blank ih => rw [List.cons_append,tokens?,if_pos blank,ih read]
  | case3 d r _ failed => cases read
  | case4 d r solid t rest scanned ih =>
    obtain ⟨ts,later,rfl⟩ := Option.map_eq_some_iff.mp read
    have scanned' : Token.scan? (d :: (r ++ c :: more)) = some (t,rest ++ c :: more) :=
      Token.scan_append scanned (ends_of_space space more)
    rw [List.cons_append,tokens_scanned (by simpa using solid) scanned',ih later,Option.map_map]
    rfl

/-- White space around a text does not matter. -/
theorem tokens_surrounded {before after : List Char} {ts : List Token} (read : tokens? cs = some ts)
    (blank : before.all isSpace = true) (blank' : after.all isSpace = true) :
    tokens? (before ++ (cs ++ after)) = some ts := by
  have nothing (blanks : List Char) (all : blanks.all isSpace = true) (rest : List Char) :
      tokens? (blanks ++ rest) = tokens? rest := by
    induction blanks with
    | nil => rfl
    | cons c blanks ih =>
      rw [List.all_cons,Bool.and_eq_true] at all
      rw [List.cons_append,tokens?,if_pos all.1,ih all.2]
  rw [nothing before blank]
  cases after with
  | nil => rwa [List.append_nil]
  | cons c after =>
    rw [List.all_cons,Bool.and_eq_true] at blank'
    have none_left : tokens? after = some [] := by
      have all := nothing after blank'.2 []
      rwa [List.append_nil,tokens?] at all
    rw [tokens_space read blank'.1,none_left,Option.map_some,List.append_nil]
end

end PhoneSignIn.Json
