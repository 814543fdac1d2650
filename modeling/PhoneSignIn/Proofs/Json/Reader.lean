import Mathlib.Tactic.SplitIfs
import PhoneSignIn.Json.Reader
import PhoneSignIn.Proofs.Json.Lexer
import PhoneSignIn.Text.Blank

/-!
The value that is written is the value that is read. Taking the tokens of a value brings the reader from
where it wants a value to where it has one (`Reader.run_value`), whatever it is inside of; the tokens of
a value stand as they are read (`Value.tokens_chain`). So a value whose numbers are whole is read back from
its compact text (`Value.parse_render`). White space around a text does not change its value
(`Value.parse_surrounded`), and blanks alone have none (`Value.parse_blank`).
-/
namespace PhoneSignIn.Json

/-! ### From tokens to the value -/

namespace Reader

theorem run_cons {q q' : Reader} {t : Token} (stepped : q.step? t = some q') (ts : List Token) :
    q.run? (t :: ts) = q'.run? ts := by
  rw [run?,stepped]
  rfl

/-- An array's first item is taken as a value inside the array. -/
theorem run_firstItem (v : Value) (stack : List Frame) (ts : List Token) :
    (firstItem stack).run? (v.tokens ++ ts) = (value (.array [] :: stack)).run? (v.tokens ++ ts) := by
  cases v <;> rfl

mutual

/-- The tokens of a value bring the reader to where it has the value. -/
theorem run_value (v : Value) (stack : List Frame) (ts : List Token) :
    (value stack).run? (v.tokens ++ ts) = (complete v stack).run? ts := by
  cases v with
  | null => rfl
  | bool b => rfl
  | number n => rfl
  | string s => rfl
  | array items =>
    cases items with
    | nil => rfl
    | cons v items =>
      simp only [Value.tokens,itemTokens,List.cons_append,List.append_assoc]
      rw [run_cons (show (value stack).step? .openArray = some (firstItem stack) from rfl),run_firstItem,run_value,
        complete,run_moreItems,run_cons rfl]
      simp
  | object members =>
    cases members with
    | nil => rfl
    | cons member members =>
      obtain ⟨k,v⟩ := member
      simp only [Value.tokens,memberTokens,List.cons_append,List.append_assoc]
      rw [run_cons (show (value stack).step? .openObject = some (firstKey stack) from rfl),run_cons rfl,run_cons rfl,
        run_value,complete,run_moreMembers,run_cons rfl]
      simp

theorem run_moreItems (items : List Value) (done : List Value) (stack : List Frame) (ts : List Token) :
    (Reader.items done stack).run? (moreItemTokens items ++ ts) = (Reader.items (items.reverse ++ done) stack).run? ts := by
  cases items with
  | nil => rfl
  | cons v items =>
    simp only [moreItemTokens,List.cons_append,List.append_assoc]
    rw [run_cons (show (Reader.items done stack).step? .comma = some (value (.array done :: stack)) from rfl),run_value,
      complete,run_moreItems]
    simp

theorem run_moreMembers (members : List (Literal × Value)) (done : List (Literal × Value)) (stack : List Frame)
    (ts : List Token) : (Reader.members done stack).run? (moreMemberTokens members ++ ts) =
      (Reader.members (members.reverse ++ done) stack).run? ts := by
  cases members with
  | nil => rfl
  | cons member members =>
    obtain ⟨k,v⟩ := member
    simp only [moreMemberTokens,List.cons_append,List.append_assoc]
    rw [run_cons (show (Reader.members done stack).step? .comma = some (nextKey done stack) from rfl),run_cons rfl,
      run_cons rfl,run_value,complete,run_moreMembers]
    simp

end

end Reader

theorem Value.ofTokens_tokens (v : Value) : ofTokens? v.tokens = some v := by
  have ran := Reader.run_value v [] []
  rw [List.append_nil] at ran
  rw [ofTokens?,ran]
  rfl

/-! ### From the text to the tokens -/

namespace Token

theorem precedes_separator {t next : Token} (separates : next.separates = true) : t.Precedes next := fun _ => separates

theorem precedes_of_noNumber {t next : Token} (noNumber : t.isNumber = false) : t.Precedes next := by
  intro number
  rw [noNumber] at number
  cases number

/-- A row may begin with a token that is no number. -/
theorem chain_cons {t : Token} (noNumber : t.isNumber = false) {ts : List Token} (chain : ts.IsChain Precedes) :
    (t :: ts).IsChain Precedes :=
  List.isChain_cons.mpr ⟨fun _ _ => precedes_of_noNumber noNumber,chain⟩

/-- A row may go on with one that begins with a separator. -/
theorem chain_append {ts ts' : List Token} (chain : ts.IsChain Precedes) (chain' : ts'.IsChain Precedes)
    (separated : ∀ t ∈ ts'.head?, t.separates = true) : (ts ++ ts').IsChain Precedes :=
  List.isChain_append.mpr ⟨chain,chain',fun _ _ t member => precedes_separator (separated t member)⟩

end Token

theorem moreItemTokens_head (items : List Value) : ∀ t ∈ (moreItemTokens items).head?, t.separates = true := by
  cases items <;> simp [moreItemTokens,Token.separates]

theorem moreMemberTokens_head (members : List (Literal × Value)) :
    ∀ t ∈ (moreMemberTokens members).head?, t.separates = true := by
  cases members <;> simp [moreMemberTokens,Token.separates]

mutual

/-- In the tokens of a value, a number is followed by a separator. -/
theorem Value.tokens_chain (v : Value) : v.tokens.IsChain Token.Precedes := by
  cases v with
  | null => exact .singleton _
  | bool b => exact .singleton _
  | number n => exact .singleton _
  | string s => exact .singleton _
  | array items =>
    refine Token.chain_cons rfl (Token.chain_append ?_ (.singleton _) (by simp [Token.separates]))
    cases items with
    | nil => exact .nil
    | cons v items => exact Token.chain_append v.tokens_chain (moreItemTokens_chain items) (moreItemTokens_head items)
  | object members =>
    refine Token.chain_cons rfl (Token.chain_append ?_ (.singleton _) (by simp [Token.separates]))
    cases members with
    | nil => exact .nil
    | cons member members =>
      obtain ⟨k,v⟩ := member
      exact Token.chain_cons rfl (Token.chain_cons rfl
        (Token.chain_append v.tokens_chain (moreMemberTokens_chain members) (moreMemberTokens_head members)))

theorem moreItemTokens_chain (items : List Value) : (moreItemTokens items).IsChain Token.Precedes := by
  cases items with
  | nil => exact .nil
  | cons v items =>
    exact Token.chain_cons rfl
      (Token.chain_append v.tokens_chain (moreItemTokens_chain items) (moreItemTokens_head items))

theorem moreMemberTokens_chain (members : List (Literal × Value)) :
    (moreMemberTokens members).IsChain Token.Precedes := by
  cases members with
  | nil => exact .nil
  | cons member members =>
    obtain ⟨k,v⟩ := member
    exact Token.chain_cons rfl (Token.chain_cons rfl (Token.chain_cons rfl
      (Token.chain_append v.tokens_chain (moreMemberTokens_chain members) (moreMemberTokens_head members))))

end

/-- Whether all numbers of a value are whole. -/
def Value.Whole (v : Value) : Prop := ∀ t ∈ v.tokens, t.Whole

/-- A value whose numbers are whole is read back from its compact text. -/
theorem Value.parse_render {v : Value} (whole : v.Whole) : parse? v.render = some v := by
  have read : tokens? v.render.toList = some v.tokens := by
    rw [render,String.toList_ofList]
    exact tokens_text whole v.tokens_chain
  rw [parse?,read]
  exact v.ofTokens_tokens

/-! ### Blanks -/

section
open Text

/-- No token begins with a blank. -/
theorem scan_blank {c : Char} (blank : isBlank c = true) (r : List Char) : Token.scan? (c :: r) = none := by
  have noDigit : c.isDigit = false := by
    simp only [isBlank,Bool.or_eq_true,Bool.and_eq_true,decide_eq_true_eq,beq_iff_eq] at blank
    simp only [Char.isDigit,Bool.and_eq_false_iff,decide_eq_false_iff_not,Char.toNat] at blank ⊢
    simp only [ge_iff_le,UInt32.le_iff_toNat_le] at blank ⊢
    grind
  have noNumber : scanNumber? false (c :: r) = none := by
    have noZero : c ≠ '0' := by
      rintro rfl
      cases noDigit
    simp [scanNumber?,scanWhole?,noZero,spanDigits,noDigit]
  unfold Token.scan?
  split
  case h_12 => exact noNumber
  all_goals
    rename_i same
    obtain ⟨rfl,-⟩ := List.cons.inj same
    cases blank

/-- A text of blanks is no JSON. -/
theorem Value.parse_blank {text : String} (blank : isBlankText text = true) : Value.parse? text = none := by
  have tokens (cs : List Char) (blank : cs.all isBlank = true) : tokens? cs = some [] ∨ tokens? cs = none := by
    induction cs with
    | nil => exact .inl (by rw [tokens?])
    | cons c r ih =>
      rw [List.all_cons,Bool.and_eq_true] at blank
      rw [tokens?]
      split_ifs
      · exact ih blank.2
      · right
        split
        · rfl
        · next scanned =>
          rw [scan_blank blank.1] at scanned
          cases scanned
  rw [Value.parse?]
  rcases tokens _ blank with nothing | nothing
  · rw [nothing]
    rfl
  · rw [nothing]
    rfl

theorem Value.parsed_not_blank {text : String} {v : Value} (parsed : Value.parse? text = some v) :
    isBlankText text = false := by
  by_contra blank
  rw [Value.parse_blank (by simpa using blank)] at parsed
  cases parsed

/-- White space around a text does not change its value. -/
theorem Value.parse_surrounded {before text after : String} {v : Value} (parsed : Value.parse? text = some v)
    (blank : before.toList.all isSpace = true) (blank' : after.toList.all isSpace = true) :
    Value.parse? (before ++ text ++ after) = some v := by
  obtain ⟨ts,read,formed⟩ := Option.bind_eq_some_iff.mp parsed
  have read' := tokens_surrounded read blank blank'
  rw [← List.append_assoc,← String.toList_append,← String.toList_append] at read'
  rw [Value.parse?,read']
  exact formed

end

end PhoneSignIn.Json
