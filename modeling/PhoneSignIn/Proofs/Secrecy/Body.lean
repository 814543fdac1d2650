import Mathlib.Tactic.SplitIfs
import PhoneSignIn.Gateway.Rest
import PhoneSignIn.Proofs.Secrecy.Alike

/-!
Bodies that differ in secrets. Two JSON values are the same but for one field of a record (`Value.SameBut`), and all
other fields are read the same from both (`Value.SameBut.fields`). So bodies whose secrets are alike are read as alike
credentials (`credentials_alike`) and as accounts that are (`account_alike`).
-/
namespace PhoneSignIn.Json
open Text

/-! ### One field of a record -/

/-- Two values that are the same but for one field of a record, the member with a key or the item at a place; what can
    be there, or be missing, is related. -/
inductive Value.SameBut (key : String) (i : Nat) (R : Option Value → Option Value → Prop) : Value → Value → Prop where
  | object {members members'} (others : members.filter (·.1 ≠ some key) = members'.filter (·.1 ≠ some key))
    (field : Option.Rel R (member? key members) (member? key members')) :
    SameBut key i R (.object members) (.object members')
  | array {items items'} (others : items.eraseIdx i = items'.eraseIdx i) (field : R items[i]? items'[i]?) :
    SameBut key i R (.array items) (.array items')

/-- Rows of fields that are the same but for the one at a place. -/
inductive FieldsAlike (R : Option Value → Option Value → Prop) : Nat → List (Option Value) → List (Option Value) → Prop
  | here {f f'} (field : R f f') (rest) : FieldsAlike R 0 (f :: rest) (f' :: rest)
  | there (f) {i fs fs'} (alike : FieldsAlike R i fs fs') : FieldsAlike R (i + 1) (f :: fs) (f :: fs')

variable {R : Option Value → Option Value → Prop} {key : String}

theorem member_others {members members' : List (Literal × Value)}
    (others : members.filter (·.1 ≠ some key) = members'.filter (·.1 ≠ some key)) {k : String} (other : k ≠ key) :
    member? k members = member? k members' := by
  have found (l : List (Literal × Value)) :
      l.filter (·.1 == some k) = (l.filter (·.1 ≠ some key)).filter (·.1 == some k) := by
    rw [List.filter_filter]
    refine List.filter_congr fun m _ => ?_
    by_cases same : m.1 = some k
    · simp [same,other]
    · simp [same]
  rw [member?,member?,found members,found members',others]

theorem all_others {members members' : List (Literal × Value)}
    (others : members.filter (·.1 ≠ some key) = members'.filter (·.1 ≠ some key)) :
    members.all (·.1.isSome) = members'.all (·.1.isSome) := by
  have texts (l : List (Literal × Value)) : l.all (·.1.isSome) = (l.filter (·.1 ≠ some key)).all (·.1.isSome) := by
    rw [List.all_filter]
    refine List.all_congr rfl fun m => ?_
    by_cases same : m.1 = some key
    · simp [same]
    · simp [same]
  rw [texts members,texts members',others]

/-- The fields of a row of items, the first one apart. -/
theorem fields_row (items : List Value) (n : Nat) :
    items.map some ++ List.replicate (n + 1 - items.length) none =
      items.head? :: (items.tail.map some ++ List.replicate (n - items.tail.length) none) := by
  cases items with
  | nil => simp [List.replicate_succ]
  | cons item items => simp [Nat.add_sub_add_right]

theorem row_alike {i n : Nat} (inside : i < n) {items items' : List Value}
    (others : items.eraseIdx i = items'.eraseIdx i) (field : R items[i]? items'[i]?) :
    FieldsAlike R i (items.map some ++ List.replicate (n - items.length) none)
      (items'.map some ++ List.replicate (n - items'.length) none) := by
  induction i generalizing n items items' with
  | zero =>
    obtain ⟨n,rfl⟩ : ∃ m, n = m + 1 := ⟨n - 1,by omega⟩
    simp only [List.eraseIdx_zero] at others
    rw [fields_row,fields_row,others]
    exact .here (by simpa [List.head?_eq_getElem?] using field) _
  | succ i ih =>
    obtain ⟨n,rfl⟩ : ∃ m, n = m + 1 := ⟨n - 1,by omega⟩
    have first : items.head? = items'.head? := by
      have head := congrArg List.head? others
      cases items <;> cases items' <;> simp_all
    have later : items.tail.eraseIdx i = items'.tail.eraseIdx i := by
      have tail := congrArg List.tail others
      cases items <;> cases items' <;> simp_all
    rw [fields_row,fields_row,first]
    exact .there _ (ih (by omega) later (by simpa using field))

/-- The fields of objects that are the same but for one member. -/
theorem members_alike {before after : List String} (fresh : key ∉ before ++ after)
    {members members' : List (Literal × Value)}
    (others : members.filter (·.1 ≠ some key) = members'.filter (·.1 ≠ some key))
    (field : Option.Rel R (member? key members) (member? key members')) :
    Option.Rel (FieldsAlike R before.length) ((before ++ key :: after).mapM (member? · members))
      ((before ++ key :: after).mapM (member? · members')) := by
  induction before with
  | nil =>
    have rest : after.mapM (member? · members) = after.mapM (member? · members') := by
      induction after with
      | nil => rfl
      | cons k after ih =>
        have other : k ≠ key := by
          rintro rfl
          exact fresh List.mem_cons_self
        have rest := ih fun there => fresh (List.mem_cons_of_mem _ there)
        rw [List.mapM_cons,List.mapM_cons,member_others others other,rest]
    simp only [List.nil_append,List.mapM_cons,rest]
    exact optionRel_bind field fun f f' field => optionRel_same _ fun fs => .some (.here field fs)
  | cons k before ih =>
    have other : k ≠ key := by
      rintro rfl
      exact fresh List.mem_cons_self
    have later := ih fun there => fresh (List.mem_cons_of_mem _ there)
    simp only [List.cons_append,List.mapM_cons,member_others others other]
    exact optionRel_same _ fun f => optionRel_bind later fun fs fs' alike => .some (.there f alike)

/-- Values that are the same but for one field are read as rows of fields that are, or not at all. -/
theorem Value.SameBut.fields (before after : List String) (fresh : key ∉ before ++ after) {v v' : Value}
    (same : SameBut key before.length R v v') :
    Option.Rel (FieldsAlike R before.length) (v.fields? (before ++ key :: after))
      (v'.fields? (before ++ key :: after)) := by
  cases same with
  | @object members members' others field =>
    simp only [Value.fields?,all_others others]
    split_ifs
    · exact members_alike fresh others field
    · exact .none
  | @array items items' others field =>
    have size := congrArg List.length others
    simp only [List.length_eraseIdx] at size
    have sizes : items.length ≤ (before ++ key :: after).length ↔ items'.length ≤ (before ++ key :: after).length := by
      simp only [List.length_append,List.length_cons]
      split_ifs at size <;> omega
    simp only [Value.fields?,sizes]
    split_ifs
    · exact .some (row_alike (by simp) others field)
    · exact .none

end PhoneSignIn.Json

namespace PhoneSignIn
open Json

/-! ### Secrets in bodies -/

/-- What stands for no secret where one can be missing. -/
inductive NoSecret : Option Value → Prop where
  | absent : NoSecret none
  | null : NoSecret (some .null)
  | empty : NoSecret (some (.text ""))

/-- Secrets that can be missing, and are the same, or missing or empty both, or have characters both. -/
inductive SecretsAlike : Option Value → Option Value → Prop where
  | same (f) : SecretsAlike f f
  | blank {f f'} (none : NoSecret f) (none' : NoSecret f') : SecretsAlike f f'
  | text {s s'} (some : s ≠ "") (some' : s' ≠ "") : SecretsAlike (.some (.text s)) (.some (.text s'))

/-- Secrets that cannot be missing, and are the same, or texts both. -/
inductive TextsAlike : Option Value → Option Value → Prop where
  | same (f) : TextsAlike f f
  | text (s s') : TextsAlike (some (.text s)) (some (.text s'))

theorem NoSecret.read {f : Option Value} (blank : NoSecret f) :
    ∃ secret : Option String, orElse none f = some secret ∧ secret.getD "" = "" := by
  cases blank with
  | absent => exact ⟨none,rfl,rfl⟩
  | null => exact ⟨none,rfl,rfl⟩
  | empty => exact ⟨some "",rfl,rfl⟩

theorem SecretsAlike.read {f f' : Option Value} (alike : SecretsAlike f f') :
    Option.Rel (fun s s' : Option String => s.getD "" = "" ↔ s'.getD "" = "") (orElse none f) (orElse none f') := by
  cases alike with
  | same => exact optionRel_refl (fun _ => .rfl) _
  | blank none none' =>
    obtain ⟨secret,read,blank⟩ := none.read
    obtain ⟨secret',read',blank'⟩ := none'.read
    rw [read,read']
    exact .some ⟨fun _ => blank',fun _ => blank⟩
  | text some some' => exact .some ⟨fun blank => absurd blank some,fun blank => absurd blank some'⟩

theorem TextsAlike.read {f f' : Option Value} (alike : TextsAlike f f') :
    Option.Rel (fun _ _ : String => True) (required f) (required f') := by
  cases alike with
  | same => exact optionRel_refl (fun _ => trivial) _
  | text s s' => exact .some trivial

/-! ### Records with a secret -/

/-- Credentials whose secrets are alike are read as alike credentials, or not at all. -/
theorem credentials_alike {v v' : Value} (same : v.SameBut "oauth_token_secret" 1 SecretsAlike v') :
    Option.Rel Credentials.AlikeInKind (ofJson? v) (ofJson? v') := by
  have fields : Option.Rel (FieldsAlike SecretsAlike 1) (v.fields? ["oauth_token","oauth_token_secret","user_id"])
      (v'.fields? ["oauth_token","oauth_token_secret","user_id"]) :=
    same.fields ["oauth_token"] ["user_id"] (by decide)
  refine optionRel_bind fields fun fs fs' alike => ?_
  cases alike with
  | there token alike =>
    cases alike with
    | @here secret secret' secrets rest =>
      match rest with
      | [userId] =>
        refine optionRel_same (orElse none token) fun token => ?_
        refine optionRel_bind secrets.read fun secret secret' kind => ?_
        refine optionRel_same (orElse 0 userId) fun userId => ?_
        exact .some { token := rfl, userId := rfl, secret := kind }
      | [] => exact .none
      | _ :: _ :: _ => exact .none

/-- Tokens whose secrets are texts are read as tokens that are the same but for the secret, or not at all. -/
theorem token_alike {v v' : Value} (same : v.SameBut "secret" 1 TextsAlike v') :
    Option.Rel (fun t t' : AuthToken => t.token = t'.token) (ofJson? v) (ofJson? v') := by
  have fields : Option.Rel (FieldsAlike TextsAlike 1) (v.fields? ["token","secret"])
      (v'.fields? ["token","secret"]) :=
    same.fields ["token"] [] (by decide)
  refine optionRel_bind fields fun fs fs' alike => ?_
  cases alike with
  | there token alike =>
    cases alike with
    | @here secret secret' secrets rest =>
      match rest with
      | [] =>
        refine optionRel_same (required token) fun token => ?_
        refine optionRel_bind secrets.read fun secret secret' _ => ?_
        exact .some rfl
      | _ :: _ => exact .none

/-- Accounts with alike tokens, or none, are read as accounts that are the same but for the secret, or not at all. -/
theorem account_alike {v v' : Value}
    (same : v.SameBut "access_token" 0 (Option.Rel fun t t' => t = t' ∨ t.SameBut "secret" 1 TextsAlike t') v') :
    Option.Rel (fun b b' : AccountBody => b.accessToken.token = b'.accessToken.token ∧ b.id = b'.id ∧
      b.phoneNumber = b'.phoneNumber ∧ b.email = b'.email) (ofJson? v) (ofJson? v') := by
  have fields : Option.Rel (FieldsAlike _ 0) (v.fields? ["access_token","id","phone_number","email_address"])
      (v'.fields? ["access_token","id","phone_number","email_address"]) :=
    same.fields [] ["id","phone_number","email_address"] (by decide)
  refine optionRel_bind fields fun fs fs' alike => ?_
  cases alike with
  | @here token token' tokens rest =>
    have read : Option.Rel (fun t t' : AuthToken => t.token = t'.token) (required token) (required token') := by
      cases tokens with
      | none => exact .none
      | some same =>
        rcases same with rfl | same
        · exact optionRel_refl (R := fun t t' : AuthToken => t.token = t'.token) (fun _ => rfl) _
        · exact token_alike same
    match rest with
    | [id,phoneNumber,email] =>
      refine optionRel_bind read fun token token' same => ?_
      refine optionRel_same (required id) fun id => ?_
      refine optionRel_same (orElse "" phoneNumber) fun phone => ?_
      refine optionRel_same (orElse none email) fun email => ?_
      exact .some ⟨same,rfl,rfl,rfl⟩
    | [] | [_] | [_,_] | _ :: _ :: _ :: _ :: _ => exact .none

end PhoneSignIn
