import PhoneSignIn.Gateway.Answer
import PhoneSignIn.Proofs.Session.Stored

/-!
The data that is exchanged with the service. A record is written as one object, with a member for each of its
fields under the service's name of it, and with `null` for what is missing (`objectText`, `orNull`); a channel is
written as its name. Each of the forms reads what it writes, so a text that is read and written again has come to
its fixed form, whatever its layout was (`wire_round_trip`).
-/
namespace PhoneSignIn.Json

/-! ### The text of a record -/

/-- A compact object of members whose texts are given, in this order. -/
def objectText (members : List (String × String)) : String :=
  String.ofList ('\x7b' :: ([','].intercalate (members.map fun (key,text) => quote key ++ ':' :: text.toList) ++
    ['\x7d']))

/-- The text of something that may be missing. -/
def orNull {α : Type} [Form α] : Option α → String
  | none => "null"
  | some a => write a

/-- The members of a record are written one by one, with a comma between two. -/
theorem memberTokens_text (fields : List (String × Value)) :
    (memberTokens (fields.map fun (k,v) => (some k,v))).flatMap Token.text =
      [','].intercalate (fields.map fun (k,v) => quote k ++ ':' :: v.render.toList) := by
  induction fields with
  | nil => rfl
  | cons field fields ih =>
    obtain ⟨k,v⟩ := field
    cases fields with
    | nil => simp [memberTokens,moreMemberTokens,Token.text,Value.render]
    | cons next fields =>
      -- What stands after the first member is a comma and the members from the second on.
      have more : moreMemberTokens ((next :: fields).map fun (k,v) => (some k,v)) =
          .comma :: memberTokens ((next :: fields).map fun (k,v) => (some k,v)) := rfl
      rw [List.map_cons,memberTokens,more,List.flatMap_cons,List.flatMap_cons,List.flatMap_append,List.flatMap_cons,ih]
      simp [Token.text,Value.render,List.intercalate_cons_cons]

/-- A record is written member by member. -/
theorem Value.render_record (fields : List (String × Value)) :
    (Value.record fields).render = objectText (fields.map fun (k,v) => (k,v.render)) := by
  rw [render,objectText,record,tokens,List.flatMap_cons,List.flatMap_append,memberTokens_text,List.map_map]
  rfl

theorem render_option {α : Type} [Form α] (a : Option α) : (toJson a).render = orNull a := by
  cases a <;> rfl

/-! ### Reading and writing again -/

variable {α : Type} [Form α]

/-- The text of what a text stands for. -/
def rewrite? (α : Type) [Form α] (text : String) : Option String := (read? text : Option α).map write

/-- Each value has one text, from which it is read; and what a text is read as is written in a text that is read as the
    same and does not change any more. -/
structure RoundTrips (α : Type) [Form α] (text : α → String) : Prop where
  written : ∀ a, write a = text a
  read_back : ∀ a, read? (text a) = some a
  read_again : ∀ (t : String) (a : α), read? t = some a → read? (write a) = some a
  settled : ∀ t t', rewrite? α t = some t' → rewrite? α t' = some t'

/-- A form that reads what it writes has done so after one reading. -/
theorem RoundTrips.of_lawful [LawfulForm α] {text : α → String} (written : ∀ a, write a = text a) :
    RoundTrips α text where
  written := written
  read_back a := by
    rw [← written]
    exact read_write a
  read_again _ a _ := read_write a
  settled t t' rewritten := by
    obtain ⟨a,-,rfl⟩ := Option.map_eq_some_iff.mp rewritten
    rw [rewrite?,read_write]
    rfl

end PhoneSignIn.Json

namespace PhoneSignIn
open Json

/-! ### The forms of the service's answers -/

instance : LawfulForm Channel where
  ofJson_toJson c := by cases c <;> rfl
  toJson_whole c := toJson_whole c.name

instance : LawfulForm Features where
  ofJson_toJson f := by
    have fields : (toJson f).fields? ["tos_update","voice_enabled","email_enabled"] =
        some [some (toJson f.termsChanged),some (toJson f.voiceEnabled),some (toJson f.emailEnabled)] :=
      Value.fields_record rfl (by decide)
    simp [ofJson?,fields]
  toJson_whole f := Value.record_whole (by simp [toJson_whole])

instance : PresentForm Features where
  toJson_ne_null _ := Value.noConfusion

instance : PresentForm String where
  toJson_ne_null _ := Value.noConfusion

instance : LawfulForm LoginRequest where
  ofJson_toJson r := by
    have fields : (toJson r).fields? ["login_verification_request_id","login_verification_user_id",
          "normalized_phone_number","auth_config"] =
        some [some (toJson r.requestId),some (toJson r.userId),some (toJson r.normalizedPhoneNumber),
          some (toJson r.features)] := Value.fields_record rfl (by decide)
    simp [ofJson?,fields]
  toJson_whole r := Value.record_whole (by simp [toJson_whole])

instance : LawfulForm Registration where
  ofJson_toJson r := by
    have fields : (toJson r).fields? ["normalized_phone_number","auth_config"] =
        some [some (toJson r.normalizedPhoneNumber),some (toJson r.features)] := Value.fields_record rfl (by decide)
    simp [ofJson?,fields]
  toJson_whole r := Value.record_whole (by simp [toJson_whole])

instance : LawfulForm Credentials where
  ofJson_toJson c := by
    have fields : (toJson c).fields? ["oauth_token","oauth_token_secret","user_id"] =
        some [some (toJson c.token),some (toJson c.secret),some (toJson c.userId)] :=
      Value.fields_record rfl (by decide)
    simp [ofJson?,fields]
  toJson_whole c := Value.record_whole (by simp [toJson_whole])

/-! ### Their texts -/

def Features.text (f : Features) : String :=
  objectText [("tos_update",write f.termsChanged),("voice_enabled",write f.voiceEnabled),
    ("email_enabled",write f.emailEnabled)]

def LoginRequest.text (r : LoginRequest) : String :=
  objectText [("login_verification_request_id",write r.requestId),("login_verification_user_id",write r.userId),
    ("normalized_phone_number",orNull r.normalizedPhoneNumber),("auth_config",orNull r.features)]

def Registration.text (r : Registration) : String :=
  objectText [("normalized_phone_number",orNull r.normalizedPhoneNumber),("auth_config",orNull r.features)]

def Credentials.text (c : Credentials) : String :=
  objectText [("oauth_token",orNull c.token),("oauth_token_secret",orNull c.secret),("user_id",write c.userId)]

def Channel.text : Channel → String
  | .sms => "\"sms\""
  | .voiceCall => "\"voicecall\""

def Email.text (e : Email) : String := objectText [("address",write e.address),("is_verified",write e.isVerified)]

def AuthToken.text (t : AuthToken) : String := objectText [("token",write t.token),("secret",write t.secret)]

/-- All data that is exchanged with the service is read back from its text, in which the fields have the service's
    names and `null` stands for what is missing; and any text that is read comes to a fixed form when it is written
    again. -/
theorem wire_round_trip : RoundTrips Features Features.text ∧ RoundTrips LoginRequest LoginRequest.text ∧
    RoundTrips Registration Registration.text ∧ RoundTrips Credentials Credentials.text ∧
    RoundTrips Channel Channel.text ∧ RoundTrips Email Email.text ∧ RoundTrips AuthToken AuthToken.text := by
  refine ⟨.of_lawful fun f => Value.render_record _,.of_lawful fun r => ?_,.of_lawful fun r => ?_,
    .of_lawful fun c => ?_,.of_lawful fun c => ?_,.of_lawful fun _ => Value.render_record _,
    .of_lawful fun _ => Value.render_record _⟩
  · rw [LoginRequest.text,← render_option,← render_option]
    exact Value.render_record _
  · rw [Registration.text,← render_option,← render_option]
    exact Value.render_record _
  · rw [Credentials.text,← render_option,← render_option]
    exact Value.render_record _
  · cases c <;> rfl

end PhoneSignIn
