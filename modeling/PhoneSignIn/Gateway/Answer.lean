import PhoneSignIn.Session.Stored

/-!
What the auth service answers: which features it offers, the login request or registration a code is sent for, the
credentials of a user, and the user's account.
-/
namespace PhoneSignIn
open Json

inductive Channel where
  | sms
  | voiceCall
deriving DecidableEq, Repr, Inhabited

def Channel.name : Channel → String
  | .sms => "sms"
  | .voiceCall => "voicecall"

def Channel.ofName? : String → Option Channel
  | "sms" => some .sms
  | "voicecall" => some .voiceCall
  | _ => none

/-- A channel is written as its name; an object whose only member is the name, with `null`, is read too. -/
instance : Form Channel where
  toJson c := .text c.name
  ofJson?
    | .string (some name) => Channel.ofName? name
    | .object [(some name,.null)] => Channel.ofName? name
    | _ => none

structure Features where
  termsChanged : Bool := false
  voiceEnabled : Bool := false
  emailEnabled : Bool := false
deriving DecidableEq, Repr, Inhabited

instance : Form Features where
  toJson f := .record [("tos_update",toJson f.termsChanged),("voice_enabled",toJson f.voiceEnabled),
    ("email_enabled",toJson f.emailEnabled)]
  ofJson? v := do
    let [termsChanged,voiceEnabled,emailEnabled] ←
      v.fields? ["tos_update","voice_enabled","email_enabled"] | none
    return ⟨← orElse false termsChanged,← orElse false voiceEnabled,← orElse false emailEnabled⟩

structure LoginRequest where
  requestId : String
  userId : Int64
  normalizedPhoneNumber : Option String := none
  features : Option Features := none
deriving DecidableEq, Repr, Inhabited

instance : Form LoginRequest where
  toJson r := .record [("login_verification_request_id",toJson r.requestId),
    ("login_verification_user_id",toJson r.userId),
    ("normalized_phone_number",toJson r.normalizedPhoneNumber),("auth_config",toJson r.features)]
  ofJson? v := do
    let [requestId,userId,number,features] ← v.fields? ["login_verification_request_id",
      "login_verification_user_id","normalized_phone_number","auth_config"] | none
    return ⟨← required requestId,← required userId,← orElse none number,← orElse none features⟩

structure Registration where
  normalizedPhoneNumber : Option String := none
  features : Option Features := none
deriving DecidableEq, Repr, Inhabited

instance : Form Registration where
  toJson r := .record [("normalized_phone_number",toJson r.normalizedPhoneNumber),
    ("auth_config",toJson r.features)]
  ofJson? v := do
    let [number,features] ← v.fields? ["normalized_phone_number","auth_config"] | none
    return ⟨← orElse none number,← orElse none features⟩

structure Credentials where
  token : Option String := none
  secret : Option String := none
  userId : Int64 := 0
deriving DecidableEq, Repr, Inhabited

/-- Credentials are empty when the token or the secret is missing or has no characters; an empty answer to a code asks
    for the pin. -/
def Credentials.isEmpty (c : Credentials) : Bool := c.token.getD "" == "" || c.secret.getD "" == ""

instance : Form Credentials where
  toJson c := .record [("oauth_token",toJson c.token),("oauth_token_secret",toJson c.secret),
    ("user_id",toJson c.userId)]
  ofJson? v := do
    let [token,secret,userId] ← v.fields? ["oauth_token","oauth_token_secret","user_id"] | none
    return ⟨← orElse none token,← orElse none secret,← orElse 0 userId⟩

structure Account where
  authToken : AuthToken
  userId : Int64
  phoneNumber : String
  email : Option Email
deriving DecidableEq, Repr, Inhabited

namespace Session

/-- The session a code or pin opens for a phone number; missing credentials are empty texts. -/
def ofCredentials (c : Credentials) (phoneNumber : String) : Session :=
  ofRecord { authToken := ⟨c.token.getD "",c.secret.getD ""⟩, id := c.userId, phoneNumber }

def ofAccount (a : Account) : Session :=
  ofRecord { authToken := a.authToken, id := a.userId, phoneNumber := a.phoneNumber, email := a.email }

end Session

end PhoneSignIn
