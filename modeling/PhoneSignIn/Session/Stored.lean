import PhoneSignIn.Session.Basic
import PhoneSignIn.Json.Record
import PhoneSignIn.Text.Blank

/-!
Sessions as stored text. A session is stored as one JSON object, no session as the empty text (`Stored.encode`). A text
that is no stored session counts as none, and what is read is a guest whenever its user id says so (`Stored.decode`).
-/
namespace PhoneSignIn
open Json

instance : Form AuthToken where
  toJson t := .record [("token",toJson t.token),("secret",toJson t.secret)]
  ofJson? v := do
    let [token,secret] ← v.fields? ["token","secret"] | none
    return ⟨← required token,← required secret⟩

instance : Form Email where
  toJson e := .record [("address",toJson e.address),("is_verified",toJson e.isVerified)]
  ofJson? v := do
    let [address,isVerified] ← v.fields? ["address","is_verified"] | none
    return ⟨← required address,← orElse false isVerified⟩

instance : Form SessionRecord where
  toJson r := .record [("auth_token",toJson r.authToken),("id",toJson r.id),
    ("phone_number",toJson r.phoneNumber),("email",toJson r.email)]
  ofJson? v := do
    let [authToken,id,phoneNumber,email] ← v.fields? ["auth_token","id","phone_number","email"] | none
    return ⟨← required authToken,← required id,← orElse guestPhoneNumber phoneNumber,← orElse none email⟩

namespace Session.Stored

def encode : Option Session → String
  | none => ""
  | some s => write s.toSessionRecord

/-- The session a stored text holds; a blank or unreadable text holds none. -/
def decode (text : String) : Option Session :=
  if Text.isBlankText text then none else (read? text).map Session.ofRecord

end Session.Stored

end PhoneSignIn
