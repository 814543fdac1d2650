import PhoneSignIn.Text.Quoted

/-!
Sessions: the credentials of a signed-in user, or of a guest. A guest has no phone number and no email, whatever it is
made from (`Session.ofRecord`).
-/
namespace PhoneSignIn

structure AuthToken where
  token : String
  secret : String
deriving DecidableEq, Repr, Inhabited

/-- How a token is shown: the secret stays hidden. -/
def AuthToken.describe (t : AuthToken) : String :=
  "AuthToken \x7b token: " ++ Text.quoted t.token ++ ", secret: \"[redacted]\" \x7d"

structure Email where
  address : String
  isVerified : Bool := false
deriving DecidableEq, Repr, Inhabited

def guestId : Int64 := 0

def guestPhoneNumber : String := ""

structure SessionRecord where
  authToken : AuthToken
  id : Int64
  phoneNumber : String := guestPhoneNumber
  email : Option Email := none
deriving DecidableEq, Repr, Inhabited

def SessionRecord.isGuest (r : SessionRecord) : Bool := r.id == guestId

/-- A session: what is known of a user, where a guest has neither phone number nor email. -/
structure Session extends SessionRecord where
  guest_blank : id = guestId → phoneNumber = guestPhoneNumber ∧ email = none
deriving DecidableEq, Repr

namespace Session

def guest (authToken : AuthToken) : Session where
  authToken
  id := guestId
  guest_blank _ := ⟨rfl,rfl⟩

instance : Inhabited Session := ⟨guest default⟩

/-- The session of a record; of a guest only the credentials are kept. -/
def ofRecord (r : SessionRecord) : Session :=
  if h : r.id = guestId then guest r.authToken
  else { r with guest_blank := fun hr => absurd hr h }

/-- Two sessions have the same identity when token, user and phone number agree; the email is left out, because it tells
    about the user and not who the user is. -/
def identity (s : Session) : AuthToken × Int64 × String := (s.authToken,s.id,s.phoneNumber)

@[simp] theorem ofRecord_toSessionRecord (s : Session) : ofRecord s.toSessionRecord = s := by
  obtain ⟨r,h⟩ := s
  by_cases hr : r.id = guestId
  · obtain ⟨hp,he⟩ := h hr
    obtain ⟨t,i,p,e⟩ := r
    simp_all [ofRecord,guest]
  · simp [ofRecord,hr]

theorem ofRecord_of_ne {r : SessionRecord} (h : r.id ≠ guestId) : (ofRecord r).toSessionRecord = r := by
  simp [ofRecord,h]

end Session

end PhoneSignIn
