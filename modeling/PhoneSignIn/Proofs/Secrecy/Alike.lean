import PhoneSignIn.Flow.World

/-!
Things that are the same but for secrets. What a session is made of, what a call is answered with and what happens
in a flow are `Alike` when they differ in nothing but the secrets in them. Whether credentials are empty depends on
whether they have a secret and not on which one (`Credentials.AlikeInKind.isEmpty`), and alike credentials and
accounts make alike sessions.
-/
namespace PhoneSignIn

variable {ε α α' β β' γ γ' : Type}

/-- Two results that are the same error, or alike. -/
inductive ResultsAlike (R : α → β → Prop) : Except ε α → Except ε β → Prop where
  | ok {a b} (alike : R a b) : ResultsAlike R (.ok a) (.ok b)
  | error (e : ε) : ResultsAlike R (.error e) (.error e)

theorem optionRel_refl {R : α → α → Prop} (refl : ∀ a, R a a) (o : Option α) : Option.Rel R o o := by
  cases o with
  | none => exact .none
  | some a => exact .some (refl a)

theorem optionRel_mono {R S : α → β → Prop} (weaker : ∀ a b, R a b → S a b) {o : Option α} {o' : Option β}
    (alike : Option.Rel R o o') : Option.Rel S o o' := by
  cases alike with
  | some alike => exact .some (weaker _ _ alike)
  | none => exact .none

theorem optionRel_bind {R : α → α' → Prop} {S : β → β' → Prop} {o : Option α} {o' : Option α'}
    (alike : Option.Rel R o o') {f : α → Option β} {f' : α' → Option β'}
    (next : ∀ a a', R a a' → Option.Rel S (f a) (f' a')) :
    Option.Rel S (o >>= f) (o' >>= f') := by
  cases alike with
  | some alike => exact next _ _ alike
  | none => exact .none

/-- What comes of the same may only differ in what is done next. -/
theorem optionRel_same {S : β → β' → Prop} (o : Option α) {f : α → Option β} {f' : α → Option β'}
    (next : ∀ a, Option.Rel S (f a) (f' a)) : Option.Rel S (o >>= f) (o >>= f') := by
  cases o with
  | some a => exact next a
  | none => exact .none

/-! ### Sessions -/

/-- Records that are the same but for the secret. -/
structure SessionRecord.Alike (r r' : SessionRecord) : Prop where
  token : r.authToken.token = r'.authToken.token
  id : r.id = r'.id
  phoneNumber : r.phoneNumber = r'.phoneNumber
  email : r.email = r'.email

/-- Sessions that are the same but for the secret. -/
def Session.Alike (s s' : Session) : Prop := s.toSessionRecord.Alike s'.toSessionRecord

theorem Session.Alike.refl (s : Session) : s.Alike s := ⟨rfl,rfl,rfl,rfl⟩

theorem Session.Alike.isGuest {s s' : Session} (alike : s.Alike s') : s.isGuest = s'.isGuest := by
  simp only [SessionRecord.isGuest,alike.id]

theorem SessionRecord.Alike.ofRecord {r r' : SessionRecord} (alike : r.Alike r') :
    (Session.ofRecord r).Alike (Session.ofRecord r') := by
  by_cases guest : r.id = guestId
  · have guest' : r'.id = guestId := alike.id ▸ guest
    simp only [Session.Alike,Session.ofRecord,guest,guest',dif_pos]
    exact ⟨alike.token,rfl,rfl,rfl⟩
  · have user' : r'.id ≠ guestId := alike.id ▸ guest
    rw [Session.Alike,Session.ofRecord_of_ne guest,Session.ofRecord_of_ne user']
    exact alike

/-! ### Answers -/

/-- Credentials that are the same but for the secret. -/
structure Credentials.Alike (c c' : Credentials) : Prop where
  token : c.token = c'.token
  userId : c.userId = c'.userId

/-- Credentials that are the same but for the secret: both have one with characters, or neither. -/
structure Credentials.AlikeInKind (c c' : Credentials) : Prop extends c.Alike c' where
  secret : c.secret.getD "" = "" ↔ c'.secret.getD "" = ""

/-- Accounts that are the same but for the secret. -/
structure Account.Alike (a a' : Account) : Prop where
  token : a.authToken.token = a'.authToken.token
  userId : a.userId = a'.userId
  phoneNumber : a.phoneNumber = a'.phoneNumber
  email : a.email = a'.email

theorem Credentials.AlikeInKind.isEmpty {c c' : Credentials} (alike : c.AlikeInKind c') : c.isEmpty = c'.isEmpty := by
  have secret : (c.secret.getD "" == "") = (c'.secret.getD "" == "") := by
    rw [Bool.eq_iff_iff,beq_iff_eq,beq_iff_eq]
    exact alike.secret
  rw [Credentials.isEmpty,Credentials.isEmpty,alike.token,secret]

theorem Credentials.Alike.session {c c' : Credentials} (alike : c.Alike c') (phoneNumber : String) :
    (Session.ofCredentials c phoneNumber).Alike (Session.ofCredentials c' phoneNumber) :=
  SessionRecord.Alike.ofRecord ⟨congrArg (·.getD "") alike.token,alike.userId,rfl,rfl⟩

theorem Account.Alike.session {a a' : Account} (alike : a.Alike a') :
    (Session.ofAccount a).Alike (Session.ofAccount a') :=
  SessionRecord.Alike.ofRecord ⟨alike.token,alike.userId,alike.phoneNumber,alike.email⟩

/-! ### Calls -/

/-- Calls that are the same but for the secret of the session that they are about. -/
inductive Call.Alike : Call → Call → Prop where
  | same (c) : Alike c c
  | verifyAccount {s s'} (sessions : s.Alike s') : Alike (.verifyAccount s) (.verifyAccount s')
  | submitEmail {s s'} (sessions : s.Alike s') (email) : Alike (.submitEmail s email) (.submitEmail s' email)

/-- Answers of calls of one kind that are the same error, or the same but for secrets. -/
def Call.AnswersAlike : (c c' : Call) → Except CallError c.Answer → Except CallError c'.Answer → Prop
  | .authenticateDevice .., .authenticateDevice .. => Eq
  | .registerDevice .., .registerDevice .. => Eq
  | .createAccount .., .createAccount .. => ResultsAlike Credentials.Alike
  | .verifyCode .., .verifyCode .. => ResultsAlike Credentials.AlikeInKind
  | .verifyPin .., .verifyPin .. => ResultsAlike Credentials.Alike
  | .verifyAccount _, .verifyAccount _ => ResultsAlike Account.Alike
  | .submitEmail .., .submitEmail .. => ResultsAlike Credentials.Alike
  | _, _ => fun _ _ => False

theorem Call.Alike.refused {c c' : Call} (calls : c.Alike c') (e : CallError) :
    c.AnswersAlike c' (.error e) (.error e) := by
  cases calls with
  | same c => cases c <;> first | exact .error e | rfl
  | verifyAccount => exact .error e
  | submitEmail => exact .error e

/-- A relation of gateways that answer alike calls alike, now and later. -/
def Gateway.Blind [Gateway γ] [Gateway γ'] (G : γ → γ' → Prop) : Prop :=
  ∀ ⦃c c' : Call⦄ ⦃g : γ⦄ ⦃g' : γ'⦄, c.Alike c' → G g g' →
    c.AnswersAlike c' (Gateway.ask c g).1 (Gateway.ask c' g').1 ∧ G (Gateway.ask c g).2 (Gateway.ask c' g').2

namespace Flow

/-! ### Occurrences -/

/-- What is told is the same but for the secret of the session. -/
inductive Delivery.Alike : Delivery → Delivery → Prop where
  | success (host) {s s'} (sessions : s.Alike s') (phoneNumber) :
    Alike (.success host s phoneNumber) (.success host s' phoneNumber)
  | failure (host message) : Alike (.failure host message) (.failure host message)
  | changed {s s'} (sessions : s.Alike s') : Alike (.changed s) (.changed s')

/-- What happens is the same but for secrets. -/
inductive Occurrence.Alike : Occurrence → Occurrence → Prop where
  | asked {c c'} (calls : c.Alike c') {a a'} (answers : c.AnswersAlike c' a a') : Alike (.asked c a) (.asked c' a')
  | read {r r'} (results : ResultsAlike (Option.Rel Session.Alike) r r') : Alike (.read r) (.read r')
  | wrote {s s'} (sessions : s.Alike s') (result) : Alike (.wrote s result) (.wrote s' result)
  | cleared (result) : Alike (.cleared result) (.cleared result)
  | recorded (event) : Alike (.recorded event) (.recorded event)
  | delivered {d d'} (deliveries : d.Alike d') : Alike (.delivered d) (.delivered d')

end Flow

end PhoneSignIn
