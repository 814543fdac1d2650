import PhoneSignIn.Gateway.Rest
import PhoneSignIn.Proofs.Gateway.Wire
import PhoneSignIn.Proofs.Json.Tolerance

/-!
Answers and stored sessions stay readable when the service adds to them. The shape of each record of the service
names its fields and their defaults; its forms fit the shape. So every body of a response tolerates other orders of
its members, more members, fields left out in place of their defaults and white space, and is read as the same
answer (`answer_tolerant`), and so is every stored session (`bodies_tolerate`).
-/
namespace PhoneSignIn
open Json Http

/-! ### Shapes of records -/

def AuthToken.shape : Shape := .record [("token",none,.plain),("secret",none,.plain)]

def Email.shape : Shape := .record [("address",none,.plain),("is_verified",some (.bool false),.plain)]

def SessionRecord.shape : Shape :=
  .record [("auth_token",none,AuthToken.shape),("id",none,.plain),("phone_number",some (.text ""),.plain),
    ("email",some .null,.optional Email.shape)]

def Features.shape : Shape :=
  .record [("tos_update",some (.bool false),.plain),("voice_enabled",some (.bool false),.plain),
    ("email_enabled",some (.bool false),.plain)]

def LoginRequest.shape : Shape :=
  .record [("login_verification_request_id",none,.plain),("login_verification_user_id",none,.plain),
    ("normalized_phone_number",some .null,.optional .plain),("auth_config",some .null,.optional Features.shape)]

def Registration.shape : Shape :=
  .record [("normalized_phone_number",some .null,.optional .plain),("auth_config",some .null,.optional Features.shape)]

def Credentials.shape : Shape :=
  .record [("oauth_token",some .null,.optional .plain),("oauth_token_secret",some .null,.optional .plain),
    ("user_id",some (.int 0),.plain)]

def ErrorEntry.shape : Shape := .record [("code",none,.plain),("message",some (.text ""),.plain)]

def ErrorBody.shape : Shape :=
  .record [("errors",some (.array []),.list ErrorEntry.shape),("auth_config",some .null,.optional Features.shape)]

def NewAccountBody.shape : Shape := .record [("id",none,.plain)]

def AccountBody.shape : Shape :=
  .record [("access_token",none,AuthToken.shape),("id",none,.plain),("phone_number",some (.text ""),.plain),
    ("email_address",some .null,.optional Email.shape)]

/-! ### Forms fit their shapes -/

open Shape

theorem AuthToken.fits : AuthToken.shape.Fits AuthToken := by
  refine record_fits (by decide) (fun _ => rfl) ?_
  rintro _ _ (_ | ⟨token,_ | ⟨secret,_ | _⟩⟩)
  exact .bind (token.required plain_fits) fun _ => .bind (secret.required plain_fits) fun _ => .refl _

theorem Email.fits : Email.shape.Fits Email := by
  refine record_fits (by decide) (fun _ => rfl) ?_
  rintro _ _ (_ | ⟨address,_ | ⟨verified,_ | _⟩⟩)
  exact .bind (address.required plain_fits) fun _ => .bind (verified.orElse rfl plain_fits) fun _ => .refl _

theorem SessionRecord.fits : SessionRecord.shape.Fits SessionRecord := by
  refine record_fits (by decide) (fun _ => rfl) ?_
  rintro _ _ (_ | ⟨authToken,_ | ⟨id,_ | ⟨phoneNumber,_ | ⟨email,_ | _⟩⟩⟩⟩)
  exact .bind (authToken.required AuthToken.fits) fun _ => .bind (id.required plain_fits) fun _ =>
    .bind (phoneNumber.orElse rfl plain_fits) fun _ => .bind (email.orElse rfl (optional_fits Email.fits)) fun _ =>
      .refl _

theorem Features.fits : Features.shape.Fits Features := by
  refine record_fits (by decide) (fun _ => rfl) ?_
  rintro _ _ (_ | ⟨terms,_ | ⟨voice,_ | ⟨email,_ | _⟩⟩⟩)
  exact .bind (terms.orElse rfl plain_fits) fun _ => .bind (voice.orElse rfl plain_fits) fun _ =>
    .bind (email.orElse rfl plain_fits) fun _ => .refl _

theorem LoginRequest.fits : LoginRequest.shape.Fits LoginRequest := by
  refine record_fits (by decide) (fun _ => rfl) ?_
  rintro _ _ (_ | ⟨requestId,_ | ⟨userId,_ | ⟨number,_ | ⟨features,_ | _⟩⟩⟩⟩)
  exact .bind (requestId.required plain_fits) fun _ => .bind (userId.required plain_fits) fun _ =>
    .bind (number.orElse rfl (optional_fits plain_fits)) fun _ =>
      .bind (features.orElse rfl (optional_fits Features.fits)) fun _ => .refl _

theorem Registration.fits : Registration.shape.Fits Registration := by
  refine record_fits (by decide) (fun _ => rfl) ?_
  rintro _ _ (_ | ⟨number,_ | ⟨features,_ | _⟩⟩)
  exact .bind (number.orElse rfl (optional_fits plain_fits)) fun _ =>
    .bind (features.orElse rfl (optional_fits Features.fits)) fun _ => .refl _

theorem Credentials.fits : Credentials.shape.Fits Credentials := by
  refine record_fits (by decide) (fun _ => rfl) ?_
  rintro _ _ (_ | ⟨token,_ | ⟨secret,_ | ⟨userId,_ | _⟩⟩⟩)
  exact .bind (token.orElse rfl (optional_fits plain_fits)) fun _ =>
    .bind (secret.orElse rfl (optional_fits plain_fits)) fun _ => .bind (userId.orElse rfl plain_fits) fun _ => .refl _

theorem ErrorEntry.fits : ErrorEntry.shape.Fits ErrorEntry := by
  refine record_fits (by decide) (fun _ => rfl) ?_
  rintro _ _ (_ | ⟨code,_ | ⟨message,_ | _⟩⟩)
  exact .bind (code.required plain_fits) fun _ => .bind (message.orElse rfl plain_fits) fun _ => .refl _

theorem ErrorBody.fits : ErrorBody.shape.Fits ErrorBody := by
  refine record_fits (by decide) (fun _ => rfl) ?_
  rintro _ _ (_ | ⟨errors,_ | ⟨features,_ | _⟩⟩)
  exact .bind (errors.orElse rfl (list_fits ErrorEntry.fits)) fun _ =>
    .bind (features.orElse rfl (optional_fits Features.fits)) fun _ => .refl _

theorem NewAccountBody.fits : NewAccountBody.shape.Fits NewAccountBody := by
  refine record_fits (by decide) (fun _ => rfl) ?_
  rintro _ _ (_ | ⟨id,_ | _⟩)
  exact .bind (id.required plain_fits) fun _ => .refl _

theorem AccountBody.fits : AccountBody.shape.Fits AccountBody := by
  refine record_fits (by decide) (fun _ => rfl) ?_
  rintro _ _ (_ | ⟨accessToken,_ | ⟨id,_ | ⟨phoneNumber,_ | ⟨email,_ | _⟩⟩⟩⟩)
  exact .bind (accessToken.required AuthToken.fits) fun _ => .bind (id.required plain_fits) fun _ =>
    .bind (phoneNumber.orElse rfl plain_fits) fun _ => .bind (email.orElse rfl (optional_fits Email.fits)) fun _ =>
      .refl _

/-! ### Answers -/

namespace RestGateway

/-- The shape of the body that answers a call. -/
def bodyShape : Call → Shape
  | .authenticateDevice .. => LoginRequest.shape
  | .registerDevice .. => Registration.shape
  | .createAccount .. => NewAccountBody.shape
  | .verifyAccount _ => AccountBody.shape
  | .verifyCode .. | .verifyPin .. | .submitEmail .. => Credentials.shape

/-- A response whose body is another one's after changes that a shape allows for, in whatever layout. -/
structure Edited (s : Shape) (r r' : Response) : Prop where
  status : r'.status = r.status
  headers : r'.headers = r.headers
  body : ∃ v v', Value.parse? r.text = some v ∧ Relation.ReflTransGen s.Edit v v' ∧ Writes r'.text v'

/-- A response whose body is another one's with white space between its tokens. -/
structure Spread (r r' : Response) : Prop where
  status : r'.status = r.status
  headers : r'.headers = r.headers
  body : Respaced r.text r'.text

variable {r r' : Response} {call : Call}

theorem Edited.read {α : Type} [Form α] {s : Shape} (edited : Edited s r r') (fits : s.Fits α) {a : α}
    (answered : read? r.text = some a) : read? r'.text = some a := by
  obtain ⟨v,v',parsed,edits,writes⟩ := edited.body
  exact fits.tolerates.edited parsed edits writes answered

theorem Edited.not_blank {s : Shape} (edited : Edited s r r') :
    Text.isBlankText r.text = false ∧ Text.isBlankText r'.text = false := by
  obtain ⟨v,v',parsed,-,writes⟩ := edited.body
  exact ⟨Value.parsed_not_blank parsed,Value.parsed_not_blank writes.parse⟩

/-- The credentials that come in headers are those of the same headers. -/
theorem credential_same (headers : r'.headers = r.headers) (name : String) : credential? r' name = credential? r name := by
  rw [credential?,credential?,Response.header?,Response.header?,headers]

/-- An answer is read as before from a body that is changed as its shape allows for. -/
theorem readAnswer_edited (edited : Edited (bodyShape call) r r') : Keeps (readAnswer? r call) (readAnswer? r' call) := by
  intro a answered
  cases call with
  | authenticateDevice => exact edited.read LoginRequest.fits answered
  | registerDevice => exact edited.read Registration.fits answered
  | verifyCode => exact edited.read Credentials.fits answered
  | verifyPin => exact edited.read Credentials.fits answered
  | createAccount =>
    simp only [readAnswer?,credential_same edited.headers] at answered ⊢
    exact Keeps.bind (fun _ => edited.read NewAccountBody.fits) (fun _ => .refl _) a answered
  | verifyAccount => exact Keeps.bind (fun _ => edited.read AccountBody.fits) (fun _ => .refl _) a answered
  | submitEmail =>
    obtain ⟨some_text,some_text'⟩ := edited.not_blank
    simp only [readAnswer?,some_text,some_text',Bool.false_eq_true,if_false] at answered ⊢
    exact edited.read Credentials.fits answered

/-- White space between the tokens of a body changes no answer. -/
theorem readAnswer_spread (spread : Spread r r') : readAnswer? r' call = readAnswer? r call := by
  cases call with
  | createAccount => simp only [readAnswer?,credential_same spread.headers,spread.body.read]
  | submitEmail => simp only [readAnswer?,spread.body.blank,spread.body.read]
  | _ => simp only [readAnswer?,spread.body.read]

/-- A call is answered as before, and an error is reported as before, when the body is changed as its shape allows for
    or white space is put between its tokens. -/
theorem answer_tolerant (call : Call) (r r' : Response) :
    (Edited (bodyShape call) r r' → ∀ a, answer call r = .ok a → answer call r' = .ok a) ∧
    (Edited ErrorBody.shape r r' → ∀ body : ErrorBody, read? r.text = some body → serviceError r' = serviceError r) ∧
    (Spread r r' → answer call r' = answer call r) := by
  refine ⟨fun edited a answered => ?_,fun edited body found => ?_,fun spread => ?_⟩
  · rw [answer] at answered ⊢
    rw [edited.status]
    split_ifs at answered ⊢ with success
    cases found : readAnswer? r call with
    | none => rw [found] at answered; cases answered
    | some b =>
      rw [found] at answered
      cases answered
      rw [readAnswer_edited edited a found]
  · rw [serviceError,serviceError,edited.read ErrorBody.fits found,found,edited.status]
  · rw [answer,answer,serviceError,serviceError,readAnswer_spread spread,spread.status,spread.body.read]

end RestGateway

/-- Whatever order the members of a record come in, whatever members of other keys and any values are among them,
    whichever fields are left out in place of their defaults, in all records of a body or of a stored session, and
    whatever white space stands between the tokens: what could be read is read as the same, as the answer to a call, as
    the error of a response and as the session. -/
theorem bodies_tolerate :
    (Tolerates LoginRequest LoginRequest.shape ∧ Tolerates Registration Registration.shape ∧
      Tolerates Credentials Credentials.shape ∧ Tolerates NewAccountBody NewAccountBody.shape ∧
      Tolerates AccountBody AccountBody.shape ∧ Tolerates ErrorBody ErrorBody.shape ∧
      Tolerates SessionRecord SessionRecord.shape) ∧
    (∀ call r r', (RestGateway.Edited (RestGateway.bodyShape call) r r' → ∀ a,
        RestGateway.answer call r = .ok a → RestGateway.answer call r' = .ok a) ∧
      (RestGateway.Edited ErrorBody.shape r r' → ∀ body : ErrorBody, read? r.text = some body →
        RestGateway.serviceError r' = RestGateway.serviceError r) ∧
      (RestGateway.Spread r r' → RestGateway.answer call r' = RestGateway.answer call r)) ∧
    (∀ t t' v v' s, Value.parse? t = some v → Relation.ReflTransGen SessionRecord.shape.Edit v v' → Writes t' v' →
      Session.Stored.decode t = some s → Session.Stored.decode t' = some s) ∧
    ∀ t t', Respaced t t' → Session.Stored.decode t' = Session.Stored.decode t := by
  refine ⟨⟨LoginRequest.fits.tolerates,Registration.fits.tolerates,Credentials.fits.tolerates,
    NewAccountBody.fits.tolerates,AccountBody.fits.tolerates,ErrorBody.fits.tolerates,SessionRecord.fits.tolerates⟩,
    RestGateway.answer_tolerant,?_,?_⟩
  · intro t t' v v' s parsed edits writes decoded
    rw [Session.Stored.decode_eq] at decoded ⊢
    obtain ⟨r,found,rfl⟩ := Option.map_eq_some_iff.mp decoded
    rw [SessionRecord.fits.tolerates.edited parsed edits writes found,Option.map_some]
  · intro t t' respaced
    rw [Session.Stored.decode_eq,Session.Stored.decode_eq,respaced.read]

/-- The answer to a code from a newer service, which tells more in nested values, before the members that are known. -/
def newerAnswer : Value :=
  .object [(some "issued",.array [.object [(some "user_id",.text "x")],.string none]),(some "user_id",.int 7),
    (some "oauth_token",.text "t")]

/-- A newer answer, without the secret that is `null`, is read as the older one. -/
theorem newer_answer_read : (read? newerAnswer.render : Option Credentials) = some { token := some "t", userId := 7 } := by
  have left_out : Credentials.shape.Edit (toJson ({ token := some "t", userId := 7 } : Credentials))
      (.object [(some "oauth_token",.text "t"),(some "user_id",.int 7)]) :=
    @Edit.leaveOut _ [(some "oauth_token",.text "t")] [(some "user_id",.int 7)] "oauth_token_secret" .null
      (.optional .plain) (List.mem_cons_of_mem _ List.mem_cons_self)
  have turned : Credentials.shape.Edit (.object [(some "oauth_token",.text "t"),(some "user_id",.int 7)])
      (.object [(some "user_id",.int 7),(some "oauth_token",.text "t")]) := .permute (.swap ..)
  have told : Credentials.shape.Edit (.object [(some "user_id",.int 7),(some "oauth_token",.text "t")]) newerAnswer :=
    @Edit.insert _ [] _ "issued" _ (by decide)
  have whole : newerAnswer.Whole := by
    simp [newerAnswer,Value.Whole,Value.tokens,Value.text,Value.int,memberTokens,moreMemberTokens,itemTokens,
      moreItemTokens,Token.Whole]
  exact bodies_tolerate.1.2.2.1.edited (Value.parse_render (toJson_whole _))
    (.tail (.tail (.single left_out) turned) told) (writes_render whole) (read_write _)

end PhoneSignIn
