import Mathlib.Data.List.Forall2
import PhoneSignIn.Http.Server
import PhoneSignIn.Proofs.Gateway.Classification
import PhoneSignIn.Proofs.Gateway.Request
import PhoneSignIn.Proofs.Json.Reader
import PhoneSignIn.Proofs.Secrecy.Body

/-!
Responses that differ in secrets. Responses to one call that are the same but for secrets (`ResponsesAlike`) are read
as alike answers (`answer_alike`), and alike calls make the same request (`request_alike`). So a gateway is blind to
secrets when its client brings such responses (`blind_over`), as servers do whose scripts differ in secrets
(`hides_servers`).
-/
namespace PhoneSignIn
open Json Http

variable {ν ν' : Type}

namespace RestGateway

/-! ### Responses -/

/-- Whether a header is the one with the secret of a new account. -/
def isSecretHeader (h : String × String) : Bool :=
  h.1.toList.map Char.toLower == "x-twitter-new-account-oauth-secret".toList

/-- Bodies of answers to a call that are the same but for secrets. The secret of credentials has characters in both or
    in neither, where it may also be missing. A token without a secret makes no account, so that of an account's token
    is a text in both, empty or not. -/
def BodiesAlike : Call → Value → Value → Prop
  | .verifyCode .. | .verifyPin .. | .submitEmail .. => Value.SameBut "oauth_token_secret" 1 SecretsAlike
  | .verifyAccount _ =>
    Value.SameBut "access_token" 0 (Option.Rel fun t t' => t = t' ∨ t.SameBut "secret" 1 TextsAlike t')
  | _ => Eq

/-- Responses to a call that are the same but for secrets: the header with a new account's secret may have any value or
    be missing, and a body that reports an error has no secret. -/
structure ResponsesAlike (c : Call) (r r' : Response) : Prop where
  status : r.status = r'.status
  headers : r.headers.filter (!isSecretHeader ·) = r'.headers.filter (!isSecretHeader ·)
  body : r.text = r'.text ∨ Status.isSuccess r.status = true ∧
    ∃ v v', Value.parse? r.text = some v ∧ Value.parse? r'.text = some v' ∧ BodiesAlike c v v'

variable {c c' : Call} {r r' : Response}

/-- The header with the token of a new account is another one. -/
theorem token_header (headers : r.headers.filter (!isSecretHeader ·) = r'.headers.filter (!isSecretHeader ·)) :
    credential? r "x-twitter-new-account-oauth-access-token" =
      credential? r' "x-twitter-new-account-oauth-access-token" := by
  let isToken (h : String × String) : Bool :=
    h.1.toList.map Char.toLower == "x-twitter-new-account-oauth-access-token".toList.map Char.toLower
  have other (h : String × String) (named : isToken h = true) : isSecretHeader h = false := by
    have name : h.1.toList.map Char.toLower = "x-twitter-new-account-oauth-access-token".toList.map Char.toLower :=
      beq_iff_eq.mp named
    rw [isSecretHeader,name]
    decide
  have found (r : Response) : r.headers.find? isToken = (r.headers.filter (!isSecretHeader ·)).find? isToken := by
    rw [List.find?_filter]
    refine congrArg (r.headers.find? ·) (funext fun h => ?_)
    cases named : isToken h with
    | false => simp
    | true => simp [other h named]
  have same : r.headers.find? isToken = r'.headers.find? isToken := by rw [found r,found r',headers]
  simp only [credential?,Response.header?]
  rw [show r.headers.find? (fun h => isToken h) = r'.headers.find? (fun h => isToken h) from same]

/-- What is read of two bodies that are the same, or alike in a way that their readings are. -/
theorem read_alike {α : Type} [Form α] {R : α → α → Prop} (refl : ∀ a, R a a) (responses : ResponsesAlike c r r')
    (bodies : ∀ v v', BodiesAlike c v v' → Option.Rel R (ofJson? v) (ofJson? v')) :
    Option.Rel R (read? r.text) (read? r'.text) := by
  rcases responses.body with same | ⟨-,v,v',parsed,parsed',alike⟩
  · rw [same]
    exact optionRel_refl refl _
  · simp only [read?,parsed,parsed']
    exact bodies v v' alike

/-! ### Answers -/

/-- Answers that are read as alike ones, or not at all. -/
theorem results_alike {α β : Type} {R : α → β → Prop} {o : Option α} {o' : Option β} (alike : Option.Rel R o o') :
    ResultsAlike R (o.elim (.error (CallError.malformed malformedReason)) .ok)
      (o'.elim (.error (CallError.malformed malformedReason)) .ok) := by
  cases alike with
  | some alike => exact .ok alike
  | none => exact .error _

theorem answer_text (responses : ResponsesAlike c r r') (whole : ∀ v v', BodiesAlike c v v' → v = v') :
    ∀ {α : Type} [Form α], (read? r.text : Option α) = read? r'.text := by
  intro α _
  rcases responses.body with same | ⟨-,v,v',parsed,parsed',alike⟩
  · rw [same]
  · simp only [read?,parsed,parsed',whole v v' alike]

/-- A response that reports an error has no secrets in its body. -/
theorem error_alike (responses : ResponsesAlike c r r') (failed : Status.isSuccess r.status = false) :
    serviceError r = serviceError r' := by
  rcases responses.body with same | ⟨success,-⟩
  · rw [serviceError,serviceError,same,responses.status]
  · rw [failed] at success
    cases success

/-- Bodies with credentials are read as alike ones, or not at all. -/
theorem credentials_read (responses : ResponsesAlike c r r')
    (bodies : ∀ v v', BodiesAlike c v v' → v.SameBut "oauth_token_secret" 1 SecretsAlike v') :
    Option.Rel Credentials.AlikeInKind (read? r.text) (read? r'.text) :=
  read_alike (fun _ => ⟨⟨rfl,rfl⟩,.rfl⟩) responses fun v v' alike => credentials_alike (bodies v v' alike)

/-- A new account's credentials come in headers, the token in another one than the secret. -/
theorem new_account_read {code phoneNumber : String}
    (responses : ResponsesAlike (.createAccount code phoneNumber) r r') :
    Option.Rel Credentials.Alike (readAnswer? r (.createAccount code phoneNumber))
      (readAnswer? r' (.createAccount code phoneNumber)) := by
  have body : (read? r.text : Option NewAccountBody) = read? r'.text := answer_text responses fun _ _ same => same
  have token := token_header responses.headers
  simp only [readAnswer?,body]
  refine optionRel_same _ fun body => ?_
  exact .some ⟨token,rfl⟩

/-- Bodies with accounts are read as alike ones, or not at all. -/
theorem account_read {s s' : Session} (responses : ResponsesAlike (.verifyAccount s) r r') :
    Option.Rel Account.Alike (readAnswer? r (.verifyAccount s)) (readAnswer? r' (.verifyAccount s')) := by
  have bodies := read_alike (fun _ => ⟨rfl,rfl,rfl,rfl⟩) responses fun _ _ alike => account_alike alike
  refine optionRel_bind bodies fun body body' same => ?_
  obtain ⟨token,id,phoneNumber,email⟩ := same
  exact .some ⟨token,id,phoneNumber,congrArg (·.filter (·.address ≠ "")) email⟩

/-- The answer to an email is blank in both of two alike bodies, or in neither. -/
theorem email_read {s s' : Session} {email : String} (responses : ResponsesAlike (.submitEmail s email) r r') :
    Option.Rel Credentials.Alike (readAnswer? r (.submitEmail s email)) (readAnswer? r' (.submitEmail s' email)) := by
  have blank : Text.isBlankText r.text = Text.isBlankText r'.text := by
    rcases responses.body with same | ⟨-,v,v',parsed,parsed',-⟩
    · rw [same]
    · rw [Value.parsed_not_blank parsed,Value.parsed_not_blank parsed']
  simp only [readAnswer?,blank]
  split
  · exact .some ⟨rfl,rfl⟩
  · have read := credentials_read responses fun _ _ alike => alike
    exact optionRel_mono (fun _ _ alike => alike.toAlike) read

/-- Alike responses to alike calls are alike answers. -/
theorem answer_alike (calls : c.Alike c') (responses : ResponsesAlike c r r') :
    c.AnswersAlike c' (answer c r) (answer c' r') := by
  cases success : Status.isSuccess r.status with
  | false =>
    have failed := error_alike responses success
    rw [answer,answer,success,← responses.status,success,failed]
    exact calls.refused _
  | true =>
    rw [answer_success success,answer_success (responses.status ▸ success)]
    cases calls with
    | same c =>
      cases c with
      | authenticateDevice phoneNumber channel =>
        have same : readAnswer? r (.authenticateDevice phoneNumber channel) = readAnswer? r' _ :=
          answer_text responses fun _ _ same => same
        rw [same]
        rfl
      | registerDevice phoneNumber channel =>
        have same : readAnswer? r (.registerDevice phoneNumber channel) = readAnswer? r' _ :=
          answer_text responses fun _ _ same => same
        rw [same]
        rfl
      | createAccount code phoneNumber => exact results_alike (new_account_read responses)
      | verifyCode requestId userId code => exact results_alike (credentials_read responses fun _ _ alike => alike)
      | verifyPin requestId userId pin =>
        have read := credentials_read responses fun _ _ alike => alike
        exact results_alike (optionRel_mono (fun _ _ alike => alike.toAlike) read)
      | verifyAccount s => exact results_alike (account_read responses)
      | submitEmail s email => exact results_alike (email_read responses)
    | verifyAccount sessions => exact results_alike (account_read responses)
    | submitEmail sessions email => exact results_alike (email_read responses)

/-! ### Gateways -/

/-- The gateway with another client. -/
def through (g : RestGateway ν) (network : ν') : RestGateway ν' :=
  { base := g.base, guestToken := g.guestToken, language := g.language, network }

@[simp] theorem through_network (g : RestGateway ν) (n : ν') : (g.through n).network = n := rfl

/-- Alike calls make the same request, whatever carries it. -/
theorem request_alike (g : RestGateway ν) (calls : c.Alike c') (n : ν) (n' : ν') :
    (g.through n).request c = (g.through n').request c' := by
  cases calls with
  | same c => rfl
  | @verifyAccount s s' sessions =>
    have token (guest : String) : token guest (.verifyAccount s) = token guest (.verifyAccount s') := sessions.token
    simp only [request,through,token]
    rfl
  | @submitEmail s s' sessions email =>
    have token (guest : String) : token guest (.submitEmail s email) = token guest (.submitEmail s' email) :=
      sessions.token
    simp only [request,through,token]
    rfl

/-- A relation of clients that bring the gateway responses which are the same but for secrets, now and later. -/
def Hides [Client ν] [Client ν'] (g : RestGateway ν) (R : ν → ν' → Prop) : Prop :=
  ∀ ⦃c : Call⦄ ⦃q : Request⦄ ⦃n : ν⦄ ⦃n' : ν'⦄, g.request c = .ok q → R n n' →
    ResultsAlike (ResponsesAlike c) (Client.send q n).1 (Client.send q n').1 ∧
      R (Client.send q n).2 (Client.send q n').2

/-- The gateway over two clients that are related. -/
inductive Over (g : RestGateway ν) (R : ν → ν' → Prop) : RestGateway ν → RestGateway ν' → Prop where
  | intro {n n'} (related : R n n') : Over g R (g.through n) (g.through n')

/-- A gateway over clients whose responses differ in secrets is blind to them. -/
theorem blind_over [Client ν] [Client ν'] {g : RestGateway ν} {R : ν → ν' → Prop} (hides : Hides g R) :
    Gateway.Blind (Over g R) := by
  rintro c c' _ _ calls ⟨related⟩
  rename_i n n'
  have requests : (g.through n).request c = (g.through n').request c' := request_alike g calls n n'
  simp only [Gateway.ask,ask,← requests]
  cases sent : (g.through n).request c with
  | error e => exact ⟨calls.refused e,.intro related⟩
  | ok q =>
    obtain ⟨responses,later⟩ := hides sent related
    simp only [through_network]
    revert responses
    generalize (Client.send q n).1 = r
    generalize (Client.send q n').1 = r'
    rintro (alike | e)
    · exact ⟨answer_alike calls alike,.intro later⟩
    · exact ⟨calls.refused _,.intro later⟩

/-! ### Servers -/

/-- A request goes to the path that the call's own leads to. -/
theorem request_path {g : RestGateway ν} {q : Request} (sent : g.request c = .ok q) :
    ∃ joined, g.base.join (pathOf c) = .ok joined ∧ q.url.path = joined.path := by
  obtain ⟨joined,found,rfl⟩ := request_ok sent
  obtain ⟨authority,same⟩ := takeCredentials_url joined
  refine ⟨joined,found,?_⟩
  simp only [withQuery,same]
  split <;> rfl

theorem ResponsesAlike.refl (c : Call) (r : Response) : ResponsesAlike c r r := ⟨rfl,rfl,.inl rfl⟩

/-- Replies that are the same but for secrets to every call of the gateway that they fit. -/
inductive RepliesAlike (g : RestGateway ν) : Option String × Reply → Option String × Reply → Prop where
  | same (p) : RepliesAlike g p p
  | respond {wanted r r'}
    (responses : ∀ c q, g.request c = .ok q → wanted.all (· == q.url.path.text) = true → ResponsesAlike c r r') :
    RepliesAlike g (wanted,.respond r) (wanted,.respond r')

/-- Servers with scripts that are the same but for secrets, to which the same requests came. -/
structure ServersAlike (g : RestGateway ν) (n n' : Server) : Prop where
  replies : List.Forall₂ (RepliesAlike g) n.replies n'.replies
  received : n.received = n'.received

/-- What a client brings of a reply to a request. -/
def brought (q : Request) : Reply → Except Failure Response
  | .respond r => .ok r
  | .hangUp => .error q.unanswered

theorem brought_refl (c : Call) (q : Request) (reply : Reply) :
    ResultsAlike (ResponsesAlike c) (brought q reply) (brought q reply) := by
  cases reply with
  | respond r => exact .ok (.refl c r)
  | hangUp => exact .error _

theorem take_alike {g : RestGateway ν} {q : Request} (sent : g.request c = .ok q) {l l' : List (Option String × Reply)}
    (alike : List.Forall₂ (RepliesAlike g) l l') :
    ResultsAlike (ResponsesAlike c) (brought q (Server.take q.url.path.text l).1)
        (brought q (Server.take q.url.path.text l').1) ∧
      List.Forall₂ (RepliesAlike g) (Server.take q.url.path.text l).2 (Server.take q.url.path.text l').2 := by
  induction alike with
  | nil => exact ⟨.ok (.refl c _),.nil⟩
  | @cons p p' l l' first rest ih =>
    cases first with
    | same =>
      rw [Server.take,Server.take]
      split
      · exact ⟨brought_refl c q _,rest⟩
      · exact ⟨ih.1,.cons (.same _) ih.2⟩
    | respond responses =>
      rw [Server.take,Server.take]
      split
      · next fits => exact ⟨.ok (responses c q sent fits),rest⟩
      · exact ⟨ih.1,.cons (.respond responses) ih.2⟩

/-- Servers whose scripts differ in secrets bring responses that do, to the requests that come to both. -/
theorem hides_servers (g : RestGateway Server) : g.Hides (ServersAlike g) := by
  intro c q n n' sent alike
  obtain ⟨responses,replies⟩ := take_alike sent alike.replies
  have sends (n : Server) : Client.send q n =
      (brought q (Server.take q.url.path.text n.replies).1,
        { replies := (Server.take q.url.path.text n.replies).2, received := n.received ++ [q] }) := by
    simp only [Client.send]
    generalize (Server.take q.url.path.text n.replies) = taken
    obtain ⟨reply,replies⟩ := taken
    cases reply <;> rfl
  rw [sends n,sends n']
  exact ⟨responses,replies,congrArg (· ++ [q]) alike.received⟩

end RestGateway

end PhoneSignIn
