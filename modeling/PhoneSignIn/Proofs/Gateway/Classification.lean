import PhoneSignIn.Gateway.Rest
import PhoneSignIn.Http.Server
import PhoneSignIn.Proofs.Flow.Provenance
import PhoneSignIn.Proofs.Http.Header
import PhoneSignIn.Proofs.Json.Reader

/-!
How responses are answered that the service has sent. Outside the class 2xx a response is an error of the service, the
first that its body reports or else its status, whatever the body is (`ask_failed`). Within the class it is an answer
when its body is of the call's form (`Reads`), with the credentials that its headers show (`Shows`), and malformed
otherwise (`ask_succeeded`). So only a response that reports the code of unknown devices makes a device unknown
(`ask_unknownDevice`), and a number is registered in the turns in which a login was answered so, and in no others
(`responses_classified`).
-/
namespace PhoneSignIn
open Http Json

/-- Whether an error is of a kind that the service reports, with a code or with the status alone. -/
def CallError.FromService : CallError → Prop
  | .unreachable _ | .malformed _ => False
  | _ => True

theorem CallError.ofCode_fromService (code : Int32) (message : String) (features : Option Features) :
    (ofCode code message features).FromService := by
  rw [ofCode]
  split_ifs <;> trivial

theorem CallError.ofCode_unknownDevice {code : Int32} {message m : String} {features : Option Features}
    (unknown : ofCode code message features = .unknownDevice m) : code = ErrorCode.unknownDevice := by
  rw [ofCode] at unknown
  split_ifs at unknown with known
  exact known

namespace RestGateway

variable {ν : Type} {g : RestGateway ν} {call : Call} {r : Response}

/-! ### What responses say -/

/-- Whether a response tells of success. -/
def IsSuccess (r : Response) : Prop := 200 ≤ r.status ∧ r.status < 300

/-- The body of a response reports errors, and this is the first. -/
def Reports (r : Response) (entry : ErrorEntry) (features : Option Features) : Prop :=
  ∃ others, read? r.text = some ({ errors := entry :: others, features } : ErrorBody)

/-- The first of these headers that has a name shows a credential: a text that is not empty, of the visible characters
    of ASCII, spaces and tabs. -/
def Shows (headers : List (String × String)) (name v : String) : Prop :=
  Says name v headers ∧ (∀ c ∈ v.toList, c = '\t' ∨ ' ' ≤ c ∧ c ≤ '~') ∧ v ≠ ""

/-- The answer that the body of a response holds. The credentials of a new account are in the headers only, an empty
    address is none, and to an address that was submitted a blank body is an answer as well. -/
inductive Reads (r : Response) : (call : Call) → call.Answer → Prop where
  | login {number channel} {a : LoginRequest} (decoded : read? r.text = some a) :
    Reads r (.authenticateDevice number channel) a
  | registration {number channel} {a : Registration} (decoded : read? r.text = some a) :
    Reads r (.registerDevice number channel) a
  | newAccount {code number} {body : NewAccountBody} {token secret : Option String} (decoded : read? r.text = some body)
    (token_shown : ∀ v, token = some v ↔ Shows r.headers "x-twitter-new-account-oauth-access-token" v)
    (secret_shown : ∀ v, secret = some v ↔ Shows r.headers "x-twitter-new-account-oauth-secret" v) :
    Reads r (.createAccount code number) ⟨token,secret,body.id⟩
  | code {requestId userId code} {a : Credentials} (decoded : read? r.text = some a) :
    Reads r (.verifyCode requestId userId code) a
  | pin {requestId userId pin} {a : Credentials} (decoded : read? r.text = some a) :
    Reads r (.verifyPin requestId userId pin) a
  | account {session} {body : AccountBody} {email : Option Email} (decoded : read? r.text = some body)
    (addressed : ∀ m, email = some m ↔ body.email = some m ∧ m.address ≠ "") :
    Reads r (.verifyAccount session) ⟨body.accessToken,body.id,body.phoneNumber,email⟩
  | noCredentials {session address} (blank : Text.isBlankText r.text = true) : Reads r (.submitEmail session address) {}
  | credentials {session address} {a : Credentials} (decoded : read? r.text = some a) :
    Reads r (.submitEmail session address) a

/-- What a response has as a credential is what its headers show. -/
theorem credential_iff {name v : String} : credential? r name = some v ↔ Shows r.headers name v := by
  have visible : isReadable v = true ↔ ∀ c ∈ v.toList, c = '\t' ∨ ' ' ≤ c ∧ c ≤ '~' := by
    have range (c : Char) : ' ' ≤ c ∧ c ≤ '~' ↔ 0x20 ≤ c.toNat ∧ c.toNat < 0x7F := by
      rw [Char.le_def,Char.le_def,UInt32.le_iff_toNat_le,UInt32.le_iff_toNat_le]
      exact and_congr_right fun _ => Nat.lt_succ_iff.symm
    simp [isReadable,range]
  rw [credential?,Option.filter_eq_some_iff,Option.filter_eq_some_iff,header_iff,Shows,visible,and_assoc]
  simp

/-- What is decoded from a body is in no blank body. -/
theorem not_blank {α : Type} [Form α] {text : String} {a : α} (decoded : read? text = some a) :
    Text.isBlankText text = false := by
  obtain ⟨v,parsed,-⟩ := Option.bind_eq_some_iff.mp decoded
  exact Value.parsed_not_blank parsed

theorem readAnswer_iff {a : call.Answer} : readAnswer? r call = some a ↔ Reads r call a := by
  cases call with
  | authenticateDevice => exact ⟨.login,fun | .login decoded => decoded⟩
  | registerDevice => exact ⟨.registration,fun | .registration decoded => decoded⟩
  | verifyCode => exact ⟨.code,fun | .code decoded => decoded⟩
  | verifyPin => exact ⟨.pin,fun | .pin decoded => decoded⟩
  | createAccount code number =>
    constructor
    · intro read
      obtain ⟨body,decoded,made⟩ := Option.bind_eq_some_iff.mp read
      cases made
      exact .newAccount decoded (fun _ => credential_iff) fun _ => credential_iff
    · intro reads
      cases reads with
      | @newAccount _ _ body token secret decoded token_shown secret_shown =>
        have token : credential? r "x-twitter-new-account-oauth-access-token" = token := by
          ext v
          rw [token_shown,credential_iff]
        have secret : credential? r "x-twitter-new-account-oauth-secret" = secret := by
          ext v
          rw [secret_shown,credential_iff]
        refine Option.bind_eq_some_iff.mpr ⟨body,decoded,?_⟩
        rw [token,secret]
        rfl
  | verifyAccount session =>
    constructor
    · intro read
      obtain ⟨body,decoded,made⟩ := Option.bind_eq_some_iff.mp read
      cases made
      exact .account decoded fun m => by simp [Option.filter_eq_some_iff]
    · intro reads
      cases reads with
      | @account _ body email decoded addressed =>
        have same : body.email.filter (·.address ≠ "") = email := by
          ext m
          simp [Option.filter_eq_some_iff,addressed]
        refine Option.bind_eq_some_iff.mpr ⟨body,decoded,?_⟩
        rw [same]
        rfl
  | submitEmail session address =>
    rw [readAnswer?]
    by_cases blank : Text.isBlankText r.text = true
    · rw [if_pos blank]
      constructor
      · rintro ⟨⟩
        exact .noCredentials blank
      · intro reads
        cases reads with
        | noCredentials => rfl
        | credentials decoded => simp [not_blank decoded] at blank
    · rw [if_neg blank]
      constructor
      · exact .credentials
      · intro reads
        cases reads with
        | noCredentials blank' => exact absurd blank' blank
        | credentials decoded => exact decoded

/-- A successful response answers with what is read of it. -/
theorem answer_success (success : Status.isSuccess r.status = true) :
    answer call r = (readAnswer? r call).elim (.error (.malformed malformedReason)) .ok := by
  rw [answer,if_pos success]
  cases readAnswer? r call <;> rfl

theorem serviceError_reported {entry : ErrorEntry} {features : Option Features} (reports : Reports r entry features) :
    serviceError r = .ofCode entry.code entry.message features := by
  obtain ⟨others,decoded⟩ := reports
  rw [serviceError,decoded]

theorem serviceError_silent (silent : ∀ entry features, ¬Reports r entry features) :
    serviceError r = .service ErrorCode.unknown (Status.text r.status) := by
  rw [serviceError]
  split
  · rename_i decoded
    exact absurd ⟨_,decoded⟩ (silent _ _)
  · rfl

/-- The error of a response is the one that it reports, or its status. -/
theorem serviceError_cases (r : Response) :
    (∃ entry features, Reports r entry features ∧ serviceError r = .ofCode entry.code entry.message features) ∨
      serviceError r = .service ErrorCode.unknown (Status.text r.status) := by
  by_cases silent : ∀ entry features, ¬Reports r entry features
  · exact .inr (serviceError_silent silent)
  · push Not at silent
    obtain ⟨entry,features,reports⟩ := silent
    exact .inl ⟨entry,features,reports,serviceError_reported reports⟩

/-! ### Responses that are received -/

section
variable [Client ν]

/-- The client brings this response to a call, once it is made. -/
def Receives (g : RestGateway ν) (call : Call) (r : Response) : Prop :=
  ∃ request, g.request call = .ok request ∧ (Client.send request g.network).1 = .ok r

theorem ask_received (received : Receives g call r) : (g.ask call).1 = answer call r := by
  obtain ⟨request,made,brought⟩ := received
  simp only [ask,made,brought]

theorem ask_failed (received : Receives g call r) (failed : ¬IsSuccess r) :
    (g.ask call).1 = .error (serviceError r) := by
  have failed' : Status.isSuccess r.status = false := by simpa [Status.isSuccess,IsSuccess] using failed
  rw [ask_received received,answer,failed',if_neg Bool.false_ne_true]

theorem ask_succeeded (received : Receives g call r) (success : IsSuccess r) :
    (g.ask call).1 = (readAnswer? r call).elim (.error (.malformed malformedReason)) .ok := by
  have success' : Status.isSuccess r.status = true := by simpa [Status.isSuccess,IsSuccess] using success
  rw [ask_received received,answer_success success']

/-- A call to which no response is received fails before the service has said anything. -/
theorem ask_unanswered {e : CallError} (failed : (g.ask call).1 = .error e) (unanswered : ∀ r, ¬Receives g call r) :
    (∃ m, e = .fatal m) ∨ (∃ m, e = .unreachable m) ∨ ∃ m, e = .malformed m := by
  cases made : g.request call with
  | error e' =>
    simp only [ask,made,Except.error.injEq] at failed
    subst failed
    rw [request] at made
    split at made
    · cases made
      exact .inl ⟨_,rfl⟩
    · simp only [unsendable] at made
      split_ifs at made <;> cases made <;> exact .inr (.inl ⟨_,rfl⟩)
  | ok request =>
    cases brought : (Client.send request g.network).1 with
    | ok r => exact absurd ⟨request,made,brought⟩ (unanswered r)
    | error failure =>
      simp only [ask,made,brought,Except.error.injEq] at failed
      subst failed
      cases failure with
      | unanswered => exact .inr (.inl ⟨_,rfl⟩)
      | unreadable => exact .inr (.inr ⟨_,rfl⟩)

/-- A device is unknown if and only if a response says so that tells of no success. -/
theorem ask_unknownDevice : (∃ m, (g.ask call).1 = .error (.unknownDevice m)) ↔ ∃ r, Receives g call r ∧ ¬IsSuccess r ∧
    ∃ entry features, Reports r entry features ∧ entry.code = ErrorCode.unknownDevice := by
  constructor
  · rintro ⟨m,unknown⟩
    by_cases unanswered : ∀ r, ¬Receives g call r
    · rcases ask_unanswered unknown unanswered with ⟨_,other⟩ | ⟨_,other⟩ | ⟨_,other⟩ <;> cases other
    · push Not at unanswered
      obtain ⟨r,received⟩ := unanswered
      refine ⟨r,received,?_⟩
      by_cases success : IsSuccess r
      · rw [ask_succeeded received success] at unknown
        cases read : readAnswer? r call <;> rw [read] at unknown <;> cases unknown
      · refine ⟨success,?_⟩
        rw [ask_failed received success] at unknown
        rcases serviceError_cases r with ⟨entry,features,reports,error⟩ | error
        · rw [error] at unknown
          exact ⟨entry,features,reports,CallError.ofCode_unknownDevice (Except.error.inj unknown)⟩
        · rw [error] at unknown
          cases unknown
  · rintro ⟨r,received,failed,entry,features,reports,code⟩
    refine ⟨entry.message,?_⟩
    rw [ask_failed received failed,serviceError_reported reports,CallError.ofCode,if_pos code]

end

end RestGateway

/-! ### Numbers that are registered -/

namespace Flow

variable {γ σ : Type}

/-- The call with which a phone step has the number registered that the user sends. -/
def PhoneStep.secondCall (p : PhoneStep) (input : String) : Call :=
  .registerDevice (fullNumber p.countryCode (Text.trim input)) p.channel

/-- The calls that were made during a turn. -/
def Turn.calls (t : Turn γ σ) : List Call := t.happened.filterMap Occurrence.call?

section
variable [Gateway γ] [SessionStore σ]

/-- The gateway tells that the device is unknown, when it is asked now for a login. -/
def World.Unknown (w : World γ σ) (number : String) (channel : Channel) : Prop :=
  ∃ m, (Gateway.ask (.authenticateDevice number channel) w.gateway).1 = .error (.unknownDevice m)

omit [Gateway γ] [SessionStore σ] in
/-- After a login was asked for, a registration is if the answer was that the device is unknown, and else nothing. -/
theorem PhoneStep.Sends.calls {p p' : PhoneStep} {channel : Channel} {first : Occurrence} {l : List Occurrence}
    {fin : Finale} (sends : p.Sends channel p' (first :: l) fin) : ∃ answer : Except CallError LoginRequest,
      first = .asked (.authenticateDevice p.phoneNumber channel) answer ∧
      (l.filterMap Occurrence.call? = [] ∧ (∀ m, answer ≠ .error (.unknownDevice m)) ∨
        l.filterMap Occurrence.call? = [.registerDevice p.phoneNumber channel] ∧
          ∃ m, answer = .error (.unknownDevice m)) := by
  cases sends with
  | refused e known =>
    refine ⟨_,rfl,.inl ⟨rfl,?_⟩⟩
    rintro m ⟨⟩
    exact known rfl
  | carrierRefused m f => exact ⟨_,rfl,.inl ⟨rfl,nofun⟩⟩
  | loginStarted r => exact ⟨_,rfl,.inl ⟨rfl,nofun⟩⟩
  | registrationRefused m e => exact ⟨_,rfl,.inr ⟨rfl,m,rfl⟩⟩
  | registered m r => exact ⟨_,rfl,.inr ⟨rfl,m,rfl⟩⟩

/-- A phone step asks for nothing, for a login alone when the device is known, or for a login and a registration when
    it is not. -/
theorem PhoneStep.submit_calls (p : PhoneStep) (input : String) {w : World γ σ} (empty : w.history = []) :
    let calls := ((p.submit input).run w).2.history.filterMap Occurrence.call?
    let unknown := w.Unknown (fullNumber p.countryCode (Text.trim input)) p.channel
    calls = [] ∨ calls = [p.firstCall input] ∧ ¬unknown ∨ calls = [p.firstCall input,p.secondCall input] ∧ unknown := by
  intro calls unknown
  by_cases accepted : p.core.isClosed = false ∧ Text.trim input ≠ ""
  · right
    obtain ⟨p',l,g,fin,sends,ran⟩ := PhoneStep.submit_run accepted.1 accepted.2 w
    have kept : p'.core.budget = p.core.budget := by
      obtain ⟨_,_,core⟩ := sends.core
      rw [core]
      rfl
    have ran := ran p.core.budget.count w (.refl w)
    rw [p.recount_same rfl,p'.recount_same (by rw [kept])] at ran
    have unspent : p'.core.budget.spent = false := by
      rw [kept]
      exact StepState.unspent_of_open accepted.1
    obtain ⟨m,c',w',ends,concluded⟩ := conclude_run unspent fin
      (w.advance g w.store (p.attempt :: w.asking (p.firstCall input) :: l))
    obtain ⟨rest,history,quiet⟩ := ends.uncalled
    have made : calls = p.firstCall input :: l.filterMap Occurrence.call? := by
      simp only [calls,ran,PhoneStep.conclude,map_run,concluded,history,World.advance_history,empty,List.nil_append,
        List.filterMap_append,List.filterMap_eq_nil_iff.mpr quiet,List.append_nil]
      simp [World.asking]
    obtain ⟨answer,asked,later⟩ := sends.calls
    have answered : (Gateway.ask (p.firstCall input) w.gateway).1 = answer := eq_of_heq (Occurrence.asked.inj asked).2
    rcases later with ⟨none,known⟩ | ⟨second,m,refused⟩
    · refine .inl ⟨by rw [made,none],?_⟩
      rintro ⟨m,refused⟩
      exact known m (answered.symm.trans refused)
    · exact .inr ⟨by rw [made,second]; rfl,m,answered.trans refused⟩
  · left
    have ignored : (OpenStep.phone p).accepts input = false := by
      simpa [OpenStep.accepts,OpenStep.core] using accepted
    obtain ⟨s',-,ran⟩ := OpenStep.submit_ignored ignored w
    rw [OpenStep.submit,map_run] at ran
    have same : ((p.submit input).run w).2 = w := (Prod.mk.inj ran).2
    simp [calls,same,empty]

/-- A login is asked for by phone steps only. -/
theorem OpenStep.Calls.login_phone {o : OpenStep} {text number : String} {channel : Channel} {st : σ}
    {l : List Occurrence} (calls : o.Calls text st l (.authenticateDevice number channel)) : ∃ p, o = .phone p := by
  cases calls with
  | authenticate step => exact ⟨_,step⟩

/-- A registration is asked for by phone steps only. -/
theorem OpenStep.Calls.registration_phone {o : OpenStep} {text number : String} {channel : Channel} {st : σ}
    {l : List Occurrence} (calls : o.Calls text st l (.registerDevice number channel)) : ∃ p, o = .phone p := by
  cases calls with
  | register step => exact ⟨_,step⟩

/-- In a turn in which no phone step is submitted, none of the calls is made that phone steps make only. -/
theorem Turn.not_called {s : Scene γ σ} {acts : List Act} {t : Turn γ σ} (member : t ∈ s.run acts)
    (elsewhere : ∀ i input o p, t.act = .submit i input → t.before.steps[i]? = some o → o.step ≠ .phone p) {call : Call}
    (stepwise : ∀ session, call ≠ .verifyAccount session)
    (phones : ∀ {o : OpenStep} {text : String} {st : σ} {l : List Occurrence}, o.Calls text st l call →
      ∃ p, o = .phone p) : call ∉ t.calls := by
  intro called
  rcases (Scene.run_makes member).calls rfl called with ⟨i,input,o,act,found,calls⟩ | ⟨session,-,verified⟩
  · obtain ⟨p,step⟩ := phones calls
    exact elsewhere i input o p act found step
  · exact stepwise session verified

/-- What is called in a turn in which a phone step is submitted is what the submit calls. -/
theorem Turn.phone_calls {s : Scene γ σ} {acts : List Act} {t : Turn γ σ} (member : t ∈ s.run acts) {i : Nat}
    {input : String} {o : Opened} {p : PhoneStep} (act : t.act = .submit i input)
    (found : t.before.steps[i]? = some o) (step : o.step = .phone p) :
    t.calls = ((p.submit input).run t.before.still.world).2.history.filterMap Occurrence.call? := by
  have found' : t.before.still.steps[i]? = some o := found
  rw [Turn.calls,Turn.happened,Scene.run_turn member,act]
  simp only [Scene.turn,Scene.does,Scene.onStep,found',Scene.perform,Scene.follow_world,step,OpenStep.submit,map_run]
  rfl

/-- In a turn a number is registered if and only if a login with it was asked for by the same channel, and the gateway
    does not know the device. -/
theorem Turn.registers_iff {s : Scene γ σ} {acts : List Act} {t : Turn γ σ} (member : t ∈ s.run acts) (number : String)
    (channel : Channel) : .registerDevice number channel ∈ t.calls ↔
      .authenticateDevice number channel ∈ t.calls ∧ t.before.world.Unknown number channel := by
  by_cases phone : ∃ i input o p, t.act = .submit i input ∧ t.before.steps[i]? = some o ∧ o.step = .phone p
  · obtain ⟨i,input,o,p,act,found,step⟩ := phone
    have made := p.submit_calls input (w := t.before.still.world) rfl
    rw [← phone_calls member act found step] at made
    rcases made with none | ⟨one,known⟩ | ⟨two,unknown⟩
    · simp [none]
    · rw [one]
      simp only [PhoneStep.firstCall,List.mem_singleton,reduceCtorEq,Call.authenticateDevice.injEq,false_iff]
      rintro ⟨⟨rfl,rfl⟩,unknown⟩
      exact known unknown
    · rw [two]
      simp only [PhoneStep.firstCall,PhoneStep.secondCall,List.mem_cons,reduceCtorEq,Call.registerDevice.injEq,
        Call.authenticateDevice.injEq,List.not_mem_nil,or_false,false_or]
      constructor
      · rintro ⟨rfl,rfl⟩
        exact ⟨⟨rfl,rfl⟩,unknown⟩
      · exact And.left
  · have elsewhere := fun i input o p act found step => phone ⟨i,input,o,p,act,found,step⟩
    have first : .authenticateDevice number channel ∉ t.calls :=
      not_called member elsewhere (by simp) OpenStep.Calls.login_phone
    have second : .registerDevice number channel ∉ t.calls :=
      not_called member elsewhere (by simp) OpenStep.Calls.registration_phone
    simp [first,second]

end
end Flow

namespace RestGateway
open PhoneSignIn.Flow

/-- A response outside the class 2xx is the error that its body reports first, with the features beside the errors, and
    where it reports none, an unknown error with the status as its text; so it is an error of the service. A response
    of the class is the answer that its body holds, and where it holds none, it is malformed; so it is none of the
    service's errors. Hence in every run a number is registered in a turn if and only if the service has refused a login
    with it then, by a response outside the class whose first error has the code 32. -/
theorem responses_classified [Client ν] :
    (∀ (g : RestGateway ν) (call : Call) (r : Response), Receives g call r →
      (¬IsSuccess r →
        (∀ entry features, Reports r entry features →
          (g.ask call).1 = .error (.ofCode entry.code entry.message features)) ∧
        ((∀ entry features, ¬Reports r entry features) →
          (g.ask call).1 = .error (.service (-1) (Status.text r.status))) ∧
        ∃ e, (g.ask call).1 = .error e ∧ e.FromService) ∧
      (IsSuccess r →
        (∀ a, (g.ask call).1 = .ok a ↔ Reads r call a) ∧
        ((∀ a, ¬Reads r call a) → (g.ask call).1 = .error (.malformed malformedReason)) ∧
        ∀ e, (g.ask call).1 = .error e → ¬e.FromService)) ∧
    ∀ (σ : Type) [SessionStore σ] (s : Scene (RestGateway ν) σ) (acts : List Act), ∀ t ∈ s.run acts,
      ∀ number channel, .registerDevice number channel ∈ t.calls ↔ .authenticateDevice number channel ∈ t.calls ∧
        ∃ r, Receives t.before.world.gateway (.authenticateDevice number channel) r ∧ ¬IsSuccess r ∧
          ∃ entry features, Reports r entry features ∧ entry.code = 32 := by
  refine ⟨fun g call r received => ⟨fun failed => ?_,fun success => ?_⟩,fun σ _ s acts t member number channel => ?_⟩
  · rw [ask_failed received failed]
    refine ⟨fun entry features reports => congrArg _ (serviceError_reported reports),
      fun silent => congrArg _ (serviceError_silent silent),_,rfl,?_⟩
    rcases serviceError_cases r with ⟨entry,features,-,error⟩ | error
    · rw [error]
      exact CallError.ofCode_fromService _ _ _
    · rw [error]
      trivial
  · rw [ask_succeeded received success]
    simp only [← readAnswer_iff]
    cases readAnswer? r call with
    | some a => simp
    | none => simp [CallError.FromService]
  · rw [Turn.registers_iff member]
    exact and_congr_right fun _ => ask_unknownDevice

/-- A server that refuses a login with the code of unknown devices, and has the number registered in the same turn; one
    that has an account made, whose token is in the first of two headers and whose secret is in none; and one that
    answers with a page that is no error of the service. -/
theorem unknown_number_registered :
    let refusal : Response := { status := 401, body := Text.Utf8.encode "\x7b\"errors\":[\x7b\"code\":32\x7d]\x7d" }
    let registered : Response := { body := Text.Utf8.encode "\x7b\x7d" }
    let created : Response :=
      { headers := [("X-Twitter-New-Account-OAuth-Access-Token"," 7-key\t"),
          ("x-twitter-new-account-oauth-access-token","other"),("x-twitter-new-account-oauth-secret"," ")]
        body := Text.Utf8.encode "\x7b\"id\":7\x7d" }
    let page : Response := { status := 502, body := Text.Utf8.encode "<html>bad gateway</html>" }
    let service (replies : List Response) : RestGateway Server :=
      { base := { scheme := "https", authority := some { host := .domain "a.example" }, path := .segments [""] }
        network := { replies := replies.map fun r => (none,.respond r) } }
    let s : Scene (RestGateway Server) MemoryStore :=
      { world := { gateway := service [refusal,registered], store := {}, host := some 1 } }
    ((service [refusal]).ask (.authenticateDevice "+15" .sms)).1 = .error (.unknownDevice "") ∧
      (∃ t ∈ s.run (Act.logIn.take 3), .registerDevice "+15" .sms ∈ t.calls) ∧
      ((service [created]).ask (.createAccount "123" "+15")).1 = .ok ⟨some "7-key",none,7⟩ ∧
      ((service [page]).ask (.createAccount "123" "+15")).1 = .error (.service (-1) "502 Bad Gateway") := by
  intro refusal registered created page service s
  have receives (r : Response) (rest : List Response) {call : Call}
      (possible : ((service []).request call).toBool = true) : Receives (service (r :: rest)) call r := by
    cases made : (service []).request call with
    | ok request => exact ⟨request,made,rfl⟩
    | error e => simp [made,Except.toBool] at possible
  have refused (rest : List Response) : Receives (service (refusal :: rest)) (.authenticateDevice "+15" .sms) refusal :=
    receives refusal rest (by decide +kernel)
  have answers (r : Response) : Receives (service [r]) (.createAccount "123" "+15") r := receives r [] (by decide +kernel)
  have failed : ¬IsSuccess refusal := by simp [IsSuccess,refusal]
  have reports : Reports refusal ⟨32,""⟩ none := ⟨[],by decide +kernel⟩
  refine ⟨?_,?_,?_,?_⟩
  · have unknown : CallError.ofCode 32 "" none = .unknownDevice "" := if_pos rfl
    exact (((responses_classified.1 _ _ refusal (refused [])).1 failed).1 _ _ reports).trans (congrArg _ unknown)
  · let t := (s.run (Act.logIn.take 3))[2]
    have member : t ∈ s.run (Act.logIn.take 3) := List.getElem_mem _
    have asked : .authenticateDevice "+15" .sms ∈ t.calls := by decide +kernel
    have gateway : t.before.world.gateway = service [refusal,registered] := rfl
    refine ⟨t,member,?_⟩
    refine (responses_classified.2 MemoryStore s _ t member "+15" .sms).mpr ⟨asked,refusal,?_,failed,_,_,reports,rfl⟩
    rw [gateway]
    exact refused _
  · refine (((responses_classified.1 _ _ created (answers created)).2 (by simp [IsSuccess,created])).1 _).mpr ?_
    have decoded : read? created.text = some (⟨7⟩ : NewAccountBody) := by decide +kernel
    have token : credential? created "x-twitter-new-account-oauth-access-token" = some "7-key" := by decide +kernel
    have secret : credential? created "x-twitter-new-account-oauth-secret" = none := by decide +kernel
    exact .newAccount decoded (fun v => by rw [← token,credential_iff]) fun v => by rw [← secret,credential_iff]
  · have status : Status.text page.status = "502 Bad Gateway" := by decide +kernel
    rw [← status]
    refine ((responses_classified.1 _ _ page (answers page)).1 (by simp [IsSuccess,page])).2.1 ?_
    have undecoded : (read? page.text : Option ErrorBody) = none := by decide +kernel
    rintro entry features ⟨others,decoded⟩
    rw [undecoded] at decoded
    cases decoded

end RestGateway
end PhoneSignIn
