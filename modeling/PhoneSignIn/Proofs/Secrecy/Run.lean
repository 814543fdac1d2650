import PhoneSignIn.Proofs.Flow.Scene
import PhoneSignIn.Proofs.Secrecy.Answer
import PhoneSignIn.Proofs.Secrecy.Operation

/-!
Runs that differ in secrets. What is done alike in alike scenes is answered alike and leaves alike scenes
(`does_alike`), so two runs that differ in secrets take the same way, turn by turn: with the same requests and
transitions, the same views and journal, and hosts that are told of the same but for secrets
(`secrets_decide_nothing`). Of a malformed response it is only said that it is one, so where a reader gave up on it is
not compared. A secret that is missing from a token is another matter (`missing_secret_noticed`).
-/
namespace PhoneSignIn.Flow

variable {γ γ' σ ν ν' : Type}

/-! ### Acts and scenes -/

/-- Acts that are the same but for the secret of the session that is verified. -/
inductive Act.Alike : Act → Act → Prop where
  | same (act) : Alike act act
  | verify {s s'} (sessions : s.Alike s') : Alike (.verify s) (.verify s')

/-- Replies that are the same but for secrets. -/
inductive Reply.Alike : Reply → Reply → Prop where
  | same (reply) : Alike reply reply
  | already {s s'} (sessions : s.Alike s') : Alike (.already s) (.already s')
  | session {s s'} (sessions : Option.Rel Session.Alike s s') : Alike (.session s) (.session s')

/-- Scenes that are the same but for secrets, over related gateways. -/
structure Scene.Alike [SessionStore σ] [BlindStore σ] (G : γ → γ' → Prop) (s : Scene γ σ) (s' : Scene γ' σ) : Prop where
  world : s.world.Alike G s'.world
  steps : s.steps = s'.steps
  screens : s.screens = s'.screens
  received : s.received = s'.received

namespace Scene
variable [SessionStore σ] [BlindStore σ] {G : γ → γ' → Prop} {s : Scene γ σ} {s' : Scene γ' σ}

/-- What is answered and left is the same but for secrets. -/
def EndsAlike (G : γ → γ' → Prop) (e : Reply × Scene γ σ) (e' : Reply × Scene γ' σ) : Prop :=
  e.1.Alike e'.1 ∧ e.2.Alike G e'.2

theorem Alike.perform {α α' : Type} (alike : s.Alike G s') {R : α → α' → Prop} {op : Operation γ σ α}
    {op' : Operation γ' σ α'} (agrees : Agrees G R op op') :
    R (s.perform op).1 (s'.perform op').1 ∧ (s.perform op).2.Alike G (s'.perform op').2 := by
  obtain ⟨related,world⟩ := agrees alike.world
  exact ⟨related,{ alike with world }⟩

theorem Alike.follow (alike : s.Alike G s') (move : Move) : (s.follow move).Alike G (s'.follow move) := by
  cases move with
  | stay => exact alike
  | _ => exact { alike with received := rfl }

theorem Alike.setStep (alike : s.Alike G s') (i : Nat) (step : OpenStep) :
    (s.setStep i step).Alike G (s'.setStep i step) :=
  { alike with steps := congrArg (·.modify i fun o => { o with step }) alike.steps }

theorem Alike.onStep (alike : s.Alike G s') (i : Nat) {act : OpenStep → Reply × Scene γ σ}
    {act' : OpenStep → Reply × Scene γ' σ} (acts : ∀ o, EndsAlike G (act o) (act' o)) :
    EndsAlike G (s.onStep i act) (s'.onStep i act') := by
  rw [Scene.onStep,Scene.onStep,← alike.steps]
  split
  · exact acts _
  · exact ⟨.same _,alike⟩

theorem Alike.onScreen (alike : s.Alike G s') (i : Nat) {act : FailureScreen → Reply × Scene γ σ}
    {act' : FailureScreen → Reply × Scene γ' σ} (acts : ∀ f, EndsAlike G (act f) (act' f)) :
    EndsAlike G (s.onScreen i act) (s'.onScreen i act') := by
  rw [Scene.onScreen,Scene.onScreen,← alike.screens]
  split
  · exact acts _
  · exact ⟨.same _,alike⟩

theorem Alike.onPhone (alike : s.Alike G s') (i : Nat) {act : PhoneStep → Operation γ σ PhoneStep}
    {act' : PhoneStep → Operation γ' σ PhoneStep} (acts : ∀ p, Agrees G Eq (act p) (act' p)) :
    EndsAlike G (s.onPhone i act) (s'.onPhone i act') := by
  refine alike.onStep i fun o => ?_
  cases o with
  | phone p =>
    obtain ⟨same,later⟩ := alike.perform (acts p)
    simp only [same]
    exact ⟨.same _,later.setStep i _⟩
  | _ => exact ⟨.same _,alike⟩

/-- An operation without a reply of its own. -/
theorem Alike.quietly (alike : s.Alike G s') {α α' : Type} {R : α → α' → Prop} {op : Operation γ σ α}
    {op' : Operation γ' σ α'} (agrees : Agrees G R op op') :
    EndsAlike G (.nothing,(s.perform op).2) (.nothing,(s'.perform op').2) :=
  ⟨.same _,(alike.perform agrees).2⟩

theorem Alike.start (alike : s.Alike G s') (config : SignInRequest) :
    EndsAlike G (s.start config) (s'.start config) := by
  obtain ⟨results,later⟩ := alike.perform (startSignIn_agrees config)
  rw [Scene.start,Scene.start]
  generalize s.perform (startSignIn config) = e at results later ⊢
  generalize s'.perform (startSignIn config) = e' at results later ⊢
  obtain ⟨r,s⟩ := e
  obtain ⟨r',s'⟩ := e'
  cases results with
  | error e => exact ⟨.same _,later⟩
  | ok begins =>
    cases begins with
    | signedIn sessions => exact ⟨.already sessions,later⟩
    | launch h => exact ⟨.same _,later.follow (.next .phoneNumber h)⟩

theorem Alike.openStep (alike : s.Alike G s') (step : Step) (h : Handoff) :
    EndsAlike G (s.openStep step h) (s'.openStep step h) := by
  rw [Scene.openStep,Scene.openStep,← alike.world.settings]
  split
  · exact ⟨.same _,{ alike with steps := congrArg (· ++ _) alike.steps }⟩
  · exact ⟨.same _,alike⟩

variable [Gateway γ] [Gateway γ']

theorem Alike.submit (blind : Gateway.Blind G) (alike : s.Alike G s') (i : Nat) (input : String) :
    EndsAlike G (s.does (.submit i input)) (s'.does (.submit i input)) := by
  refine alike.onStep i fun o => ?_
  obtain ⟨same,later⟩ := alike.perform (o.submit_agrees blind input)
  simp only [same]
  exact ⟨.same _,(later.setStep i _).follow _⟩

theorem Alike.resend (alike : s.Alike G s') (i : Nat) :
    EndsAlike G (s.does (.resend i)) (s'.does (.resend i)) := by
  refine alike.onStep i fun o => ?_
  obtain ⟨same,later⟩ := alike.perform o.resend_agrees
  generalize s.perform o.resend = e at same later ⊢
  generalize s'.perform o.resend = e' at same later ⊢
  obtain ⟨⟨move,o⟩,s⟩ := e
  obtain ⟨_,s'⟩ := e'
  cases same
  cases move with
  | some move => exact ⟨.same _,(later.setStep i _).follow _⟩
  | none => exact ⟨.same _,later.setStep i _⟩

theorem Alike.verify (blind : Gateway.Blind G) (alike : s.Alike G s') {session session' : Session}
    (sessions : session.Alike session') :
    EndsAlike G (s.does (.verify session)) (s'.does (.verify session')) := by
  obtain ⟨refreshed,later⟩ := alike.perform (refreshSession_agrees blind sessions)
  exact ⟨.session refreshed,later⟩

theorem Alike.activeSession (alike : s.Alike G s') : EndsAlike G (s.does .activeSession) (s'.does .activeSession) := by
  obtain ⟨results,later⟩ := alike.perform readSession_agrees
  simp only [does]
  generalize s.perform readSession = e at results later ⊢
  generalize s'.perform readSession = e' at results later ⊢
  obtain ⟨r,s⟩ := e
  obtain ⟨r',s'⟩ := e'
  cases results with
  | ok sessions => exact ⟨.session sessions,later⟩
  | error e => exact ⟨.same _,later⟩

theorem Alike.signOut (alike : s.Alike G s') : EndsAlike G (s.does .signOut) (s'.does .signOut) := by
  obtain ⟨same,later⟩ := alike.perform clearSession_agrees
  simp only [does,Flow.signOut]
  generalize s.perform clearSession = e at same later ⊢
  generalize s'.perform clearSession = e' at same later ⊢
  obtain ⟨r,s⟩ := e
  obtain ⟨_,s'⟩ := e'
  cases same
  cases r <;> exact ⟨.same _,later⟩

/-- What is done alike in alike scenes is answered alike, and leaves alike scenes. -/
theorem Alike.does (blind : Gateway.Blind G) (alike : s.Alike G s') {act act' : Act} (acts : act.Alike act') :
    EndsAlike G (s.does act) (s'.does act') := by
  cases acts with
  | verify sessions => exact alike.verify blind sessions
  | same act =>
    cases act with
    | start config => exact alike.start config
    | openStep step handoff => exact alike.openStep step handoff
    | submit i input => exact alike.submit blind i input
    | resend i => exact alike.resend i
    | phoneResend i => exact alike.onPhone i fun p => .pure rfl
    | chooseCountry i countryCode => exact alike.onPhone i fun p => .andThen (.record _ _) fun _ => .pure rfl
    | edited i => exact alike.onStep i fun o => ⟨.same _,alike.setStep i _⟩
    | clearError i => exact alike.onStep i fun o => ⟨.same _,alike.setStep i _⟩
    | resume i => exact alike.onStep i fun o => alike.quietly (.record _ _)
    | openFailure failure => exact ⟨.same _,{ alike with screens := congrArg (· ++ _) alike.screens }⟩
    | resumeFailure i => exact alike.onScreen i fun f => alike.quietly (.record _ _)
    | dismiss i => exact alike.onScreen i fun f => alike.quietly (.andThen (.record _ _) fun _ => handIn_agrees _ _ _)
    | restart i =>
      refine alike.onScreen i fun f => ?_
      have restarts : Agrees G Eq (f.restart : Operation γ σ _) (f.restart : Operation γ' σ _) :=
        .andThen (.record _ _) fun _ => .pure rfl
      obtain ⟨same,later⟩ := alike.perform restarts
      simp only [same]
      exact ⟨.same _,later.follow (.next .phoneNumber (s'.perform f.restart).1)⟩
    | handIn id code data => exact alike.quietly (handIn_agrees id code data)
    | reportSuccess id phoneNumber => exact alike.quietly (handIn_agrees id _ _)
    | reportFailure id reason => exact alike.quietly (handIn_agrees id _ _)
    | withdraw id => exact alike.quietly (.modifyReceiver id _)
    | hosts present others => exact ⟨.same _,{ alike with world := { alike.world with host := rfl, others := rfl } }⟩
    | activeSession => exact alike.activeSession
    | verify session => exact alike.verify blind (.refl session)
    | signOut => exact alike.signOut

theorem Alike.still {γ γ' : Type} {G : γ → γ' → Prop} {s : Scene γ σ} {s' : Scene γ' σ} (alike : s.Alike G s') :
    s.still.Alike G s'.still :=
  { alike with world := { alike.world with history := .nil } }

end Scene

/-! ### Turns -/

/-- The request that an occurrence made, when it is a call that could be sent. -/
def Occurrence.request? (g : RestGateway ν) : Occurrence → Option Http.Request
  | .asked call _ => (g.request call).toOption
  | _ => none

/-- The requests that were made during a turn. -/
def Turn.requests (t : Turn (RestGateway ν) σ) : List Http.Request :=
  t.happened.filterMap (Occurrence.request? t.before.world.gateway)

/-- Turns that are the same but for secrets: the same requests, transitions and other replies, the same views of all
    steps, the same journal, and what is stored and told the same but for secrets. -/
structure Turn.Alike [SessionStore σ] [BlindStore σ] (G : RestGateway ν → RestGateway ν' → Prop)
    (t : Turn (RestGateway ν) σ) (t' : Turn (RestGateway ν') σ) : Prop where
  act : t.act.Alike t'.act
  reply : t.reply.Alike t'.reply
  requests : t.requests = t'.requests
  happened : List.Forall₂ Occurrence.Alike t.happened t'.happened
  after : t.after.Alike G t'.after

/-- Alike calls over related networks make the same requests. -/
theorem requests_alike {g : RestGateway ν} {R : ν → ν' → Prop} {h : RestGateway ν} {h' : RestGateway ν'}
    (gateways : g.Over R h h') {l l' : List Occurrence} (alike : List.Forall₂ Occurrence.Alike l l') :
    l.filterMap (Occurrence.request? h) = l'.filterMap (Occurrence.request? h') := by
  obtain ⟨related⟩ := gateways
  rename_i n n'
  induction alike with
  | nil => rfl
  | @cons o o' l l' first rest ih =>
    have same : o.request? (g.through n) = o'.request? (g.through n') := by
      cases first with
      | asked calls => exact congrArg Except.toOption (RestGateway.request_alike g calls n n')
      | _ => rfl
    rw [List.filterMap_cons,List.filterMap_cons,same,ih]

section
variable [Http.Client ν] [Http.Client ν'] [SessionStore σ] [BlindStore σ]

/-- Secrets decide nothing but the sessions that are stored and told. Let two runs do the same, verified sessions apart,
    in scenes that differ in the secrets of what is stored, over a service whose answers differ in secrets only: then
    they are the same turn by turn, but for secrets. -/
theorem secrets_decide_nothing {g : RestGateway ν} {R : ν → ν' → Prop} (hides : g.Hides R)
    {scene : Scene (RestGateway ν) σ} {scene' : Scene (RestGateway ν') σ} (begins : scene.Alike (g.Over R) scene')
    {acts acts' : List Act} (same : List.Forall₂ Act.Alike acts acts') :
    List.Forall₂ (Turn.Alike (g.Over R)) (scene.run acts) (scene'.run acts') := by
  induction same generalizing scene scene' with
  | nil => exact .nil
  | @cons act act' acts acts' first rest ih =>
    obtain ⟨reply,after⟩ := begins.still.does (RestGateway.blind_over hides) first
    refine .cons ⟨first,reply,?_,after.world.history,after⟩ (ih after)
    exact requests_alike begins.world.gateway after.world.history

end

/-! ### Two services -/

open Http Json

/-- A service at an address of its own. -/
def service : RestGateway Server where
  base := { scheme := "https", authority := some { host := .domain "a.example" }, path := .segments [""] }
  network := {}

/-- A sign-in with this service, which has a script. -/
def served (replies : List (Option String × Http.Reply)) : Scene (RestGateway Server) MemoryStore where
  world := { gateway := service.through { replies }, store := {}, host := some 1 }

/-- A response with a body. -/
def carrying (v : Value) : Response := { body := Text.Utf8.encode v.render }

/-- Credentials with a secret. -/
def kept (secret : String) : Credentials := { token := some "t", secret := some secret, userId := 7 }

/-- The replies to a phone number and to its code, which is answered with a secret. -/
def loginScript (secret : String) : List (Option String × Http.Reply) :=
  [(some "/1/sdk/login",.respond (carrying (.record
      [("login_verification_request_id",.text "r"),("login_verification_user_id",.int 7)]))),
    (some "/auth/1/xauth_challenge.json",.respond (carrying (toJson (kept secret))))]

/-- Every call goes to its own path at the service. -/
theorem service_path {c : Call} {q : Request} (sent : service.request c = .ok q) :
    q.url.path.text = "/" ++ RestGateway.pathOf c := by
  have leads : ∀ p ∈ ["1/sdk/login","1.1/device/register.json","1.1/sdk/account.json","auth/1/xauth_challenge.json",
      "auth/1/xauth_pin.json","1.1/sdk/account/email"],
      (service.base.join p).toOption.map (·.path.text) = some ("/" ++ p) := by decide +kernel
  obtain ⟨joined,found,path⟩ := RestGateway.request_path sent
  have listed := leads (RestGateway.pathOf c) (by cases c <;> simp [RestGateway.pathOf])
  rw [found] at listed
  rw [path]
  exact Option.some.inj listed

/-- The answers to a code are the same but for the secret. -/
theorem challenge_alike (requestId : String) (userId : Int64) (code : String) :
    RestGateway.ResponsesAlike (.verifyCode requestId userId code) (carrying (toJson (kept "s")))
      (carrying (toJson (kept "other"))) := by
  have parsed {secret : String} (text : (carrying (toJson (kept secret))).text = (toJson (kept secret)).render) :
      Value.parse? (carrying (toJson (kept secret))).text = some (toJson (kept secret)) := by
    have texts (s : String) : (toJson (some s)).Whole := toJson_whole s
    rw [text]
    exact Value.parse_render (Value.record_whole (by simp [kept,toJson_whole,texts]))
  have secrets : SecretsAlike (some (.text "s")) (some (.text "other")) := .text (by decide) (by decide)
  exact ⟨rfl,rfl,.inr ⟨rfl,_,_,parsed (by decide +kernel),parsed (by decide +kernel),.object rfl (.some secrets)⟩⟩

/-- The scripts of a login with different secrets are the same but for them. -/
theorem loginScript_alike :
    List.Forall₂ (RestGateway.RepliesAlike service) (loginScript "s") (loginScript "other") := by
  refine .cons (.same _) (.cons (.respond fun c q sent fits => ?_) .nil)
  have path : "/" ++ RestGateway.pathOf c = "/auth/1/xauth_challenge.json" :=
    service_path sent ▸ (beq_iff_eq.mp fits).symm
  cases c with
  | verifyCode requestId userId code => exact challenge_alike requestId userId code
  | _ => exact absurd path (by simp only [RestGateway.pathOf]; decide)

theorem served_alike {replies replies' : List (Option String × Http.Reply)}
    (alike : List.Forall₂ (RestGateway.RepliesAlike service) replies replies') :
    (served replies).Alike (service.Over (RestGateway.ServersAlike service)) (served replies') where
  world :=
    { gateway := .intro ⟨alike,rfl⟩, store := .none, settings := rfl, host := rfl, others := rfl
      receivers := rfl, history := .nil }
  steps := rfl
  screens := rfl
  received := rfl

/-- Two logins whose codes are answered with different secrets take the same way, with the same requests, and tell the
    host of sessions with these secrets. -/
theorem login_secrets_decide_nothing :
    List.Forall₂ (Turn.Alike (service.Over (RestGateway.ServersAlike service)))
      ((served (loginScript "s")).run Act.logIn) ((served (loginScript "other")).run Act.logIn) ∧
    (((served (loginScript "s")).run Act.logIn).flatMap (·.happened)).filterMap Occurrence.outcome? =
      [.success 1 (.ofCredentials (kept "s") "+15") "+15"] ∧
    (((served (loginScript "other")).run Act.logIn).flatMap (·.happened)).filterMap Occurrence.outcome? =
      [.success 1 (.ofCredentials (kept "other") "+15") "+15"] := by
  refine ⟨secrets_decide_nothing (RestGateway.hides_servers service) (served_alike loginScript_alike) ?_,?_,?_⟩
  · exact List.forall₂_same.mpr fun act _ => .same act
  · decide +kernel
  · decide +kernel

/-! ### Secrets that are missing -/

/-- How a user is described who has a token, which has more members than its text. -/
def described (tokenName : String) (more : List (String × Value)) : Value :=
  .record [(tokenName,.record (("token",.text "t") :: more)),("id",.int 7),("phone_number",.text "+15")]

/-- A service that answers every request with such an account. -/
def accounted (more : List (String × Value)) : Scene (RestGateway Server) MemoryStore :=
  served [(none,.respond (carrying (described "access_token" more)))]

/-- A store that is the file of such a session. -/
def remembered (more : List (String × Value)) : Scene (RestGateway Server) FileStore where
  world :=
    { gateway := service
      store :=
        { path := ["s.json"]
          disk := ({} : FileTree).insert ["s.json"]
            (.file (Text.Utf8.encode (described "auth_token" more).render)) }
      host := some 1 }

/-- A token without a secret is none, and one with an empty secret is one. So it is noticed when the secret is missing
    where it was empty: no account is read from the answer, and the user of the file is not signed in. -/
theorem missing_secret_noticed :
    let user := Session.ofAccount { authToken := ⟨"t",""⟩, userId := 7, phoneNumber := "+15", email := none }
    ((accounted [("secret",.text "")]).run [.verify user]).map (·.after.world.store.active) = [some user] ∧
    ((accounted []).run [.verify user]).map (·.after.world.store.active) = [none] ∧
    (((remembered [("secret",.text "")]).run [.start ⟨1,"",false⟩]).flatMap (·.happened)).filterMap
      Occurrence.outcome? = [.success 1 user "+15"] ∧
    (((remembered []).run [.start ⟨1,"",false⟩]).flatMap (·.happened)).filterMap Occurrence.outcome? = [] := by
  refine ⟨?_,?_,?_,?_⟩
  · decide +kernel
  · decide +kernel
  · decide +kernel
  · decide +kernel

end PhoneSignIn.Flow
