import PhoneSignIn.Proofs.Flow.Orderly

/-!
A host that follows transitions can always go on. A step opens from exactly the handoffs that have what
it needs (`OpenStep.opens_iff_fits`), and what a submit hands over is one of four handoffs, each with all
that its step needs (`OpenStep.Hands`, `Submits.hands`). A step that gives up has failed just before,
with the reason that it gives (`Submits.gaveUp_cause`). So whatever a reply has offered opens, at any later
time (`Scene.run_opens`), and a host that opens only what it was offered is never refused (`transitions_open`).
-/
namespace PhoneSignIn.Flow

variable {γ σ : Type}

/-! ### What a step needs -/

/-- What a step needs of its handoff. -/
def Step.needs : Step → List Field
  | .phoneNumber => [.receiver]
  | .loginCode | .pinCode => [.receiver,.phoneNumber,.requestId,.userId]
  | .confirmationCode | .email => [.receiver,.phoneNumber]
  | .failure => [.receiver,.fallbackReason]

/-- Whether a handoff has a field; none has a reason to fall back. -/
def Handoff.has (h : Handoff) : Field → Bool
  | .receiver => h.receiver.isSome
  | .phoneNumber => h.phoneNumber.isSome
  | .requestId => h.requestId.isSome
  | .userId => h.userId.isSome
  | .fallbackReason => false

/-- Whether a handoff has all that a step needs. -/
def Handoff.Fits (h : Handoff) (kind : Step) : Prop := ∀ field ∈ kind.needs, h.has field = true

/-- The check of a handoff and the step that opens from it agree on what the step needs. -/
theorem OpenStep.opens_iff_fits (settings : Settings) (kind : Step) (h : Handoff) :
    (∃ o, OpenStep.openFrom settings kind h = .ok o) ↔ h.Fits kind := by
  constructor
  · rintro ⟨o,opens⟩
    cases openFrom_iff.mp opens with
    | phone receiver => simp [Handoff.Fits,Step.needs,Handoff.has,receiver]
    | loginCode receiver number request user =>
      simp [Handoff.Fits,Step.needs,Handoff.has,receiver,number,request,user]
    | confirmationCode receiver number => simp [Handoff.Fits,Step.needs,Handoff.has,receiver,number]
    | pinCode receiver number request user =>
      simp [Handoff.Fits,Step.needs,Handoff.has,receiver,number,request,user]
    | email receiver number => simp [Handoff.Fits,Step.needs,Handoff.has,receiver,number]
  · intro fits
    cases kind <;> simp [Handoff.Fits,Step.needs,Handoff.has,Option.isSome_iff_exists] at fits
    case phoneNumber =>
      obtain ⟨r,receiver⟩ := fits
      exact ⟨_,openFrom_iff.mpr (.phone receiver rfl)⟩
    case loginCode =>
      obtain ⟨⟨r,receiver⟩,⟨n,number⟩,⟨q,request⟩,⟨u,user⟩⟩ := fits
      exact ⟨_,openFrom_iff.mpr (.loginCode receiver number request user)⟩
    case confirmationCode =>
      obtain ⟨⟨r,receiver⟩,⟨n,number⟩⟩ := fits
      exact ⟨_,openFrom_iff.mpr (.confirmationCode receiver number)⟩
    case pinCode =>
      obtain ⟨⟨r,receiver⟩,⟨n,number⟩,⟨q,request⟩,⟨u,user⟩⟩ := fits
      exact ⟨_,openFrom_iff.mpr (.pinCode receiver number request user)⟩
    case email =>
      obtain ⟨⟨r,receiver⟩,⟨n,number⟩⟩ := fits
      exact ⟨_,openFrom_iff.mpr (.email receiver number)⟩

/-- The step that opens is of the kind that was asked for. -/
theorem OpenStep.openFrom_step {settings : Settings} {kind : Step} {h : Handoff} {o : OpenStep}
    (opens : OpenStep.openFrom settings kind h = .ok o) : o.step = kind := by
  cases openFrom_iff.mp opens <;> rfl

/-! ### What a submit hands over -/

/-- What the submit of a step hands over, by what was answered during it. -/
inductive OpenStep.Hands (s : OpenStep) (text : String) (l : List Occurrence) : Step → Handoff → Prop where
  | loginStarted {p : PhoneStep} {channel r} (phone : s = .phone p)
    (asked : .asked (.authenticateDevice (PhoneStep.fullNumber p.countryCode text) channel) (.ok r) ∈ l) :
    Hands s text l .loginCode
      { receiver := s.core.receiver,
        phoneNumber := r.normalizedPhoneNumber.getD (PhoneStep.fullNumber p.countryCode text),
        requestId := r.requestId, userId := r.userId, features := r.features, wantsEmail := p.asksEmail r.features }
  | registered {p : PhoneStep} {channel r} (phone : s = .phone p)
    (asked : .asked (.registerDevice (PhoneStep.fullNumber p.countryCode text) channel) (.ok r) ∈ l) :
    Hands s text l .confirmationCode
      { receiver := s.core.receiver,
        phoneNumber := r.normalizedPhoneNumber.getD (PhoneStep.fullNumber p.countryCode text),
        features := r.features, wantsEmail := p.asksEmail r.features }
  | pinWanted {c : LoginCodeStep} {credentials} (code : s = .loginCode c)
    (asked : .asked (.verifyCode c.requestId c.userId text) (.ok credentials) ∈ l)
    (empty : credentials.isEmpty = true) :
    Hands s text l .pinCode
      { receiver := s.core.receiver, phoneNumber := c.phoneNumber, requestId := c.requestId, userId := c.userId,
        wantsEmail := c.wantsEmail }
  | addressWanted {n} (code : s.step = .loginCode ∨ s.step = .confirmationCode ∨ s.step = .pinCode)
    (number : s.phoneNumber? = some n) :
    Hands s text l .email { receiver := s.core.receiver, phoneNumber := n, wantsEmail := true }

/-- Only a step that checks a code or a pin asks for an address. -/
theorem Course.requestEmail_step [SessionStore σ] {text n : String} {st st' : σ} {s s' : OpenStep}
    {l : List Occurrence} {session : Session} (course : Course text st s s' l st' (.requestEmail session n)) :
    s.step = .loginCode ∨ s.step = .confirmationCode ∨ s.step = .pinCode := by
  cases course with
  | phone sends => cases sends
  | loginCode => exact .inl rfl
  | confirmationCode => exact .inr (.inl rfl)
  | pinCode => exact .inr (.inr rfl)
  | email attaches => cases attaches

/-- A course that hands over has been answered what the handoff is made of. -/
theorem Course.hands [SessionStore σ] {text : String} {st st' : σ} {s s' : OpenStep} {l : List Occurrence}
    {kind : Step} {h : Handoff} (course : Course text st s s' l st' (.handOver kind h)) : s.Hands text l kind h := by
  cases course with
  | @phone p _ _ _ sends =>
    cases sends with
    | loginStarted r learnt =>
      subst learnt
      exact .loginStarted rfl (.tail _ (.head _))
    | registered m r learnt =>
      subst learnt
      exact .registered rfl (.tail _ (.tail _ (.head _)))
  | loginCode checks =>
    cases checks with
    | pinWanted c empty => exact .pinWanted rfl (by simp) empty
    | taken c full goesOn => exact absurd rfl (goesOn.not_handOver _ _)
  | confirmationCode checks => cases checks
  | pinCode checks =>
    cases checks with
    | taken c goesOn => exact absurd rfl (goesOn.not_handOver _ _)
  | email attaches => cases attaches

theorem OpenStep.Hands.mono {s : OpenStep} {text : String} {l l' : List Occurrence} {kind : Step} {h : Handoff}
    (hands : s.Hands text l kind h) (sub : l ⊆ l') : s.Hands text l' kind h := by
  cases hands with
  | loginStarted phone asked => exact .loginStarted phone (sub asked)
  | registered phone asked => exact .registered phone (sub asked)
  | pinWanted code asked empty => exact .pinWanted code (sub asked) empty
  | addressWanted code number => exact .addressWanted code number

theorem Submits.hands [SessionStore σ] {s s' : OpenStep} {input : String} {w w' : World γ σ} {kind : Step}
    {h : Handoff} (submits : Submits s input w (.next kind h) s' w') :
    s.Hands (Text.trim input) w'.history kind h := by
  cases submits with
  | went accepted course ends =>
    cases ends with
    | reported answer => cases answer
    | handedOver => exact course.hands.mono (List.subset_append_right _ _)
    | unkept keeps refused answer => cases answer
    | emailRequested kept =>
      rw [course.keeps.receiver]
      exact .addressWanted course.requestEmail_step (course.keeps_source rfl).2

/-- Where the submit of a step can lead. -/
def Step.submitsTo : Step → List Step
  | .phoneNumber => [.loginCode,.confirmationCode]
  | .loginCode => [.pinCode,.email]
  | .confirmationCode | .pinCode => [.email]
  | .email | .failure => []

/-- Where the user's wish to have the code sent again can lead. -/
def Step.resendsTo : Step → List Step
  | .loginCode | .confirmationCode => [.phoneNumber]
  | .phoneNumber | .pinCode | .email | .failure => []

theorem OpenStep.Hands.leads {s : OpenStep} {text : String} {l : List Occurrence} {kind : Step} {h : Handoff}
    (hands : s.Hands text l kind h) : kind ∈ s.step.submitsTo := by
  cases hands with
  | loginStarted phone => simp [phone,OpenStep.step,Step.submitsTo]
  | registered phone => simp [phone,OpenStep.step,Step.submitsTo]
  | pinWanted code => simp [code,OpenStep.step,Step.submitsTo]
  | addressWanted code => rcases code with code | code | code <;> simp [code,Step.submitsTo]

theorem OpenStep.Hands.receiver {s : OpenStep} {text : String} {l : List Occurrence} {kind : Step} {h : Handoff}
    (hands : s.Hands text l kind h) : h.receiver = some s.core.receiver := by
  cases hands <;> rfl

/-- What a submit hands over has all that its step needs. -/
theorem OpenStep.Hands.fits {s : OpenStep} {text : String} {l : List Occurrence} {kind : Step} {h : Handoff}
    (hands : s.Hands text l kind h) : h.Fits kind := by
  cases hands <;> simp [Handoff.Fits,Step.needs,Handoff.has]

theorem StepState.goBack_moves (c : StepState) (h : Handoff) (w : World γ σ) :
    ((c.goBack h).run w).1.1 = .stay ∨ ((c.goBack h).run w).1.1 = .next .phoneNumber h := by
  simp only [StepState.goBack]
  split
  · exact .inl rfl
  · exact .inr rfl

/-- What a code step hands over to have its code sent again has all that the phone step needs. -/
theorem OpenStep.resend_hands {s : OpenStep} {w : World γ σ} {m : Move} (moved : (s.resend.run w).1.1 = some m) :
    m = .stay ∨ ∃ h, m = .next .phoneNumber h ∧ .phoneNumber ∈ s.step.resendsTo ∧
      h.receiver = some s.core.receiver ∧ h.Fits .phoneNumber := by
  cases s with
  | loginCode s =>
    cases moved
    rcases s.core.goBack_moves (s.core.handoffBack s.phoneNumber s.wantsEmail (s.features.any (·.voiceEnabled))) w
      with stayed | next
    · exact .inl stayed
    · exact .inr ⟨_,next,by simp [OpenStep.step,Step.resendsTo],rfl,by simp [Handoff.Fits,Step.needs,Handoff.has,
        StepState.handoffBack]⟩
  | confirmationCode s =>
    cases moved
    rcases s.core.goBack_moves (s.core.handoffBack s.phoneNumber s.wantsEmail s.voiceEnabled) w with stayed | next
    · exact .inl stayed
    · exact .inr ⟨_,next,by simp [OpenStep.step,Step.resendsTo],rfl,by simp [Handoff.Fits,Step.needs,Handoff.has,
        StepState.handoffBack]⟩
  | phone => cases moved
  | pinCode => cases moved
  | email => cases moved

/-! ### Why a step gives up -/

/-- What makes a step fail, and with which error. -/
inductive Occurrence.Causes : Occurrence → CallError → Prop where
  | refused (call : Call) (e : CallError) : Causes (.asked call (.error e)) e
  | unread (e : StorageError) : Causes (.read (.error e)) (.ofStorage e)
  | unkept (session : Session) (e : StorageError) : Causes (.wrote session (.error e)) (.ofStorage e)
  | noUser {active : Option Session} (guest : ∀ session ∈ active, session.isGuest = true) :
    Causes (.read (.ok active)) (.fatal "")

theorem SignsIn.cause {session : Session} {phoneNumber : String} {wantsEmail : Bool} {l : List Occurrence}
    {e : CallError} (goesOn : SignsIn session phoneNumber wantsEmail l (.report e)) :
    ∃ o, l = [o] ∧ o.Causes e := by
  cases goesOn with
  | accountRefused => exact ⟨_,rfl,.refused _ e⟩

/-- A course that ends in an error ends with what has caused it. -/
theorem Course.cause [SessionStore σ] {text : String} {st st' : σ} {s s' : OpenStep} {l : List Occurrence}
    {e : CallError} (course : Course text st s s' l st' (.report e)) : ∃ before o, l = before ++ [o] ∧ o.Causes e := by
  cases course with
  | @phone s _ _ _ sends =>
    cases sends with
    | refused => exact ⟨[s.attempt],_,rfl,.refused _ e⟩
    | carrierRefused m f => exact ⟨[s.attempt],_,rfl,.refused _ _⟩
    | registrationRefused m => exact ⟨[s.attempt,_],_,rfl,.refused _ e⟩
  | @loginCode s _ _ checks =>
    cases checks with
    | refused => exact ⟨[s.core.attempt],_,rfl,.refused _ e⟩
    | taken c full goesOn =>
      obtain ⟨o,rfl,causes⟩ := goesOn.cause
      exact ⟨[s.core.attempt,_,_],o,rfl,causes⟩
  | @confirmationCode s _ _ checks =>
    cases checks with
    | refused => exact ⟨[s.core.attempt],_,rfl,.refused _ e⟩
  | @pinCode s _ _ checks =>
    cases checks with
    | refused => exact ⟨[s.core.attempt],_,rfl,.refused _ e⟩
    | taken c goesOn =>
      obtain ⟨o,rfl,causes⟩ := goesOn.cause
      exact ⟨[s.core.attempt,_,_],o,rfl,causes⟩
  | @email s _ _ _ attaches =>
    cases attaches with
    | unreadable answer => exact ⟨[s.core.attempt],_,rfl,.unread _⟩
    | noUser answer guest => exact ⟨[s.core.attempt],_,rfl,.noUser guest⟩
    | refused answer user => exact ⟨[s.core.attempt,_],_,rfl,.refused _ e⟩

/-- A step that gives up names its receiver and the error that was met just before. -/
theorem Submits.gaveUp_cause [SessionStore σ] {s s' : OpenStep} {input : String} {w w' : World γ σ}
    {f : FailureHandoff} (submits : Submits s input w (.gaveUp f) s' w') : f.receiver = s.core.receiver ∧
      ∃ l o, w'.history = w.history ++ (l ++ [o,.recorded ⟨s.core.step.component,.failure⟩]) ∧ o.Causes f.reason := by
  cases submits with
  | @went s' l _ _ _ _ _ _ accepted course ends =>
    have receiver := course.keeps.receiver
    have step := course.keeps.step
    cases ends with
    | reported answer =>
      cases answer with
      | gaveUp severe =>
        obtain ⟨before,o,rfl,causes⟩ := course.cause
        exact ⟨receiver,before,o,by simp [step],causes⟩
    | @unkept _ session _ e _ _ _ _ keeps refused answer =>
      cases answer with
      | gaveUp severe => exact ⟨receiver,l,_,by simp [step],.unkept session e⟩

/-! ### What a run has received -/

/-- The transition that a reply lets a host go on with. -/
def Reply.offers? : Reply → Option Move
  | .moved .stay => none
  | .moved move => some move
  | .launched h => some (.next .phoneNumber h)
  | _ => none

/-- What a handoff was refused for. -/
def Reply.lacks? : Reply → Option Field
  | .openingError (.missing field _) => some field
  | _ => none

/-- Where a reply comes from that offers something, or that refuses a handoff. -/
inductive Scene.Replies [SessionStore σ] (s : Scene γ σ) : Act → Reply → World γ σ → Prop where
  | nothing {act reply w'} (none : reply.offers? = none) (fine : reply.lacks? = .none) : Replies s act reply w'
  | refused {kind h e w'} : Replies s (.openStep kind h) (.openingError e) w'
  | began {config h w'} (begins : Begins config s.world (.ok (.launch h)) w') :
    Replies s (.start config) (.launched h) w'
  | submitted {i input o m step w'} (found : s.steps[i]? = some o) (submits : Submits o.step input s.world m step w') :
    Replies s (.submit i input) (.moved m) w'
  | resent {i o m w'} (found : s.steps[i]? = some o) (moved : (o.step.resend.run s.world).1.1 = some m) :
    Replies s (.resend i) (.moved m) w'
  | restarted {i f w'} (found : s.screens[i]? = some f) :
    Replies s (.restart i) (.launched { receiver := f.failure.receiver }) w'

namespace Scene

theorem follow_received_eq (s : Scene γ σ) (move : Move) :
    (s.follow move).received = ((Reply.moved move).offers?).getD s.received := by
  cases move <;> rfl

/-- What is said of what is done on a step is said of the step that is there, or of none. -/
theorem onStep_cases {P : Reply × Scene γ σ → Prop} {s : Scene γ σ} {i : Nat} {act : OpenStep → Reply × Scene γ σ}
    (missing : P (.refused .noController,s)) (there : ∀ o, s.steps[i]? = some o → P (act o.step)) :
    P (s.onStep i act) := by
  rw [onStep]
  cases found : s.steps[i]? with
  | none => exact missing
  | some o => exact there o found

theorem onPhone_cases {P : Reply × Scene γ σ → Prop} {s : Scene γ σ} {i : Nat}
    {act : PhoneStep → Operation γ σ PhoneStep} (missing : ∀ refusal, P (.refused refusal,s))
    (there : ∀ p, P (.nothing,(s.perform (act p)).2.setStep i (.phone (s.perform (act p)).1))) :
    P (s.onPhone i act) := by
  refine onStep_cases (missing _) ?_
  intro o _
  cases o.step with
  | phone p => exact there p
  | loginCode => exact missing _
  | confirmationCode => exact missing _
  | pinCode => exact missing _
  | email => exact missing _

theorem onScreen_cases {P : Reply × Scene γ σ → Prop} {s : Scene γ σ} {i : Nat}
    {act : FailureScreen → Reply × Scene γ σ} (missing : P (.refused .noFailure,s))
    (there : ∀ f, s.screens[i]? = some f → P (act f)) : P (s.onScreen i act) := by
  rw [onScreen]
  cases found : s.screens[i]? with
  | none => exact missing
  | some f => exact there f found

variable [Gateway γ] [SessionStore σ]

/-- A reply offers what a beginning, a submit, a resend or a new start leads to; what has been received is
    what the last reply has offered, or else what had been received before. -/
theorem does_replies (s : Scene γ σ) (act : Act) : s.Replies act (s.does act).1 (s.does act).2.world ∧
    (s.does act).2.received = ((s.does act).1.offers?).getD s.received := by
  let P : Reply × Scene γ σ → Prop := fun r => s.Replies act r.1 r.2.world ∧ r.2.received = (r.1.offers?).getD s.received
  change P (s.does act)
  -- Most replies offer nothing, and leave what was received as it is.
  have nothing {reply : Reply} {s' : Scene γ σ} (none : reply.offers? = none) (fine : reply.lacks? = .none)
      (same : s'.received = s.received) : P (reply,s') := ⟨.nothing none fine,by rw [none]; exact same⟩
  cases act with
  | start config =>
    have begins := startSignIn_begins config s.world
    simp only [does,start,perform]
    generalize (startSignIn config).run s.world = result at begins
    obtain ⟨e | session | h,w'⟩ := result
    · cases begins
      exact nothing rfl rfl rfl
    · exact nothing rfl rfl rfl
    · exact ⟨.began begins,rfl⟩
  | openStep kind h =>
    simp only [does,openStep]
    split
    · exact nothing rfl rfl rfl
    · exact ⟨.refused,rfl⟩
  | submit i input =>
    refine onStep_cases (nothing rfl rfl rfl) ?_
    intro o found
    obtain ⟨m,step,w',submits,ran⟩ := submits o.step input s.world
    simp only [perform,ran]
    exact ⟨follow_world (s := { s with world := w' }.setStep i step) m ▸ .submitted found submits,follow_received_eq _ m⟩
  | resend i =>
    refine onStep_cases (nothing rfl rfl rfl) ?_
    intro o found
    simp only [perform]
    split
    · rename_i answer
      obtain ⟨moved,rfl⟩ := Prod.mk.inj answer
      exact ⟨.resent found (congrArg Prod.fst moved),follow_received_eq _ _⟩
    · rename_i answer
      obtain ⟨-,rfl⟩ := Prod.mk.inj answer
      exact nothing rfl rfl rfl
  | phoneResend i => exact onPhone_cases (fun _ => nothing rfl rfl rfl) fun p => nothing rfl rfl rfl
  | chooseCountry i countryCode => exact onPhone_cases (fun _ => nothing rfl rfl rfl) fun p => nothing rfl rfl rfl
  | edited i => exact onStep_cases (nothing rfl rfl rfl) fun o _ => nothing rfl rfl rfl
  | clearError i => exact onStep_cases (nothing rfl rfl rfl) fun o _ => nothing rfl rfl rfl
  | resume i => exact onStep_cases (nothing rfl rfl rfl) fun o _ => nothing rfl rfl rfl
  | resumeFailure i => exact onScreen_cases (nothing rfl rfl rfl) fun f _ => nothing rfl rfl rfl
  | dismiss i => exact onScreen_cases (nothing rfl rfl rfl) fun f _ => nothing rfl rfl rfl
  | restart i => exact onScreen_cases (nothing rfl rfl rfl) fun f found => ⟨.restarted found,rfl⟩
  | activeSession =>
    simp only [does,perform]
    cases (readSession.run s.world).1 with
    | error e => exact nothing rfl rfl rfl
    | ok active => exact nothing rfl rfl rfl
  | signOut =>
    simp only [does,perform]
    cases (Flow.signOut.run s.world).1 with
    | error e => exact nothing rfl rfl rfl
    | ok _ => exact nothing rfl rfl rfl
  | _ => exact nothing rfl rfl rfl

end Scene

/-! ### What is offered opens -/

/-- Whether a step opens from a handoff under all settings, with the receiver that the handoff carries. -/
def Handoff.Opens (h : Handoff) (kind : Step) (r : ReceiverId) : Prop :=
  h.receiver = some r ∧ ∀ settings, ∃ o, OpenStep.openFrom settings kind h = .ok o ∧ o.step = kind ∧ o.core.receiver = r

theorem Handoff.Fits.opens {h : Handoff} {kind : Step} {r : ReceiverId} (fits : h.Fits kind)
    (carried : h.receiver = some r) : h.Opens kind r := by
  refine ⟨carried,fun settings => ?_⟩
  obtain ⟨o,opened⟩ := (OpenStep.opens_iff_fits settings kind h).mpr fits
  refine ⟨o,opened,OpenStep.openFrom_step opened,?_⟩
  exact Option.some.inj ((OpenStep.openFrom_keeps opened).1.symm.trans carried)

theorem Handoff.fits_phone {h : Handoff} {r : ReceiverId} (carried : h.receiver = some r) : h.Fits .phoneNumber := by
  simp [Handoff.Fits,Step.needs,Handoff.has,carried]

/-- What a new sign-in begins with carries a receiver of its own. -/
theorem Begins.receiver [SessionStore σ] {config : SignInRequest} {w w' : World γ σ} {h : Handoff}
    (begins : Begins config w (.ok (.launch h)) w') : h.receiver = some w.receivers.length := by
  cases begins with
  | launched => rfl

/-- What a reply offers has all that its step needs. -/
theorem Scene.Replies.fits [SessionStore σ] {s : Scene γ σ} {act : Act} {reply : Reply} {w' : World γ σ} {kind : Step}
    {h : Handoff} (replies : s.Replies act reply w') (offers : reply.offers? = some (.next kind h)) : h.Fits kind := by
  cases replies with
  | nothing none =>
    rw [none] at offers
    cases offers
  | refused => cases offers
  | began begins =>
    cases offers
    exact Handoff.fits_phone begins.receiver
  | @submitted i input o m step w' found submits =>
    cases m <;> cases offers
    exact submits.hands.fits
  | @resent i o m w' found moved =>
    rcases OpenStep.resend_hands moved with rfl | ⟨h',rfl,-,-,fits⟩
    · cases offers
    · cases offers
      exact fits
  | restarted found =>
    cases offers
    exact Handoff.fits_phone rfl

namespace Scene
variable [Gateway γ] [SessionStore σ]

/-- What has been offered at any time before opens. -/
theorem run_opens {s : Scene γ σ} {acts : List Act} {earlier later : List (Turn γ σ)} {t : Turn γ σ}
    (split : s.run acts = earlier ++ t :: later) {kind : Step} {h : Handoff} (act : t.act = .openStep kind h)
    {e : Turn γ σ} (before : e ∈ earlier) (offers : e.reply.offers? = some (.next kind h)) :
    t.reply = .opened kind := by
  have there : e ∈ s.run acts := split ▸ List.mem_append_left _ before
  have member : t ∈ s.run acts := split ▸ List.mem_append_right _ List.mem_cons_self
  have replies := (e.before.still.does_replies e.act).1
  have fits : h.Fits kind := by
    rw [run_turn there] at offers
    exact replies.fits offers
  obtain ⟨o,opened⟩ := (OpenStep.opens_iff_fits t.before.world.settings kind h).mpr fits
  rw [run_turn member,act]
  simp only [turn,does,openStep]
  have opened' : OpenStep.openFrom t.before.still.world.settings kind h = .ok o := opened
  rw [opened']
  exact congrArg Reply.opened (OpenStep.openFrom_step opened)

/-- Only a step that is to be opened is refused for what is missing. -/
theorem does_lacks {s : Scene γ σ} {act : Act} {field : Field} (lacks : (s.does act).1.lacks? = some field) :
    ∃ kind h, act = .openStep kind h := by
  have replies := (s.does_replies act).1
  generalize (s.does act).1 = reply at replies lacks
  cases replies with
  | nothing none fine =>
    rw [fine] at lacks
    cases lacks
  | refused => exact ⟨_,_,rfl⟩
  | _ => cases lacks

end Scene

/-- A host that follows transitions can always go on. What a submit or a resend leads to next opens, with
    the receiver of the step that led there, and leads along one of the ways that steps lead; so do the handoffs
    of a new sign-in and of a new start after a failure. A step that gives up names its receiver and the error
    that was met just before. So in every run a step opens from each handoff that an earlier reply has offered
    for it, and nothing is refused for what is missing while only such handoffs are opened. -/
theorem transitions_open [Gateway γ] [SessionStore σ] :
    (∀ (s s' : OpenStep) (input : String) (w w' : World γ σ) (kind : Step) (h : Handoff),
      (s.submit input).run w = ((.next kind h,s'),w') → kind ∈ s.step.submitsTo ∧ h.Opens kind s.core.receiver) ∧
    (∀ (s s' : OpenStep) (w w' : World γ σ) (m : Move), s.resend.run w = ((some m,s'),w') → m = .stay ∨
      ∃ kind h, m = .next kind h ∧ kind ∈ s.step.resendsTo ∧ h.Opens kind s.core.receiver) ∧
    (∀ (s s' : OpenStep) (input : String) (w w' : World γ σ) (f : FailureHandoff),
      (s.submit input).run w = ((.gaveUp f,s'),w') → f.receiver = s.core.receiver ∧
        ∃ l o, w'.history = w.history ++ (l ++ [o,.recorded ⟨s.core.step.component,.failure⟩]) ∧
          o.Causes f.reason) ∧
    (∀ (config : SignInRequest) (w w' : World γ σ) (h : Handoff),
      (startSignIn config).run w = (.ok (.launch h),w') → h.Opens .phoneNumber w.receivers.length) ∧
    (∀ (screen : FailureScreen) (w : World γ σ), (screen.restart.run w).1.Opens .phoneNumber screen.failure.receiver) ∧
    ∀ (scene : Scene γ σ) (acts : List Act) (earlier later : List (Turn γ σ)) (t : Turn γ σ),
      scene.run acts = earlier ++ t :: later →
      (∀ kind h, t.act = .openStep kind h → ∃ e ∈ earlier, e.reply.offers? = some (.next kind h)) →
        (∀ kind h, t.act = .openStep kind h → t.reply = .opened kind) ∧ t.reply.lacks? = none := by
  refine ⟨?submitted,?resent,?gaveUp,?began,?restarted,?runs⟩
  case submitted =>
    intro s s' input w w' kind h ran
    obtain ⟨m,s'',w'',submits,ran'⟩ := submits s input w
    rw [ran] at ran'
    cases ran'
    exact ⟨submits.hands.leads,submits.hands.fits.opens submits.hands.receiver⟩
  case resent =>
    intro s s' w w' m ran
    have moved : (s.resend.run w).1.1 = some m := by rw [ran]
    rcases OpenStep.resend_hands moved with stayed | ⟨h,next,leads,carried,fits⟩
    · exact .inl stayed
    · exact .inr ⟨.phoneNumber,h,next,leads,fits.opens carried⟩
  case gaveUp =>
    intro s s' input w w' f ran
    obtain ⟨m,s'',w'',submits,ran'⟩ := submits s input w
    rw [ran] at ran'
    cases ran'
    exact submits.gaveUp_cause
  case began =>
    intro config w w' h ran
    have begins := startSignIn_begins config w
    rw [ran] at begins
    exact (Handoff.fits_phone begins.receiver).opens begins.receiver
  case restarted =>
    intro screen w
    exact (Handoff.fits_phone rfl).opens rfl
  case runs =>
    intro scene acts earlier later t split offered
    have opened : ∀ kind h, t.act = .openStep kind h → t.reply = .opened kind := by
      intro kind h act
      obtain ⟨e,before,offers⟩ := offered kind h act
      exact Scene.run_opens split act before offers
    refine ⟨opened,?_⟩
    cases lacks : t.reply.lacks? with
    | none => rfl
    | some field =>
      have member : t ∈ scene.run acts := split ▸ List.mem_append_right _ List.mem_cons_self
      have lacks' : (t.before.still.does t.act).1.lacks? = some field := by
        rw [Scene.run_turn member] at lacks
        exact lacks
      obtain ⟨kind,h,act⟩ := Scene.does_lacks lacks'
      rw [opened kind h act] at lacks
      cases lacks

/-- A login: the code step opens from what the phone step has offered, and carries the same receiver. -/
theorem login_opens :
    let run := (Scene.scripted { authenticateDevice := [.ok { requestId := "r", userId := 7 }] }).run Act.logIn
    run[3].reply = .opened .loginCode ∧ run[3].reply.lacks? = none := by
  intro run
  have split : run = run.take 3 ++ run[3] :: run.drop 4 := rfl
  have offers : run[2].reply.offers? = some (.next .loginCode
      { receiver := some 0, phoneNumber := some "+15", requestId := some "r", userId := some 7 }) := by
    decide +kernel
  obtain ⟨-,-,-,-,-,runs⟩ := @transitions_open GatewayScript MemoryStore _ _
  obtain ⟨opened,complete⟩ := runs _ _ _ _ _ split (by
    intro kind h act
    obtain ⟨rfl,rfl⟩ := Act.openStep.inj act
    exact ⟨run[2],.tail _ (.tail _ (.head _)),offers⟩)
  exact ⟨opened _ _ rfl,complete⟩

end PhoneSignIn.Flow
