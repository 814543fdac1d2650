import PhoneSignIn.Flow.OpenStep
import PhoneSignIn.Proofs.Flow.Effect

/-!
What a submit does. A step that accepts what the user sends (`OpenStep.accepts`) makes its calls and
reads (`Course`) and then does one last thing (`Finale`): it reports an error, hands over to the next
step, or makes a session the active one and either asks for an email address or signs the user in.
`submit_unaccepted` and `submit_run` say that these are all submits, and `conclude_run` says what comes
of each last thing.
-/
namespace PhoneSignIn.Flow

variable {γ σ : Type}

/-! ### The last thing a submit does -/

/-- The last thing a submit does. -/
inductive Finale where
  | report (e : CallError)
  | handOver (step : Step) (h : Handoff)
  /-- Make a session the active one and ask for an email address. -/
  | requestEmail (session : Session) (phoneNumber : String)
  /-- Make a session the active one and hand over that the user is signed in. -/
  | signIn (session : Session) (phoneNumber : String)

/-- Do the last thing of a submit. -/
def StepState.conclude [SessionStore σ] (c : StepState) : Finale → Operation γ σ (Move × StepState)
  | .report e => c.report e
  | .handOver step h => return c.handOver step h
  | .requestEmail session phoneNumber => c.requestEmail session phoneNumber
  | .signIn session phoneNumber => c.signIn session phoneNumber

/-- What comes of the last thing a submit does. A session that cannot be kept is an error; one that
    is kept is followed by the email step or by the result that the user is signed in. -/
inductive Concludes [SessionStore σ] (c : StepState) (w : World γ σ) :
    Finale → Move → StepState → World γ σ → Prop where
  | reported {e m c' l} (answer : c.Answers e m c' l) :
    Concludes c w (.report e) m c' (w.advance w.gateway w.store l)
  | handedOver {step h} : Concludes c w (.handOver step h) (.next step h) c.finish w
  | unkept {fin session phoneNumber e st m c' l}
    (keeps : fin = .requestEmail session phoneNumber ∨ fin = .signIn session phoneNumber)
    (refused : SessionStore.write session w.store = (.error e,st)) (answer : c.Answers (.ofStorage e) m c' l) :
    Concludes c w fin m c' (w.advance w.gateway st (.wrote session (.error e) :: l))
  | emailRequested {session phoneNumber st} (kept : SessionStore.write session w.store = (.ok (),st)) :
    Concludes c w (.requestEmail session phoneNumber)
      (.next .email { receiver := c.receiver, phoneNumber, wantsEmail := true }) c.finish
      (w.advance w.gateway st [.wrote session (.ok ())])
  | signedIn {session phoneNumber st} (kept : SessionStore.write session w.store = (.ok (),st)) :
    Concludes c w (.signIn session phoneNumber) .signedIn c.finish
      ((handIn c.receiver successCode { phoneNumber }).run (w.advance w.gateway st [.wrote session (.ok ())])).2

theorem signIn_kept [SessionStore σ] {c : StepState} {session : Session} {w : World γ σ} {st : σ}
    (kept : SessionStore.write session w.store = (.ok (),st)) (phoneNumber : String) :
    (c.signIn session phoneNumber).run w = ((.signedIn,c.finish),
      ((handIn c.receiver successCode { phoneNumber }).run (w.advance w.gateway st [.wrote session (.ok ())])).2) := by
  simp only [StepState.signIn,bind_run,writeSession_run,kept,reportSuccess]
  rfl

theorem signIn_refused [SessionStore σ] {c : StepState} {session : Session} {w : World γ σ} {e : StorageError} {st : σ}
    (refused : SessionStore.write session w.store = (.error e,st)) (phoneNumber : String) :
    (c.signIn session phoneNumber).run w =
      (c.report (.ofStorage e)).run (w.advance w.gateway st [.wrote session (.error e)]) := by
  simp only [StepState.signIn,bind_run,writeSession_run,refused]

theorem requestEmail_kept [SessionStore σ] {c : StepState} {session : Session} {w : World γ σ} {st : σ}
    (kept : SessionStore.write session w.store = (.ok (),st)) (phoneNumber : String) :
    (c.requestEmail session phoneNumber).run w =
      (c.toEmail phoneNumber,w.advance w.gateway st [.wrote session (.ok ())]) := by
  simp only [StepState.requestEmail,bind_run,writeSession_run,kept]
  rfl

theorem requestEmail_refused [SessionStore σ] {c : StepState} {session : Session} {w : World γ σ} {e : StorageError}
    {st : σ} (refused : SessionStore.write session w.store = (.error e,st)) (phoneNumber : String) :
    (c.requestEmail session phoneNumber).run w =
      (c.report (.ofStorage e)).run (w.advance w.gateway st [.wrote session (.error e)]) := by
  simp only [StepState.requestEmail,bind_run,writeSession_run,refused]

theorem conclude_run [SessionStore σ] {c : StepState} (unspent : c.budget.spent = false) (fin : Finale)
    (w : World γ σ) : ∃ m c' w', Concludes c w fin m c' w' ∧ (c.conclude fin).run w = ((m,c'),w') := by
  -- A session that the store refuses is reported, whichever of the two it was kept for.
  have refuse {session phoneNumber} {e : StorageError} {st : σ}
      (keeps : fin = .requestEmail session phoneNumber ∨ fin = .signIn session phoneNumber)
      (refused : SessionStore.write session w.store = (.error e,st)) : ∃ m c' w', Concludes c w fin m c' w' ∧
        (c.report (.ofStorage e)).run (w.advance w.gateway st [.wrote session (.error e)]) = ((m,c'),w') := by
    obtain ⟨m,c',l,answer,ran⟩ := report_run unspent (.ofStorage e) (w.advance w.gateway st [.wrote session (.error e)])
    exact ⟨m,c',_,.unkept keeps refused answer,by rw [ran]; simp⟩
  cases fin with
  | report e =>
    obtain ⟨m,c',l,answer,ran⟩ := report_run unspent e w
    exact ⟨m,c',_,.reported answer,ran⟩
  | handOver step h => exact ⟨_,_,_,.handedOver,rfl⟩
  | requestEmail session phoneNumber =>
    cases answer : SessionStore.write session w.store with
    | mk result st =>
      cases result with
      | error e =>
        rw [StepState.conclude,requestEmail_refused answer]
        exact refuse (.inl rfl) answer
      | ok kept => exact ⟨_,_,_,.emailRequested answer,requestEmail_kept answer phoneNumber⟩
  | signIn session phoneNumber =>
    cases answer : SessionStore.write session w.store with
    | mk result st =>
      cases result with
      | error e =>
        rw [StepState.conclude,signIn_refused answer]
        exact refuse (.inr rfl) answer
      | ok kept => exact ⟨_,_,_,.signedIn answer,signIn_kept answer phoneNumber⟩

/-! ### What a submit does before -/

/-- Whether a step goes on with what the user sends: it is open, and there is a text or an address. -/
def OpenStep.accepts (s : OpenStep) (input : String) : Bool :=
  !s.core.isClosed && match s with
    | .email _ => EmailAddress.isValid (Text.trim input)
    | _ => Text.trim input ≠ ""

theorem OpenStep.open_of_accepts {s : OpenStep} {input : String} (accepted : s.accepts input = true) :
    s.core.isClosed = false := by
  simp only [accepts,Bool.and_eq_true,Bool.not_eq_true'] at accepted
  exact accepted.1

theorem StepState.unspent_of_open {c : StepState} (open_ : c.isClosed = false) : c.budget.spent = false := by
  simp only [isClosed,Bool.or_eq_false_iff] at open_
  exact open_.2

/-- A step that goes on with a text is open, and the text is not blank. -/
theorem StepState.ready {c : StepState} {input : String} (accepted : (!c.isClosed && Text.trim input ≠ "") = true) :
    c.isClosed = false ∧ Text.trim input ≠ "" := by
  simpa using accepted

/-- A step that does not go on with a text is closed, or the text is blank. -/
theorem StepState.idle {c : StepState} {input : String} (ignored : (!c.isClosed && Text.trim input ≠ "") = false) :
    c.isClosed = true ∨ Text.trim input = "" := by
  by_cases closed : c.isClosed = true
  · exact .inl closed
  · exact .inr (by simpa [closed] using ignored)

/-- The journal's record of an attempt. -/
def StepState.attempt (c : StepState) : Occurrence :=
  .recorded ⟨c.step.component,.click (if c.budget.hasErrors then .retry else .submit)⟩

/-- The journal's record of a call that went well. -/
def StepState.succeeded (c : StepState) : Occurrence := .recorded ⟨c.step.component,.success⟩

/-- How a user with a new session goes on: where an address is wanted, the account is fetched first. -/
inductive SignsIn (session : Session) (phoneNumber : String) : Bool → List Occurrence → Finale → Prop where
  | direct : SignsIn session phoneNumber false [] (.signIn session phoneNumber)
  | accountRefused (e : CallError) :
    SignsIn session phoneNumber true [.asked (.verifyAccount session) (.error e)] (.report e)
  | addressMissing (a : Account)
    (missing : (Session.ofAccount a).email = none ∧ (Session.ofAccount a).id = session.id) :
    SignsIn session phoneNumber true [.asked (.verifyAccount session) (.ok a)]
      (.requestEmail (Session.ofAccount a) phoneNumber)
  | addressKnown (a : Account)
    (known : ¬((Session.ofAccount a).email = none ∧ (Session.ofAccount a).id = session.id)) :
    SignsIn session phoneNumber true [.asked (.verifyAccount session) (.ok a)]
      (.signIn (Session.ofAccount a) phoneNumber)

/-- How the code of a login is checked. -/
inductive LoginCodeStep.Checks (s : LoginCodeStep) (core : StepState) (code : String) :
    List Occurrence → Finale → Prop where
  | refused (e : CallError) : Checks s core code [.asked (.verifyCode s.requestId s.userId code) (.error e)] (.report e)
  | pinWanted (c : Credentials) (empty : c.isEmpty = true) :
    Checks s core code [.asked (.verifyCode s.requestId s.userId code) (.ok c),core.succeeded]
      (.handOver .pinCode
        { receiver := core.receiver, phoneNumber := s.phoneNumber, requestId := s.requestId, userId := s.userId,
          wantsEmail := s.wantsEmail })
  | taken (c : Credentials) (full : c.isEmpty = false) {l fin}
    (goesOn : SignsIn (.ofCredentials c s.phoneNumber) s.phoneNumber s.wantsEmail l fin) :
    Checks s core code (.asked (.verifyCode s.requestId s.userId code) (.ok c) :: core.succeeded :: l) fin

/-- How the code of a registration is checked. -/
inductive ConfirmationCodeStep.Checks (s : ConfirmationCodeStep) (core : StepState) (code : String) :
    List Occurrence → Finale → Prop where
  | refused (e : CallError) : Checks s core code [.asked (.createAccount code s.phoneNumber) (.error e)] (.report e)
  | addressWanted (c : Credentials) (wanted : s.wantsEmail = true) :
    Checks s core code [.asked (.createAccount code s.phoneNumber) (.ok c),core.succeeded]
      (.requestEmail (.ofCredentials c s.phoneNumber) s.phoneNumber)
  | taken (c : Credentials) (unwanted : s.wantsEmail = false) :
    Checks s core code [.asked (.createAccount code s.phoneNumber) (.ok c),core.succeeded]
      (.signIn (.ofCredentials c s.phoneNumber) s.phoneNumber)

/-- How a pin is checked. -/
inductive PinCodeStep.Checks (s : PinCodeStep) (core : StepState) (pin : String) :
    List Occurrence → Finale → Prop where
  | refused (e : CallError) : Checks s core pin [.asked (.verifyPin s.requestId s.userId pin) (.error e)] (.report e)
  | taken (c : Credentials) {l fin}
    (goesOn : SignsIn (.ofCredentials c s.phoneNumber) s.phoneNumber s.wantsEmail l fin) :
    Checks s core pin (.asked (.verifyPin s.requestId s.userId pin) (.ok c) :: core.succeeded :: l) fin

/-- How an address is added to the account of the session that the store `st` answers with. -/
inductive EmailStep.Attaches [SessionStore σ] (s : EmailStep) (core : StepState) (email : String) (st : σ) :
    List Occurrence → σ → Finale → Prop where
  | unreadable {e st'} (answer : SessionStore.read st = (.error e,st')) :
    Attaches s core email st [.read (.error e)] st' (.report (.ofStorage e))
  | noUser {active st'} (answer : SessionStore.read st = (.ok active,st'))
    (guest : ∀ session ∈ active, session.isGuest = true) :
    Attaches s core email st [.read (.ok active)] st' (.report (.fatal ""))
  | refused {session st'} (answer : SessionStore.read st = (.ok (some session),st'))
    (user : session.isGuest = false) (e : CallError) :
    Attaches s core email st [.read (.ok (some session)),.asked (.submitEmail session email) (.error e)] st'
      (.report e)
  | taken {session st'} (answer : SessionStore.read st = (.ok (some session),st'))
    (user : session.isGuest = false) (c : Credentials) :
    Attaches s core email st
      [.read (.ok (some session)),.asked (.submitEmail session email) (.ok c),core.succeeded] st'
      (.signIn session s.phoneNumber)

/-- The journal's record of an attempt to have a code sent. -/
def PhoneStep.attempt (s : PhoneStep) : Occurrence :=
  match s.channel with
  | .voiceCall => .recorded ⟨s.core.step.component,.click .callMe⟩
  | .sms => s.core.attempt

/-- How a step that is sending has a code sent, and the step then. -/
inductive PhoneStep.Sends (s : PhoneStep) (channel : Channel) : PhoneStep → List Occurrence → Finale → Prop where
  | refused (e : CallError) (known : e.errorClass ≠ .unknownDevice) (carried : e.errorClass ≠ .unsupportedCarrier) :
    Sends s channel s [.asked (.authenticateDevice s.phoneNumber channel) (.error e)] (.report e)
  | carrierRefused (m : String) (f : Features) :
    Sends s channel { s with voiceEnabled := f.voiceEnabled }.askAgain
      [.asked (.authenticateDevice s.phoneNumber channel) (.error (.unsupportedCarrier m f))]
      (.report (.unsupportedCarrier m f))
  | loginStarted (r : LoginRequest) {s'} (learnt : s' = s.learn r.features r.normalizedPhoneNumber) :
    Sends s channel s' [.asked (.authenticateDevice s.phoneNumber channel) (.ok r),s.core.succeeded]
      (.handOver .loginCode
        { receiver := s.core.receiver, phoneNumber := s'.phoneNumber, requestId := r.requestId, userId := r.userId,
          features := r.features, wantsEmail := s.asksEmail r.features })
  | registrationRefused (m : String) (e : CallError) :
    Sends s channel s
      [.asked (.authenticateDevice s.phoneNumber channel) (.error (.unknownDevice m)),
        .asked (.registerDevice s.phoneNumber channel) (.error e)] (.report e)
  | registered (m : String) (r : Registration) {s'} (learnt : s' = s.learn r.features r.normalizedPhoneNumber) :
    Sends s channel s'
      [.asked (.authenticateDevice s.phoneNumber channel) (.error (.unknownDevice m)),
        .asked (.registerDevice s.phoneNumber channel) (.ok r),s.core.succeeded]
      (.handOver .confirmationCode
        { receiver := s.core.receiver, phoneNumber := s'.phoneNumber, features := r.features,
          wantsEmail := s.asksEmail r.features })

/-- What a step does with a text that it accepts, up to the last thing: the step then, what happened,
    the store then, and the last thing. -/
inductive Course [SessionStore σ] (text : String) (st : σ) :
    OpenStep → OpenStep → List Occurrence → σ → Finale → Prop where
  | phone {s s' : PhoneStep} {l fin} (sends : (s.sending text).Sends s.channel s' l fin) :
    Course text st (.phone s) (.phone s') (s.attempt :: l) st fin
  | loginCode {s : LoginCodeStep} {l fin} (checks : s.Checks s.core.showWorking text l fin) :
    Course text st (.loginCode s) (.loginCode { s with core := s.core.showWorking }) (s.core.attempt :: l) st fin
  | confirmationCode {s : ConfirmationCodeStep} {l fin} (checks : s.Checks s.core.showWorking text l fin) :
    Course text st (.confirmationCode s) (.confirmationCode { s with core := s.core.showWorking })
      (s.core.attempt :: l) st fin
  | pinCode {s : PinCodeStep} {l fin} (checks : s.Checks s.core.showWorking text l fin) :
    Course text st (.pinCode s) (.pinCode { s with core := s.core.showWorking }) (s.core.attempt :: l) st fin
  | email {s : EmailStep} {l st' fin} (attaches : s.Attaches s.core.showWorking text st l st' fin) :
    Course text st (.email s) (.email { s with core := s.core.showWorking }) (s.core.attempt :: l) st' fin

/-! ### All submits -/

/-- The step after the last thing of its submit. -/
def OpenStep.conclude [SessionStore σ] (s : OpenStep) (fin : Finale) : Operation γ σ (Move × OpenStep) :=
  Prod.map id s.setCore <$> s.core.conclude fin

theorem success_run (c : StepState) (w : World γ σ) :
    (c.record .success).run w = ((),w.advance w.gateway w.store [c.succeeded]) := rfl

theorem submitText_run {c : StepState} {input : String} (open_ : c.isClosed = false) (written : Text.trim input ≠ "")
    (check : StepState → String → Operation γ σ (Move × StepState)) (w : World γ σ) :
    (c.submitText input check).run w =
      (check c.showWorking (Text.trim input)).run (w.advance w.gateway w.store [c.attempt]) := by
  simp only [StepState.submitText]
  rw [if_neg (by simp [open_,written])]
  rfl

theorem submitText_ignored {c : StepState} {input : String} (ignored : c.isClosed = true ∨ Text.trim input = "")
    (check : StepState → String → Operation γ σ (Move × StepState)) (w : World γ σ) :
    (c.submitText input check).run w = ((.stay,c),w) := by
  simp only [StepState.submitText]
  rw [if_pos (by simpa [or_comm] using ignored)]
  rfl

/-- The phone step after the last thing of its submit. -/
def PhoneStep.conclude [SessionStore σ] (s : PhoneStep) (fin : Finale) : Operation γ σ (Move × PhoneStep) :=
  Prod.map id (fun core => { s with core }) <$> s.core.conclude fin

/-- The step with another number of errors counted. -/
def StepState.recount (c : StepState) (n : UInt64) : StepState := { c with budget.count := n }

/-- The phone step with another number of errors counted. -/
def PhoneStep.recount (s : PhoneStep) (n : UInt64) : PhoneStep := { s with core := s.core.recount n }

theorem PhoneStep.recount_same (s : PhoneStep) {n : UInt64} (same : s.core.budget.count = n) : s.recount n = s := by
  subst same
  rfl

theorem PhoneStep.askAgain_recount (s : PhoneStep) (n : UInt64) : (s.recount n).askAgain = s.askAgain.recount n := by
  cases voice : s.voiceEnabled <;> simp [askAgain,recount,StepState.recount,voice]

/-- The step with another number of errors counted. -/
def OpenStep.recount (s : OpenStep) (n : UInt64) : OpenStep := s.setCore (s.core.recount n)

theorem OpenStep.recount_same (s : OpenStep) {n : UInt64} (same : s.errorCount = n) : s.recount n = s := by
  subst same
  cases s <;> rfl

/-- The journal's record of an attempt to go on with what the user sends. -/
def OpenStep.attempt : OpenStep → Occurrence
  | phone s => s.attempt
  | s => s.core.attempt

section
variable [Gateway γ] [SessionStore σ]

theorem signsIn_run (session : Session) (phoneNumber : String) (wantsEmail : Bool) (w : World γ σ) :
    ∃ l g fin, SignsIn session phoneNumber wantsEmail l fin ∧
      ∀ (c : StepState) (w' : World γ σ), w'.Matches w →
        (if wantsEmail then c.signInOrRequestEmail session phoneNumber else c.signIn session phoneNumber).run w' =
          (c.conclude fin).run (w'.advance g w.store l) := by
  cases wantsEmail with
  | false =>
    refine ⟨_,w.gateway,_,.direct,fun c w' same => ?_⟩
    rw [← same.gateway,← same.store]
    simp [StepState.conclude]
  | true =>
    obtain ⟨answer,g,-,asked⟩ := ask_matching (.verifyAccount session) w
    cases answer with
    | error e =>
      refine ⟨_,g,_,.accountRefused e,fun c w' same => ?_⟩
      simp only [if_true,StepState.signInOrRequestEmail,bind_run,asked w' same]
      rfl
    | ok account =>
      by_cases missing : (Session.ofAccount account).email = none ∧ (Session.ofAccount account).id = session.id
      · refine ⟨_,g,_,.addressMissing account missing,fun c w' same => ?_⟩
        simp only [if_true,StepState.signInOrRequestEmail,bind_run,asked w' same]
        simp [missing,StepState.conclude]
      · refine ⟨_,g,_,.addressKnown account missing,fun c w' same => ?_⟩
        simp only [if_true,StepState.signInOrRequestEmail,bind_run,asked w' same]
        simp [missing,StepState.conclude]

theorem LoginCodeStep.check_core (s : LoginCodeStep) (core c : StepState) (code : String) :
    LoginCodeStep.check { s with core := core } c code = (s.check c code : Operation γ σ (Move × StepState)) :=
  bind_congr fun answer => by cases answer <;> rfl

theorem LoginCodeStep.check_run (s : LoginCodeStep) (core : StepState) (code : String) (w : World γ σ) :
    ∃ l g fin, s.Checks core code l fin ∧ ∀ n (w' : World γ σ), w'.Matches w →
      (s.check (core.recount n) code).run w' = ((core.recount n).conclude fin).run (w'.advance g w.store l) := by
  obtain ⟨answer,g,-,asked⟩ := ask_matching (.verifyCode s.requestId s.userId code) w
  cases answer with
  | error e =>
    refine ⟨_,g,_,.refused e,fun n w' same => ?_⟩
    simp only [LoginCodeStep.check,bind_run,asked w' same]
    rfl
  | ok credentials =>
    by_cases empty : credentials.isEmpty = true
    · refine ⟨_,g,_,.pinWanted credentials empty,fun n w' same => ?_⟩
      simp only [LoginCodeStep.check,bind_run,asked w' same,success_run,if_pos empty,World.advance_advance]
      rfl
    · obtain ⟨l,g',fin,goesOn,ran⟩ := signsIn_run (.ofCredentials credentials s.phoneNumber) s.phoneNumber s.wantsEmail
        (w.advance g w.store [])
      refine ⟨_,g',fin,.taken credentials (by simpa using empty) goesOn,fun n w' same => ?_⟩
      simp only [LoginCodeStep.check,bind_run,asked w' same,success_run,if_neg empty]
      refine (ran _ _ (.advanced ..)).trans ?_
      simp [StepState.succeeded,StepState.recount]

theorem ConfirmationCodeStep.check_core (s : ConfirmationCodeStep) (core c : StepState) (code : String) :
    ConfirmationCodeStep.check { s with core := core } c code = (s.check c code : Operation γ σ (Move × StepState)) :=
  bind_congr fun answer => by cases answer <;> rfl

theorem ConfirmationCodeStep.check_run (s : ConfirmationCodeStep) (core : StepState) (code : String) (w : World γ σ) :
    ∃ l g fin, s.Checks core code l fin ∧ ∀ n (w' : World γ σ), w'.Matches w →
      (s.check (core.recount n) code).run w' = ((core.recount n).conclude fin).run (w'.advance g w.store l) := by
  obtain ⟨answer,g,-,asked⟩ := ask_matching (.createAccount code s.phoneNumber) w
  cases answer with
  | error e =>
    refine ⟨_,g,_,.refused e,fun n w' same => ?_⟩
    simp only [ConfirmationCodeStep.check,bind_run,asked w' same]
    rfl
  | ok credentials =>
    by_cases wanted : s.wantsEmail = true
    · refine ⟨_,g,_,.addressWanted credentials wanted,fun n w' same => ?_⟩
      simp only [ConfirmationCodeStep.check,bind_run,asked w' same,success_run,if_pos wanted,World.advance_advance]
      rfl
    · refine ⟨_,g,_,.taken credentials (by simpa using wanted),fun n w' same => ?_⟩
      simp only [ConfirmationCodeStep.check,bind_run,asked w' same,success_run,if_neg wanted,World.advance_advance]
      rfl

theorem PinCodeStep.check_core (s : PinCodeStep) (core c : StepState) (code : String) :
    PinCodeStep.check { s with core := core } c code = (s.check c code : Operation γ σ (Move × StepState)) :=
  bind_congr fun answer => by cases answer <;> rfl

theorem PinCodeStep.check_run (s : PinCodeStep) (core : StepState) (pin : String) (w : World γ σ) :
    ∃ l g fin, s.Checks core pin l fin ∧ ∀ n (w' : World γ σ), w'.Matches w →
      (s.check (core.recount n) pin).run w' = ((core.recount n).conclude fin).run (w'.advance g w.store l) := by
  obtain ⟨answer,g,-,asked⟩ := ask_matching (.verifyPin s.requestId s.userId pin) w
  cases answer with
  | error e =>
    refine ⟨_,g,_,.refused e,fun n w' same => ?_⟩
    simp only [PinCodeStep.check,bind_run,asked w' same]
    rfl
  | ok credentials =>
    obtain ⟨l,g',fin,goesOn,ran⟩ := signsIn_run (.ofCredentials credentials s.phoneNumber) s.phoneNumber s.wantsEmail
      (w.advance g w.store [])
    refine ⟨_,g',fin,.taken credentials goesOn,fun n w' same => ?_⟩
    simp only [PinCodeStep.check,bind_run,asked w' same,success_run]
    refine (ran _ _ (.advanced ..)).trans ?_
    simp [StepState.succeeded,StepState.recount]

theorem EmailStep.attach_run (s : EmailStep) (core : StepState) (email : String) (w : World γ σ) :
    ∃ l g st fin, s.Attaches core email w.store l st fin ∧ ∀ n (w' : World γ σ), w'.Matches w →
      (s.attach (core.recount n) email).run w' = ((core.recount n).conclude fin).run (w'.advance g st l) := by
  have reads (w' : World γ σ) (same : w'.Matches w) : readSession.run w' = ((SessionStore.read w.store).1,
      w'.advance w.gateway (SessionStore.read w.store).2 [.read (SessionStore.read w.store).1]) := by
    rw [readSession_run,same.gateway,same.store]
  cases answer : SessionStore.read w.store with
  | mk result st =>
    rw [answer] at reads
    cases result with
    | error e =>
      refine ⟨_,w.gateway,_,_,.unreadable answer,fun n w' same => ?_⟩
      simp only [EmailStep.attach,bind_run,reads w' same]
      rfl
    | ok active =>
      cases active with
      | none =>
        refine ⟨_,w.gateway,_,_,.noUser answer (by simp),fun n w' same => ?_⟩
        simp only [EmailStep.attach,bind_run,reads w' same]
        rfl
      | some session =>
        by_cases guest : session.isGuest = true
        · refine ⟨_,w.gateway,_,_,.noUser answer (by simpa using guest),fun n w' same => ?_⟩
          simp only [EmailStep.attach,bind_run,reads w' same,if_pos guest]
          rfl
        · have user : session.isGuest = false := by simpa using guest
          obtain ⟨reply,g,-,asked⟩ := ask_matching (.submitEmail session email) (w.advance w.gateway st [])
          have asked (w' : World γ σ) := asked (w'.advance w.gateway st [.read (.ok (some session))]) ⟨rfl,rfl⟩
          cases reply with
          | error e =>
            refine ⟨_,g,_,_,.refused answer user e,fun n w' same => ?_⟩
            simp only [EmailStep.attach,bind_run,reads w' same,if_neg guest,asked w',World.advance_advance]
            rfl
          | ok credentials =>
            refine ⟨_,g,_,_,.taken answer user credentials,fun n w' same => ?_⟩
            simp only [EmailStep.attach,bind_run,reads w' same,if_neg guest,asked w',success_run,
              World.advance_advance]
            rfl

omit [Gateway γ] in
theorem PhoneStep.startLogin_run (s : PhoneStep) (r : LoginRequest) (w : World γ σ) :
    (s.startLogin r).run w = ((s.learn r.features r.normalizedPhoneNumber).conclude (.handOver .loginCode
      { receiver := s.core.receiver, phoneNumber := (s.learn r.features r.normalizedPhoneNumber).phoneNumber,
        requestId := r.requestId, userId := r.userId, features := r.features,
        wantsEmail := s.asksEmail r.features })).run (w.advance w.gateway w.store [s.core.succeeded]) := rfl

theorem PhoneStep.register_run (s : PhoneStep) (channel : Channel) (m : String) (w : World γ σ) :
    ∃ s' l g fin,
      s.Sends channel s' (.asked (.authenticateDevice s.phoneNumber channel) (.error (.unknownDevice m)) :: l) fin ∧
      ∀ n (w' : World γ σ), w'.Matches w →
        ((s.recount n).register channel).run w' = ((s'.recount n).conclude fin).run (w'.advance g w.store l) := by
  obtain ⟨answer,g,-,asked⟩ := ask_matching (.registerDevice s.phoneNumber channel) w
  cases answer with
  | error e =>
    refine ⟨_,_,g,_,.registrationRefused m e,fun n w' same => ?_⟩
    simp only [PhoneStep.register,bind_run,PhoneStep.recount,asked w' same]
    rfl
  | ok r =>
    refine ⟨_,_,g,_,.registered m r rfl,fun n w' same => ?_⟩
    simp only [PhoneStep.register,bind_run,PhoneStep.recount,asked w' same,success_run,World.advance_advance]
    rfl

/-- First the service is asked to start a login. -/
theorem PhoneStep.send_run (s : PhoneStep) (channel : Channel) (w : World γ σ) : ∃ s' l g fin,
    s.Sends channel s' (w.asking (.authenticateDevice s.phoneNumber channel) :: l) fin ∧
    ∀ n (w' : World γ σ), w'.Matches w → ((s.recount n).send channel).run w' = ((s'.recount n).conclude fin).run
      (w'.advance g w.store (w.asking (.authenticateDevice s.phoneNumber channel) :: l)) := by
  obtain ⟨answer,g,answers,asked⟩ := ask_matching (.authenticateDevice s.phoneNumber channel) w
  rw [World.asking,answers]
  have refuse (e : CallError) (known : e.errorClass ≠ .unknownDevice) (carried : e.errorClass ≠ .unsupportedCarrier)
      (reports : ∀ n (w' : World γ σ), w'.Matches w → ((s.recount n).send channel).run w' =
        ((s.recount n).report e).run
          (w'.advance g w.store [.asked (.authenticateDevice s.phoneNumber channel) (.error e)])) :
      ∃ s' l g fin, s.Sends channel s' (.asked (.authenticateDevice s.phoneNumber channel) (.error e) :: l) fin ∧
        ∀ n (w' : World γ σ), w'.Matches w → ((s.recount n).send channel).run w' = ((s'.recount n).conclude fin).run
          (w'.advance g w.store (.asked (.authenticateDevice s.phoneNumber channel) (.error e) :: l)) :=
    ⟨_,_,g,_,.refused e known carried,reports⟩
  cases answer with
  | ok r =>
    refine ⟨_,_,g,_,.loginStarted r rfl,fun n w' same => ?_⟩
    simp only [PhoneStep.send,bind_run,PhoneStep.recount,asked w' same,PhoneStep.startLogin_run,World.advance_advance]
    rfl
  | error e =>
    cases e with
    | unknownDevice m =>
      obtain ⟨s',l,g',fin,sends,ran⟩ := s.register_run channel m (w.advance g w.store [])
      refine ⟨s',_,g',fin,sends,fun n w' same => ?_⟩
      have now := asked w' same
      simp only [PhoneStep.send,bind_run]
      rw [show (s.recount n).phoneNumber = s.phoneNumber from rfl,now]
      refine (ran n _ (.advanced ..)).trans ?_
      simp
    | unsupportedCarrier m f =>
      refine ⟨_,_,g,_,.carrierRefused m f,fun n w' same => ?_⟩
      rw [← PhoneStep.askAgain_recount]
      simp only [PhoneStep.send,bind_run,PhoneStep.recount,asked w' same]
      rfl
    | fatal m =>
      refine refuse _ (by simp [CallError.errorClass]) (by simp [CallError.errorClass]) fun n w' same => ?_
      simp only [PhoneStep.send,bind_run,PhoneStep.recount,asked w' same]
    | service code m =>
      refine refuse _ (by simp [CallError.errorClass]) (by simp [CallError.errorClass]) fun n w' same => ?_
      simp only [PhoneStep.send,bind_run,PhoneStep.recount,asked w' same]
    | unreachable m =>
      refine refuse _ (by simp [CallError.errorClass]) (by simp [CallError.errorClass]) fun n w' same => ?_
      simp only [PhoneStep.send,bind_run,PhoneStep.recount,asked w' same]
    | malformed m =>
      refine refuse _ (by simp [CallError.errorClass]) (by simp [CallError.errorClass]) fun n w' same => ?_
      simp only [PhoneStep.send,bind_run,PhoneStep.recount,asked w' same]

omit [Gateway γ] [SessionStore σ] in
theorem PhoneStep.recordAttempt_run (s : PhoneStep) (w : World γ σ) :
    s.recordAttempt.run w = ((),w.advance w.gateway w.store [s.attempt]) := by
  rw [PhoneStep.recordAttempt,PhoneStep.attempt]
  cases s.channel <;> rfl

/-- The first call of a phone step that goes on with what the user sends. -/
def PhoneStep.firstCall (s : PhoneStep) (input : String) : Call :=
  .authenticateDevice (fullNumber s.countryCode (Text.trim input)) s.channel

omit [SessionStore σ] in
/-- A phone step that goes on with what the user sends records the attempt, and has a code sent. -/
theorem PhoneStep.submit_ready {s : PhoneStep} {input : String} (open_ : s.core.isClosed = false)
    (written : Text.trim input ≠ "") : (s.submit input : Operation γ σ (Move × PhoneStep)) =
      (do s.recordAttempt; (s.sending (Text.trim input)).send s.channel) := by
  rw [PhoneStep.submit]
  exact if_neg (by simp [open_,written])

theorem PhoneStep.submit_run {s : PhoneStep} {input : String} (open_ : s.core.isClosed = false)
    (written : Text.trim input ≠ "") (w : World γ σ) : ∃ s' l g fin,
      (s.sending (Text.trim input)).Sends s.channel s' (w.asking (s.firstCall input) :: l) fin ∧
      ∀ n (w' : World γ σ), w'.Matches w → ((s.recount n).submit input).run w' = ((s'.recount n).conclude fin).run
        (w'.advance g w.store ((s.recount n).attempt :: w.asking (s.firstCall input) :: l)) := by
  obtain ⟨s',l,g,fin,sends,ran⟩ := PhoneStep.send_run (s.sending (Text.trim input)) s.channel w
  refine ⟨s',l,g,fin,sends,fun n w' same => ?_⟩
  have open_ : (s.recount n).core.isClosed = false := open_
  have sent : ((s.recount n).submit input).run w' = (((s.sending (Text.trim input)).recount n).send s.channel).run
      (w'.advance w'.gateway w'.store [(s.recount n).attempt]) := by
    rw [PhoneStep.submit_ready open_ written,bind_run,PhoneStep.recordAttempt_run]
    rfl
  rw [sent,same.gateway,same.store]
  rw [ran n (w'.advance w.gateway w.store [(s.recount n).attempt]) ⟨rfl,rfl⟩,World.advance_advance]
  rfl

/-- A step that accepts what the user sends takes its course and does one last thing; neither depends on the errors that
    have been counted, or on what has happened before. -/
theorem OpenStep.submit_run {s : OpenStep} {input : String} (accepted : s.accepts input = true) (w : World γ σ) :
    ∃ s' l g st fin, Course (Text.trim input) w.store s s' (s.attempt :: l) st fin ∧
      ∀ n (w' : World γ σ), w'.Matches w → ((s.recount n).submit input).run w' =
        ((s'.recount n).conclude fin).run (w'.advance g st ((s.recount n).attempt :: l)) := by
  cases s with
  | phone s =>
    have ready := StepState.ready (c := s.core) accepted
    obtain ⟨s',l,g,fin,sends,ran⟩ := PhoneStep.submit_run ready.1 ready.2 w
    refine ⟨_,_,g,_,fin,.phone sends,fun n w' same => ?_⟩
    simp only [OpenStep.submit,OpenStep.recount,setCore,core,map_run]
    rw [show { s with core := s.core.recount n } = s.recount n from rfl,ran n w' same]
    rfl
  | loginCode s =>
    have ready := StepState.ready (c := s.core) accepted
    obtain ⟨l,g,fin,checks,ran⟩ := s.check_run s.core.showWorking (Text.trim input) w
    refine ⟨_,_,g,_,fin,.loginCode checks,fun n w' same => ?_⟩
    have open_ : (s.core.recount n).isClosed = false := ready.1
    have sent : (((loginCode s).recount n).submit input).run w' =
        Prod.map (Prod.map id fun core => loginCode { s with core }) id ((s.check (s.core.showWorking.recount n)
          (Text.trim input)).run (w'.advance w.gateway w.store [(s.core.recount n).attempt])) := by
      simp only [OpenStep.recount,setCore,core,submit,LoginCodeStep.submit,map_run,bind_run,
        submitText_run open_ ready.2,LoginCodeStep.check_core]
      rw [same.gateway,same.store]
      rfl
    rw [sent,ran n (w'.advance w.gateway w.store [(s.core.recount n).attempt]) ⟨rfl,rfl⟩,World.advance_advance]
    rfl
  | confirmationCode s =>
    have ready := StepState.ready (c := s.core) accepted
    obtain ⟨l,g,fin,checks,ran⟩ := s.check_run s.core.showWorking (Text.trim input) w
    refine ⟨_,_,g,_,fin,.confirmationCode checks,fun n w' same => ?_⟩
    have open_ : (s.core.recount n).isClosed = false := ready.1
    have sent : (((confirmationCode s).recount n).submit input).run w' =
        Prod.map (Prod.map id fun core => confirmationCode { s with core }) id ((s.check (s.core.showWorking.recount n)
          (Text.trim input)).run (w'.advance w.gateway w.store [(s.core.recount n).attempt])) := by
      simp only [OpenStep.recount,setCore,core,submit,ConfirmationCodeStep.submit,map_run,bind_run,
        submitText_run open_ ready.2,ConfirmationCodeStep.check_core]
      rw [same.gateway,same.store]
      rfl
    rw [sent,ran n (w'.advance w.gateway w.store [(s.core.recount n).attempt]) ⟨rfl,rfl⟩,World.advance_advance]
    rfl
  | pinCode s =>
    have ready := StepState.ready (c := s.core) accepted
    obtain ⟨l,g,fin,checks,ran⟩ := s.check_run s.core.showWorking (Text.trim input) w
    refine ⟨_,_,g,_,fin,.pinCode checks,fun n w' same => ?_⟩
    have open_ : (s.core.recount n).isClosed = false := ready.1
    have sent : (((pinCode s).recount n).submit input).run w' =
        Prod.map (Prod.map id fun core => pinCode { s with core }) id ((s.check (s.core.showWorking.recount n)
          (Text.trim input)).run (w'.advance w.gateway w.store [(s.core.recount n).attempt])) := by
      simp only [OpenStep.recount,setCore,core,submit,PinCodeStep.submit,map_run,bind_run,
        submitText_run open_ ready.2,PinCodeStep.check_core]
      rw [same.gateway,same.store]
      rfl
    rw [sent,ran n (w'.advance w.gateway w.store [(s.core.recount n).attempt]) ⟨rfl,rfl⟩,World.advance_advance]
    rfl
  | email s =>
    have ready : s.core.isClosed = false ∧ EmailAddress.isValid (Text.trim input) = true := by
      simpa [accepts,core] using accepted
    obtain ⟨l,g,st,fin,attaches,ran⟩ := s.attach_run s.core.showWorking (Text.trim input) w
    refine ⟨_,_,g,st,fin,.email attaches,fun n w' same => ?_⟩
    have open_ : (s.core.recount n).isClosed = false := ready.1
    have sent : (((email s).recount n).submit input).run w' =
        Prod.map (Prod.map id fun core => email { s with core }) id ((s.attach (s.core.showWorking.recount n)
          (Text.trim input)).run (w'.advance w.gateway w.store [(s.core.recount n).attempt])) := by
      simp only [OpenStep.recount,setCore,core,submit,map_run,EmailStep.submit,open_,ready.2]
      rw [← same.gateway,← same.store]
      rfl
    rw [sent,ran n (w'.advance w.gateway w.store [(s.core.recount n).attempt]) ⟨rfl,rfl⟩,World.advance_advance]
    rfl

omit [Gateway γ] [SessionStore σ] in
/-- The step when it has not accepted what the user sends: the email step says that the address is none, while it is
    open. -/
def OpenStep.ignoring (s : OpenStep) : OpenStep :=
  match s with
  | .email _ => if s.core.isClosed then s else s.setCore (s.core.showError invalidEmailMessage)
  | _ => s

omit [Gateway γ] [SessionStore σ] in
theorem OpenStep.ignoring_cases (s : OpenStep) :
    s.ignoring = s ∨ s.ignoring = s.setCore (s.core.showError invalidEmailMessage) := by
  cases s with
  | email s =>
    simp only [ignoring]
    split
    · exact .inl rfl
    · exact .inr rfl
  | _ => exact .inl rfl

/-- A step that does not accept what the user sends does nothing but show that an address is none. -/
theorem OpenStep.submit_unaccepted {s : OpenStep} {input : String} (ignored : s.accepts input = false) (w : World γ σ) :
    (s.submit input).run w = ((.stay,s.ignoring),w) := by
  cases s with
  | phone s =>
    have idle := StepState.idle (c := s.core) ignored
    simp only [OpenStep.submit,map_run,PhoneStep.submit]
    rw [if_pos (by simpa [or_comm] using idle)]
    rfl
  | loginCode s =>
    have idle := StepState.idle (c := s.core) ignored
    simp only [OpenStep.submit,LoginCodeStep.submit,map_run,bind_run,submitText_ignored idle]
    rfl
  | confirmationCode s =>
    have idle := StepState.idle (c := s.core) ignored
    simp only [OpenStep.submit,ConfirmationCodeStep.submit,map_run,bind_run,submitText_ignored idle]
    rfl
  | pinCode s =>
    have idle := StepState.idle (c := s.core) ignored
    simp only [OpenStep.submit,PinCodeStep.submit,map_run,bind_run,submitText_ignored idle]
    rfl
  | email s =>
    by_cases closed : s.core.isClosed = true
    · simp only [OpenStep.submit,map_run,EmailStep.submit,ignoring,core,closed,if_true]
      rfl
    · have invalid : EmailAddress.isValid (Text.trim input) = false := by simpa [accepts,core,closed] using ignored
      simp only [OpenStep.submit,map_run,EmailStep.submit,ignoring,core,closed,invalid]
      rfl

theorem OpenStep.submit_ignored {s : OpenStep} {input : String} (ignored : s.accepts input = false) (w : World γ σ) :
    ∃ s', (s' = s ∨ s' = s.setCore (s.core.showError invalidEmailMessage)) ∧
      (s.submit input).run w = ((.stay,s'),w) :=
  ⟨s.ignoring,s.ignoring_cases,submit_unaccepted ignored w⟩

end

/-! ### What every course keeps -/

/-- A step from which the code is asked for again stays as it is, but for how the code is sent and what the step shows
    of that. -/
theorem PhoneStep.askAgain_keeps (s : PhoneStep) : ∃ button terms, s.askAgain =
    { s with resending := true, core := { s.core with view := { s.core.view with button, terms } } } := by
  simp only [askAgain]
  split
  · exact ⟨.callMe,.callMe,rfl⟩
  · exact ⟨s.core.view.button,s.core.view.terms,rfl⟩

/-- A phone step that is sending changes no more of what it has in common with others than what it shows of how the next
    code is sent. -/
theorem PhoneStep.Sends.core {s s' : PhoneStep} {channel : Channel} {l : List Occurrence} {fin : Finale}
    (sends : s.Sends channel s' l fin) :
    ∃ button terms, s'.core = { s.core with view := { s.core.view with button, terms } } := by
  cases sends with
  | refused => exact ⟨_,_,rfl⟩
  | carrierRefused m f =>
    obtain ⟨button,terms,asked⟩ := PhoneStep.askAgain_keeps { s with voiceEnabled := f.voiceEnabled }
    exact ⟨button,terms,congrArg PhoneStep.core asked⟩
  | loginStarted r learnt =>
    subst learnt
    exact ⟨_,_,rfl⟩
  | registrationRefused => exact ⟨_,_,rfl⟩
  | registered m r learnt =>
    subst learnt
    exact ⟨_,_,rfl⟩

/-- Before its last thing a submit leaves a step at work, and a phone step may show how the next code is sent. -/
theorem Course.core [SessionStore σ] {text : String} {st st' : σ} {s s' : OpenStep} {l : List Occurrence}
    {fin : Finale} (course : Course text st s s' l st' fin) : ∃ button terms,
      s'.core = { s.core.showWorking with view := { s.core.showWorking.view with button, terms } } := by
  cases course with
  | phone sends => exact sends.core
  | _ => exact ⟨_,_,rfl⟩

/-- What a step keeps up to the last thing of a submit. -/
structure OpenStep.Keeps (s s' : OpenStep) : Prop where
  step : s'.core.step = s.core.step
  receiver : s'.core.receiver = s.core.receiver
  budget : s'.core.budget = s.core.budget
  closed : s'.core.isClosed = s.core.isClosed
  /-- A step at work shows no message. -/
  silent : s'.core.view.message = none

theorem Course.keeps [SessionStore σ] {text : String} {st st' : σ} {s s' : OpenStep} {l : List Occurrence}
    {fin : Finale} (course : Course text st s s' l st' fin) : s.Keeps s' := by
  obtain ⟨_,_,core⟩ := course.core
  constructor <;> rw [core] <;> rfl

/-! ### What every course does -/

theorem StepState.attempt_plain (c : StepState) : c.attempt.Plain := .recorded c.step.component_ne
theorem StepState.succeeded_plain (c : StepState) : c.succeeded.Plain := .recorded c.step.component_ne

theorem PhoneStep.attempt_plain (s : PhoneStep) : s.attempt.Plain := by
  rw [PhoneStep.attempt]
  cases s.channel with
  | voiceCall => exact .recorded s.core.step.component_ne
  | sms => exact s.core.attempt_plain

theorem SignsIn.plain {session : Session} {phoneNumber : String} {wantsEmail : Bool} {l : List Occurrence}
    {fin : Finale} (goesOn : SignsIn session phoneNumber wantsEmail l fin) : ∀ o ∈ l, o.Plain := by
  cases goesOn <;> simp [Occurrence.Plain.asked]

/-- Before its last thing a submit calls, reads and records. -/
theorem Course.plain [SessionStore σ] {text : String} {st st' : σ} {s s' : OpenStep} {l : List Occurrence}
    {fin : Finale} (course : Course text st s s' l st' fin) : ∀ o ∈ l, o.Plain := by
  have called := Occurrence.Plain.asked
  have read := Occurrence.Plain.read
  have succeeded := StepState.succeeded_plain
  cases course with
  | @phone s _ _ _ sends =>
    have attempted := s.attempt_plain
    cases sends <;> simp [*]
  | @loginCode s _ _ checks =>
    have attempted := s.core.attempt_plain
    cases checks with
    | refused => simp [*]
    | pinWanted => simp [*]
    | taken c full goesOn =>
      have rest := goesOn.plain
      simp_all
  | @confirmationCode s _ _ checks =>
    have attempted := s.core.attempt_plain
    cases checks <;> simp [*]
  | @pinCode s _ _ checks =>
    have attempted := s.core.attempt_plain
    cases checks with
    | refused => simp [*]
    | taken c goesOn =>
      have rest := goesOn.plain
      simp_all
  | @email s _ _ _ attaches =>
    have attempted := s.core.attempt_plain
    cases attaches <;> simp [*]

/-! ### All submits, in one relation -/

/-- All that a submit can do: nothing, or a course with its last thing. -/
inductive Submits [SessionStore σ] (s : OpenStep) (input : String) (w : World γ σ) :
    Move → OpenStep → World γ σ → Prop where
  | ignored {s'} (rest : s.accepts input = false)
    (same : s' = s ∨ s' = s.setCore (s.core.showError invalidEmailMessage)) : Submits s input w .stay s' w
  | went {s' l g st fin m c' w'} (accepted : s.accepts input = true)
    (course : Course (Text.trim input) w.store s s' l st fin)
    (ends : Concludes s'.core (w.advance g st l) fin m c' w') : Submits s input w m (s'.setCore c') w'

/-- A submit is ignored, or takes a course and does one last thing. -/
theorem submits [Gateway γ] [SessionStore σ] (s : OpenStep) (input : String) (w : World γ σ) :
    ∃ m s' w', Submits s input w m s' w' ∧ (s.submit input).run w = ((m,s'),w') := by
  by_cases accepted : s.accepts input = true
  · obtain ⟨s',l,g,st,fin,course,ran⟩ := OpenStep.submit_run accepted w
    have unspent : s'.core.budget.spent = false := by
      rw [course.keeps.budget]
      exact StepState.unspent_of_open (OpenStep.open_of_accepts accepted)
    obtain ⟨m,c',w',ends,concluded⟩ := conclude_run unspent fin (w.advance g st (s.attempt :: l))
    refine ⟨m,s'.setCore c',w',.went accepted course ends,?_⟩
    have now := ran s.errorCount w (.refl w)
    have counted : s'.errorCount = s.errorCount := congrArg ErrorBudget.count course.keeps.budget
    rw [s.recount_same rfl,s'.recount_same counted] at now
    rw [now,OpenStep.conclude,map_run,concluded]
    rfl
  · obtain ⟨s',same,ran⟩ := OpenStep.submit_ignored (Bool.eq_false_iff.mpr accepted) w
    exact ⟨_,s',w,.ignored (Bool.eq_false_iff.mpr accepted) same,ran⟩

end PhoneSignIn.Flow
