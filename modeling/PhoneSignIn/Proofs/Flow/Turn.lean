import PhoneSignIn.Proofs.Flow.Scene

/-!
What each act does in a scene. Most acts only record what the user sees and does (`Scene.quiet_records`).
A submit does what `Submits` tells (`Scene.submit_does`), a sign-in begins as `Begins` tells, and a
dismissed failure screen hands its failure in.
-/
namespace PhoneSignIn.Flow

variable {γ σ : Type}

/-! ### Acts that only record -/

/-- Acts that only record what the user sees and does. -/
def Act.isQuiet : Act → Bool
  | .openStep .. | .resend _ | .phoneResend _ | .chooseCountry .. | .edited _ | .clearError _ | .resume _
  | .openFailure _ | .resumeFailure _ | .restart _ => true
  | _ => false

/-- What the screens record. -/
inductive Occurrence.Noted : Occurrence → Prop where
  | recorded {component action} (elsewhere : component ≠ .auth) : Noted (.recorded ⟨component,action⟩)

theorem Occurrence.Noted.plain {o : Occurrence} (noted : o.Noted) : o.Plain := by
  cases noted with
  | recorded elsewhere => exact .recorded elsewhere

/-- A world on which something was recorded by the screens, and nothing else happened. -/
def World.Records (w w' : World γ σ) : Prop :=
  ∃ l, (∀ o ∈ l, o.Noted) ∧ w' = w.advance w.gateway w.store l

namespace World.Records

theorem nothing (w : World γ σ) : w.Records w := ⟨[],by simp,by simp⟩

theorem one (w : World γ σ) {component : Journal.Component} (elsewhere : component ≠ .auth) (action : Journal.Action) :
    w.Records ((record component action).run w).2 :=
  ⟨[.recorded ⟨component,action⟩],by simpa using .recorded elsewhere,rfl⟩

theorem plain {w w' : World γ σ} (records : w.Records w') :
    ∃ l, (∀ o ∈ l, o.Plain) ∧ w' = w.advance w.gateway w.store l := by
  obtain ⟨l,noted,rfl⟩ := records
  exact ⟨l,fun o member => (noted o member).plain,rfl⟩

end World.Records

theorem StepState.goBack_records (c : StepState) (h : Handoff) (w : World γ σ) : w.Records ((c.goBack h).run w).2 := by
  simp only [StepState.goBack]
  split
  · exact .nothing w
  · exact .one w c.step.component_ne _

theorem OpenStep.resend_records (s : OpenStep) (w : World γ σ) : w.Records (s.resend.run w).2 := by
  cases s with
  | loginCode s => exact s.core.goBack_records _ w
  | confirmationCode s => exact s.core.goBack_records _ w
  | phone s => exact .nothing w
  | pinCode s => exact .nothing w
  | email s => exact .nothing w

namespace Scene
variable {s : Scene γ σ} {i : Nat}

@[simp] theorem follow_world (move : Move) : (s.follow move).world = s.world := by
  cases move <;> rfl

/-- What a scene has it keeps when it keeps it at a step that is there. -/
theorem onStep_keeps {P : Scene γ σ → Prop} {act : OpenStep → Reply × Scene γ σ} (before : P s)
    (keeps : ∀ o, s.steps[i]? = some o → P (act o.step).2) : P (s.onStep i act).2 := by
  rw [onStep]
  cases found : s.steps[i]? with
  | none => exact before
  | some o => exact keeps o found

theorem onPhone_keeps {P : Scene γ σ → Prop} {act : PhoneStep → Operation γ σ PhoneStep} (before : P s)
    (keeps : ∀ o p, s.steps[i]? = some o → o.step = .phone p →
      P ((s.perform (act p)).2.setStep i (.phone (s.perform (act p)).1))) : P (s.onPhone i act).2 := by
  refine onStep_keeps before ?_
  intro o found
  cases kind : o.step with
  | phone p => exact keeps o p found kind
  | loginCode => exact before
  | confirmationCode => exact before
  | pinCode => exact before
  | email => exact before

theorem onScreen_keeps {P : Scene γ σ → Prop} {act : FailureScreen → Reply × Scene γ σ} (before : P s)
    (keeps : ∀ f, s.screens[i]? = some f → P (act f).2) : P (s.onScreen i act).2 := by
  rw [onScreen]
  cases found : s.screens[i]? with
  | none => exact before
  | some f => exact keeps f found

/-- A quiet act leaves the gateway, the store and all receivers as they are. -/
theorem quiet_records [Gateway γ] [SessionStore σ] {act : Act} (quiet : act.isQuiet = true) :
    s.world.Records (s.does act).2.world := by
  have nothing := World.Records.nothing s.world
  have one {component : Journal.Component} (elsewhere : component ≠ .auth) :=
    World.Records.one s.world elsewhere
  cases act with
  | openStep step handoff =>
    simp only [does,openStep]
    split
    · exact nothing
    · exact nothing
  | resend i =>
    refine onStep_keeps (P := fun s' => s.world.Records s'.world) nothing ?_
    intro o _
    have records := o.step.resend_records s.world
    simp only [perform]
    split
    · rename_i answer
      simp only [Prod.mk.injEq] at answer
      rw [follow_world,← answer.2]
      exact records
    · rename_i answer
      simp only [Prod.mk.injEq] at answer
      rw [← answer.2]
      exact records
  | phoneResend i => exact onPhone_keeps (P := fun s' => s.world.Records s'.world) nothing fun o p _ _ => nothing
  | chooseCountry i countryCode =>
    exact onPhone_keeps (P := fun s' => s.world.Records s'.world) nothing fun o p _ _ => one p.core.step.component_ne _
  | edited i => exact onStep_keeps (P := fun s' => s.world.Records s'.world) nothing fun o _ => nothing
  | clearError i => exact onStep_keeps (P := fun s' => s.world.Records s'.world) nothing fun o _ => nothing
  | resume i =>
    exact onStep_keeps (P := fun s' => s.world.Records s'.world) nothing fun o _ => one o.step.core.step.component_ne _
  | openFailure failure => exact nothing
  | resumeFailure i =>
    exact onScreen_keeps (P := fun s' => s.world.Records s'.world) nothing fun f _ => one (by decide) _
  | restart i =>
    refine onScreen_keeps (P := fun s' => s.world.Records s'.world) nothing ?_
    intro f _
    simp only [follow_world]
    exact one (by decide) _
  | _ => cases quiet

end Scene

/-! ### Beginnings -/

/-- The world with one more receiver. -/
def World.joined (w : World γ σ) (c : Callback) : World γ σ :=
  { w with receivers := w.receivers ++ [{ callback := c }] }

theorem World.joined_found {w : World γ σ} {r : ReceiverId} {rc : Receiver} (found : w.receivers[r]? = some rc)
    (c : Callback) : (w.joined c).receivers[r]? = some rc := by
  have bound := (List.getElem?_eq_some_iff.mp found).1
  simp only [World.joined]
  rw [List.getElem?_append_left bound]
  exact found

/-- How a sign-in begins, by what the store answers. -/
inductive Begins [SessionStore σ] (config : SignInRequest) (w : World γ σ) :
    Except OpeningError Beginning → World γ σ → Prop where
  | unreadable {e st} (answer : SessionStore.read w.store = (.error e,st)) :
    Begins config w (.error (.storage e)) (w.advance w.gateway st [.recorded ⟨.auth,.impression⟩,.read (.error e)])
  | already {session st} (answer : SessionStore.read w.store = (.ok (some session),st))
    (user : session.isGuest = false) :
    Begins config w (.ok (.signedIn session)) (w.advance w.gateway st
      ([.recorded ⟨.auth,.impression⟩,.read (.ok (some session))] ++
        w.telling { host := config.host } (.success config.host session session.phoneNumber)))
  | launched {active st} (answer : SessionStore.read w.store = (.ok active,st))
    (guest : ∀ session ∈ active, session.isGuest = true) :
    Begins config w
      (.ok (.launch
        { receiver := w.receivers.length, phoneNumber := config.phoneNumber, wantsEmail := config.wantsEmail }))
      ((w.advance w.gateway st [.recorded ⟨.auth,.impression⟩,.read (.ok active)]).joined { host := config.host })

theorem startSignIn_begins [SessionStore σ] (config : SignInRequest) (w : World γ σ) :
    Begins config w ((startSignIn config).run w).1 ((startSignIn config).run w).2 := by
  simp only [startSignIn,bind_run,record_run,readSession_run,World.advance_store,World.advance_gateway,
    World.advance_advance]
  cases answer : SessionStore.read w.store with
  | mk result st =>
    cases result with
    | error e => exact .unreadable answer
    | ok active =>
      cases active with
      | none => exact .launched answer (by simp)
      | some session =>
        by_cases guest : session.isGuest = true
        · simp only [Option.filter,guest]
          exact .launched answer (by simpa using guest)
        · have user : session.isGuest = false := by simpa using guest
          simp only [Option.filter,user,Bool.not_false,if_true,bind_run,tellSuccess_run,World.advance_advance]
          exact .already answer user

/-- A user is signed in already if and only if the store answers with the user's session. -/
theorem Begins.signedIn_iff [SessionStore σ] {config : SignInRequest} {w w' : World γ σ}
    {result : Except OpeningError Beginning} (begins : Begins config w result w') {session : Session} :
    result = .ok (.signedIn session) ↔
      (SessionStore.read w.store).1 = .ok (some session) ∧ session.isGuest = false := by
  cases begins with
  | unreadable answer => simp [answer]
  | @already found st answer user =>
    simp only [answer,Except.ok.injEq,Beginning.signedIn.injEq,Option.some.injEq]
    exact ⟨fun same => ⟨same,same ▸ user⟩,And.left⟩
  | @launched active st answer guest =>
    simp only [answer,Except.ok.injEq,reduceCtorEq,false_iff,not_and]
    rintro rfl
    simp [guest session rfl]

/-- A sign-in cannot begin if and only if the store cannot be read. -/
theorem Begins.error_iff [SessionStore σ] {config : SignInRequest} {w w' : World γ σ}
    {result : Except OpeningError Beginning} (begins : Begins config w result w') {e : OpeningError} :
    result = .error e ↔ ∃ e', (SessionStore.read w.store).1 = .error e' ∧ e = .storage e' := by
  cases begins with
  | unreadable answer => simp [answer,eq_comm]
  | already answer user => simp [answer]
  | launched answer guest => simp [answer]

/-! ### Verifications -/

/-- What a verification does and answers: every stage is reached only where the one before it succeeds. -/
inductive Refreshes [Gateway γ] [SessionStore σ] (session : Session) (w : World γ σ) :
    Option Session → World γ σ → Prop where
  | guest (guest : session.isGuest = true) : Refreshes session w none w
  | unanswered {e g} (user : session.isGuest = false)
    (answer : Gateway.ask (.verifyAccount session) w.gateway = (.error e,g)) :
    Refreshes session w none (w.advance g w.store [.asked (.verifyAccount session) (.error e)])
  | unkept {account g e st} (user : session.isGuest = false)
    (answer : Gateway.ask (.verifyAccount session) w.gateway = (.ok account,g))
    (refused : SessionStore.write (.ofAccount account) w.store = (.error e,st)) :
    Refreshes session w none (w.advance g st
      [.asked (.verifyAccount session) (.ok account),.wrote (.ofAccount account) (.error e)])
  | refreshed {account g st} (user : session.isGuest = false)
    (answer : Gateway.ask (.verifyAccount session) w.gateway = (.ok account,g))
    (kept : SessionStore.write (.ofAccount account) w.store = (.ok (),st)) :
    Refreshes session w (some (.ofAccount account)) (w.advance g st
      [.asked (.verifyAccount session) (.ok account),.wrote (.ofAccount account) (.ok ()),
        .delivered (.changed (.ofAccount account))])

theorem refreshSession_refreshes [Gateway γ] [SessionStore σ] (session : Session) (w : World γ σ) :
    Refreshes session w ((refreshSession session).run w).1 ((refreshSession session).run w).2 := by
  by_cases guest : session.isGuest = true
  · simp only [refreshSession,guest,if_true]
    exact .guest guest
  · have user : session.isGuest = false := by simpa using guest
    have asked := asking_run (.verifyAccount session) w
    simp only [refreshSession,user,Bool.false_eq_true,if_false,bind_run]
    rw [asked,World.asking]
    cases answer : Gateway.ask (.verifyAccount session) w.gateway with
    | mk result g =>
      cases result with
      | error e => exact .unanswered user answer
      | ok account =>
        simp only [bind_run,writeSession_run,World.advance_store,World.advance_gateway,World.advance_advance]
        cases written : SessionStore.write (Session.ofAccount account) w.store with
        | mk result st =>
          cases result with
          | error e => exact .unkept user answer written
          | ok kept =>
            simp only [bind_run,log_run,World.advance_store,World.advance_gateway,World.advance_advance]
            exact .refreshed user answer written

/-! ### Turns -/

/-- A world on which things happened that are no outcome of a sign-in. -/
def World.Silent (w w' : World γ σ) : Prop :=
  ∃ l g st, (∀ o ∈ l, o.outcome? = none ∧ o.note? = none) ∧ w' = w.advance g st l

theorem World.silent_of_plain {w : World γ σ} {g : γ} {st : σ} {l : List Occurrence} (plain : ∀ o ∈ l, o.Plain) :
    w.Silent (w.advance g st l) :=
  ⟨l,g,st,fun o member => ⟨(plain o member).tells_none,(plain o member).notes_none⟩,rfl⟩

theorem World.Records.silent {w w' : World γ σ} (records : w.Records w') : w.Silent w' := by
  obtain ⟨l,plain,rfl⟩ := records.plain
  exact silent_of_plain plain

theorem World.Silent.trans {w w' w'' : World γ σ} (before : w.Silent w') (after : w'.Silent w'') : w.Silent w'' := by
  obtain ⟨l,g,st,quiet,rfl⟩ := before
  obtain ⟨l',g',st',quiet',rfl⟩ := after
  refine ⟨l ++ l',g',st',?_,by simp⟩
  intro o member
  rcases List.mem_append.mp member with first | second
  · exact quiet o first
  · exact quiet' o second

/-- A write is no outcome. -/
theorem World.silent_of_write (w : World γ σ) (g : γ) (st : σ) (session : Session) (result : Except StorageError Unit)
    {l : List Occurrence} (plain : ∀ o ∈ l, o.Plain) : w.Silent (w.advance g st (.wrote session result :: l)) := by
  refine ⟨_,_,_,?_,rfl⟩
  intro o member
  rcases List.mem_cons.mp member with rfl | rest
  · exact ⟨rfl,rfl⟩
  · exact ⟨(plain o rest).tells_none,(plain o rest).notes_none⟩

/-- A submit signs the user in and hands that in, or it tells nothing. -/
theorem Submits.silent_or_signedIn [SessionStore σ] {s s' : OpenStep} {input : String} {w w' : World γ σ} {m : Move}
    (submits : Submits s input w m s' w') : (m ≠ .signedIn ∧ w.Silent w') ∨
      (m = .signedIn ∧ ∃ w'' data, w.Silent w'' ∧ Arrives w'' s.core.receiver successCode data w') := by
  cases submits with
  | ignored => exact .inl ⟨by simp,(World.Records.nothing w).silent⟩
  | @went s' l g st fin m c' w' accepted course ends =>
    have before : w.Silent (w.advance g st l) := World.silent_of_plain course.plain
    cases ends with
    | reported answer =>
      refine .inl ⟨?_,before.trans (World.silent_of_plain answer.plain)⟩
      cases answer <;> simp
    | handedOver => exact .inl ⟨by simp,before⟩
    | @unkept _ session _ e _ _ _ _ keeps refused answer =>
      refine .inl ⟨?_,before.trans (World.silent_of_write _ _ _ session (.error e) answer.plain)⟩
      cases answer <;> simp
    | @emailRequested session phoneNumber st' =>
      have written := World.silent_of_write (w.advance g st l) g st' session (.ok ()) (l := []) (by simp)
      exact .inl ⟨by simp,before.trans written⟩
    | @signedIn session phoneNumber st' =>
      have written := World.silent_of_write (w.advance g st l) g st' session (.ok ()) (l := []) (by simp)
      refine .inr ⟨rfl,_,{ phoneNumber },before.trans written,?_⟩
      rw [← course.keeps.receiver]
      exact handIn_arrives _ _ _ _

theorem readSession_silent [SessionStore σ] (w : World γ σ) : w.Silent (readSession.run w).2 := by
  rw [readSession_run]
  exact World.silent_of_plain (by simpa using .read _)

theorem Refreshes.silent [Gateway γ] [SessionStore σ] {session : Session} {w w' : World γ σ} {result : Option Session}
    (refreshes : Refreshes session w result w') : w.Silent w' := by
  cases refreshes with
  | guest => exact (World.Records.nothing w).silent
  | unanswered => exact World.silent_of_plain (by simpa using .asked _ _)
  | unkept => exact ⟨_,_,_,by simp [Occurrence.outcome?,Occurrence.note?],rfl⟩
  | refreshed => exact ⟨_,_,_,by simp [Occurrence.outcome?,Occurrence.note?],rfl⟩

theorem refreshSession_silent [Gateway γ] [SessionStore σ] (session : Session) (w : World γ σ) :
    w.Silent ((refreshSession session).run w).2 := (refreshSession_refreshes session w).silent

namespace Scene
variable [Gateway γ] [SessionStore σ]

/-- A submit on a step that is there does what `Submits` tells. -/
theorem submit_does {s : Scene γ σ} {i : Nat} {o : Opened} (found : s.steps[i]? = some o) (input : String) :
    ∃ move step w', Submits o.step input s.world move step w' ∧
      s.does (.submit i input) = (.moved move,({ s with world := w' }.setStep i step).follow move) := by
  obtain ⟨move,step,w',submits,ran⟩ := submits o.step input s.world
  refine ⟨move,step,w',submits,?_⟩
  simp only [does,onStep,found,perform,ran]

theorem activeSession_world (s : Scene γ σ) : (s.does .activeSession).2.world = (readSession.run s.world).2 := by
  simp only [does,perform]
  cases (readSession.run s.world).1 <;> rfl

theorem signOut_world (s : Scene γ σ) : (s.does .signOut).2.world = (clearSession.run s.world).2 := by
  simp only [does,perform,signOut]
  cases (clearSession.run s.world).1 <;> rfl

theorem start_does (s : Scene γ σ) (config : SignInRequest) :
    ∃ result w', Begins config s.world result w' ∧ (s.does (.start config)).2.world = w' ∧
      ∀ h, (s.does (.start config)).1 = .launched h → result = .ok (.launch h) ∧
        (s.does (.start config)).2 = { s with world := w', received := .next .phoneNumber h } := by
  have begins := startSignIn_begins config s.world
  refine ⟨_,_,begins,?_⟩
  simp only [does,start,perform]
  cases ((startSignIn config).run s.world).1 with
  | error e => simp
  | ok b =>
    cases b with
    | signedIn session => simp
    | launch h' => simp [follow]

end Scene

/-- The act that a host hands a result in with. -/
def Act.hands? : Act → Option (ReceiverId × Int32 × LoginResult)
  | .handIn id code data => some (id,code,data)
  | .reportSuccess id phoneNumber => some (id,successCode,{ phoneNumber })
  | .reportFailure id reason => some (id,failureCode,{ loginError := some reason.explanation })
  | _ => none

/-- What an act makes of a scene's world, and what is answered. -/
inductive Scene.Makes [Gateway γ] [SessionStore σ] (s : Scene γ σ) : Act → Reply → World γ σ → Prop where
  | recorded {act reply w'} (quiet : act.isQuiet = true) (records : s.world.Records w') : Makes s act reply w'
  | began {config reply result w'} (begins : Begins config s.world result w') : Makes s (.start config) reply w'
  | submitted {i input o m step w'} (found : s.steps[i]? = some o) (submits : Submits o.step input s.world m step w') :
    Makes s (.submit i input) (.moved m) w'
  | unsubmitted {i input} (missing : s.steps[i]? = none) : Makes s (.submit i input) (.refused .noController) s.world
  | dismissed {i f reply w w'} (found : s.screens[i]? = some f) (clicked : s.world.Records w)
    (arrives : Arrives w f.failure.receiver failureCode { loginError := some f.failure.reason.explanation } w') :
    Makes s (.dismiss i) reply w'
  | undismissed {i} (missing : s.screens[i]? = none) : Makes s (.dismiss i) (.refused .noFailure) s.world
  | handedIn {act id code data reply w'} (hands : act.hands? = some (id,code,data))
    (arrives : Arrives s.world id code data w') : Makes s act reply w'
  | withdrawn {id reply} : Makes s (.withdraw id) reply ((Flow.withdraw id).run s.world).2
  | hosted {present others reply} : Makes s (.hosts present others) reply { s.world with host := present, others }
  | read {reply} : Makes s .activeSession reply (readSession.run s.world).2
  | verified {session reply} : Makes s (.verify session) reply ((refreshSession session).run s.world).2
  | cleared {reply} : Makes s .signOut reply (clearSession.run s.world).2

theorem Scene.does_makes [Gateway γ] [SessionStore σ] (s : Scene γ σ) (act : Act) :
    s.Makes act (s.does act).1 (s.does act).2.world := by
  by_cases quiet : act.isQuiet = true
  · exact .recorded quiet (quiet_records quiet)
  · cases act with
    | start config =>
      obtain ⟨result,w',begins,after,-⟩ := s.start_does config
      exact .began (after ▸ begins)
    | submit i input =>
      cases found : s.steps[i]? with
      | none =>
        simp only [does,onStep,found]
        exact .unsubmitted found
      | some o =>
        obtain ⟨m,step,w',submits,does⟩ := submit_does found input
        rw [does,follow_world]
        exact .submitted found submits
    | dismiss i =>
      cases found : s.screens[i]? with
      | none =>
        simp only [does,onScreen,found]
        exact .undismissed found
      | some f =>
        simp only [does,onScreen,found,perform,FailureScreen.dismiss,bind_run]
        exact .dismissed found (.one s.world (by decide) _) (handIn_arrives _ _ _ _)
    | handIn id code data => exact .handedIn rfl (handIn_arrives id code data s.world)
    | reportSuccess id phoneNumber => exact .handedIn rfl (handIn_arrives id _ _ s.world)
    | reportFailure id reason => exact .handedIn rfl (handIn_arrives id _ _ s.world)
    | withdraw id => exact .withdrawn
    | hosts present others => exact .hosted
    | activeSession => exact s.activeSession_world ▸ .read
    | verify session => exact .verified
    | signOut => exact s.signOut_world ▸ .cleared
    | _ => exact absurd rfl quiet

/-! ### What becomes of the steps -/

/-- A step after something was done on it: it keeps what it was opened with, but for what the phone step
    learns, and its receiver. -/
inductive OpenStep.Becomes : OpenStep → OpenStep → Prop where
  | phone {p p' : PhoneStep} (receiver : p'.core.receiver = p.core.receiver) (wish : p'.wantsEmail = p.wantsEmail) :
    Becomes (.phone p) (.phone p')
  | changed (s : OpenStep) {core : StepState} (receiver : core.receiver = s.core.receiver) : Becomes s (s.setCore core)

theorem OpenStep.setCore_core (s : OpenStep) (core : StepState) : (s.setCore core).core = core := by
  cases s <;> rfl

theorem OpenStep.Becomes.receiver {s s' : OpenStep} (becomes : s.Becomes s') : s'.core.receiver = s.core.receiver := by
  cases becomes with
  | phone receiver => exact receiver
  | changed _ receiver =>
    rw [OpenStep.setCore_core]
    exact receiver

theorem OpenStep.Becomes.refl (s : OpenStep) : s.Becomes s := by
  have same : s.setCore s.core = s := by cases s <;> rfl
  have becomes : s.Becomes (s.setCore s.core) := .changed s rfl
  rwa [same] at becomes

theorem StepState.Answers.receiver {c c' : StepState} {e : CallError} {m : Move} {l : List Occurrence}
    (answer : c.Answers e m c' l) : c'.receiver = c.receiver := by
  cases answer <;> rfl

theorem Concludes.receiver [SessionStore σ] {c c' : StepState} {w w' : World γ σ} {fin : Finale} {m : Move}
    (ends : Concludes c w fin m c' w') : c'.receiver = c.receiver := by
  cases ends with
  | reported answer => exact answer.receiver
  | handedOver => rfl
  | unkept keeps refused answer => exact answer.receiver
  | emailRequested => rfl
  | signedIn => rfl

theorem Submits.becomes [SessionStore σ] {s s' : OpenStep} {input : String} {w w' : World γ σ} {m : Move}
    (submits : Submits s input w m s' w') : s.Becomes s' := by
  cases submits with
  | ignored rest same =>
    rcases same with same | same
    · rw [same]
      exact .refl s
    · rw [same]
      exact .changed s rfl
  | went accepted course ends =>
    have receiver := ends.receiver.trans course.keeps.receiver
    cases course with
    | phone sends =>
      refine .phone receiver ?_
      cases sends with
      | carrierRefused m f =>
        obtain ⟨_,_,asked⟩ := PhoneStep.askAgain_keeps { PhoneStep.sending _ _ with voiceEnabled := f.voiceEnabled }
        rw [asked]
        rfl
      | loginStarted r learnt =>
        subst learnt
        rfl
      | registered m r learnt =>
        subst learnt
        rfl
      | _ => rfl
    | @loginCode s => exact .changed (.loginCode s) receiver
    | @confirmationCode s => exact .changed (.confirmationCode s) receiver
    | @pinCode s => exact .changed (.pinCode s) receiver
    | @email s => exact .changed (.email s) receiver

theorem StepState.goBack_receiver (c : StepState) (h : Handoff) (w : World γ σ) :
    ((c.goBack h).run w).1.2.receiver = c.receiver := by
  simp only [StepState.goBack]
  split <;> rfl

theorem OpenStep.resend_becomes (s : OpenStep) (w : World γ σ) : s.Becomes (s.resend.run w).1.2 := by
  cases s with
  | loginCode s => exact .changed (.loginCode s) (s.core.goBack_receiver _ w)
  | confirmationCode s => exact .changed (.confirmationCode s) (s.core.goBack_receiver _ w)
  | phone s => exact .refl _
  | pinCode s => exact .refl _
  | email s => exact .refl _

theorem PhoneStep.resend_becomes (s : PhoneStep) : (OpenStep.phone s).Becomes (.phone s.resend) := by
  obtain ⟨_,_,asked⟩ := PhoneStep.askAgain_keeps { s with core := s.core.reenter }
  rw [resend,asked]
  refine .phone ?_ rfl
  simp only [StepState.reenter]
  split <;> rfl

theorem OpenStep.edited_becomes (s : OpenStep) : s.Becomes s.edited := by
  cases s with
  | phone s =>
    have kept : s.edited.core.receiver = s.core.receiver ∧ s.edited.wantsEmail = s.wantsEmail := by
      simp only [PhoneStep.edited]
      split <;> exact ⟨rfl,rfl⟩
    exact .phone kept.1 kept.2
  | loginCode s => exact .changed (.loginCode s) rfl
  | confirmationCode s => exact .changed (.confirmationCode s) rfl
  | pinCode s => exact .changed (.pinCode s) rfl
  | email s => exact .changed (.email s) rfl

/-- What becomes of the steps of a scene when an act is done. -/
inductive Scene.Changes (s : Scene γ σ) (act : Act) : List Opened → Prop where
  | nothing : Changes s act s.steps
  | opened {kind h o} (opens : act = .openStep kind h) (valid : OpenStep.openFrom s.world.settings kind h = .ok o) :
    Changes s act (s.steps ++ [{ handoff := h, step := o }])
  | changed {i o step} (found : s.steps[i]? = some o) (becomes : o.step.Becomes step) :
    Changes s act (s.steps.modify i fun o => { o with step })

/-- A step of the scene has just been opened, or it was there in its place before something was done on it. -/
theorem Scene.Changes.at {s : Scene γ σ} {act : Act} {steps : List Opened} (changes : s.Changes act steps) {j : Nat}
    {x : Opened} (there : steps[j]? = some x) :
    (j = s.steps.length ∧ ∃ kind, act = .openStep kind x.handoff ∧
      OpenStep.openFrom s.world.settings kind x.handoff = .ok x.step) ∨
      ∃ o, s.steps[j]? = some o ∧ x.handoff = o.handoff ∧ o.step.Becomes x.step := by
  cases changes with
  | nothing => exact .inr ⟨x,there,rfl,.refl _⟩
  | @opened kind h o opens valid =>
    by_cases before : j < s.steps.length
    · rw [List.getElem?_append_left before] at there
      exact .inr ⟨x,there,rfl,.refl _⟩
    · rw [List.getElem?_append_right (by omega),List.getElem?_singleton] at there
      split at there
      · cases there
        exact .inl ⟨by omega,kind,opens,valid⟩
      · cases there
  | @changed i o step found becomes =>
    rw [List.getElem?_modify] at there
    by_cases here : i = j
    · subst here
      simp only [found,if_true,Option.map_eq_map,Option.map_some,Option.some.injEq] at there
      subst there
      exact .inr ⟨o,found,rfl,becomes⟩
    · simp only [here,if_false] at there
      exact .inr ⟨x,by simpa using there,rfl,.refl _⟩

/-- A step of the scene was there, has just been opened, or was there before something was done on it. -/
theorem Scene.Changes.member {s : Scene γ σ} {act : Act} {steps : List Opened} (changes : s.Changes act steps)
    {x : Opened} (member : x ∈ steps) :
    (∃ kind, act = .openStep kind x.handoff ∧ OpenStep.openFrom s.world.settings kind x.handoff = .ok x.step) ∨
      ∃ o ∈ s.steps, x.handoff = o.handoff ∧ o.step.Becomes x.step := by
  obtain ⟨j,there⟩ := List.mem_iff_getElem?.mp member
  rcases changes.at there with ⟨-,opened⟩ | ⟨o,before,handoff,becomes⟩
  · exact .inl opened
  · exact .inr ⟨o,List.mem_of_getElem? before,handoff,becomes⟩

namespace Scene
variable {s : Scene γ σ} {i : Nat}

@[simp] theorem follow_steps (move : Move) : (s.follow move).steps = s.steps := by
  cases move <;> rfl
@[simp] theorem follow_screens (move : Move) : (s.follow move).screens = s.screens := by
  cases move <;> rfl

/-- An act opens a step, changes one, or leaves them all as they are. -/
theorem does_changes [Gateway γ] [SessionStore σ] (s : Scene γ σ) (act : Act) : s.Changes act (s.does act).2.steps := by
  have nothing {act : Act} : s.Changes act s.steps := .nothing
  cases act with
  | start config =>
    simp only [does,start,perform]
    rcases ((startSignIn config).run s.world).1 with e | session | h
    · exact nothing
    · exact nothing
    · exact nothing
  | openStep kind h =>
    simp only [does,openStep]
    split
    · rename_i o valid
      exact .opened rfl valid
    · exact nothing
  | submit i input =>
    refine onStep_keeps (P := fun s' => s.Changes _ s'.steps) nothing ?_
    intro o found
    obtain ⟨m,step,w',submits,ran⟩ := submits o.step input s.world
    simp only [perform,ran,follow_steps]
    exact .changed found submits.becomes
  | resend i =>
    refine onStep_keeps (P := fun s' => s.Changes _ s'.steps) nothing ?_
    intro o found
    have becomes := o.step.resend_becomes s.world
    simp only [perform]
    split
    · rename_i answer
      obtain ⟨moved,rfl⟩ := Prod.mk.inj answer
      rw [follow_steps]
      rw [moved] at becomes
      exact .changed found becomes
    · rename_i answer
      obtain ⟨stayed,rfl⟩ := Prod.mk.inj answer
      rw [stayed] at becomes
      exact .changed found becomes
  | phoneResend i =>
    exact onPhone_keeps (P := fun s' => s.Changes _ s'.steps) nothing fun o p found kind =>
      .changed found (kind ▸ p.resend_becomes)
  | chooseCountry i countryCode =>
    exact onPhone_keeps (P := fun s' => s.Changes _ s'.steps) nothing fun o p found kind =>
      .changed found (kind ▸ .phone rfl rfl)
  | edited i =>
    exact onStep_keeps (P := fun s' => s.Changes _ s'.steps) nothing fun o found =>
      .changed found o.step.edited_becomes
  | clearError i =>
    exact onStep_keeps (P := fun s' => s.Changes _ s'.steps) nothing fun o found => .changed found (.changed _ rfl)
  | resume i => exact onStep_keeps (P := fun s' => s.Changes _ s'.steps) nothing fun o found => nothing
  | openFailure failure => exact nothing
  | resumeFailure i => exact onScreen_keeps (P := fun s' => s.Changes _ s'.steps) nothing fun f _ => nothing
  | dismiss i => exact onScreen_keeps (P := fun s' => s.Changes _ s'.steps) nothing fun f _ => nothing
  | restart i => exact onScreen_keeps (P := fun s' => s.Changes _ s'.steps) nothing fun f _ => nothing
  | handIn id code data => exact nothing
  | reportSuccess id phoneNumber => exact nothing
  | reportFailure id reason => exact nothing
  | withdraw id => exact nothing
  | hosts present others => exact nothing
  | activeSession =>
    simp only [does,perform]
    cases (readSession.run s.world).1 <;> exact nothing
  | verify session => exact nothing
  | signOut =>
    simp only [does,perform]
    cases (Flow.signOut.run s.world).1 <;> exact nothing

end Scene

end PhoneSignIn.Flow
