import PhoneSignIn.Proofs.Flow.Following

/-!
Where the data of calls comes from. A step calls with what it was opened with and with the trimmed input
(`OpenStep.Calls`), and calls are made by submits and verifications only (`Scene.Makes.calls`). In a run
whose steps open from what was received just before, every step has its `StepOpening`: the turn that has
offered its handoff, and the turn that opened it. Nothing is answered by the service between the two, so
the ids of a code step are those of the last login that was started before it opened (`run_login`), and
its number goes back to the phone step that led there (`Established`, `run_established`).
-/
namespace PhoneSignIn.Flow

variable {γ σ : Type}

/-! ### The calls of a submit -/

/-- The call that was made. -/
def Occurrence.call? : Occurrence → Option Call
  | .asked call _ => some call
  | _ => none

/-- The credentials that a code or a pin was answered with. -/
def Occurrence.credentials? : Occurrence → Option Credentials
  | .asked (.verifyCode ..) (.ok c) | .asked (.verifyPin ..) (.ok c) => some c
  | _ => none

/-- Whether the account is fetched for credentials and a number, right after the service has answered with the
    credentials. -/
inductive FetchedFor (credentials : Credentials) (n : String) : List Occurrence → Prop where
  | intro {before granted between answer after} (grants : Occurrence.credentials? granted = some credentials)
    (quiet : ∀ o ∈ between, o.call? = none) :
    FetchedFor credentials n
      (before ++ granted :: between ++ .asked (.verifyAccount (.ofCredentials credentials n)) answer :: after)

theorem FetchedFor.extend {credentials : Credentials} {n : String} {l : List Occurrence}
    (fetched : FetchedFor credentials n l) (before after : List Occurrence) :
    FetchedFor credentials n (before ++ l ++ after) := by
  obtain ⟨grants,quiet⟩ := fetched
  rename_i before' granted between answer after'
  have longer : FetchedFor credentials n ((before ++ before') ++ granted :: between ++
      .asked (.verifyAccount (.ofCredentials credentials n)) answer :: (after' ++ after)) := .intro grants quiet
  simpa using longer

/-- The calls that a submit of a step makes with a text, over the store `st`, by what happens during it. -/
inductive OpenStep.Calls [SessionStore σ] (s : OpenStep) (text : String) (st : σ) (l : List Occurrence) : Call → Prop where
  | authenticate {p : PhoneStep} {channel} (step : s = .phone p) :
    Calls s text st l (.authenticateDevice (PhoneStep.fullNumber p.countryCode text) channel)
  | register {p : PhoneStep} {channel} (step : s = .phone p) :
    Calls s text st l (.registerDevice (PhoneStep.fullNumber p.countryCode text) channel)
  | createAccount {c : ConfirmationCodeStep} (step : s = .confirmationCode c) :
    Calls s text st l (.createAccount text c.phoneNumber)
  | verifyCode {c : LoginCodeStep} (step : s = .loginCode c) : Calls s text st l (.verifyCode c.requestId c.userId text)
  | verifyPin {c : PinCodeStep} (step : s = .pinCode c) : Calls s text st l (.verifyPin c.requestId c.userId text)
  | verifyAccount {n credentials} (number : s.phoneNumber? = some n) (fetched : FetchedFor credentials n l) :
    Calls s text st l (.verifyAccount (.ofCredentials credentials n))
  | submitEmail {session} (step : s.step = .email) (active : (SessionStore.read st).1 = .ok (some session)) :
    Calls s text st l (.submitEmail session text)

theorem OpenStep.Calls.extend [SessionStore σ] {s : OpenStep} {text : String} {st : σ} {l : List Occurrence} {call : Call}
    (calls : s.Calls text st l call) (before after : List Occurrence) : s.Calls text st (before ++ l ++ after) call := by
  cases calls with
  | authenticate step => exact .authenticate step
  | register step => exact .register step
  | createAccount step => exact .createAccount step
  | verifyCode step => exact .verifyCode step
  | verifyPin step => exact .verifyPin step
  | verifyAccount number fetched => exact .verifyAccount number (fetched.extend before after)
  | submitEmail step active => exact .submitEmail step active

@[simp] theorem StepState.attempt_call (c : StepState) : c.attempt.call? = none := rfl
@[simp] theorem StepState.succeeded_call (c : StepState) : c.succeeded.call? = none := rfl
@[simp] theorem PhoneStep.attempt_call (s : PhoneStep) : s.attempt.call? = none := by
  rw [PhoneStep.attempt]
  cases s.channel <;> rfl
@[simp] theorem Occurrence.asked_call (call : Call) (answer : Except CallError call.Answer) :
    (Occurrence.asked call answer).call? = some call := rfl
@[simp] theorem Occurrence.read_call (result : Except StorageError (Option Session)) :
    (Occurrence.read result).call? = none := rfl

/-- A user with new credentials goes on with no call, or with one for the account of these. -/
theorem SignsIn.calls {session : Session} {n : String} {wantsEmail : Bool} {l : List Occurrence} {fin : Finale}
    (goesOn : SignsIn session n wantsEmail l fin) : l = [] ∨ ∃ answer, l = [.asked (.verifyAccount session) answer] := by
  cases goesOn with
  | direct => exact .inl rfl
  | accountRefused e => exact .inr ⟨_,rfl⟩
  | addressMissing a => exact .inr ⟨_,rfl⟩
  | addressKnown a => exact .inr ⟨_,rfl⟩

/-- A step that has its credentials calls once more at most: for their account. -/
theorem SignsIn.calls_after [SessionStore σ] {s : OpenStep} {text n : String} {st : σ} {credentials : Credentials}
    {wantsEmail : Bool} {l : List Occurrence} {fin : Finale} (number : s.phoneNumber? = some n)
    (goesOn : SignsIn (.ofCredentials credentials n) n wantsEmail l fin) {attempt granted succeeded : Occurrence}
    (grants : granted.credentials? = some credentials) (quiet : succeeded.call? = none) {call : Call}
    (called : call ∈ l.filterMap Occurrence.call?) : s.Calls text st (attempt :: granted :: succeeded :: l) call := by
  rcases goesOn.calls with rfl | ⟨answer,rfl⟩
  · cases called
  · obtain rfl := List.mem_singleton.mp called
    have fetched : FetchedFor credentials n ([attempt] ++ granted :: [succeeded] ++
        .asked (.verifyAccount (.ofCredentials credentials n)) answer :: []) := .intro grants (by simpa using quiet)
    exact .verifyAccount number fetched

theorem Course.calls [SessionStore σ] {text : String} {st st' : σ} {s s' : OpenStep} {l : List Occurrence}
    {fin : Finale} (course : Course text st s s' l st' fin) {call : Call} (called : call ∈ l.filterMap Occurrence.call?) :
    s.Calls text st l call := by
  cases course with
  | @phone p _ _ _ sends =>
    cases sends <;> simp at called
    case registrationRefused =>
      rcases called with rfl | rfl
      · exact .authenticate rfl
      · exact .register rfl
    case registered =>
      rcases called with rfl | rfl
      · exact .authenticate rfl
      · exact .register rfl
    all_goals
      subst called
      exact .authenticate rfl
  | @loginCode s _ _ checks =>
    cases checks with
    | refused e =>
      obtain rfl : .verifyCode s.requestId s.userId text = call := by simpa using called
      exact .verifyCode rfl
    | pinWanted c empty =>
      obtain rfl : .verifyCode s.requestId s.userId text = call := by simpa using called
      exact .verifyCode rfl
    | @taken c full l fin goesOn =>
      have called' : .verifyCode s.requestId s.userId text = call ∨ ∃ o, o ∈ l ∧ o.call? = some call := by
        simpa using called
      rcases called' with rfl | after
      · exact .verifyCode rfl
      · exact goesOn.calls_after rfl rfl rfl (by simpa using after)
  | @confirmationCode s _ _ checks =>
    obtain rfl : .createAccount text s.phoneNumber = call := by cases checks <;> simpa using called
    exact .createAccount rfl
  | @pinCode s _ _ checks =>
    cases checks with
    | refused e =>
      obtain rfl : .verifyPin s.requestId s.userId text = call := by simpa using called
      exact .verifyPin rfl
    | @taken c l fin goesOn =>
      have called' : .verifyPin s.requestId s.userId text = call ∨ ∃ o, o ∈ l ∧ o.call? = some call := by
        simpa using called
      rcases called' with rfl | after
      · exact .verifyPin rfl
      · exact goesOn.calls_after rfl rfl rfl (by simpa using after)
  | @email s _ _ _ attaches =>
    cases attaches with
    | unreadable => simp at called
    | noUser => simp at called
    | @refused session _ active user e =>
      obtain rfl : .submitEmail session text = call := by simpa using called
      exact .submitEmail rfl (congrArg Prod.fst active)
    | @taken session _ active user c =>
      obtain rfl : .submitEmail session text = call := by simpa using called
      exact .submitEmail rfl (congrArg Prod.fst active)

/-! ### Who calls -/

/-- A world on which no call was made. -/
def World.Uncalled (w w' : World γ σ) : Prop := ∃ l, w'.history = w.history ++ l ∧ ∀ o ∈ l, o.call? = none

namespace World.Uncalled

theorem of_same {w w' : World γ σ} (same : w'.history = w.history) : w.Uncalled w' := ⟨[],by simp [same],by simp⟩

theorem trans {w w' w'' : World γ σ} (before : w.Uncalled w') (after : w'.Uncalled w'') : w.Uncalled w'' := by
  obtain ⟨l,history,quiet⟩ := before
  obtain ⟨l',history',quiet'⟩ := after
  refine ⟨l ++ l',by rw [history',history,List.append_assoc],?_⟩
  intro o member
  rcases List.mem_append.mp member with first | second
  · exact quiet o first
  · exact quiet' o second

theorem calls {w w' : World γ σ} (uncalled : w.Uncalled w') (empty : w.history = []) (call : Call) :
    call ∉ w'.history.filterMap Occurrence.call? := by
  obtain ⟨l,history,quiet⟩ := uncalled
  rw [history,empty,List.nil_append,List.filterMap_eq_nil_iff.mpr quiet]
  exact List.not_mem_nil

end World.Uncalled

theorem World.Records.uncalled {w w' : World γ σ} (records : w.Records w') : w.Uncalled w' := by
  obtain ⟨l,noted,rfl⟩ := records
  refine ⟨l,rfl,?_⟩
  intro o member
  cases noted o member with
  | recorded => rfl

theorem World.telling_uncalled {w : World γ σ} {c : Callback} {d : Delivery} :
    ∀ o ∈ w.telling c d, o.call? = none := by
  intro o member
  rcases World.telling_cases member with rfl | rfl <;> rfl

theorem Arrives.uncalled [SessionStore σ] {w w' : World γ σ} {id : ReceiverId} {code : Int32} {data : LoginResult}
    (arrives : Arrives w id code data w') : w.Uncalled w' := by
  cases arrives with
  | success =>
    refine ⟨_,rfl,?_⟩
    intro o member
    rcases List.mem_cons.mp member with rfl | telling
    · rfl
    · exact World.telling_uncalled o telling
  | failure => exact ⟨_,rfl,World.telling_uncalled⟩
  | dropped => exact .of_same rfl
  | meaningless => exact .of_same rfl

theorem Begins.uncalled [SessionStore σ] {config : SignInRequest} {w w' : World γ σ}
    {result : Except OpeningError Beginning} (begins : Begins config w result w') : w.Uncalled w' := by
  cases begins with
  | unreadable => exact ⟨_,rfl,by simp [Occurrence.call?]⟩
  | already =>
    refine ⟨_,rfl,?_⟩
    intro o member
    rcases List.mem_append.mp member with before | telling
    · rcases List.mem_cons.mp before with rfl | read
      · rfl
      · cases List.mem_singleton.mp read
        rfl
    · exact World.telling_uncalled o telling
  | launched => exact ⟨_,rfl,by simp [Occurrence.call?]⟩

/-- The last thing of a submit is no call. -/
theorem Concludes.uncalled [SessionStore σ] {c c' : StepState} {w w' : World γ σ} {fin : Finale} {m : Move}
    (ends : Concludes c w fin m c' w') : w.Uncalled w' := by
  have answered {e m c' l} (answer : c.Answers e m c' l) : ∀ o ∈ l, o.call? = none := by
    cases answer <;> simp [Occurrence.call?]
  cases ends with
  | reported answer => exact ⟨_,rfl,answered answer⟩
  | handedOver => exact .of_same rfl
  | unkept keeps refused answer => exact ⟨_,rfl,List.forall_mem_cons.mpr ⟨rfl,answered answer⟩⟩
  | emailRequested => exact ⟨_,rfl,by simp [Occurrence.call?]⟩
  | @signedIn session n st kept =>
    have wrote : w.Uncalled (w.advance w.gateway st [.wrote session (.ok ())]) := ⟨_,rfl,by simp [Occurrence.call?]⟩
    exact wrote.trans (handIn_arrives _ _ _ _).uncalled

theorem Submits.calls [SessionStore σ] {s s' : OpenStep} {input : String} {w w' : World γ σ} {m : Move}
    (submits : Submits s input w m s' w') (empty : w.history = []) {call : Call}
    (called : call ∈ w'.history.filterMap Occurrence.call?) : s.Calls (Text.trim input) w.store w'.history call := by
  cases submits with
  | ignored => simp [empty] at called
  | @went s' l g st fin m c' w' accepted course ends =>
    obtain ⟨rest,history,quiet⟩ := ends.uncalled
    rw [World.advance_history,empty,List.nil_append] at history
    rw [history,List.filterMap_append,List.filterMap_eq_nil_iff.mpr quiet,List.append_nil] at called
    rw [history]
    exact (course.calls called).extend [] rest

theorem Refreshes.calls [Gateway γ] [SessionStore σ] {session : Session} {w w' : World γ σ} {result : Option Session}
    (refreshes : Refreshes session w result w') (empty : w.history = []) {call : Call}
    (called : call ∈ w'.history.filterMap Occurrence.call?) : call = .verifyAccount session := by
  cases refreshes with
  | guest => simp [empty] at called
  | unanswered => simpa [empty,Occurrence.call?,eq_comm] using called
  | unkept => simpa [empty,Occurrence.call?,eq_comm] using called
  | refreshed => simpa [empty,Occurrence.call?,eq_comm] using called

/-- Calls are made by submits and by verifications. -/
theorem Scene.Makes.calls [Gateway γ] [SessionStore σ] {s : Scene γ σ} {act : Act} {reply : Reply} {w' : World γ σ}
    (makes : s.Makes act reply w') (empty : s.world.history = []) {call : Call}
    (called : call ∈ w'.history.filterMap Occurrence.call?) :
    (∃ i input o, act = .submit i input ∧ s.steps[i]? = some o ∧
      o.step.Calls (Text.trim input) s.world.store w'.history call) ∨
      ∃ session, act = .verify session ∧ call = .verifyAccount session := by
  have nobody (uncalled : s.world.Uncalled w') : False := uncalled.calls empty call called
  cases makes with
  | submitted found submits => exact .inl ⟨_,_,_,rfl,found,submits.calls empty called⟩
  | verified => exact .inr ⟨_,rfl,(refreshSession_refreshes _ _).calls empty called⟩
  | recorded quiet records => exact (nobody records.uncalled).elim
  | began begins => exact (nobody begins.uncalled).elim
  | unsubmitted => exact (nobody (.of_same rfl)).elim
  | dismissed found clicked arrives => exact (nobody (clicked.uncalled.trans arrives.uncalled)).elim
  | undismissed => exact (nobody (.of_same rfl)).elim
  | handedIn hands arrives => exact (nobody arrives.uncalled).elim
  | withdrawn => exact (nobody (.of_same rfl)).elim
  | hosted => exact (nobody (.of_same rfl)).elim
  | read => exact (nobody ⟨_,rfl,by simp [Occurrence.call?]⟩).elim
  | cleared => exact (nobody ⟨_,rfl,by simp [Occurrence.call?]⟩).elim

/-! ### What the service has answered a phone step -/

/-- The login that the service has started. -/
def Occurrence.login? : Occurrence → Option LoginRequest
  | .asked (.authenticateDevice ..) (.ok r) => some r
  | _ => none

/-- The number that the service has registered, as the service writes it. -/
def Occurrence.registration? : Occurrence → Option String
  | .asked (.registerDevice number _) (.ok r) => some (r.normalizedPhoneNumber.getD number)
  | _ => none

theorem Occurrence.login_call {o : Occurrence} {r : LoginRequest} (login : o.login? = some r) :
    ∃ number channel, o = .asked (.authenticateDevice number channel) (.ok r) := by
  unfold login? at login
  split at login
  · cases login
    exact ⟨_,_,rfl⟩
  · cases login

theorem Occurrence.registration_call {o : Occurrence} {n : String} (registered : o.registration? = some n) :
    ∃ number channel r, o = .asked (.registerDevice number channel) (.ok r) ∧
      n = r.normalizedPhoneNumber.getD number := by
  unfold registration? at registered
  split at registered
  · cases registered
    exact ⟨_,_,_,rfl,rfl⟩
  · cases registered

/-- A phone step whose number was sent: what happened before and after its last thing. -/
theorem Submits.sends [SessionStore σ] {p : PhoneStep} {s' : OpenStep} {input : String} {w w' : World γ σ} {m : Move}
    (submits : Submits (.phone p) input w m s' w') (empty : w.history = []) (happened : w'.history ≠ []) :
    ∃ p' l rest fin, (p.sending (Text.trim input)).Sends p.channel p' l fin ∧ w'.history = p.attempt :: l ++ rest ∧
      (∀ o ∈ rest, o.call? = none) ∧ ∀ kind h, fin = .handOver kind h → m = .next kind h := by
  cases submits with
  | ignored => exact absurd empty happened
  | went accepted course ends =>
    obtain ⟨rest,history,quiet⟩ := ends.uncalled
    rw [World.advance_history,empty,List.nil_append] at history
    cases course with
    | phone sends =>
      refine ⟨_,_,rest,_,sends,history,quiet,?_⟩
      rintro kind h rfl
      cases ends with
      | handedOver => rfl
      | unkept keeps => rcases keeps with keeps | keeps <;> cases keeps

/-- What is found in the answers to calls is found in the calls of the phone step. -/
theorem filterMap_sends {α : Type} {f : Occurrence → Option α} (asks : ∀ o, o.call? = none → f o = none)
    {first : Occurrence} {l rest : List Occurrence} (noted : first.call? = none) (quiet : ∀ o ∈ rest, o.call? = none) :
    (first :: l ++ rest).filterMap f = l.filterMap f := by
  have nothing : rest.filterMap f = [] := List.filterMap_eq_nil_iff.mpr fun o member => asks o (quiet o member)
  rw [List.filterMap_append,nothing,List.append_nil,List.filterMap_cons_none (asks first noted)]

theorem Occurrence.login_of_uncalled (o : Occurrence) (uncalled : o.call? = none) : o.login? = none := by
  cases o with
  | asked => cases uncalled
  | _ => rfl

theorem Occurrence.registration_of_uncalled (o : Occurrence) (uncalled : o.call? = none) : o.registration? = none := by
  cases o with
  | asked => cases uncalled
  | _ => rfl

/-- A submit that has started a login has started no other, and leads to the code of this one. -/
theorem Submits.logins [SessionStore σ] {s s' : OpenStep} {input : String} {w w' : World γ σ} {m : Move}
    (submits : Submits s input w m s' w') (empty : w.history = []) {r : LoginRequest}
    (login : r ∈ w'.history.filterMap Occurrence.login?) :
    w'.history.filterMap Occurrence.login? = [r] ∧ ∃ h, m = .next .loginCode h := by
  obtain ⟨o,member,answered⟩ := List.mem_filterMap.mp login
  obtain ⟨number,channel,rfl⟩ := Occurrence.login_call answered
  cases submits.calls empty (List.mem_filterMap.mpr ⟨_,member,rfl⟩) with
  | authenticate step =>
    subst step
    obtain ⟨p',l,rest,fin,sends,history,quiet,moved⟩ := submits.sends empty (List.ne_nil_of_mem member)
    rw [history,filterMap_sends Occurrence.login_of_uncalled (PhoneStep.attempt_call _) quiet] at login ⊢
    cases sends with
    | loginStarted r' learnt =>
      obtain rfl : r = r' := by simpa [Occurrence.login?,StepState.succeeded] using login
      exact ⟨rfl,_,moved _ _ rfl⟩
    | _ => simp [Occurrence.login?,StepState.succeeded] at login

/-- A submit that has registered a number has registered no other, and leads to the code of this one. -/
theorem Submits.registrations [SessionStore σ] {s s' : OpenStep} {input : String} {w w' : World γ σ} {m : Move}
    (submits : Submits s input w m s' w') (empty : w.history = []) {n : String}
    (registered : n ∈ w'.history.filterMap Occurrence.registration?) :
    w'.history.filterMap Occurrence.registration? = [n] ∧ ∃ h, m = .next .confirmationCode h := by
  obtain ⟨o,member,answered⟩ := List.mem_filterMap.mp registered
  obtain ⟨number,channel,r,rfl,-⟩ := Occurrence.registration_call answered
  cases submits.calls empty (List.mem_filterMap.mpr ⟨_,member,rfl⟩) with
  | register step =>
    subst step
    obtain ⟨p',l,rest,fin,sends,history,quiet,moved⟩ := submits.sends empty (List.ne_nil_of_mem member)
    rw [history,filterMap_sends Occurrence.registration_of_uncalled (PhoneStep.attempt_call _) quiet] at registered ⊢
    cases sends with
    | registered m r' learnt =>
      obtain rfl : r'.normalizedPhoneNumber.getD _ = n := by
        simpa [Occurrence.registration?,StepState.succeeded] using registered
      exact ⟨rfl,_,moved _ _ rfl⟩
    | _ => simp [Occurrence.registration?,StepState.succeeded] at registered

/-- The logins that the service has started during a turn. -/
def Turn.logins (t : Turn γ σ) : List LoginRequest := t.happened.filterMap Occurrence.login?

/-- The numbers that the service has registered during a turn. -/
def Turn.registrations (t : Turn γ σ) : List String := t.happened.filterMap Occurrence.registration?

section
variable [Gateway γ] [SessionStore σ] {s : Scene γ σ} {acts : List Act} {t : Turn γ σ}

theorem Scene.run_makes (member : t ∈ s.run acts) : t.before.still.Makes t.act t.reply t.after.world := by
  rw [run_turn member]
  exact t.before.still.does_makes t.act

theorem Scene.run_replies (member : t ∈ s.run acts) : t.before.still.Replies t.act t.reply t.after.world := by
  rw [run_turn member]
  exact (t.before.still.does_replies t.act).1

/-- A submit of a step that is there does what `Submits` tells. -/
theorem Turn.submitted (member : t ∈ s.run acts) {i : Nat} {input : String} (act : t.act = .submit i input) {o : Opened}
    (found : t.before.steps[i]? = some o) : ∃ m step, t.reply = .moved m ∧
      Submits o.step input t.before.still.world m step t.after.world := by
  have makes := Scene.run_makes member
  rw [act] at makes
  generalize t.after.world = w' at makes ⊢
  generalize t.reply = reply at makes ⊢
  cases makes with
  | submitted found' submits =>
    obtain rfl := Option.some.inj (found'.symm.trans found)
    exact ⟨_,_,rfl,submits⟩
  | recorded quiet => cases quiet
  | unsubmitted missing =>
    have there : t.before.still.steps[i]? = some o := found
    rw [missing] at there
    cases there
  | handedIn hands => cases hands

/-- What happened in a turn in which a step called was that the step was submitted. -/
theorem Turn.submits_of_call (member : t ∈ s.run acts) {call : Call} (stepwise : ∀ session, call ≠ .verifyAccount session)
    (called : call ∈ t.happened.filterMap Occurrence.call?) : ∃ i input o m step, t.act = .submit i input ∧
      t.before.steps[i]? = some o ∧ t.reply = .moved m ∧ Submits o.step input t.before.still.world m step t.after.world := by
  rcases (Scene.run_makes member).calls rfl called with ⟨i,input,o,act,found,-⟩ | ⟨session,-,rfl⟩
  · obtain ⟨m,step,reply,submits⟩ := submitted member act found
    exact ⟨i,input,o,m,step,act,found,reply,submits⟩
  · exact absurd rfl (stepwise session)

theorem Turn.logins_eq (member : t ∈ s.run acts) {r : LoginRequest} (login : r ∈ t.logins) :
    t.logins = [r] ∧ t.reply.offers? ≠ none := by
  obtain ⟨o,there,answered⟩ := List.mem_filterMap.mp login
  obtain ⟨number,channel,rfl⟩ := Occurrence.login_call answered
  obtain ⟨i,input,o,m,step,-,-,reply,submits⟩ := submits_of_call member (by simp) (List.mem_filterMap.mpr ⟨_,there,rfl⟩)
  obtain ⟨one,h,rfl⟩ := submits.logins rfl login
  exact ⟨one,by simp [reply,Reply.offers?]⟩

theorem Turn.registrations_eq (member : t ∈ s.run acts) {n : String} (registered : n ∈ t.registrations) :
    t.registrations = [n] ∧ t.reply.offers? ≠ none := by
  obtain ⟨o,there,answered⟩ := List.mem_filterMap.mp registered
  obtain ⟨number,channel,r,rfl,-⟩ := Occurrence.registration_call answered
  obtain ⟨i,input,o,m,step,-,-,reply,submits⟩ := submits_of_call member (by simp) (List.mem_filterMap.mpr ⟨_,there,rfl⟩)
  obtain ⟨one,h,rfl⟩ := submits.registrations rfl registered
  exact ⟨one,by simp [reply,Reply.offers?]⟩

end

/-! ### How a step was opened -/

/-- Whether a step that an act opens opens from what was received last. -/
def Act.Follows (act : Act) (received : Move) : Prop :=
  match act with
  | .openStep kind h => received = .next kind h
  | _ => True

instance (act : Act) (received : Move) : Decidable (act.Follows received) :=
  match act with
  | .openStep kind h => inferInstanceAs (Decidable (received = .next kind h))
  | .start _ | .submit .. | .resend _ | .phoneResend _ | .chooseCountry .. | .edited _ | .clearError _ | .resume _
  | .openFailure _ | .resumeFailure _ | .dismiss _ | .restart _ | .handIn .. | .reportSuccess .. | .reportFailure ..
  | .withdraw _ | .hosts .. | .activeSession | .verify _ | .signOut => .isTrue trivial

def Turn.Follows (t : Turn γ σ) : Prop := t.act.Follows t.before.received

instance (t : Turn γ σ) : Decidable t.Follows := inferInstanceAs (Decidable (t.act.Follows t.before.received))

/-- Whether every step of a run opens from what was received last. -/
def Scene.Follows [Gateway γ] [SessionStore σ] (s : Scene γ σ) (acts : List Act) : Prop := ∀ t ∈ s.run acts, t.Follows

instance [Gateway γ] [SessionStore σ] (s : Scene γ σ) (acts : List Act) : Decidable (s.Follows acts) :=
  inferInstanceAs (Decidable (∀ t ∈ s.run acts, t.Follows))

/-- How a step was offered in some turns: in the last of them that has offered anything. -/
structure StepOffer (past : List (Turn γ σ)) (kind : Step) (h : Handoff) where
  before : List (Turn γ σ)
  offer : Turn γ σ
  between : List (Turn γ σ)
  split : past = before ++ offer :: between
  offers : offer.reply.offers? = some (.next kind h)
  last : ∀ t ∈ between, t.reply.offers? = none

/-- How the step numbered `i` was opened in some turns: from what had been offered last. -/
structure StepOpening (past : List (Turn γ σ)) (i : Nat) (kind : Step) (h : Handoff) where
  earlier : List (Turn γ σ)
  opening : Turn γ σ
  later : List (Turn γ σ)
  split : past = earlier ++ opening :: later
  opens : opening.act = .openStep kind h
  number : opening.before.steps.length = i
  origin : StepOffer earlier kind h

/-- The offer stands while nothing else is offered. -/
def StepOffer.stand {past : List (Turn γ σ)} {kind : Step} {h : Handoff} (o : StepOffer past kind h) (t : Turn γ σ)
    (nothing : t.reply.offers? = none) : StepOffer (past ++ [t]) kind h where
  before := o.before
  offer := o.offer
  between := o.between ++ [t]
  split := (congrArg (· ++ [t]) o.split).trans (by simp)
  offers := o.offers
  last := by
    intro t' member
    rcases List.mem_append.mp member with before | last
    · exact o.last t' before
    · rw [List.mem_singleton.mp last]
      exact nothing

def StepOpening.stand {past : List (Turn γ σ)} {i : Nat} {kind : Step} {h : Handoff} (o : StepOpening past i kind h)
    (t : Turn γ σ) : StepOpening (past ++ [t]) i kind h where
  earlier := o.earlier
  opening := o.opening
  later := o.later ++ [t]
  split := (congrArg (· ++ [t]) o.split).trans (by simp)
  opens := o.opens
  number := o.number
  origin := o.origin

/-- The request and the user whose login a step goes on with. -/
def OpenStep.login? : OpenStep → Option (String × Int64)
  | .loginCode s => some (s.requestId,s.userId)
  | .pinCode s => some (s.requestId,s.userId)
  | _ => none

theorem OpenStep.Becomes.keeps {s s' : OpenStep} (becomes : s.Becomes s') : s'.step = s.step ∧ s'.login? = s.login? := by
  cases becomes with
  | phone => exact ⟨rfl,rfl⟩
  | changed => cases s <;> exact ⟨rfl,rfl⟩

/-- A step that goes on with a login takes it from the handoff that it opens from. -/
theorem OpenStep.openFrom_login {settings : Settings} {kind : Step} {h : Handoff} {o : OpenStep}
    (opens : OpenStep.openFrom settings kind h = .ok o) {requestId : String} {userId : Int64}
    (login : o.login? = some (requestId,userId)) : h.requestId = some requestId ∧ h.userId = some userId := by
  cases openFrom_iff.mp opens with
  | loginCode _ _ request user => cases login; exact ⟨request,user⟩
  | pinCode _ _ request user => cases login; exact ⟨request,user⟩
  | phone => cases login
  | confirmationCode => cases login
  | email => cases login

/-- What is known of a scene after some turns, when steps open from what was received last. -/
structure Scene.Traced (past : List (Turn γ σ)) (s : Scene γ σ) : Prop where
  received : ∀ kind h, s.received = .next kind h → Nonempty (StepOffer past kind h)
  opened : ∀ i o, s.steps[i]? = some o → Nonempty (StepOpening past i o.step.step o.handoff)
  numbers : ∀ o ∈ s.steps, o.Agrees
  logins : ∀ o ∈ s.steps, ∀ requestId userId, o.step.login? = some (requestId,userId) →
    o.handoff.requestId = some requestId ∧ o.handoff.userId = some userId

section
variable [Gateway γ] [SessionStore σ]

theorem Scene.Traced.turn {past : List (Turn γ σ)} {s : Scene γ σ} (traced : s.Traced past) {act : Act}
    (follows : (s.turn act).Follows) : (s.turn act).after.Traced (past ++ [s.turn act]) where
  received := by
    intro kind h received
    have replied : (s.turn act).after.received = ((s.turn act).reply.offers?).getD s.received :=
      (s.still.does_replies act).2
    rw [replied] at received
    cases offers : (s.turn act).reply.offers? with
    | none =>
      rw [offers] at received
      obtain ⟨offer⟩ := traced.received kind h received
      exact ⟨offer.stand _ offers⟩
    | some move =>
      rw [offers] at received
      obtain rfl : move = .next kind h := received
      exact ⟨{ before := past, offer := s.turn act, between := [], split := rfl, offers, last := by simp }⟩
  opened := by
    intro i x there
    rcases (s.still.does_changes act).at there with ⟨number,kind,opens,valid⟩ | ⟨o,before,handoff,becomes⟩
    · obtain rfl := OpenStep.openFrom_step valid
      have received : s.received = .next x.step.step x.handoff := by
        rw [Turn.Follows,show (s.turn act).act = act from rfl,opens] at follows
        exact follows
      obtain ⟨origin⟩ := traced.received _ _ received
      exact ⟨{ earlier := past, opening := s.turn act, later := [], split := rfl, opens, number := number.symm, origin }⟩
    · obtain ⟨opening⟩ := traced.opened i o before
      rw [handoff,becomes.keeps.1]
      exact ⟨opening.stand _⟩
  numbers := turn_agrees traced.numbers act
  logins := by
    intro x member requestId userId login
    rcases (s.still.does_changes act).member member with ⟨kind,-,valid⟩ | ⟨o,before,handoff,becomes⟩
    · exact OpenStep.openFrom_login valid login
    · rw [becomes.keeps.2] at login
      rw [handoff]
      exact traced.logins o before requestId userId login

/-- In a run that follows transitions, all that each turn goes on with is traced to the turns before. -/
theorem Scene.run_traced {s : Scene γ σ} (fresh : s.steps = []) (nothing : s.received = .stay) {acts : List Act}
    (follows : s.Follows acts) {earlier later : List (Turn γ σ)} {t : Turn γ σ}
    (split : s.run acts = earlier ++ t :: later) : t.before.Traced earlier := by
  refine run_past (I := fun past s => s.Traced past) (P := Turn.Follows) ?_ [] ?_ follows split
  · intro past s act traced follows
    exact traced.turn follows
  · exact ⟨by simp [nothing],by simp [fresh],by simp [fresh],by simp [fresh]⟩

end

/-! ### Where the data comes from -/

/-- Whether a turn is the submit of a phone step whose number the service has answered for, with `n` as the number
    then: the number that was sent, or the service's way to write it. -/
def Turn.Establishes (t : Turn γ σ) (n : String) : Prop :=
  ∃ i input o, ∃ p : PhoneStep, t.act = .submit i input ∧ t.before.steps[i]? = some o ∧ o.step = .phone p ∧
    let sent := PhoneStep.fullNumber p.countryCode (Text.trim input)
    ∃ channel, (∃ r, .asked (.authenticateDevice sent channel) (.ok r) ∈ t.happened ∧
        n = r.normalizedPhoneNumber.getD sent) ∨
      ∃ r, .asked (.registerDevice sent channel) (.ok r) ∈ t.happened ∧ n = r.normalizedPhoneNumber.getD sent

/-- Whether `n` is the number that was established by the phone step that led to the step numbered `i`. -/
inductive Established : List (Turn γ σ) → Nat → String → Prop where
  | byPhone {past i kind h n} (o : StepOpening past i kind h) (answered : o.origin.offer.Establishes n) :
    Established past i n
  | carried {past i kind h j input n} (o : StepOpening past i kind h) (act : o.origin.offer.act = .submit j input)
    (led : Established o.origin.before j n) : Established past i n

/-- Whether the step numbered `i` is a login's code step and the login that had been started last when it was opened
    is of a request and a user. -/
def OpenedForLogin (past : List (Turn γ σ)) (i : Nat) (requestId : String) (userId : Int64) : Prop :=
  ∃ h, ∃ o : StepOpening past i .loginCode h, ∃ r, (o.earlier.flatMap Turn.logins).getLast? = some r ∧
    r.requestId = requestId ∧ r.userId = userId

/-- Whether the data of a call that a submit of the step numbered `i` makes comes from where it has to. -/
def Turn.Traces [SessionStore σ] (t : Turn γ σ) (past : List (Turn γ σ)) (i : Nat) (text : String) : Call → Prop
  | .authenticateDevice number _ | .registerDevice number _ =>
    ∃ o, ∃ p : PhoneStep, t.before.steps[i]? = some o ∧ o.step = .phone p ∧
      number = PhoneStep.fullNumber p.countryCode text
  | .verifyCode requestId userId code => code = text ∧ OpenedForLogin past i requestId userId
  | .verifyPin requestId userId pin => pin = text ∧
    -- The pin step was offered by a code step of the login, whose code was answered with empty credentials.
    ∃ h, ∃ o : StepOpening past i .pinCode h, ∃ j input c, o.origin.offer.act = .submit j input ∧
      OpenedForLogin o.origin.before j requestId userId ∧
      .asked (.verifyCode requestId userId (Text.trim input)) (.ok c) ∈ o.origin.offer.happened ∧ c.isEmpty = true
  | .createAccount code number => code = text ∧ ∃ h, ∃ o : StepOpening past i .confirmationCode h,
    (o.earlier.flatMap Turn.registrations).getLast? = some number
  | .verifyAccount session => ∃ credentials n, session = .ofCredentials credentials n ∧ Established past i n ∧
    FetchedFor credentials n t.happened
  | .submitEmail session email => email = text ∧ (SessionStore.read t.before.world.store).1 = .ok (some session)

namespace StepOffer
variable {past : List (Turn γ σ)} {kind : Step} {h : Handoff}

theorem offer_mem (o : StepOffer past kind h) : o.offer ∈ past :=
  (congrArg (o.offer ∈ ·) o.split).mpr (by simp)

theorem between_sub (o : StepOffer past kind h) {t : Turn γ σ} (member : t ∈ o.between) : t ∈ past :=
  (congrArg (t ∈ ·) o.split).mpr (by simp [member])

/-- What is answered only in turns that offer something is, in the end, what was answered in the offering turn. -/
theorem last_answer {α : Type} (o : StepOffer past kind h) {f : Turn γ σ → List α}
    (answers : ∀ t ∈ past, ∀ a ∈ f t, f t = [a] ∧ t.reply.offers? ≠ none) {a : α} (answered : a ∈ f o.offer) :
    (past.flatMap f).getLast? = some a := by
  have one : f o.offer = [a] := (answers _ o.offer_mem a answered).1
  have after : o.between.flatMap f = [] := by
    refine List.flatMap_eq_nil_iff.mpr fun t member => List.eq_nil_iff_forall_not_mem.mpr ?_
    intro b other
    exact (answers t (o.between_sub member) b other).2 (o.last t member)
  have all : past.flatMap f = o.before.flatMap f ++ [a] := by
    rw [congrArg (List.flatMap f) o.split,List.flatMap_append,List.flatMap_cons,one,after,List.append_nil]
  rw [all,List.getLast?_concat]

variable [Gateway γ] [SessionStore σ] {s : Scene γ σ} {acts : List Act}

theorem run_split (o : StepOffer past kind h) {rest : List (Turn γ σ)} (split : s.run acts = past ++ rest) :
    s.run acts = o.before ++ o.offer :: (o.between ++ rest) :=
  split.trans ((congrArg (· ++ rest) o.split).trans (by simp))

/-- Every step but the phone step is offered by a submit, with what the submit hands over. -/
theorem handed (o : StepOffer past kind h) (sub : ∀ t ∈ past, t ∈ s.run acts) (other : kind ≠ .phoneNumber) :
    ∃ i input p, o.offer.act = .submit i input ∧ o.offer.before.steps[i]? = some p ∧
      p.step.Hands (Text.trim input) o.offer.happened kind h := by
  have offers := o.offers
  have replies := Scene.run_replies (sub _ o.offer_mem)
  rw [Turn.happened]
  generalize o.offer.reply = reply at replies offers
  generalize o.offer.act = act at replies
  generalize o.offer.after.world = w' at replies
  cases replies with
  | nothing none =>
    rw [none] at offers
    cases offers
  | refused => cases offers
  | began =>
    cases offers
    exact absurd rfl other
  | @submitted i input p m step _ found submits =>
    cases m <;> cases offers
    exact ⟨i,input,p,rfl,found,submits.hands⟩
  | resent found moved =>
    rcases OpenStep.resend_hands moved with rfl | ⟨h',rfl,-⟩
    · cases offers
    · cases offers
      exact absurd rfl other
  | restarted =>
    cases offers
    exact absurd rfl other

end StepOffer

namespace StepOpening
variable {past rest : List (Turn γ σ)} {i : Nat} {kind : Step} {h : Handoff}

/-- A step was offered in fewer turns than it was opened in. -/
theorem shorter (o : StepOpening past i kind h) : o.origin.before.length < past.length := by
  have longer := congrArg List.length o.split
  have longer' := congrArg List.length o.origin.split
  simp only [List.length_append,List.length_cons] at longer longer'
  omega

variable [Gateway γ] [SessionStore σ] {s : Scene γ σ} {acts : List Act}

theorem run_split (o : StepOpening past i kind h) (split : s.run acts = past ++ rest) :
    s.run acts = o.earlier ++ o.opening :: (o.later ++ rest) :=
  split.trans ((congrArg (· ++ rest) o.split).trans (by simp))

theorem earlier_sub (o : StepOpening past i kind h) (split : s.run acts = past ++ rest) :
    ∀ t ∈ o.earlier, t ∈ s.run acts :=
  fun _ member => o.run_split split ▸ List.mem_append_left _ member

end StepOpening

/-- A success that a submit tells of is told with the number of its step. -/
theorem Submits.told_number [SessionStore σ] {s s' : OpenStep} {input : String} {w w' : World γ σ} {m : Move}
    (submits : Submits s input w m s' w') (empty : w.history = []) {host : HostId} {session : Session} {n : String}
    (told : .delivered (.success host session n) ∈ w'.history) : s.phoneNumber? = some n := by
  rcases submits.silent_or_signedIn with ⟨-,silent⟩ | ⟨rfl,-⟩
  · cases told_of_silent silent empty _ told
  · cases submits.writes with
    | nothing _ _ unsigned => exact absurd rfl unsigned
    | @signedIn kept number l g st st' _ plain _ same _ arrives =>
      have unheard : .delivered (.success host session n) ∉ w.history ++ (l ++ [.wrote kept (.ok ())]) := by
        rw [empty,List.nil_append,List.mem_append,List.mem_singleton]
        rintro (before | wrote)
        · cases (plain _ before).tells_none
        · cases wrote
      cases arrives with
      | success =>
        rw [World.advance_history,World.used_history,World.advance_history,List.mem_append,List.mem_cons] at told
        rcases told with before | read | telling
        · exact absurd before unheard
        · cases read
        · have outcome := World.mem_telling telling
          rcases answer : (SessionStore.read st').1 with e | _ | active
          · simp [answer,Callback.outcome] at outcome
          · simp [answer,Callback.outcome] at outcome
          · simp only [World.advance_store,answer,Callback.outcome,Delivery.success.injEq] at outcome
            rw [same,outcome.2.2]
      | failure failed => cases failed
      | dropped => exact absurd told unheard
      | meaningless noSuccess => exact absurd rfl noSuccess

/-! ### Runs that follow transitions -/

section
variable [Gateway γ] [SessionStore σ] {s : Scene γ σ} {acts : List Act} {past rest : List (Turn γ σ)} {i : Nat}
  {h : Handoff}

/-- A login's code step opens for the login that was started last. -/
theorem StepOpening.login (o : StepOpening past i .loginCode h) (split : s.run acts = past ++ rest) {requestId : String}
    {userId : Int64} (request : h.requestId = some requestId) (user : h.userId = some userId) :
    OpenedForLogin past i requestId userId := by
  have sub := o.earlier_sub split
  obtain ⟨j,input,p,-,-,hands⟩ := o.origin.handed sub (by simp)
  cases hands with
  | @loginStarted _ _ r phone asked =>
    cases request
    cases user
    refine ⟨_,o,r,o.origin.last_answer (fun t member r => Turn.logins_eq (sub t member)) ?_,rfl,rfl⟩
    exact List.mem_filterMap.mpr ⟨_,asked,rfl⟩

/-- A registration's code step opens for the number that was registered last. -/
theorem StepOpening.registration (o : StepOpening past i .confirmationCode h) (split : s.run acts = past ++ rest)
    {n : String} (number : h.phoneNumber = some n) : (o.earlier.flatMap Turn.registrations).getLast? = some n := by
  have sub := o.earlier_sub split
  obtain ⟨j,input,p,-,-,hands⟩ := o.origin.handed sub (by simp)
  cases hands with
  | @registered _ _ r phone asked =>
    cases number
    refine o.origin.last_answer (fun t member n => Turn.registrations_eq (sub t member)) ?_
    exact List.mem_filterMap.mpr ⟨_,asked,rfl⟩

/-- A number that a step was handed was established by a phone step, or it was handed on by the step before. -/
theorem StepOpening.established {kind : Step} (o : StepOpening past i kind h) (other : kind ≠ .phoneNumber)
    (split : s.run acts = past ++ rest) {n : String} (number : h.phoneNumber = some n)
    (before : ∀ j p, o.origin.offer.before.steps[j]? = some p → p.step.phoneNumber? = some n →
      Established o.origin.before j n) : Established past i n := by
  have sub := o.earlier_sub split
  obtain ⟨j,input,p,act,found,hands⟩ := o.origin.handed sub other
  cases hands with
  | @loginStarted q channel r phone asked =>
    cases number
    exact .byPhone o ⟨j,input,p,q,act,found,phone,channel,.inl ⟨r,asked,rfl⟩⟩
  | @registered q channel r phone asked =>
    cases number
    exact .byPhone o ⟨j,input,p,q,act,found,phone,channel,.inr ⟨r,asked,rfl⟩⟩
  | pinWanted code =>
    cases number
    exact .carried o act (before j p found (by rw [code]; rfl))
  | addressWanted code same =>
    cases number
    exact .carried o act (before j p found same)

variable {earlier later : List (Turn γ σ)} {t : Turn γ σ} {o : Opened}

theorem run_login (fresh : s.steps = []) (nothing : s.received = .stay) (follows : s.Follows acts)
    (split : s.run acts = earlier ++ t :: later) (found : t.before.steps[i]? = some o) {c : LoginCodeStep}
    (code : o.step = .loginCode c) : OpenedForLogin earlier i c.requestId c.userId := by
  have traced := Scene.run_traced fresh nothing follows split
  obtain ⟨opening⟩ := traced.opened i o found
  obtain ⟨request,user⟩ := traced.logins o (List.mem_of_getElem? found) c.requestId c.userId (by rw [code]; rfl)
  rw [code] at opening
  exact opening.login split request user

/-- A pin step is offered by a code step of its login, when the code is answered with empty credentials. -/
theorem StepOpening.pin (fresh : s.steps = []) (nothing : s.received = .stay) (follows : s.Follows acts)
    (opening : StepOpening past i .pinCode h) (split : s.run acts = past ++ rest) {requestId : String} {userId : Int64}
    (request : h.requestId = some requestId) (user : h.userId = some userId) :
    ∃ j input credentials, opening.origin.offer.act = .submit j input ∧
      OpenedForLogin opening.origin.before j requestId userId ∧
      .asked (.verifyCode requestId userId (Text.trim input)) (.ok credentials) ∈ opening.origin.offer.happened ∧
      credentials.isEmpty = true := by
  obtain ⟨j,input,p,act,there,hands⟩ := opening.origin.handed (opening.earlier_sub split) (by simp)
  cases hands with
  | pinWanted code asked empty =>
    cases request
    cases user
    have login := run_login fresh nothing follows (opening.origin.run_split (opening.run_split split)) there code
    exact ⟨j,input,_,act,login,asked,empty⟩

/-- The number of a step goes back to the phone step that led there. -/
theorem run_established (fresh : s.steps = []) (nothing : s.received = .stay) (follows : s.Follows acts)
    (split : s.run acts = earlier ++ t :: later) (found : t.before.steps[i]? = some o) {n : String}
    (number : o.step.phoneNumber? = some n) : Established earlier i n := by
  -- The step before was opened earlier, so the induction is on the number of turns.
  induction length : earlier.length using Nat.strongRecOn generalizing earlier t later i o with
  | ind m ih =>
    have traced := Scene.run_traced fresh nothing follows split
    obtain ⟨opening⟩ := traced.opened i o found
    have handed := traced.numbers o (List.mem_of_getElem? found) n number
    have other : o.step.step ≠ .phoneNumber := by
      intro phone
      cases kind : o.step <;> simp [kind,OpenStep.step,OpenStep.phoneNumber?] at phone number
    refine opening.established other split handed ?_
    intro j p there same
    exact ih _ (length ▸ opening.shorter) (opening.origin.run_split (opening.run_split split)) there same rfl

/-- The data of all calls is traced to where it has to come from. In a run whose steps open from what was received
    last, a call is made by a submit or by a verification. A submit of a phone step sends the chosen country's code
    and the trimmed input; a code is checked for the request and the user of the login that had been started last
    when the code step was opened, and so is a pin, which is asked for only after an answer with empty credentials
    to a code of that login; an account is created for the number that had been registered last when the code step
    was opened; an account is fetched for the credentials that were answered just before and the number that was
    established by the phone step that led there; an address is added to the account of the active session; and each
    code, pin and address is the trimmed input. The number that a submit tells of with a success was established by
    the phone step that led there. -/
theorem calls_traced (fresh : s.steps = []) (nothing : s.received = .stay) (follows : s.Follows acts)
    (split : s.run acts = earlier ++ t :: later) :
    (∀ call answer, .asked call answer ∈ t.happened →
      (∃ i input, t.act = .submit i input ∧ t.Traces earlier i (Text.trim input) call) ∨
        ∃ session, t.act = .verify session ∧ call = .verifyAccount session) ∧
    ∀ i input host session n, t.act = .submit i input → .delivered (.success host session n) ∈ t.happened →
      Established earlier i n := by
  have member : t ∈ s.run acts := split ▸ List.mem_append_right _ List.mem_cons_self
  have makes := Scene.run_makes member
  have traced := Scene.run_traced fresh nothing follows split
  constructor
  · intro call answer asked
    rcases makes.calls rfl (List.mem_filterMap.mpr ⟨_,asked,rfl⟩) with ⟨i,input,o,act,found,calls⟩ | verified
    · refine .inl ⟨i,input,act,?_⟩
      have found : t.before.steps[i]? = some o := found
      obtain ⟨opening⟩ := traced.opened i o found
      have handed := traced.logins o (List.mem_of_getElem? found)
      cases calls with
      | authenticate step => exact ⟨o,_,found,step,rfl⟩
      | register step => exact ⟨o,_,found,step,rfl⟩
      | verifyCode step => exact ⟨rfl,run_login fresh nothing follows split found step⟩
      | @verifyPin c step =>
        obtain ⟨request,user⟩ := handed c.requestId c.userId (by rw [step]; rfl)
        rw [step] at opening
        exact ⟨rfl,_,opening,opening.pin fresh nothing follows split request user⟩
      | @createAccount c step =>
        have number := traced.numbers o (List.mem_of_getElem? found) c.phoneNumber (by rw [step]; rfl)
        rw [step] at opening
        exact ⟨rfl,_,opening,opening.registration split number⟩
      | verifyAccount number fetched =>
        exact ⟨_,_,rfl,run_established fresh nothing follows split found number,fetched⟩
      | submitEmail step active => exact ⟨rfl,active⟩
    · exact .inr verified
  · intro i input host session n act told
    rw [act] at makes
    generalize world : t.after.world = w' at makes
    generalize answer : t.reply = reply at makes
    rw [Turn.happened,world] at told
    cases makes with
    | submitted found submits =>
      exact run_established fresh nothing follows split found (submits.told_number rfl told)
    | recorded quiet => cases quiet
    | unsubmitted => cases told
    | handedIn hands => cases hands

end

theorem Occurrence.of_call {o : Occurrence} {call : Call} (called : o.call? = some call) :
    ∃ answer, o = .asked call answer := by
  cases o with
  | asked call answer =>
    cases called
    exact ⟨answer,rfl⟩
  | _ => cases called

/-- A login: the code is checked for the login that was started, and the number that is told of is the one that was
    sent. -/
theorem login_traced :
    let run := (Scene.scripted
      { authenticateDevice := [.ok { requestId := "r", userId := 7 }]
        verifyCode := [.ok { token := some "t", secret := some "s", userId := 7 }] }).run Act.logIn
    run[4].Traces (run.take 4) 1 (Text.trim "9") (.verifyCode "r" 7 "9") ∧ Established (run.take 4) 1 "+15" := by
  intro run
  have split : run = run.take 4 ++ run[4] :: run.drop 5 := rfl
  obtain ⟨traces,established⟩ := calls_traced rfl rfl (by decide +kernel) split
  constructor
  · have called : .verifyCode "r" 7 "9" ∈ run[4].happened.filterMap Occurrence.call? := by decide +kernel
    obtain ⟨o,there,call⟩ := List.mem_filterMap.mp called
    obtain ⟨answer,rfl⟩ := Occurrence.of_call call
    rcases traces _ answer there with ⟨i,input,act,traced⟩ | ⟨session,act,-⟩
    · cases act
      exact traced
    · cases act
  · have outcomes : run[4].happened.filterMap Occurrence.outcome? =
        [.success 1 (.ofCredentials { token := some "t", secret := some "s", userId := 7 } "+15") "+15"] := rfl
    have told := List.mem_filterMap.mp (outcomes ▸ List.mem_singleton_self _)
    obtain ⟨o,there,outcome⟩ := told
    rw [Occurrence.of_outcome outcome] at there
    exact established 1 "9" 1 _ "+15" rfl there

/-- A code step is not for the login that was started last, when another was started after it was opened. Here the
    user has the code sent again, and then enters the code in the step that was opened first. -/
theorem older_login_checked :
    let run := (Scene.scripted
      { authenticateDevice := [.ok { requestId := "r1", userId := 7 },.ok { requestId := "r2", userId := 8 }] }).run
      [.start ⟨1,"",false⟩,.openStep .phoneNumber { receiver := some 0, phoneNumber := some "" },.submit 0 "5",
        .openStep .loginCode
          { receiver := some 0, phoneNumber := some "+15", requestId := some "r1", userId := some 7 },
        .phoneResend 0,.submit 0 "5",
        .openStep .loginCode
          { receiver := some 0, phoneNumber := some "+15", requestId := some "r2", userId := some 8 },
        .submit 1 "9"]
    (∀ t ∈ run, t.Follows) ∧ ((run.take 7).flatMap Turn.logins).getLast? = some { requestId := "r2", userId := 8 } ∧
      run[7].happened.filterMap Occurrence.call? = [.verifyCode "r1" 7 "9"] := by
  decide +kernel

end PhoneSignIn.Flow
