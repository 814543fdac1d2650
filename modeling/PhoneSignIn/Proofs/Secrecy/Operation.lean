import PhoneSignIn.Flow.SignIn
import PhoneSignIn.Proofs.Secrecy.Store

/-!
Operations that no secret decides anything in. Two operations agree when they lead from worlds that are the same but
for secrets to worlds that are, with related results (`Agrees`); what is put together from such operations is such an
operation. So are all operations of the flow: `submit_agrees` has those on steps, `startSignIn_agrees` and
`refreshSession_agrees` those of the host. The one test that a secret goes into, whether the answer to a code is
empty, comes out the same.
-/
namespace PhoneSignIn.Flow

variable {γ γ' σ α α' β β' : Type}

/-! ### Worlds -/

/-- Worlds that are the same but for secrets, over related gateways. -/
structure World.Alike [SessionStore σ] [BlindStore σ] (G : γ → γ' → Prop) (w : World γ σ) (w' : World γ' σ) : Prop where
  gateway : G w.gateway w'.gateway
  store : BlindStore.Alike w.store w'.store
  settings : w.settings = w'.settings
  host : w.host = w'.host
  others : w.others = w'.others
  receivers : w.receivers = w'.receivers
  history : List.Forall₂ Occurrence.Alike w.history w'.history

/-- Operations that lead from alike worlds to alike worlds, with related results. -/
def Agrees [SessionStore σ] [BlindStore σ] (G : γ → γ' → Prop) (R : α → α' → Prop) (op : Operation γ σ α)
    (op' : Operation γ' σ α') : Prop :=
  ∀ ⦃w : World γ σ⦄ ⦃w' : World γ' σ⦄, w.Alike G w' →
    R (op.run w).1 (op'.run w').1 ∧ World.Alike G (op.run w).2 (op'.run w').2

section
variable [SessionStore σ] [BlindStore σ] {G : γ → γ' → Prop} {R : α → α' → Prop} {S : β → β' → Prop}

theorem World.Alike.canTell {w : World γ σ} {w' : World γ' σ} (alike : w.Alike G w') (c : Callback) :
    w.canTell c = w'.canTell c := by
  simp only [World.canTell,World.isThere,alike.host,alike.others]

/-! ### Putting operations together -/

namespace Agrees

theorem pure {a : α} {a' : α'} (related : R a a') :
    Agrees G R (pure a : Operation γ σ α) (Pure.pure a' : Operation γ' σ α') :=
  fun _ _ alike => ⟨related,alike⟩

theorem bind {x : Operation γ σ α} {x' : Operation γ' σ α'} (first : Agrees G R x x') {f : α → Operation γ σ β}
    {f' : α' → Operation γ' σ β'} (next : ∀ a a', R a a' → Agrees G S (f a) (f' a')) :
    Agrees G S (x >>= f) (x' >>= f') := by
  intro w w' alike
  obtain ⟨related,later⟩ := first alike
  exact next _ _ related later

theorem map {x : Operation γ σ α} {x' : Operation γ' σ α} (first : Agrees G Eq x x') (f : α → β) :
    Agrees G Eq (f <$> x) (f <$> x') := by
  intro w w' alike
  obtain ⟨same,later⟩ := first alike
  exact ⟨congrArg f same,later⟩

/-- After operations with the same result. -/
theorem andThen {x : Operation γ σ α} {x' : Operation γ' σ α} (first : Agrees G Eq x x') {f : α → Operation γ σ β}
    {f' : α → Operation γ' σ β'} (next : ∀ a, Agrees G S (f a) (f' a)) : Agrees G S (x >>= f) (x' >>= f') :=
  first.bind fun a _ same => same ▸ next a

theorem get {f : World γ σ → Operation γ σ β} {f' : World γ' σ → Operation γ' σ β'}
    (next : ∀ w w', World.Alike G w w' → Agrees G S (f w) (f' w')) :
    Agrees G S (MonadState.get >>= f) (MonadState.get >>= f') :=
  fun w w' alike => next w w' alike alike

theorem log {o o' : Occurrence} (happens : o.Alike o') :
    Agrees G Eq (log o : Operation γ σ Unit) (Flow.log o' : Operation γ' σ Unit) := by
  intro w w' alike
  refine ⟨rfl,{ alike with history := ?_ }⟩
  exact List.rel_append alike.history (.cons happens .nil)

theorem record (component : Journal.Component) (action : Journal.Action) :
    Agrees G Eq (record component action : Operation γ σ Unit) (Flow.record component action : Operation γ' σ Unit) :=
  .log (.recorded _)

theorem modifyReceiver (id : ReceiverId) (f : Receiver → Receiver) :
    Agrees G Eq (modifyReceiver id f : Operation γ σ Unit) (Flow.modifyReceiver id f : Operation γ' σ Unit) := by
  intro w w' alike
  refine ⟨rfl,{ alike with receivers := ?_ }⟩
  exact congrArg (·.modify id f) alike.receivers

end Agrees

theorem ask_agrees [Gateway γ] [Gateway γ'] (blind : Gateway.Blind G) {c c' : Call} (calls : c.Alike c') :
    Agrees G (c.AnswersAlike c') (ask c : Operation γ σ _) (ask c' : Operation γ' σ _) := by
  intro w w' alike
  obtain ⟨answers,gateway⟩ := blind calls alike.gateway
  refine ⟨answers,{ alike with gateway, history := ?_ }⟩
  exact List.rel_append alike.history (.cons (.asked calls answers) .nil)

theorem readSession_agrees : Agrees G (ResultsAlike (Option.Rel Session.Alike)) (readSession : Operation γ σ _)
    (readSession : Operation γ' σ _) := by
  intro w w' alike
  obtain ⟨results,store⟩ := BlindStore.read alike.store
  refine ⟨results,{ alike with store, history := ?_ }⟩
  exact List.rel_append alike.history (.cons (.read results) .nil)

theorem writeSession_agrees {s s' : Session} (sessions : s.Alike s') :
    Agrees G Eq (writeSession s : Operation γ σ _) (writeSession s' : Operation γ' σ _) := by
  intro w w' alike
  obtain ⟨result,store⟩ := BlindStore.write sessions alike.store
  have wrote : Occurrence.Alike (.wrote s (SessionStore.write s w.store).1)
      (.wrote s' (SessionStore.write s' w'.store).1) :=
    result ▸ .wrote sessions _
  exact ⟨result,{ alike with store, history := List.rel_append alike.history (.cons wrote .nil) }⟩

theorem clearSession_agrees :
    Agrees G Eq (clearSession : Operation γ σ _) (clearSession : Operation γ' σ _) := by
  intro w w' alike
  obtain ⟨result,store⟩ := BlindStore.clear alike.store
  have cleared : Occurrence.Alike (.cleared (SessionStore.clear w.store).1)
      (.cleared (SessionStore.clear w'.store).1) :=
    result ▸ .cleared _
  exact ⟨result,{ alike with store, history := List.rel_append alike.history (.cons cleared .nil) }⟩

/-! ### Outcomes -/

theorem tellSuccess_agrees (c : Callback) {s s' : Session} (sessions : s.Alike s') (phoneNumber : String) :
    Agrees G Eq (c.tellSuccess s phoneNumber : Operation γ σ Unit)
      (c.tellSuccess s' phoneNumber : Operation γ' σ Unit) := by
  refine .get fun w w' alike => ?_
  rw [alike.canTell]
  split
  · exact .andThen (.record _ _) fun _ => .log (.delivered (.success _ sessions _))
  · exact .pure rfl

theorem tellFailure_agrees (c : Callback) (message : String) :
    Agrees G Eq (c.tellFailure message : Operation γ σ Unit) (c.tellFailure message : Operation γ' σ Unit) := by
  refine .get fun w w' alike => ?_
  rw [alike.canTell]
  split
  · exact .andThen (.record _ _) fun _ => .log (.delivered (.failure _ _))
  · exact .pure rfl

theorem useUp_agrees (id : ReceiverId) :
    Agrees G Eq (useUp id : Operation γ σ (Option Callback)) (useUp id : Operation γ' σ (Option Callback)) := by
  refine .get fun w w' alike => ?_
  rw [alike.receivers]
  split
  · exact .pure rfl
  · exact .andThen (.modifyReceiver _ _) fun _ => .pure rfl

/-- A host is told of alike sessions at the same time, or of the same failure. -/
theorem handIn_agrees (id : ReceiverId) (code : Int32) (data : LoginResult) :
    Agrees G Eq (handIn id code data : Operation γ σ Unit) (handIn id code data : Operation γ' σ Unit) := by
  rw [handIn,handIn]
  split
  · refine .andThen (useUp_agrees id) fun used => ?_
    cases used with
    | none => exact .pure rfl
    | some callback =>
      refine .bind readSession_agrees fun r r' results => ?_
      cases results with
      | error e => exact tellFailure_agrees _ _
      | ok active =>
        cases active with
        | none => exact tellFailure_agrees _ _
        | some sessions => exact tellSuccess_agrees _ sessions _
  · split
    · refine .andThen (useUp_agrees id) fun used => ?_
      cases used with
      | none => exact .pure rfl
      | some callback => exact tellFailure_agrees _ _
    · exact .pure rfl

/-! ### Steps -/

namespace StepState
variable (c : StepState)

theorem report_agrees (e : CallError) :
    Agrees G Eq (c.report e : Operation γ σ _) (c.report e : Operation γ' σ _) := by
  rw [report,report]
  generalize c.budget.charge e = charged
  obtain ⟨verdict,budget⟩ := charged
  cases verdict with
  | tell => exact .andThen (.record _ _) fun _ => .pure rfl
  | giveUp => exact .andThen (.record _ _) fun _ => .pure rfl
  | ignore => exact .pure rfl

theorem signIn_agrees {s s' : Session} (sessions : s.Alike s') (phoneNumber : String) :
    Agrees G Eq (c.signIn s phoneNumber : Operation γ σ _) (c.signIn s' phoneNumber : Operation γ' σ _) := by
  refine .andThen (writeSession_agrees sessions) fun result => ?_
  cases result with
  | error e => exact c.report_agrees _
  | ok => exact .andThen (handIn_agrees _ _ _) fun _ => .pure rfl

theorem requestEmail_agrees {s s' : Session} (sessions : s.Alike s') (phoneNumber : String) :
    Agrees G Eq (c.requestEmail s phoneNumber : Operation γ σ _)
      (c.requestEmail s' phoneNumber : Operation γ' σ _) := by
  refine .andThen (writeSession_agrees sessions) fun result => ?_
  cases result with
  | error e => exact c.report_agrees _
  | ok => exact .pure rfl

theorem goBack_agrees (h : Handoff) :
    Agrees G Eq (c.goBack h : Operation γ σ _) (c.goBack h : Operation γ' σ _) := by
  rw [goBack,goBack]
  split
  · exact .pure rfl
  · exact .andThen (.record _ _) fun _ => .pure rfl

theorem submitText_agrees (input : String) {check : StepState → String → Operation γ σ (Move × StepState)}
    {check' : StepState → String → Operation γ' σ (Move × StepState)}
    (checks : ∀ c text, Agrees G Eq (check c text) (check' c text)) :
    Agrees G Eq (c.submitText input check) (c.submitText input check') := by
  rw [submitText,submitText]
  split
  · exact .pure rfl
  · exact .andThen (.record _ _) fun _ => checks _ _

variable [Gateway γ] [Gateway γ']

theorem signInOrRequestEmail_agrees (blind : Gateway.Blind G) {s s' : Session} (sessions : s.Alike s')
    (phoneNumber : String) : Agrees G Eq (c.signInOrRequestEmail s phoneNumber : Operation γ σ _)
      (c.signInOrRequestEmail s' phoneNumber : Operation γ' σ _) := by
  refine .bind (ask_agrees blind (.verifyAccount sessions)) fun r r' answers => ?_
  cases answers with
  | error e => exact c.report_agrees e
  | ok accounts =>
    have refreshed := accounts.session
    simp only [refreshed.email,refreshed.id,sessions.id]
    split
    · exact c.requestEmail_agrees refreshed phoneNumber
    · exact c.signIn_agrees refreshed phoneNumber

end StepState

/-! ### Codes, pins and addresses -/

section
variable [Gateway γ] [Gateway γ']

/-- The answer to a code is empty in both worlds or in neither. -/
theorem LoginCodeStep.check_agrees (blind : Gateway.Blind G) (s : LoginCodeStep) (core : StepState) (code : String) :
    Agrees G Eq (s.check core code : Operation γ σ _) (s.check core code : Operation γ' σ _) := by
  refine .bind (ask_agrees blind (.same _)) fun r r' answers => ?_
  cases answers with
  | error e => exact core.report_agrees e
  | ok credentials =>
    refine .andThen (.record _ _) fun _ => ?_
    rw [credentials.isEmpty]
    split
    · exact .pure rfl
    · split
      · exact core.signInOrRequestEmail_agrees blind (credentials.session _) _
      · exact core.signIn_agrees (credentials.session _) _

theorem LoginCodeStep.submit_agrees (blind : Gateway.Blind G) (s : LoginCodeStep) (input : String) :
    Agrees G Eq (s.submit input : Operation γ σ _) (s.submit input : Operation γ' σ _) :=
  .andThen (s.core.submitText_agrees input (s.check_agrees blind)) fun _ => .pure rfl

theorem ConfirmationCodeStep.check_agrees (blind : Gateway.Blind G) (s : ConfirmationCodeStep) (core : StepState)
    (code : String) : Agrees G Eq (s.check core code : Operation γ σ _) (s.check core code : Operation γ' σ _) := by
  refine .bind (ask_agrees blind (.same _)) fun r r' answers => ?_
  cases answers with
  | error e => exact core.report_agrees e
  | ok credentials =>
    refine .andThen (.record _ _) fun _ => ?_
    split
    · exact core.requestEmail_agrees (credentials.session _) _
    · exact core.signIn_agrees (credentials.session _) _

theorem ConfirmationCodeStep.submit_agrees (blind : Gateway.Blind G) (s : ConfirmationCodeStep) (input : String) :
    Agrees G Eq (s.submit input : Operation γ σ _) (s.submit input : Operation γ' σ _) :=
  .andThen (s.core.submitText_agrees input (s.check_agrees blind)) fun _ => .pure rfl

theorem PinCodeStep.check_agrees (blind : Gateway.Blind G) (s : PinCodeStep) (core : StepState) (pin : String) :
    Agrees G Eq (s.check core pin : Operation γ σ _) (s.check core pin : Operation γ' σ _) := by
  refine .bind (ask_agrees blind (.same _)) fun r r' answers => ?_
  cases answers with
  | error e => exact core.report_agrees e
  | ok credentials =>
    refine .andThen (.record _ _) fun _ => ?_
    split
    · exact core.signInOrRequestEmail_agrees blind (credentials.session _) _
    · exact core.signIn_agrees (credentials.session _) _

theorem PinCodeStep.submit_agrees (blind : Gateway.Blind G) (s : PinCodeStep) (input : String) :
    Agrees G Eq (s.submit input : Operation γ σ _) (s.submit input : Operation γ' σ _) :=
  .andThen (s.core.submitText_agrees input (s.check_agrees blind)) fun _ => .pure rfl

theorem EmailStep.attach_agrees (blind : Gateway.Blind G) (s : EmailStep) (core : StepState) (email : String) :
    Agrees G Eq (s.attach core email : Operation γ σ _) (s.attach core email : Operation γ' σ _) := by
  refine .bind readSession_agrees fun r r' results => ?_
  cases results with
  | error e => exact core.report_agrees _
  | ok active =>
    cases active with
    | none => exact core.report_agrees _
    | @some session session' sessions =>
      simp only [sessions.isGuest]
      split
      · exact core.report_agrees _
      · refine .bind (ask_agrees blind (.submitEmail sessions email)) fun r r' answers => ?_
        cases answers with
        | error e => exact core.report_agrees e
        | ok => exact .andThen (.record _ _) fun _ => core.signIn_agrees sessions _

theorem EmailStep.submit_agrees (blind : Gateway.Blind G) (s : EmailStep) (input : String) :
    Agrees G Eq (s.submit input : Operation γ σ _) (s.submit input : Operation γ' σ _) := by
  rw [EmailStep.submit,EmailStep.submit]
  split
  · exact .pure rfl
  · dsimp only
    split
    · exact .pure rfl
    · refine .andThen (.record _ _) fun _ => ?_
      exact .andThen (s.attach_agrees blind _ _) fun _ => .pure rfl

/-! ### Phone numbers -/

namespace PhoneStep
variable (s : PhoneStep)

omit [Gateway γ] [Gateway γ'] in
theorem report_agrees (e : CallError) :
    Agrees G Eq (s.report e : Operation γ σ _) (s.report e : Operation γ' σ _) :=
  .andThen (s.core.report_agrees e) fun _ => .pure rfl

theorem register_agrees (blind : Gateway.Blind G) (channel : Channel) :
    Agrees G Eq (s.register channel : Operation γ σ _) (s.register channel : Operation γ' σ _) := by
  refine .bind (ask_agrees blind (.same _)) fun r r' same => ?_
  obtain rfl : r = r' := same
  cases r with
  | error e => exact s.report_agrees e
  | ok registration => exact .andThen (.record _ _) fun _ => .pure rfl

theorem send_agrees (blind : Gateway.Blind G) (channel : Channel) :
    Agrees G Eq (s.send channel : Operation γ σ _) (s.send channel : Operation γ' σ _) := by
  refine .bind (ask_agrees blind (.same _)) fun r r' same => ?_
  obtain rfl : r = r' := same
  cases r with
  | ok login => exact .andThen (.record _ _) fun _ => .pure rfl
  | error e =>
    cases e with
    | unknownDevice => exact s.register_agrees blind channel
    | unsupportedCarrier => exact report_agrees _ _
    | _ => exact s.report_agrees _

theorem submit_agrees (blind : Gateway.Blind G) (input : String) :
    Agrees G Eq (s.submit input : Operation γ σ _) (s.submit input : Operation γ' σ _) := by
  have attempt : Agrees G Eq (s.recordAttempt : Operation γ σ Unit) (s.recordAttempt : Operation γ' σ Unit) := by
    rw [recordAttempt,recordAttempt]
    split
    · exact .record _ _
    · exact .record _ _
  rw [PhoneStep.submit,PhoneStep.submit]
  split
  · exact .pure rfl
  · exact .andThen attempt fun _ => send_agrees _ blind _

end PhoneStep

/-! ### All steps -/

theorem OpenStep.submit_agrees (blind : Gateway.Blind G) (s : OpenStep) (input : String) :
    Agrees G Eq (s.submit input : Operation γ σ _) (s.submit input : Operation γ' σ _) := by
  cases s with
  | phone s => exact (s.submit_agrees blind input).map _
  | loginCode s => exact (s.submit_agrees blind input).map _
  | confirmationCode s => exact (s.submit_agrees blind input).map _
  | pinCode s => exact (s.submit_agrees blind input).map _
  | email s => exact (s.submit_agrees blind input).map _

end

theorem OpenStep.resend_agrees (s : OpenStep) :
    Agrees G Eq (s.resend : Operation γ σ _) (s.resend : Operation γ' σ _) := by
  cases s with
  | loginCode s =>
    have goes : Agrees G Eq (s.resend : Operation γ σ _) (s.resend : Operation γ' σ _) :=
      .andThen (s.core.goBack_agrees _) fun _ => .pure rfl
    exact goes.map _
  | confirmationCode s =>
    have goes : Agrees G Eq (s.resend : Operation γ σ _) (s.resend : Operation γ' σ _) :=
      .andThen (s.core.goBack_agrees _) fun _ => .pure rfl
    exact goes.map _
  | phone s => exact .pure rfl
  | pinCode s => exact .pure rfl
  | email s => exact .pure rfl

/-! ### Hosts -/

/-- A sign-in begins with alike sessions, or with the same handoff. -/
inductive Beginning.Alike : Beginning → Beginning → Prop where
  | signedIn {s s'} (sessions : s.Alike s') : Alike (.signedIn s) (.signedIn s')
  | launch (h) : Alike (.launch h) (.launch h)

theorem newReceiver_agrees (callback : Callback) :
    Agrees G Eq (newReceiver callback : Operation γ σ ReceiverId)
      (newReceiver callback : Operation γ' σ ReceiverId) := by
  intro w w' alike
  refine ⟨congrArg List.length alike.receivers,{ alike with receivers := ?_ }⟩
  exact congrArg (· ++ [{ callback }]) alike.receivers

theorem startSignIn_agrees (config : SignInRequest) : Agrees G (ResultsAlike Beginning.Alike)
    (startSignIn config : Operation γ σ _) (startSignIn config : Operation γ' σ _) := by
  refine .andThen (.record _ _) fun _ => ?_
  refine .bind readSession_agrees fun r r' results => ?_
  cases results with
  | error e => exact .pure (.error _)
  | ok active =>
    cases active with
    | none => exact .andThen (newReceiver_agrees _) fun _ => .pure (.ok (.launch _))
    | @some session session' sessions =>
      simp only [Option.filter_some,sessions.isGuest]
      cases session'.isGuest with
      | true => exact .andThen (newReceiver_agrees _) fun _ => .pure (.ok (.launch _))
      | false =>
        have told : Agrees G Eq
            (Callback.tellSuccess { host := config.host } session session.phoneNumber : Operation γ σ Unit)
            (Callback.tellSuccess { host := config.host } session' session'.phoneNumber : Operation γ' σ Unit) := by
          rw [← sessions.phoneNumber]
          exact tellSuccess_agrees _ sessions _
        exact .andThen told fun _ => .pure (.ok (.signedIn sessions))

theorem refreshSession_agrees [Gateway γ] [Gateway γ'] (blind : Gateway.Blind G) {s s' : Session}
    (sessions : s.Alike s') : Agrees G (Option.Rel Session.Alike) (refreshSession s : Operation γ σ _)
      (refreshSession s' : Operation γ' σ _) := by
  rw [refreshSession,refreshSession,sessions.isGuest]
  split
  · exact .pure .none
  · refine .bind (ask_agrees blind (.verifyAccount sessions)) fun r r' answers => ?_
    cases answers with
    | error e => exact .pure .none
    | ok accounts =>
      refine .andThen (writeSession_agrees accounts.session) fun result => ?_
      cases result with
      | error e => exact .pure .none
      | ok => exact .andThen (.log (.delivered (.changed accounts.session))) fun _ => .pure (.some accounts.session)

end

end PhoneSignIn.Flow
