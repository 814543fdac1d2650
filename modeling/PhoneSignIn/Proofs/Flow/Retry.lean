import PhoneSignIn.Proofs.Flow.Closing
import PhoneSignIn.Proofs.Flow.Voice

/-!
What attempts that fail leave behind. A step that tells the user of an error keeps its count of errors, shows the error,
and a phone step keeps the number that it has sent; all else is as it was opened (`OpenStep.untried`). The next submit
goes by none of that. So it does what the same step does that has just been opened, as long as the service refuses
nothing, and only the journal and the count tell that there were attempts before (`retry_transparent`). A step that
does not accept what the user sends goes on showing what it showed (`retried_blank_differs`).
-/
namespace PhoneSignIn.Flow

variable {γ σ : Type}

/-! ### A step without the attempts that failed -/

/-- The common part of a step, without the errors it has counted and shown. -/
def StepState.untried (c : StepState) : StepState :=
  { c.recount 0 with view := { c.view with activity := .start, message := none } }

/-- The phone step as it is without the attempts that have failed at it. -/
def PhoneStep.untried (p : PhoneStep) : PhoneStep := { p with core := p.core.untried, phoneNumber := "" }

/-- The step as it is without the attempts that have failed at it. -/
def OpenStep.untried : OpenStep → OpenStep
  | phone p => phone p.untried
  | s => s.setCore s.core.untried

/-- The step with another country, if it has one. -/
def OpenStep.inCountry (countryCode : UInt32) : OpenStep → OpenStep
  | phone p => phone { p with countryCode }
  | s => s

namespace OpenStep
variable (o : OpenStep)

theorem untried_count : o.untried.errorCount = 0 := by cases o <;> rfl
theorem untried_step : o.untried.step = o.step := by cases o <;> rfl
theorem untried_accepts (input : String) : o.untried.accepts input = o.accepts input := by cases o <;> rfl
theorem untried_setCore {c : StepState} (same : c.untried = o.core.untried) : (o.setCore c).untried = o.untried := by
  cases o <;> simp only [untried,setCore,core,PhoneStep.untried] at same ⊢ <;> rw [same]
theorem untried_same {o : OpenStep} (other : o.step ≠ .phoneNumber) (same : o.core.untried = o.core) :
    o.untried = o := by
  cases o with
  | phone => exact absurd rfl other
  | _ => simp only [untried,core] at same ⊢; rw [same]; rfl
theorem inCountry_step (countryCode : UInt32) : (o.inCountry countryCode).step = o.step := by cases o <;> rfl
theorem inCountry_inCountry (a b : UInt32) : (o.inCountry a).inCountry b = o.inCountry b := by cases o <;> rfl
theorem inCountry_own : ∃ c, o.inCountry c = o := by
  cases o with
  | phone p => exact ⟨p.countryCode,rfl⟩
  | _ => exact ⟨0,rfl⟩
theorem setCore_recount (c : StepState) (n : UInt64) : (o.setCore c).recount n = o.setCore (c.recount n) := by
  cases o <;> rfl

end OpenStep

/-- A step that has just been opened has not been tried. -/
theorem OpenStep.openFrom_untried {settings : Settings} {kind : Step} {h : Handoff} {o : OpenStep}
    (opens : OpenStep.openFrom settings kind h = .ok o) : o.untried = o := by
  by_cases phone : kind = .phoneNumber
  · subst phone
    cases openFrom_iff.mp opens with
    | @phone r p receiver new =>
      subst new
      split
      · simp only [PhoneStep.askAgain]
        split <;> rfl
      · rfl
  · obtain ⟨r,_,_,-,core⟩ := openFrom_new opens
    refine untried_same ?_ (by rw [core]; rfl)
    rwa [openFrom_step opens]

/-- The journal's record of an attempt, when others have failed before. -/
def Occurrence.retried : Occurrence → Occurrence
  | .recorded ⟨component,.click .submit⟩ => .recorded ⟨component,.click .retry⟩
  | o => o

theorem StepState.attempt_retried (c : StepState) :
    c.attempt = if c.budget.hasErrors then c.untried.attempt.retried else c.untried.attempt := by
  rw [StepState.attempt]
  split <;> rfl

/-- A retry is recorded instead of a submit where errors have been counted; a call that is asked for is recorded as
    such. -/
theorem OpenStep.attempt_retried (o : OpenStep) :
    o.attempt = if o.core.budget.hasErrors then o.untried.attempt.retried else o.untried.attempt := by
  cases o with
  | phone p =>
    have same : p.untried.channel = p.channel := rfl
    rw [untried,attempt,attempt,PhoneStep.attempt,PhoneStep.attempt,same]
    cases p.channel with
    | voiceCall => exact (ite_self _).symm
    | sms => exact p.core.attempt_retried
  | _ => exact StepState.attempt_retried _

theorem OpenStep.attempt_call (o : OpenStep) : o.attempt.call? = none := by
  cases o with
  | phone p => exact p.attempt_call
  | _ => rfl

theorem OpenStep.recounted_attempt (o : OpenStep) : (o.untried.recount o.errorCount).attempt = o.attempt := by
  cases o <;> rfl

section
variable [Gateway γ] [SessionStore σ]

omit [SessionStore σ] in
theorem PhoneStep.submit_recounted {p : PhoneStep} {input : String} (open_ : p.core.isClosed = false)
    (written : Text.trim input ≠ "") :
    ((p.untried.recount p.core.budget.count).submit input : Operation γ σ (Move × PhoneStep)) = p.submit input := by
  have recounted : (p.untried.recount p.core.budget.count).core.isClosed = false := open_
  rw [submit_ready open_ written,submit_ready recounted written]
  rfl

/-- A submit goes by the number of errors that a step has counted, and by nothing else that failed attempts have
    left. -/
theorem OpenStep.submit_recounted {o : OpenStep} {input : String} (accepted : o.accepts input = true) (w : World γ σ) :
    ((o.untried.recount o.errorCount).submit input).run w = (o.submit input).run w := by
  cases o with
  | phone p =>
    have ready := StepState.ready (c := p.core) accepted
    simp only [submit]
    rw [← PhoneStep.submit_recounted ready.1 ready.2]
    rfl
  | loginCode s =>
    have ready := StepState.ready (c := s.core) accepted
    have open_ : (s.core.untried.recount s.core.budget.count).isClosed = false := ready.1
    simp only [submit,untried,recount,setCore,core,errorCount,LoginCodeStep.submit,map_run,bind_run,
      submitText_run open_ ready.2,submitText_run ready.1 ready.2,LoginCodeStep.check_core]
    rfl
  | confirmationCode s =>
    have ready := StepState.ready (c := s.core) accepted
    have open_ : (s.core.untried.recount s.core.budget.count).isClosed = false := ready.1
    simp only [submit,untried,recount,setCore,core,errorCount,ConfirmationCodeStep.submit,map_run,bind_run,
      submitText_run open_ ready.2,submitText_run ready.1 ready.2,ConfirmationCodeStep.check_core]
    rfl
  | pinCode s =>
    have ready := StepState.ready (c := s.core) accepted
    have open_ : (s.core.untried.recount s.core.budget.count).isClosed = false := ready.1
    simp only [submit,untried,recount,setCore,core,errorCount,PinCodeStep.submit,map_run,bind_run,
      submitText_run open_ ready.2,submitText_run ready.1 ready.2,PinCodeStep.check_core]
    rfl
  | email s =>
    have ready : s.core.isClosed = false ∧ EmailAddress.isValid (Text.trim input) = true := by
      simpa [accepts,core] using accepted
    have open_ : (s.core.untried.recount s.core.budget.count).isClosed = false := ready.1
    simp only [submit,untried,recount,setCore,core,errorCount,EmailStep.submit,map_run,open_,ready.1,ready.2]
    rfl

end

/-! ### The last thing of a submit -/

/-- The world with another history. -/
def World.recalling (w : World γ σ) (h : List Occurrence) : World γ σ := { w with history := h }

theorem World.recalling_same {w : World γ σ} {h : List Occurrence} (same : w.history = h) : w.recalling h = w := by
  subst same
  rfl

/-- Whether an operation of a step goes alike after any number of errors, whatever has happened before. -/
def StepState.Alike (c : StepState) (act : StepState → Operation γ σ (Move × StepState)) (w : World γ σ) : Prop :=
  ∃ (m : Move) (c' : StepState) (w' : World γ σ) (l : List Occurrence), ∀ n h, (act (c.recount n)).run (w.recalling h) =
    ((m,c'.recount (n + c'.budget.count)),w'.recalling (h ++ l))

section
variable [SessionStore σ]

/-- A result is handed in alike, whatever has happened before. -/
theorem handIn_alike (id : ReceiverId) (data : LoginResult) (w : World γ σ) :
    ∃ (w' : World γ σ) (l : List Occurrence), ∀ h, (handIn id successCode data).run (w.recalling h) =
      ((),w'.recalling (h ++ l)) := by
  by_cases before : ∀ r ∈ w.receivers[id]?, r.delivered = true
  · refine ⟨w,[],fun h => ?_⟩
    rw [handIn_used (w := w.recalling h) before,List.append_nil]
  · obtain ⟨r,found,unused⟩ : ∃ r, w.receivers[id]? = some r ∧ r.delivered = false := by simpa using before
    exact ⟨(w.used id).advance w.gateway (SessionStore.read w.store).2 [],
      .read (SessionStore.read w.store).1 ::
        w.telling r.callback (r.callback.outcome data.phoneNumber (SessionStore.read w.store).1),
      fun h => handIn_success (w := w.recalling h) found unused data⟩

omit [SessionStore σ] in
theorem StepState.report_fatal {c : StepState} (unspent : c.budget.spent = false) {e : CallError}
    (severe : e.isFatal = true) (w : World γ σ) : (c.report e).run w =
      ((.gaveUp { receiver := c.receiver, reason := e },
        { c with budget := { c.budget with count := c.budget.count + 1, spent := true } }),
        w.advance w.gateway w.store [.recorded ⟨c.step.component,.failure⟩]) := by
  simp only [report,ErrorBudget.charge_giveUp unspent (.inl severe)]
  rfl

variable {c : StepState} {w : World γ σ}

omit [SessionStore σ] in
theorem StepState.report_alike (unspent : c.budget.spent = false) {e : CallError} (severe : e.isFatal = true) :
    c.Alike (·.report e) w := by
  refine ⟨.gaveUp { receiver := c.receiver, reason := e },
    { c with budget := { c.budget with count := 1, spent := true } },w,[.recorded ⟨c.step.component,.failure⟩],
    fun n h => ?_⟩
  exact report_fatal (c := c.recount n) unspent severe (w.recalling h)

omit [SessionStore σ] in
/-- A step that has met no error is done with the errors that it had before. -/
theorem StepState.finish_recount (first : c.budget.count = 0) (n : UInt64) :
    (c.recount n).finish = c.finish.recount (n + c.finish.budget.count) := by
  rw [show c.finish.budget.count = 0 from first,UInt64.add_zero]
  rfl

omit [SessionStore σ] in
/-- A session that the store refuses is reported alike. -/
theorem StepState.refuse_alike (unspent : c.budget.spent = false) {session : Session} {e : StorageError} {st : σ}
    {act : StepState → Operation γ σ (Move × StepState)}
    (reports : ∀ n h, (act (c.recount n)).run (w.recalling h) = ((c.recount n).report (.ofStorage e)).run
      ((w.recalling h).advance w.gateway st [.wrote session (.error e)])) : c.Alike act w := by
  obtain ⟨m,c',w',l,ran⟩ := report_alike (e := .ofStorage e) (w := w.advance w.gateway st []) unspent rfl
  refine ⟨m,c',w',.wrote session (.error e) :: l,fun n h => ?_⟩
  rw [reports,List.append_cons]
  exact ran n (h ++ [.wrote session (.error e)])

/-- Unless it tells of an error, a submit ends alike after any number of errors and whatever has happened before. -/
theorem StepState.conclude_alike (unspent : c.budget.spent = false) (first : c.budget.count = 0)
    {fin : Finale} (severe : ∀ e, fin = .report e → e.isFatal = true) : c.Alike (·.conclude fin) w := by
  cases fin with
  | report e => exact report_alike unspent (severe e rfl)
  | handOver step h' =>
    refine ⟨.next step h',c.finish,w,[],fun n h => ?_⟩
    rw [← finish_recount first,List.append_nil]
    rfl
  | requestEmail session phoneNumber =>
    cases answer : SessionStore.write session w.store with
    | mk result st =>
      cases result with
      | error e =>
        exact refuse_alike unspent fun n h => requestEmail_refused (w := w.recalling h) answer phoneNumber
      | ok kept =>
        refine ⟨.next .email { receiver := c.receiver, phoneNumber, wantsEmail := true },c.finish,
          w.advance w.gateway st [],[.wrote session (.ok ())],fun n h => ?_⟩
        rw [← finish_recount first]
        exact requestEmail_kept (w := w.recalling h) answer phoneNumber
  | signIn session phoneNumber =>
    cases answer : SessionStore.write session w.store with
    | mk result st =>
      cases result with
      | error e =>
        exact refuse_alike unspent fun n h => signIn_refused (w := w.recalling h) answer phoneNumber
      | ok kept =>
        obtain ⟨w',l,ran⟩ := handIn_alike c.receiver { phoneNumber } (w.advance w.gateway st [])
        refine ⟨.signedIn,c.finish,w',.wrote session (.ok ()) :: l,fun n h => ?_⟩
        have told := ran (h ++ [.wrote session (.ok ())])
        rw [← finish_recount first,List.append_cons,← (Prod.mk.inj told).2]
        exact signIn_kept (w := w.recalling h) answer phoneNumber

end

/-! ### Attempts that are not refused -/

/-- Whether the service has refused nothing, but that it may not have known a device that was to be registered. -/
def Unrefused (l : List Occurrence) : Prop := ∀ call e, .asked call (.error e) ∈ l →
  ∃ number channel m, call = .authenticateDevice number channel ∧ e = .unknownDevice m

/-- An error that the service has not answered is one of the store, or a missing user. -/
theorem Occurrence.error_severe {o : Occurrence} {e : CallError} (error : o.error? = some e)
    (unrefused : Unrefused [o]) : e.isFatal = true := by
  unfold error? at error
  split at error
  · cases error
  · rename_i call e' other
    obtain ⟨number,channel,m,rfl,rfl⟩ := unrefused call e' (List.mem_singleton_self _)
    exact (other number channel m rfl HEq.rfl).elim
  · cases error
    rfl
  · cases error
    rfl
  · split at error <;> cases error
    rfl
  · cases error

theorem Course.severe [SessionStore σ] {text : String} {st st' : σ} {s s' : OpenStep} {l : List Occurrence}
    {fin : Finale} (course : Course text st s s' l st' fin) (unrefused : Unrefused l) :
    ∀ e, fin = .report e → e.isFatal = true := by
  rintro e rfl
  have met : e ∈ l.filterMap Occurrence.error? := by rw [course.errors]; exact List.mem_singleton_self e
  obtain ⟨o,member,error⟩ := List.mem_filterMap.mp met
  exact Occurrence.error_severe error fun call e' there => unrefused call e' (List.mem_singleton.mp there ▸ member)

section
variable [Gateway γ] [SessionStore σ]

/-- How the submits of a step compare to those of another that has not been tried before. -/
structure OpenStep.Resubmits (o f : OpenStep) (input : String) (w : World γ σ) : Prop where
  accepts : o.accepts input = f.accepts input
  retried : o.attempt = if o.core.budget.hasErrors then f.attempt.retried else f.attempt
  /-- What `f` goes on with it does, and `o` does the same where the service refuses nothing: the journal tells of
      another attempt, and `o` goes on with the errors that it has counted. -/
  went : f.accepts input = true → ∃ (m : Move) (x : OpenStep) (w' : World γ σ) (l : List Occurrence),
    (f.submit input).run w = ((m,x),w'.recalling (w.history ++ f.attempt :: l)) ∧
    (Unrefused l → (o.submit input).run w =
      ((m,x.recount (o.errorCount + x.errorCount)),w'.recalling (w.history ++ o.attempt :: l)))
  /-- What `f` does not go on with changes nothing but what the steps show. -/
  ignored : f.accepts input = false →
    (f.submit input).run w = ((.stay,f.ignoring),w) ∧ (o.submit input).run w = ((.stay,o.ignoring),w)

omit [Gateway γ] in
theorem OpenStep.conclude_recount (o : OpenStep) (n : UInt64) (fin : Finale) (w : World γ σ) :
    ((o.recount n).conclude fin).run w =
      Prod.map (Prod.map id o.setCore) id (((o.core.recount n).conclude fin).run w) := by
  cases o <;> rfl

/-- The submits of a step compare to those of the step without the attempts that have failed at it. -/
theorem OpenStep.resubmits (o : OpenStep) (input : String) (w : World γ σ) : o.Resubmits o.untried input w where
  accepts := (o.untried_accepts input).symm
  retried := o.attempt_retried
  went := by
    intro accepted
    obtain ⟨s',l,g,st,fin,course,ran⟩ := submit_run accepted w
    have unspent : s'.core.budget.spent = false := by
      rw [course.keeps.budget]
      exact StepState.unspent_of_open (open_of_accepts accepted)
    have first : s'.core.budget.count = 0 := by
      rw [course.keeps.budget]
      exact o.untried_count
    have fresh := ran 0 w (.refl w)
    have again := ran o.errorCount w (.refl w)
    rw [o.untried.recount_same o.untried_count] at fresh
    rw [submit_recounted (untried_accepts o input ▸ accepted),o.recounted_attempt] at again
    by_cases severe : ∀ e, fin = .report e → e.isFatal = true
    · obtain ⟨m,c',w',rest,alike⟩ := StepState.conclude_alike (w := w.advance g st []) unspent first severe
      -- Both submits come to the last thing with another count and another history.
      have ended (n : UInt64) (h : List Occurrence) : ((s'.recount n).conclude fin).run (w.advance g st h) =
          ((m,(s'.setCore c').recount (n + c'.budget.count)),w'.recalling (w.history ++ h ++ rest)) := by
        rw [conclude_recount,setCore_recount]
        exact congrArg (Prod.map (Prod.map id s'.setCore) id) (alike n (w.history ++ h))
      have counted : (s'.setCore c').errorCount = c'.budget.count := by rw [errorCount,setCore_core]
      refine ⟨m,s'.setCore c',w',l ++ rest,?_,fun _ => ?_⟩
      · rw [fresh,ended,(s'.setCore c').recount_same (counted.trans (UInt64.zero_add _).symm),List.append_assoc]
        rfl
      · rw [again,ended,counted,List.append_assoc]
        rfl
    · obtain ⟨m,c',w',ends,concluded⟩ := conclude_run unspent fin (w.advance g st (o.untried.attempt :: l))
      obtain ⟨rest,history,-⟩ := ends.uncalled
      refine ⟨m,s'.setCore c',w',l ++ rest,?_,fun unrefused => absurd (course.severe ?_) severe⟩
      · have same : w'.history = w.history ++ o.untried.attempt :: (l ++ rest) := by rw [history]; simp
        rw [fresh,s'.recount_same first,conclude,map_run,concluded,World.recalling_same same]
        rfl
      · intro call e there
        rcases List.mem_cons.mp there with attempted | asked
        · have uncalled := o.untried.attempt_call
          rw [← attempted] at uncalled
          cases uncalled
        · exact unrefused call e (List.mem_append_left _ asked)
  ignored := by
    intro ignored
    exact ⟨submit_unaccepted ignored w,submit_unaccepted (ignored ▸ (o.untried_accepts input).symm) w⟩

end

/-! ### What an attempt leaves that fails -/

theorem PhoneStep.Sends.untried {p p' : PhoneStep} {channel : Channel} {l : List Occurrence} {fin : Finale}
    (sends : p.Sends channel p' l fin) {e : CallError} (reported : fin = .report e)
    (carried : ∀ o ∈ l, ¬ o.Uncarried) : p' = p := by
  cases sends with
  | refused => rfl
  | carrierRefused m f => exact absurd ⟨_,_,m,f,rfl⟩ (carried _ (.head _))
  | loginStarted => cases reported
  | registrationRefused => rfl
  | registered => cases reported

section
variable [SessionStore σ]

/-- A step that tells of an error is left as it was before the attempt, unless it learns that the carrier cannot
    deliver a text message. -/
theorem Course.untried {text : String} {st st' : σ} {s s' : OpenStep} {l : List Occurrence} {fin : Finale}
    (course : Course text st s s' l st' fin) {e : CallError} (reported : fin = .report e)
    (carried : ∀ o ∈ l, ¬ o.Uncarried) : s'.untried = s.untried := by
  cases course with
  | phone sends =>
    rw [sends.untried reported fun o member => carried o (.tail _ member)]
    rfl
  | _ => rfl

theorem Course.told_store {text : String} {st st' : σ} {s s' : OpenStep} {l : List Occurrence} {fin : Finale}
    (course : Course text st s s' l st' fin) {e : CallError} (reported : fin = .report e) (mild : e.isFatal = false) :
    st' = st ∨ ∃ active, SessionStore.read st = (.ok active,st') := by
  cases course with
  | email attaches =>
    cases attaches with
    | unreadable => cases reported; cases mild
    | noUser answer => exact .inr ⟨_,answer⟩
    | refused answer => exact .inr ⟨_,answer⟩
    | taken answer => exact .inr ⟨_,answer⟩
  | _ => exact .inl rfl

theorem Concludes.stayed {c c' : StepState} {w w' : World γ σ} {fin : Finale} (ends : Concludes c w fin .stay c' w') :
    ∃ e, fin = .report e ∧ e.isFatal = false ∧ c'.untried = c.untried ∧
      w' = w.advance w.gateway w.store [.recorded ⟨c.step.component,.ofError e⟩] := by
  cases ends with
  | @reported e _ _ _ answer =>
    cases answer with
    | told mild => exact ⟨e,rfl,mild,rfl,rfl⟩
  | unkept _ _ answer =>
    cases answer with
    | told mild => cases mild

/-- What a submit leaves after which the step stays: the world goes on with calls, readings and what is recorded, and
    the store with what it answers. -/
structure OpenStep.Stays (o o' : OpenStep) (w w' : World γ σ) : Prop where
  untried : (∀ x ∈ w'.history, ¬ x.Uncarried) → o'.untried = o.untried
  happened : ∀ x ∈ w'.history, x.Plain
  receivers : w'.receivers = w.receivers
  store : w'.store = w.store ∨ ∃ active, SessionStore.read w.store = (.ok active,w'.store)

theorem Submits.stays {o o' : OpenStep} {input : String} {w w' : World γ σ} (submits : Submits o input w .stay o' w')
    (empty : w.history = []) : o.Stays o' w w' := by
  generalize move : Move.stay = m at submits
  cases submits with
  | ignored rest same =>
    refine ⟨fun _ => ?_,by simp [empty],rfl,.inl rfl⟩
    rcases same with rfl | rfl
    · rfl
    · exact o.untried_setCore rfl
  | @went s' l g st fin _ c' w' accepted course ends =>
    subst move
    obtain ⟨e,reported,mild,same,rfl⟩ := ends.stayed
    refine ⟨fun carried => ?_,?_,rfl,course.told_store reported mild⟩
    · rw [s'.untried_setCore same]
      refine course.untried reported fun x member => carried x ?_
      simp [member]
    · intro x member
      simp only [World.advance_advance,World.advance_history,empty,List.nil_append,List.mem_append,
        List.mem_singleton] at member
      rcases member with before | rfl
      · exact course.plain x before
      · exact .recorded s'.core.step.component_ne

end

/-! ### Runs -/

/-- Whether nothing is done in a turn on the step numbered `i` but an attempt after which it stays, and in which no
    carrier was refused, or the choice of a country. -/
def Turn.Retries (t : Turn γ σ) (i : Nat) : Prop := t.act.step? = some i →
  (∃ input, t.act = .submit i input ∧ t.reply = .moved .stay ∧ ∀ x ∈ t.happened, ¬ x.Uncarried) ∨
    ∃ countryCode, t.act = .chooseCountry i countryCode

/-- An attempt after which the step stays, and in which it was answered with no features. -/
theorem Turn.retries_unanswered {t : Turn γ σ} {i : Nat} {input : String} (act : t.act = .submit i input)
    (stays : t.reply = .moved .stay) (unanswered : t.happened.filterMap Occurrence.features? = []) : t.Retries i := by
  refine fun _ => .inl ⟨input,act,stays,?_⟩
  rintro x there ⟨number,channel,m,f,rfl⟩
  cases List.filterMap_eq_nil_iff.mp unanswered _ there

/-- Whether the step is as it would be opened again, but for the attempts that have failed at it and its country. -/
def Opened.Untried (settings : Settings) (o : Opened) : Prop :=
  ∃ f c, OpenStep.openFrom settings o.step.step o.handoff = .ok f ∧ o.step.untried = f.inCountry c

theorem Opened.Untried.becomes {settings : Settings} {o : Opened} (untried : o.Untried settings) {step : OpenStep}
    (same : ∃ c, step.untried = o.step.untried ∨ step.untried = o.step.untried.inCountry c) :
    Opened.Untried settings { o with step } := by
  obtain ⟨f,c,opens,left⟩ := untried
  obtain ⟨c',same⟩ := same
  have kind : step.step = o.step.step := by
    rw [← step.untried_step,← o.step.untried_step]
    rcases same with same | same
    · rw [same]
    · rw [same,OpenStep.inCountry_step]
  rw [← kind] at opens
  rcases same with same | same
  · exact ⟨f,c,opens,same.trans left⟩
  · exact ⟨f,c',opens,by rw [same,left,OpenStep.inCountry_inCountry]⟩

theorem OpenStep.Responds.retries [SessionStore σ] {o o' : OpenStep} {w w' : World γ σ} {t : Turn γ σ} {i : Nat}
    (responds : o.Responds w t.act t.reply o' w') (empty : w.history = []) (happened : t.happened = w'.history)
    (retries : t.Retries i) (on : t.act.step? = some i) :
    ∃ c, o'.untried = o.untried ∨ o'.untried = o.untried.inCountry c := by
  obtain ⟨before,act,reply,after⟩ := t
  rcases retries on with ⟨input,rfl,rfl,carried⟩ | ⟨c,rfl⟩
  · cases responds with
    | submitted submits => exact ⟨0,.inl ((submits.stays empty).untried fun x member => carried x (happened ▸ member))⟩
  · cases responds with
    | countryChosen phone => exact ⟨c,.inr (by rw [phone]; rfl)⟩
    | noPhone => exact ⟨c,.inl rfl⟩

section
variable [Gateway γ] [SessionStore σ] {s : Scene γ σ}

/-- What is known after some turns of the steps on which there were only attempts. -/
structure Scene.Retrying (given : Settings) (past : List (Turn γ σ)) (s : Scene γ σ) : Prop where
  settings : s.world.settings = given
  untried : ∀ (i : Nat) (o : Opened), s.steps[i]? = some o → (∀ a ∈ past, a.Retries i) → o.Untried given

theorem Scene.Retrying.turn {given : Settings} {past : List (Turn γ σ)} (retrying : s.Retrying given past) (act : Act) :
    (s.turn act).after.Retrying given (past ++ [s.turn act]) where
  settings := (s.still.does_makes act).settings.trans retrying.settings
  untried := by
    intro i x there all
    obtain ⟨earlier,now⟩ := List.forall_mem_append.mp all
    cases s.still.does_evolves act there with
    | @opened _ kind missing opens valid =>
      have kept : OpenStep.openFrom given x.step.step x.handoff = .ok x.step := by
        rw [OpenStep.openFrom_step valid,← retrying.settings]
        exact valid
      obtain ⟨c,own⟩ := x.step.inCountry_own
      exact ⟨x.step,c,kept,(OpenStep.openFrom_untried valid).trans own.symm⟩
    | left found elsewhere => exact retrying.untried i x found earlier
    | @responded o step found on responds =>
      refine (retrying.untried i o found earlier).becomes ?_
      exact OpenStep.Responds.retries (t := s.turn act) responds rfl rfl (now _ (List.mem_singleton_self _)) on

theorem Scene.run_retrying {acts : List Act} {earlier later : List (Turn γ σ)} {t : Turn γ σ} (fresh : s.steps = [])
    (split : s.run acts = earlier ++ t :: later) : t.before.Retrying s.world.settings earlier :=
  run_always (I := fun past s' => s'.Retrying s.world.settings past) (fun _ _ act retrying => retrying.turn act)
    ⟨rfl,by simp [fresh]⟩ split

/-- In every run an attempt after which the step stays leaves the receivers as they are and the store with the same
    session, and tells no one of anything. A step on which nothing but such attempts was made, and at which no carrier
    was refused, does with what the user sends what a step does that is opened from the same handoff, at a phone step
    with the same country (`OpenStep.Resubmits`): where the service refuses nothing, it makes the same calls, reads and
    writes the store and tells the host alike, replies the same, and is left as the other, but for the count of its
    errors. -/
theorem retry_transparent [LawfulStore σ] {acts : List Act} {earlier later : List (Turn γ σ)} {t : Turn γ σ} {i : Nat}
    {o : Opened} (fresh : s.steps = []) (split : s.run acts = earlier ++ t :: later)
    (found : t.before.steps[i]? = some o) :
    (∀ input, t.act = .submit i input → t.reply = .moved .stay →
      t.after.world.receivers = t.before.world.receivers ∧
      (SessionStore.read t.after.world.store).1 = (SessionStore.read t.before.world.store).1 ∧
      ∀ x ∈ t.happened, x.Plain) ∧
    ((∀ a ∈ earlier, a.Retries i) → ∃ f c,
      OpenStep.openFrom t.before.world.settings o.step.step o.handoff = .ok f ∧
      (∀ p, o.step = .phone p → p.countryCode = c) ∧
      ∀ input (w : World γ σ), o.step.Resubmits (f.inCountry c) input w) := by
  have member : t ∈ s.run acts := split ▸ List.mem_append_right _ List.mem_cons_self
  constructor
  · intro input act stayed
    have turn := Scene.run_turn member
    rw [act] at turn
    obtain ⟨m,step,submits,-,moved,-⟩ := Scene.submit_turn found input
    rw [← turn] at submits moved
    obtain rfl : .stay = m := Reply.moved.inj (stayed.symm.trans moved)
    obtain ⟨-,happened,receivers,store⟩ := submits.stays rfl
    refine ⟨receivers,?_,happened⟩
    rcases store with same | ⟨active,answer⟩
    · rw [same]
      rfl
    · have held : SessionStore.read t.after.world.store = (.ok active,t.after.world.store) :=
        LawfulStore.holds_read answer
      rw [held]
      exact (congrArg Prod.fst answer).symm
  · intro all
    obtain ⟨settings,untried⟩ := Scene.run_retrying fresh split
    obtain ⟨f,c,opens,same⟩ := untried i o found all
    refine ⟨f,c,settings ▸ opens,?_,fun input w => same ▸ o.step.resubmits input w⟩
    intro p phone
    rw [phone] at same
    cases f with
    | phone q => exact congrArg PhoneStep.countryCode (OpenStep.phone.inj same)
    | _ => cases same

end

/-- A wrong code is entered twice. The second time, as any other, the step does what one does that has just been
    opened. -/
theorem wrong_code_retried :
    let h : Handoff := { receiver := some 0, phoneNumber := some "+15", requestId := some "r", userId := some 7 }
    let run := (Scene.scripted { verifyCode := [.error (.service 1 "wrong"),.error (.service 1 "wrong")] }).run
      [.start ⟨1,"",false⟩,.openStep .loginCode h,.submit 0 "9",.submit 0 "8"]
    run[3].reply = .moved .stay ∧ run[3].after.world.receivers = run[3].before.world.receivers ∧
      ∃ o f c, run[3].before.steps[0]? = some o ∧ OpenStep.openFrom {} .loginCode h = .ok f ∧
        ∀ input (w : World GatewayScript MemoryStore), o.step.Resubmits (f.inCountry c) input w := by
  intro h run
  have split : run = run.take 3 ++ run[3] :: run.drop 4 := rfl
  have retries : ∀ a ∈ run.take 3, a.Retries 0 := by
    have attempt : run[2].Retries 0 := Turn.retries_unanswered (show _ = Act.submit 0 "9" from rfl) rfl rfl
    simpa [run,Scene.run,Turn.Retries,Scene.turn,Act.step?] using attempt
  obtain ⟨o,found,handoff,kind⟩ : ∃ o, run[3].before.steps[0]? = some o ∧ o.handoff = h ∧ o.step.step = .loginCode :=
    ⟨_,rfl,rfl,rfl⟩
  obtain ⟨left,compares⟩ := retry_transparent rfl split found
  obtain ⟨f,c,opens,-,resubmits⟩ := compares retries
  rw [handoff,kind] at opens
  exact ⟨rfl,(left "8" rfl rfl).1,o,f,c,found,opens,resubmits⟩

/-- A wrong code is entered, and the step is opened again. A code that is blank changes neither step, so the first goes
    on telling of the error while the second asks for a code. -/
theorem retried_blank_differs :
    let h : Handoff := { receiver := some 0, phoneNumber := some "+15", requestId := some "r", userId := some 7 }
    let run := (Scene.scripted { verifyCode := [.error (.service 1 "wrong")] }).run
      [.start ⟨1,"",false⟩,.openStep .loginCode h,.submit 0 "9",.openStep .loginCode h,.submit 0 "",.submit 1 ""]
    (∀ a ∈ run.take 4, a.Retries 0) ∧ run[4].reply = .moved .stay ∧ run[5].reply = .moved .stay ∧
      run[4].happened.length = 0 ∧ run[5].happened.length = 0 ∧
      run[5].after.steps.map (·.handoff) = [h,h] ∧
      run[5].after.steps.map (·.step.core.view.activity) = [.error,.start] := by
  intro h run
  have attempt : run[2].Retries 0 := Turn.retries_unanswered (show _ = Act.submit 0 "9" from rfl) rfl rfl
  refine ⟨?_,rfl,rfl,rfl,rfl,rfl,by decide +kernel⟩
  simpa [run,Scene.run,Turn.Retries,Scene.turn,Act.step?] using attempt

end PhoneSignIn.Flow
