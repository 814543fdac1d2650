import PhoneSignIn.Proofs.Flow.Budget
import PhoneSignIn.Proofs.Flow.Voice

/-!
What the phone step tells of the next code. Its button and its terms of service speak of a call from the time when a
call would be sent until the user changes the number while one would (`CallProposed`). The next code is sent by a call
only if, besides, the service offers calls still (`wording_exact`). The two differ where the service takes its offer
back (`withdrawn_call_shown`).
-/
namespace PhoneSignIn.Flow

variable {γ σ : Type}

/-! ### What a step tells -/

/-- What a step tells of how a code is sent: its button and its terms of service. -/
def Display.wording (v : Display) : Button × Terms := (v.button,v.terms)

/-- What is to be said of a code that is sent so. -/
def wordingOf : Channel → Button × Terms
  | .voiceCall => (.callMe,.callMe)
  | .sms => (.send,.standard)

theorem Display.speaks_of_calls {v : Display} {channel : Channel} (wording : v.wording = wordingOf channel) :
    (v.button = .callMe ↔ channel = .voiceCall) ∧ (v.terms = .callMe ↔ channel = .voiceCall) := by
  cases channel <;> obtain ⟨button,terms⟩ := Prod.mk.inj wording <;> simp [button,terms]

/-- Whether the button and the terms speak of a call exactly when the next code is sent by one. -/
def PhoneStep.TellsChannel (p : PhoneStep) : Prop :=
  (p.core.view.button = .callMe ↔ p.channel = .voiceCall) ∧ (p.core.view.terms = .callMe ↔ p.channel = .voiceCall)

theorem PhoneStep.channel_sms (p : PhoneStep) : p.channel = .sms ↔ p.channel ≠ .voiceCall := by
  cases p.channel <;> simp

theorem PhoneStep.askAgain_wording (p : PhoneStep) :
    p.askAgain.core.view.wording = if p.voiceEnabled then wordingOf .voiceCall else p.core.view.wording := by
  simp only [askAgain]
  split <;> rfl

/-- A phone step opens to say how the next code is sent. -/
theorem OpenStep.openFrom_wording {settings : Settings} {kind : Step} {h : Handoff} {p : PhoneStep}
    (opens : OpenStep.openFrom settings kind h = .ok (.phone p)) : p.core.view.wording = wordingOf p.channel := by
  generalize same : OpenStep.phone p = o at opens
  cases openFrom_iff.mp opens with
  | @phone r q receiver new =>
    obtain rfl := OpenStep.phone.inj same
    subst new
    split
    · rw [PhoneStep.askAgain_wording]
      cases h.voiceEnabled <;> rfl
    · rfl
  | _ => cases same

/-! ### What changes it -/

/-- What an act that is done on a phone step, the one numbered `i`, makes of what it tells and of how the next code is
    sent, when the step has not given up then. -/
inductive PhoneStep.Reacts (i : Nat) (p : PhoneStep) : Act → PhoneStep → Prop where
  | kept {act p'} (wording : p'.core.view.wording = p.core.view.wording) (resending : p'.resending = p.resending)
    (voice : p'.voiceEnabled = p.voiceEnabled) (closed : p'.core.isClosed = p.core.isClosed)
    (uncalled : act = .edited i → p.channel = .sms) : Reacts i p act p'
  | handedOver {act p'} (wording : p'.core.view.wording = p.core.view.wording) (resending : p'.resending = p.resending)
    (closed : p'.core.isClosed = true) (unedited : act ≠ .edited i) : Reacts i p act p'
  | askedAgain {act p'}
    (wording : p'.core.view.wording = if p'.voiceEnabled then wordingOf .voiceCall else p.core.view.wording)
    (resending : p'.resending = true) (open_ : p'.core.isClosed = false) (unedited : act ≠ .edited i) :
    Reacts i p act p'
  | declined {p'} (called : p.channel = .voiceCall) (wording : p'.core.view.wording = wordingOf .sms)
    (resending : p'.resending = false) : Reacts i p (.edited i) p'

/-- An error that a step tells the user of leaves it open, with what it tells of codes. -/
theorem Concludes.told [SessionStore σ] {c c' : StepState} {w w' : World γ σ} {e : CallError} {m : Move}
    (ends : Concludes c w (.report e) m c' w') (unspent : c'.budget.spent = false) :
    c'.view.wording = c.view.wording ∧ c'.isClosed = c.isClosed := by
  cases ends with
  | reported answer =>
    cases answer with
    | told => exact ⟨rfl,rfl⟩
    | gaveUp => cases unspent
  | unkept keeps => rcases keeps with keeps | keeps <;> cases keeps

theorem Concludes.over [SessionStore σ] {c c' : StepState} {w w' : World γ σ} {step : Step} {h : Handoff} {m : Move}
    (ends : Concludes c w (.handOver step h) m c' w') : c'.view.wording = c.view.wording ∧ c'.isClosed = true := by
  cases ends with
  | handedOver => exact ⟨rfl,rfl⟩
  | unkept keeps => rcases keeps with keeps | keeps <;> cases keeps

theorem PhoneStep.Sends.reacts [SessionStore σ] {p p' : PhoneStep} {text input : String} {channel : Channel}
    {l : List Occurrence} {fin : Finale} (sends : (p.sending text).Sends channel p' l fin)
    (open_ : p.core.isClosed = false) {c' : StepState} {w w' : World γ σ} {m : Move}
    (ends : Concludes p'.core w fin m c' w') (unspent : c'.budget.spent = false) (i : Nat) :
    p.Reacts i (.submit i input) { p' with core := c' } := by
  cases sends with
  | refused =>
    obtain ⟨wording,closed⟩ := ends.told unspent
    exact .kept wording rfl rfl closed (by simp)
  | carrierRefused m f =>
    obtain ⟨wording,closed⟩ := ends.told unspent
    have same := PhoneStep.askAgain_closed { p.sending text with voiceEnabled := f.voiceEnabled }
    have again := PhoneStep.askAgain_wording { p.sending text with voiceEnabled := f.voiceEnabled }
    obtain ⟨voice,resending⟩ := PhoneStep.askAgain_voice { p.sending text with voiceEnabled := f.voiceEnabled }
    refine .askedAgain ?_ resending (closed.trans (same.trans open_)) (by simp)
    rw [wording,again,voice]
    rfl
  | loginStarted r learnt =>
    subst learnt
    exact .handedOver ends.over.1 rfl ends.over.2 (by simp)
  | registrationRefused =>
    obtain ⟨wording,closed⟩ := ends.told unspent
    exact .kept wording rfl rfl closed (by simp)
  | registered m r learnt =>
    subst learnt
    exact .handedOver ends.over.1 rfl ends.over.2 (by simp)

theorem PhoneStep.resend_reacts {p : PhoneStep} (unspent : p.core.budget.spent = false) (i : Nat) :
    p.Reacts i (.phoneResend i) p.resend := by
  have same := PhoneStep.askAgain_closed { p with core := p.core.reenter }
  have again := PhoneStep.askAgain_wording { p with core := p.core.reenter }
  obtain ⟨voice,resending⟩ := p.resend_voice
  have reentered : p.core.reenter = { p.core with handedOver := false }.withActivity .start := by
    rw [StepState.reenter,unspent]
    rfl
  refine .askedAgain ?_ resending ?_ (by simp)
  · rw [voice,resend,again,reentered]
    rfl
  · rw [resend,same,reentered,StepState.isClosed]
    exact unspent

theorem PhoneStep.edited_reacts (p : PhoneStep) (i : Nat) : p.Reacts i (.edited i) p.edited := by
  have same : { p with core := p.core.clearError }.channel = p.channel := rfl
  rw [edited]
  cases called : p.channel with
  | sms =>
    simp only [same,called]
    exact .kept rfl rfl rfl rfl fun _ => called
  | voiceCall =>
    simp only [same,called]
    exact .declined called rfl rfl

section
variable [SessionStore σ] {w w' : World γ σ} {act : Act} {i : Nat}

theorem OpenStep.Charges.unspent {o o' : OpenStep} {es : List CallError} {reply : Reply}
    (charges : o.Charges o' es reply) (after : o'.core.budget.spent = false) : o.core.budget.spent = false := by
  cases charges with
  | nothing same => rwa [same] at after
  | told unspent => exact unspent
  | gaveUp unspent => exact unspent

theorem OpenStep.Responds.reacts {p p' : PhoneStep} {reply : Reply}
    (responds : (OpenStep.phone p).Responds w act reply (.phone p') w') (on : act.step? = some i)
    (before : p.core.budget.spent = false) (after : p'.core.budget.spent = false) : p.Reacts i act p' := by
  cases responds with
  | submitted submits =>
    obtain rfl := Option.some.inj on
    generalize became : OpenStep.phone p' = o' at submits
    cases submits with
    | ignored rest same =>
      rcases same with rfl | rfl <;> cases became <;> exact .kept rfl rfl rfl rfl (by simp)
    | went accepted course ends =>
      cases course with
      | phone sends =>
        cases became
        exact sends.reacts (OpenStep.open_of_accepts accepted) ends after _
  | wentBack back => cases back
  | noWayBack => exact .kept rfl rfl rfl rfl (by simp)
  | phoneResent phone =>
    cases phone
    obtain rfl := Option.some.inj on
    exact PhoneStep.resend_reacts before _
  | countryChosen phone =>
    cases phone
    exact .kept rfl rfl rfl rfl (by simp)
  | noPhone other => exact absurd rfl other
  | edited =>
    obtain rfl := Option.some.inj on
    exact p.edited_reacts _
  | cleared => exact .kept rfl rfl rfl rfl (by simp)
  | resumed => exact .kept rfl rfl rfl rfl (by simp)
  | stayed back => cases back

end

/-! ### When a call is proposed -/

/-- Whether the step numbered `i` is a phone step that is open and from which the next code is sent by a call. -/
def Scene.Calls (s : Scene γ σ) (i : Nat) : Prop :=
  ∃ o p, s.steps[i]? = some o ∧ o.step = .phone p ∧ p.core.isClosed = false ∧ p.channel = .voiceCall

/-- Whether the user changes the number at the step numbered `i`, when its next code would be sent by a call. -/
def Turn.Declines (t : Turn γ σ) (i : Nat) : Prop :=
  t.act = .edited i ∧ ∃ o p, t.before.steps[i]? = some o ∧ o.step = .phone p ∧ p.channel = .voiceCall

/-- Whether the step numbered `i` has proposed a call, and the user has not declined it since. -/
def CallProposed (past : List (Turn γ σ)) (i : Nat) : Prop :=
  ∃ a e b, past = a ++ e :: b ∧ e.after.Calls i ∧ ∀ t ∈ b, ¬ t.Declines i

theorem callProposed_append {past : List (Turn γ σ)} {t : Turn γ σ} {i : Nat} :
    CallProposed (past ++ [t]) i ↔ t.after.Calls i ∨ CallProposed past i ∧ ¬ t.Declines i := since_append

theorem Scene.phone_unique {s : Scene γ σ} {i : Nat} {o o' : Opened} {p p' : PhoneStep}
    (found : s.steps[i]? = some o) (phone : o.step = .phone p) (found' : s.steps[i]? = some o')
    (phone' : o'.step = .phone p') : p = p' := by
  obtain rfl : o = o' := Option.some.inj (found.symm.trans found')
  exact OpenStep.phone.inj (phone.symm.trans phone')

theorem Scene.calls_phone {s : Scene γ σ} {i : Nat} {o : Opened} {p : PhoneStep} (found : s.steps[i]? = some o)
    (phone : o.step = .phone p) : s.Calls i ↔ p.core.isClosed = false ∧ p.channel = .voiceCall := by
  constructor
  · rintro ⟨o',p',found',phone',calls⟩
    exact phone_unique found phone found' phone' ▸ calls
  · exact fun calls => ⟨o,p,found,phone,calls⟩

theorem Turn.declines_phone {t : Turn γ σ} {i : Nat} {o : Opened} {p : PhoneStep}
    (found : t.before.steps[i]? = some o) (phone : o.step = .phone p) :
    t.Declines i ↔ t.act = .edited i ∧ p.channel = .voiceCall := by
  constructor
  · rintro ⟨edited,o',p',found',phone',called⟩
    exact ⟨edited,Scene.phone_unique found phone found' phone' ▸ called⟩
  · exact fun ⟨edited,called⟩ => ⟨edited,o,p,found,phone,called⟩

/-! ### Runs -/

/-- What is known after some turns of the phone step numbered `i`, while it has not given up. -/
structure PhoneStep.Worded (past : List (Turn γ σ)) (i : Nat) (p : PhoneStep) : Prop where
  proposed : CallProposed past i → p.core.view.wording = wordingOf .voiceCall ∧ p.resending = true
  unproposed : ¬ CallProposed past i → p.core.view.wording = wordingOf .sms

/-- A turn in which the step neither proposes a call nor is edited while it would call changes nothing. -/
theorem PhoneStep.Worded.stands {p p' : PhoneStep} {past : List (Turn γ σ)} {t : Turn γ σ} {i : Nat}
    (worded : p.Worded past i) (before : t.after.Calls i → CallProposed past i) (undeclined : ¬ t.Declines i)
    (wording : p'.core.view.wording = p.core.view.wording) (resending : p.resending = true → p'.resending = true) :
    p'.Worded (past ++ [t]) i := by
  have same : CallProposed (past ++ [t]) i ↔ CallProposed past i :=
    callProposed_append.trans ⟨fun now => now.elim before And.left,fun still => .inr ⟨still,undeclined⟩⟩
  constructor
  · intro proposed
    obtain ⟨calling,again⟩ := worded.proposed (same.mp proposed)
    exact ⟨wording.trans calling,resending again⟩
  · intro unproposed
    exact wording.trans (worded.unproposed fun still => unproposed (same.mpr still))

/-- What is known of a phone step stays true in a turn that makes of it what `Reacts` tells. -/
theorem PhoneStep.Reacts.worded {p p' : PhoneStep} {past : List (Turn γ σ)} {t : Turn γ σ} {i : Nat}
    (reacts : p.Reacts i t.act p') (worded : p.Worded past i)
    (before : p.core.isClosed = false ∧ p.channel = .voiceCall → CallProposed past i)
    (declines : t.Declines i ↔ t.act = .edited i ∧ p.channel = .voiceCall)
    (after : t.after.Calls i ↔ p'.core.isClosed = false ∧ p'.channel = .voiceCall) :
    p'.Worded (past ++ [t]) i := by
  generalize t.act = act at reacts declines
  cases reacts with
  | kept wording resending voice closed uncalled =>
    have channel : p'.channel = p.channel := by rw [PhoneStep.channel,PhoneStep.channel,resending,voice]
    rw [closed,channel] at after
    refine worded.stands (fun now => before (after.mp now)) (fun declined => ?_) wording resending.trans
    obtain ⟨edited,called⟩ := declines.mp declined
    rw [uncalled edited] at called
    cases called
  | handedOver wording resending closed unedited =>
    refine worded.stands (fun now => ?_) (fun declined => unedited (declines.mp declined).1) wording resending.trans
    obtain ⟨open_,-⟩ := after.mp now
    rw [closed] at open_
    cases open_
  | askedAgain wording resending open_ unedited =>
    cases voice : p'.voiceEnabled with
    | true =>
      rw [voice] at wording
      have calls : t.after.Calls i := after.mpr ⟨open_,p'.channel_voice.mpr ⟨resending,voice⟩⟩
      have proposed : CallProposed (past ++ [t]) i := callProposed_append.mpr (.inl calls)
      exact ⟨fun _ => ⟨wording,resending⟩,fun unproposed => absurd proposed unproposed⟩
    | false =>
      rw [voice] at wording
      refine worded.stands (fun now => ?_) (fun declined => unedited (declines.mp declined).1) wording
        (fun _ => resending)
      rw [(p'.channel_voice.mp (after.mp now).2).2] at voice
      cases voice
  | declined called wording resending =>
    refine ⟨fun now => ?_,fun _ => wording⟩
    rcases callProposed_append.mp now with calls | ⟨-,undeclined⟩
    · rw [(p'.channel_voice.mp (after.mp calls).2).1] at resending
      cases resending
    · exact absurd (declines.mpr ⟨rfl,called⟩) undeclined

/-- What is known after some turns of the phone steps of a scene. -/
structure Scene.Worded (past : List (Turn γ σ)) (s : Scene γ σ) : Prop where
  calls : ∀ i, s.Calls i → CallProposed past i
  unopened : ∀ i, s.steps[i]? = none → ¬ CallProposed past i
  phones : ∀ i (o : Opened) p, s.steps[i]? = some o → o.step = .phone p → p.core.budget.spent = false →
    p.Worded past i

section
variable [Gateway γ] [SessionStore σ] {s : Scene γ σ} {past : List (Turn γ σ)}

theorem Scene.Worded.turn (worded : s.Worded past) (act : Act) : (s.turn act).after.Worded (past ++ [s.turn act]) where
  calls := fun i calls => callProposed_append.mpr (.inl calls)
  unopened := by
    intro i missing proposed
    rcases callProposed_append.mp proposed with ⟨o,p,found,-⟩ | ⟨before,-⟩
    · rw [missing] at found
      cases found
    · exact worded.unopened i (missing_before missing) before
  phones := by
    intro i x p' there phone unspent
    have after : (s.turn act).after.Calls i ↔ p'.core.isClosed = false ∧ p'.channel = .voiceCall :=
      calls_phone there phone
    have reacted {o p} (found : s.steps[i]? = some o) (was : o.step = .phone p) (before : p.core.budget.spent = false)
        (reacts : p.Reacts i act p') : p'.Worded (past ++ [s.turn act]) i := by
      have declines : (s.turn act).Declines i ↔ act = .edited i ∧ p.channel = .voiceCall :=
        Turn.declines_phone (t := s.turn act) found was
      exact reacts.worded (t := s.turn act) (worded.phones i o p found was before)
        (fun calls => worded.calls i ((calls_phone found was).mpr calls)) declines after
    cases s.still.does_evolves act there with
    | opened missing opens valid =>
      rw [phone] at valid
      have open_ : p'.core.isClosed = false := OpenStep.openFrom_open valid
      have wording := OpenStep.openFrom_wording valid
      have unproposed : ¬ CallProposed past i := worded.unopened i missing
      have proposed : CallProposed (past ++ [s.turn act]) i ↔ p'.channel = .voiceCall := by
        rw [callProposed_append,after]
        simp [open_,unproposed]
      refine ⟨fun now => ?_,fun never => ?_⟩
      · have calls := proposed.mp now
        exact ⟨calls ▸ wording,(p'.channel_voice.mp calls).1⟩
      · rw [wording,p'.channel_sms.mpr (fun calls => never (proposed.mpr calls))]
    | left found elsewhere =>
      exact reacted found phone unspent (.kept rfl rfl rfl rfl fun edited => absurd (edited ▸ rfl) elsewhere)
    | @responded o step found on responds =>
      obtain rfl : step = .phone p' := phone
      obtain ⟨p,was⟩ := responds.phone
      rw [was] at responds
      have before : p.core.budget.spent = false := (responds.charges rfl).unspent unspent
      exact reacted found was before (responds.reacts on before unspent)

/-- While a phone step is open, its button and its terms speak of a call exactly when it has proposed one that the user
    has not declined since. A call is then made if, besides, the features that the step has learnt last, or else the
    handoff that it was opened with, offer calls. So what the step tells is how the next code is sent, unless a call is
    proposed and calls are offered no more. -/
theorem wording_exact {acts : List Act} {earlier later : List (Turn γ σ)} {t : Turn γ σ} {i : Nat} {o : Opened}
    {p : PhoneStep} (fresh : s.steps = []) (split : s.run acts = earlier ++ t :: later)
    (found : t.before.steps[i]? = some o) (phone : o.step = .phone p) (open_ : p.core.isClosed = false) :
    (p.core.view.button = .callMe ↔ CallProposed earlier i) ∧ (p.core.view.terms = .callMe ↔ CallProposed earlier i) ∧
      (p.channel = .voiceCall ↔
        CallProposed earlier i ∧ offersVoice (earlier.flatMap (·.learnt i)) o.handoff.voiceEnabled = true) ∧
      (p.TellsChannel ↔
        (CallProposed earlier i → offersVoice (earlier.flatMap (·.learnt i)) o.handoff.voiceEnabled = true)) := by
  have begins : Scene.Worded [] s := ⟨by simp [Scene.Calls,fresh],by simp [CallProposed],by simp [fresh]⟩
  have scene : t.before.Worded earlier :=
    Scene.run_always (I := fun past s => s.Worded past) (fun _ _ act worded => worded.turn act) begins split
  have voiced : t.before.Voiced earlier := Scene.run_always (I := fun past s => s.Voiced past)
    (fun _ _ act voiced => voiced.turn act) ⟨by simp,by simp [fresh]⟩ split
  have worded : p.Worded earlier i := scene.phones i o p found phone (StepState.unspent_of_open open_)
  rw [← (voiced.phones i o p found phone).voice]
  have speaks : (p.core.view.button = .callMe ↔ CallProposed earlier i) ∧
      (p.core.view.terms = .callMe ↔ CallProposed earlier i) := by
    by_cases proposed : CallProposed earlier i
    · obtain ⟨button,terms⟩ := Display.speaks_of_calls (worded.proposed proposed).1
      simp [button,terms,proposed]
    · obtain ⟨button,terms⟩ := Display.speaks_of_calls (worded.unproposed proposed)
      simp [button,terms,proposed]
  have channel : p.channel = .voiceCall ↔ CallProposed earlier i ∧ p.voiceEnabled = true := by
    constructor
    · intro calls
      exact ⟨scene.calls i ((Scene.calls_phone found phone).mpr ⟨open_,calls⟩),(p.channel_voice.mp calls).2⟩
    · rintro ⟨proposed,voice⟩
      exact p.channel_voice.mpr ⟨(worded.proposed proposed).2,voice⟩
  refine ⟨speaks.1,speaks.2,channel,?_⟩
  rw [PhoneStep.TellsChannel,speaks.1,speaks.2,channel]
  simp

end

/-- A carrier cannot deliver the text message. The user is called next, and is told so. -/
theorem uncarried_told :
    let run := (Scene.scripted
      { authenticateDevice := [.error (.unsupportedCarrier "m" { voiceEnabled := true })] }).run
      [.start ⟨1,"",false⟩,.openStep .phoneNumber { receiver := some 0, phoneNumber := some "" },.submit 0 "5",
        .submit 0 "5"]
    ∃ o p, run[3].before.steps[0]? = some o ∧ o.step = .phone p ∧ p.core.isClosed = false ∧
      p.channel = .voiceCall ∧ p.TellsChannel ∧ CallProposed (run.take 3) 0 := by
  intro run
  have split : run = run.take 3 ++ run[3] :: run.drop 4 := rfl
  obtain ⟨o,p,found,phone,open_,calls⟩ : ∃ o p, run[3].before.steps[0]? = some o ∧ o.step = .phone p ∧
      p.core.isClosed = false ∧ p.channel = .voiceCall := ⟨_,_,rfl,rfl,by decide +kernel,by decide +kernel⟩
  obtain ⟨-,-,channel,tells⟩ := wording_exact rfl split found phone open_
  obtain ⟨proposed,voice⟩ := channel.mp calls
  exact ⟨o,p,found,phone,open_,calls,tells.mpr fun _ => voice,proposed⟩

/-- The service offers calls, and takes the offer back when the code is asked for again. The button and the terms still
    speak of a call, and the code is sent as a text message. -/
theorem withdrawn_call_shown :
    let run := (Scene.scripted
      { authenticateDevice := [.error (.unsupportedCarrier "m" { voiceEnabled := true }),
          .error (.unsupportedCarrier "m" { voiceEnabled := false }),.ok { requestId := "r", userId := 7 }] }).run
      [.start ⟨1,"",false⟩,.openStep .phoneNumber { receiver := some 0, phoneNumber := some "" },.submit 0 "5",
        .submit 0 "5",.submit 0 "5"]
    (∃ o p, run[4].before.steps[0]? = some o ∧ o.step = .phone p ∧ p.core.isClosed = false ∧
      p.core.view.button = .callMe ∧ p.core.view.terms = .callMe ∧ p.channel = .sms ∧ ¬ p.TellsChannel) ∧
      run[4].happened.filterMap Occurrence.channel? = [.sms] := by
  intro run
  obtain ⟨o,p,found,phone,open_,button,terms,channel⟩ : ∃ o p, run[4].before.steps[0]? = some o ∧ o.step = .phone p ∧
      p.core.isClosed = false ∧ p.core.view.button = .callMe ∧ p.core.view.terms = .callMe ∧ p.channel = .sms :=
    ⟨_,_,rfl,rfl,by decide +kernel,by decide +kernel,by decide +kernel,by decide +kernel⟩
  refine ⟨⟨o,p,found,phone,open_,button,terms,channel,fun tells => ?_⟩,by decide +kernel⟩
  rw [tells.1.mp button] at channel
  cases channel

end PhoneSignIn.Flow
