import PhoneSignIn.Proofs.Flow.Following

/-!
What becomes of one step of a scene. What is done on a step makes of it what `OpenStep.Responds` tells: a submit
does what `Submits` tells, an open code step goes back to the phone step, and all else changes at most what the
step shows and what the user has asked of it. What is done elsewhere leaves the step as it is (`Scene.Evolves`).
-/
namespace PhoneSignIn.Flow

variable {γ σ : Type}

/-- What a code step hands to the phone step to have its code sent again. -/
def OpenStep.handoffBack? : OpenStep → Option Handoff
  | .loginCode c => some (c.core.handoffBack c.phoneNumber c.wantsEmail (c.features.any (·.voiceEnabled)))
  | .confirmationCode c => some (c.core.handoffBack c.phoneNumber c.wantsEmail c.voiceEnabled)
  | .phone _ | .pinCode _ | .email _ => none

/-- Whether an act is one that only a phone step can follow. -/
def Act.forPhones : Act → Bool
  | .phoneResend _ | .chooseCountry .. => true
  | _ => false

/-- What comes of an act that is done on a step: the reply, the step then, and the world then. -/
inductive OpenStep.Responds [SessionStore σ] (o : OpenStep) (w : World γ σ) :
    Act → Reply → OpenStep → World γ σ → Prop where
  | submitted {i input m o' w'} (submits : Submits o input w m o' w') :
    Responds o w (.submit i input) (.moved m) o' w'
  | wentBack {i h} (back : o.handoffBack? = some h) (open_ : o.core.isClosed = false) :
    Responds o w (.resend i) (.moved (.next .phoneNumber h)) (o.setCore o.core.finish)
      (w.advance w.gateway w.store [.recorded ⟨o.core.step.component,.click .resend⟩])
  | stayed {i h} (back : o.handoffBack? = some h) (closed : o.core.isClosed = true) :
    Responds o w (.resend i) (.moved .stay) o w
  | noWayBack {i} (back : o.handoffBack? = none) : Responds o w (.resend i) .nothing o w
  | phoneResent {i p} (phone : o = .phone p) : Responds o w (.phoneResend i) .nothing (.phone p.resend) w
  | countryChosen {i p countryCode} (phone : o = .phone p) :
    Responds o w (.chooseCountry i countryCode) .nothing (.phone { p with countryCode })
      (w.advance w.gateway w.store [.recorded ⟨p.core.step.component,.click .countryCode⟩])
  | noPhone {act} (other : o.step ≠ .phoneNumber) (phones : act.forPhones = true) :
    Responds o w act (.refused .notPhone) o w
  | edited {i} : Responds o w (.edited i) .nothing o.edited w
  | cleared {i} : Responds o w (.clearError i) .nothing o.clearError w
  | resumed {i} : Responds o w (.resume i) .nothing o
      (w.advance w.gateway w.store [.recorded ⟨o.core.step.component,.impression⟩])

theorem StepState.goBack_run (c : StepState) (h : Handoff) (w : World γ σ) : (c.goBack h).run w =
    if c.isClosed then ((.stay,c),w)
    else ((.next .phoneNumber h,c.finish),
      w.advance w.gateway w.store [.recorded ⟨c.step.component,.click .resend⟩]) := by
  rw [StepState.goBack]
  split <;> rfl

/-- A code step goes back unless it is closed; other steps have no way back. -/
theorem OpenStep.resend_run (o : OpenStep) (w : World γ σ) : o.resend.run w =
    match o.handoffBack? with
    | none => ((none,o),w)
    | some h => if o.core.isClosed then ((some .stay,o),w)
      else ((some (.next .phoneNumber h),o.setCore o.core.finish),
        w.advance w.gateway w.store [.recorded ⟨o.core.step.component,.click .resend⟩]) := by
  cases o with
  | loginCode c =>
    simp only [resend,LoginCodeStep.resend,map_run,bind_run,StepState.goBack_run,handoffBack?,core]
    by_cases closed : c.core.isClosed = true
    · simp only [closed,if_true]
      rfl
    · simp only [closed]
      rfl
  | confirmationCode c =>
    simp only [resend,ConfirmationCodeStep.resend,map_run,bind_run,StepState.goBack_run,handoffBack?,core]
    by_cases closed : c.core.isClosed = true
    · simp only [closed,if_true]
      rfl
    · simp only [closed]
      rfl
  | phone => rfl
  | pinCode => rfl
  | email => rfl

namespace Scene
variable {s : Scene γ σ} {act : Act} {i : Nat}

theorem setStep_at {o : Opened} (found : s.steps[i]? = some o) (step : OpenStep) :
    (s.setStep i step).steps[i]? = some { o with step } := by
  simp [setStep,found]

theorem setStep_elsewhere {j : Nat} (other : i ≠ j) (step : OpenStep) :
    (s.setStep i step).steps[j]? = s.steps[j]? := by
  simp [setStep,other]

theorem setStep_same {o : Opened} (found : s.steps[i]? = some o) : s.setStep i o.step = s := by
  have same : s.steps.modify i (fun x => { x with step := o.step }) = s.steps := by
    apply List.ext_getElem?
    intro j
    rw [List.getElem?_modify]
    by_cases here : i = j
    · subst here
      simp [found]
    · simp [here]
  rw [setStep,same]

variable [Gateway γ] [SessionStore σ]

/-- An act that is done on a step makes of it what `OpenStep.Responds` tells. -/
theorem does_responds (on : act.step? = some i) {o : Opened} (found : s.steps[i]? = some o) :
    ∃ step, o.step.Responds s.world act (s.does act).1 step (s.does act).2.world ∧
      (s.does act).2.steps[i]? = some { o with step } := by
  have onPhone {f : PhoneStep → Operation γ σ PhoneStep} (phones : act.forPhones = true)
      (there : ∀ p, o.step = .phone p →
        o.step.Responds s.world act .nothing (.phone ((f p).run s.world).1) ((f p).run s.world).2) :
      ∃ step, o.step.Responds s.world act (s.onPhone i f).1 step (s.onPhone i f).2.world ∧
        (s.onPhone i f).2.steps[i]? = some { o with step } := by
    cases kind : o.step with
    | phone p =>
      have responds := there p kind
      rw [kind] at responds
      simp only [onPhone,onStep,found,kind]
      exact ⟨_,responds,setStep_at (s := (s.perform (f p)).2) found _⟩
    | _ =>
      simp only [onPhone,onStep,found,kind]
      exact ⟨_,.noPhone (by simp [OpenStep.step]) phones,by rw [← kind]⟩
  cases act <;> cases on
  case submit input =>
    obtain ⟨move,step,w',submits,does⟩ := submit_does found input
    rw [does]
    refine ⟨step,?_,?_⟩
    · rw [follow_world]
      exact .submitted submits
    · rw [follow_steps]
      exact setStep_at (s := { s with world := w' }) found step
  case resend =>
    simp only [does,onStep,found,perform,OpenStep.resend_run]
    cases back : o.step.handoffBack? with
    | none => exact ⟨_,.noWayBack back,setStep_at found _⟩
    | some h =>
      by_cases closed : o.step.core.isClosed = true
      · simp only [closed,if_true]
        exact ⟨_,.stayed back closed,setStep_at found _⟩
      · have open_ : o.step.core.isClosed = false := by simpa using closed
        simp only [open_,Bool.false_eq_true,if_false]
        exact ⟨_,.wentBack back open_,setStep_at (s := { s with world := _ }) found _⟩
  case phoneResend => exact onPhone rfl fun p phone => .phoneResent phone
  case chooseCountry countryCode => exact onPhone rfl fun p phone => .countryChosen phone
  case edited =>
    simp only [does,onStep,found]
    exact ⟨_,.edited,setStep_at found _⟩
  case clearError =>
    simp only [does,onStep,found]
    exact ⟨_,.cleared,setStep_at found _⟩
  case resume =>
    simp only [does,onStep,found]
    exact ⟨_,.resumed,found⟩

/-- The turn in which a step that is there is submitted is the run of its submit. -/
theorem submit_turn {o : Opened} (found : s.steps[i]? = some o) (input : String) : ∃ m step,
    Submits o.step input s.still.world m step (s.turn (.submit i input)).after.world ∧
      (o.step.submit input).run s.still.world = ((m,step),(s.turn (.submit i input)).after.world) ∧
      (s.turn (.submit i input)).reply = .moved m ∧
      (s.turn (.submit i input)).after.steps[i]? = some { o with step } := by
  obtain ⟨m,step,w',submits,ran⟩ := Flow.submits o.step input s.still.world
  have there : s.still.steps[i]? = some o := found
  have does : s.still.does (.submit i input) =
      (.moved m,({ s.still with world := w' }.setStep i step).follow m) := by
    simp only [Scene.does,onStep,there,perform,ran]
  have world : (s.turn (.submit i input)).after.world = w' := by
    rw [turn,does,follow_world]
    rfl
  refine ⟨m,step,world ▸ submits,world ▸ ran,?_,?_⟩
  · rw [turn,does]
  · rw [turn,does,follow_steps]
    exact setStep_at (s := { s.still with world := w' }) there step

/-- Nothing can be done on a step that is not there. -/
theorem does_missing (on : act.step? = some i) (missing : s.steps[i]? = none) :
    s.does act = (.refused .noController,s) := by
  cases act <;> cases on <;> simp only [does,onPhone,onStep,missing]

/-- What is not done on a step leaves it as it is. -/
theorem does_elsewhere {o : Opened} (found : s.steps[i]? = some o) (elsewhere : act.step? ≠ some i) :
    (s.does act).2.steps[i]? = some o := by
  -- An act on another step changes that one only, if it is there.
  have aside {s' : Scene γ σ} (same : s'.steps = s.steps) {j : Nat} (other : some j ≠ some i) (step : OpenStep) :
      (s'.setStep j step).steps[i]? = some o := by
    rw [setStep_elsewhere (fun here => other (congrArg some here)),same,found]
  cases act with
  | start config =>
    simp only [does,start,perform]
    rcases ((startSignIn config).run s.world).1 with e | session | h <;> exact found
  | openStep kind h =>
    simp only [does,openStep]
    split
    · exact (List.getElem?_append_left (List.getElem?_eq_some_iff.mp found).1).trans found
    · exact found
  | submit j input =>
    refine onStep_keeps (P := fun s' => s'.steps[i]? = some o) found fun o' _ => ?_
    rw [follow_steps]
    exact aside rfl elsewhere _
  | resend j =>
    refine onStep_keeps (P := fun s' => s'.steps[i]? = some o) found fun o' _ => ?_
    simp only [perform]
    split
    · rename_i answer
      obtain ⟨-,rfl⟩ := Prod.mk.inj answer
      rw [follow_steps]
      exact aside rfl elsewhere _
    · rename_i answer
      obtain ⟨-,rfl⟩ := Prod.mk.inj answer
      exact aside rfl elsewhere _
  | phoneResend j =>
    exact onPhone_keeps (P := fun s' => s'.steps[i]? = some o) found fun _ _ _ _ => aside rfl elsewhere _
  | chooseCountry j countryCode =>
    exact onPhone_keeps (P := fun s' => s'.steps[i]? = some o) found fun _ _ _ _ => aside rfl elsewhere _
  | edited j => exact onStep_keeps (P := fun s' => s'.steps[i]? = some o) found fun _ _ => aside rfl elsewhere _
  | clearError j => exact onStep_keeps (P := fun s' => s'.steps[i]? = some o) found fun _ _ => aside rfl elsewhere _
  | resume j => exact onStep_keeps (P := fun s' => s'.steps[i]? = some o) found fun _ _ => found
  | resumeFailure j => exact onScreen_keeps (P := fun s' => s'.steps[i]? = some o) found fun _ _ => found
  | dismiss j => exact onScreen_keeps (P := fun s' => s'.steps[i]? = some o) found fun _ _ => found
  | restart j => exact onScreen_keeps (P := fun s' => s'.steps[i]? = some o) found fun _ _ => found
  | activeSession =>
    simp only [does,perform]
    cases (readSession.run s.world).1 <;> exact found
  | signOut =>
    simp only [does,perform]
    cases (Flow.signOut.run s.world).1 <;> exact found
  | _ => exact found

/-- Steps stay. -/
theorem does_stays {o : Opened} (found : s.steps[i]? = some o) (act : Act) :
    ∃ x, (s.does act).2.steps[i]? = some x := by
  by_cases on : act.step? = some i
  · obtain ⟨step,-,after⟩ := does_responds on found
    exact ⟨_,after⟩
  · exact ⟨o,does_elsewhere found on⟩

theorem missing_before (missing : (s.turn act).after.steps[i]? = none) : s.steps[i]? = none := by
  cases found : s.steps[i]? with
  | none => rfl
  | some o =>
    obtain ⟨x,there⟩ := does_stays (s := s.still) found act
    have there : (s.turn act).after.steps[i]? = some x := there
    rw [missing] at there
    cases there

end Scene

/-- Where a step of a scene comes from that is there after an act. -/
inductive Scene.Evolves [SessionStore σ] (s : Scene γ σ) (act : Act) (reply : Reply) (w' : World γ σ) (i : Nat) :
    Opened → Prop where
  | opened {x kind} (missing : s.steps[i]? = none) (opens : act = .openStep kind x.handoff)
    (valid : OpenStep.openFrom s.world.settings kind x.handoff = .ok x.step) : Evolves s act reply w' i x
  | left {x} (found : s.steps[i]? = some x) (elsewhere : act.step? ≠ some i) : Evolves s act reply w' i x
  | responded {o step} (found : s.steps[i]? = some o) (on : act.step? = some i)
    (responds : o.step.Responds s.world act reply step w') : Evolves s act reply w' i { o with step }

/-- A step has just been opened, or it was there and nothing was done on it, or it has responded. -/
theorem Scene.does_evolves [Gateway γ] [SessionStore σ] (s : Scene γ σ) (act : Act) {i : Nat} {x : Opened}
    (there : (s.does act).2.steps[i]? = some x) : s.Evolves act (s.does act).1 (s.does act).2.world i x := by
  cases found : s.steps[i]? with
  | none =>
    rcases (s.does_changes act).at there with ⟨-,kind,opens,valid⟩ | ⟨o,before,-⟩
    · exact .opened found opens valid
    · rw [found] at before
      cases before
  | some o =>
    by_cases on : act.step? = some i
    · obtain ⟨step,responds,after⟩ := does_responds on found
      rw [after] at there
      obtain rfl := Option.some.inj there
      exact .responded found on responds
    · rw [does_elsewhere found on] at there
      obtain rfl := Option.some.inj there
      exact .left found on

/-- A step stays of its kind, whatever is done on it, and keeps its receiver. -/
theorem OpenStep.Responds.becomes [SessionStore σ] {o o' : OpenStep} {w w' : World γ σ} {act : Act} {reply : Reply}
    (responds : o.Responds w act reply o' w') : o.Becomes o' := by
  cases responds with
  | submitted submits => exact submits.becomes
  | wentBack => exact .changed o rfl
  | stayed => exact .refl o
  | noWayBack => exact .refl o
  | phoneResent phone => exact phone ▸ PhoneStep.resend_becomes _
  | countryChosen phone => exact phone ▸ .phone rfl rfl
  | noPhone => exact .refl o
  | edited => exact o.edited_becomes
  | cleared => exact .changed o rfl
  | resumed => exact .refl o

/-- What has become a phone step was one. -/
theorem OpenStep.Responds.phone [SessionStore σ] {o : OpenStep} {p' : PhoneStep} {w w' : World γ σ} {act : Act}
    {reply : Reply} (responds : o.Responds w act reply (.phone p') w') : ∃ p, o = .phone p := by
  have becomes := responds.becomes
  generalize same : OpenStep.phone p' = o' at becomes
  cases becomes with
  | phone => exact ⟨_,rfl⟩
  | changed o =>
    cases o <;> cases same
    exact ⟨_,rfl⟩

/-! ### What a step begins with -/

/-- Whether a step goes on to ask for an email address; the email step does not go on. -/
def OpenStep.wantsEmail? : OpenStep → Option Bool
  | .phone p => some p.wantsEmail
  | .loginCode c => some c.wantsEmail
  | .confirmationCode c => some c.wantsEmail
  | .pinCode c => some c.wantsEmail
  | .email _ => none

/-- Whether a code step goes back to a phone step that can call. -/
def OpenStep.offersVoice? : OpenStep → Option Bool
  | .loginCode c => some (c.features.any (·.voiceEnabled))
  | .confirmationCode c => some c.voiceEnabled
  | .phone _ | .pinCode _ | .email _ => none

/-- What a step that has just been opened takes from its handoff. -/
structure OpenStep.BeginsWith (settings : Settings) (h : Handoff) (o : OpenStep) : Prop where
  budget : o.core.budget = { limit := settings.maxErrors }
  wish : ∀ b ∈ o.wantsEmail?, h.wantsEmail = b
  offer : ∀ b ∈ o.offersVoice?, h.features.any (·.voiceEnabled) = b
  voice : ∀ p, o = .phone p → p.voiceEnabled = h.voiceEnabled ∧ p.resending = h.resend

theorem PhoneStep.askAgain_voice (p : PhoneStep) :
    p.askAgain.voiceEnabled = p.voiceEnabled ∧ p.askAgain.resending = true := by
  obtain ⟨_,_,asked⟩ := p.askAgain_keeps
  rw [asked]
  exact ⟨rfl,rfl⟩

theorem PhoneStep.askAgain_closed (p : PhoneStep) : p.askAgain.core.isClosed = p.core.isClosed := by
  obtain ⟨_,_,asked⟩ := p.askAgain_keeps
  rw [asked]
  rfl

theorem PhoneStep.resend_voice (p : PhoneStep) :
    p.resend.voiceEnabled = p.voiceEnabled ∧ p.resend.resending = true :=
  PhoneStep.askAgain_voice { p with core := p.core.reenter }

/-- The next code is sent by a call when it is sent again and calls are offered. -/
theorem PhoneStep.channel_voice (p : PhoneStep) :
    p.channel = .voiceCall ↔ p.resending = true ∧ p.voiceEnabled = true := by
  simp [channel]

theorem PhoneStep.beginsWith {settings : Settings} {h : Handoff} {p : PhoneStep}
    (budget : p.core.budget = { limit := settings.maxErrors }) (wish : p.wantsEmail = h.wantsEmail)
    (voice : p.voiceEnabled = h.voiceEnabled) (resending : p.resending = h.resend) :
    (OpenStep.phone p).BeginsWith settings h where
  budget := budget
  wish _ same := wish.symm.trans (Option.some.inj same)
  offer := nofun
  voice _ same := OpenStep.phone.inj same ▸ ⟨voice,resending⟩

theorem OpenStep.beginsWith {settings : Settings} {h : Handoff} {o : OpenStep} (other : o.step ≠ .phoneNumber)
    (budget : o.core.budget = { limit := settings.maxErrors }) (wish : ∀ b ∈ o.wantsEmail?, h.wantsEmail = b)
    (offer : ∀ b ∈ o.offersVoice?, h.features.any (·.voiceEnabled) = b) : o.BeginsWith settings h where
  budget := budget
  wish := wish
  offer := offer
  voice _ phone := absurd (phone ▸ rfl) other

theorem OpenStep.openFrom_begins {settings : Settings} {kind : Step} {h : Handoff} {o : OpenStep}
    (opens : OpenStep.openFrom settings kind h = .ok o) : o.BeginsWith settings h := by
  have budget : o.core.budget = { limit := settings.maxErrors } := by
    obtain ⟨r,_,_,-,core⟩ := openFrom_new opens
    rw [core]
    rfl
  cases openFrom_iff.mp opens with
  | @phone r p receiver new =>
    obtain ⟨voice,resending⟩ := p.askAgain_voice
    obtain ⟨_,_,asked⟩ := p.askAgain_keeps
    by_cases again : h.resend = true
    · rw [if_pos again] at budget ⊢
      exact PhoneStep.beginsWith budget (by rw [asked,new]) (by rw [voice,new]) (resending.trans again.symm)
    · rw [if_neg again] at budget ⊢
      exact PhoneStep.beginsWith budget (by rw [new]) (by rw [new]) (by rw [new]; simpa using again)
  | loginCode => exact beginsWith nofun budget (fun _ => Option.some.inj) (fun _ => Option.some.inj)
  | confirmationCode => exact beginsWith nofun budget (fun _ => Option.some.inj) (fun _ => Option.some.inj)
  | pinCode => exact beginsWith nofun budget (fun _ => Option.some.inj) nofun
  | email => exact beginsWith nofun budget nofun nofun

/-- A step is open when it has just been opened. -/
theorem OpenStep.openFrom_open {settings : Settings} {kind : Step} {h : Handoff} {o : OpenStep}
    (opens : OpenStep.openFrom settings kind h = .ok o) : o.core.isClosed = false := by
  obtain ⟨r,_,_,-,core⟩ := openFrom_new opens
  rw [core]
  rfl

end PhoneSignIn.Flow
