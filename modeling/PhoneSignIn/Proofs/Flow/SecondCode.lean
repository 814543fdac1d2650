import PhoneSignIn.Proofs.Flow.Voice

/-!
The two ways to have a code sent again. Once a phone step has handed over to a code step, the user can come back to
it, or ask the code step, which leads to a new phone step (`World.LeadsBack`). The old step keeps what it knows of
calls until it is answered with features (`PhoneStep.Sends.knows`, `Scene.Knows.turn`). The new one goes by the
features that the code step was opened with (`World.leads_back`). So both have the next code sent in one way, unless
the service has offered calls before and its last answer does not say whether it does (`ways_agree_iff`).
-/
namespace PhoneSignIn.Flow

variable {γ σ : Type}

/-! ### Back to the old phone step -/

/-- A phone step to which the user comes back calls when it knows that calls are offered. -/
theorem PhoneStep.resend_channel (p : PhoneStep) : p.resend.channel = .voiceCall ↔ p.voiceEnabled = true := by
  obtain ⟨voice,resending⟩ := p.resend_voice
  rw [channel_voice,resending,voice]
  exact and_iff_right rfl

/-- A phone step that hands over knows of calls what the last answer tells, if it does. -/
theorem PhoneStep.Sends.knows {p p' : PhoneStep} {channel : Channel} {l : List Occurrence} {kind : Step} {h : Handoff}
    (sends : p.Sends channel p' l (.handOver kind h)) :
    p'.voiceEnabled = (h.features.map (·.voiceEnabled)).getD p.voiceEnabled := by
  cases sends with
  | loginStarted r learnt =>
    subst learnt
    rfl
  | registered m r learnt =>
    subst learnt
    rfl

section
variable [SessionStore σ] {w w' : World γ σ}

theorem Submits.knows {p : PhoneStep} {o' : OpenStep} {input : String} {kind : Step} {h : Handoff}
    (submits : Submits (.phone p) input w (.next kind h) o' w') :
    ∃ p', o' = .phone p' ∧ p'.voiceEnabled = (h.features.map (·.voiceEnabled)).getD p.voiceEnabled := by
  cases submits with
  | went accepted course ends =>
    cases course with
    | phone sends =>
      cases ends with
      | reported answer => cases answer
      | handedOver => exact ⟨_,rfl,sends.knows⟩
      | unkept keeps refused answer => cases answer
      | emailRequested => cases sends

/-- Only a submit changes what a phone step knows of calls. -/
theorem OpenStep.Responds.knows {p : PhoneStep} {o' : OpenStep} {act : Act} {reply : Reply}
    (responds : (OpenStep.phone p).Responds w act reply o' w') (unsent : ∀ j input, act ≠ .submit j input) :
    ∃ p', o' = .phone p' ∧ p'.voiceEnabled = p.voiceEnabled := by
  cases responds with
  | submitted => exact absurd rfl (unsent _ _)
  | wentBack back => cases back
  | stayed back => cases back
  | noWayBack => exact ⟨p,rfl,rfl⟩
  | phoneResent phone =>
    cases phone
    exact ⟨_,rfl,p.resend_voice.1⟩
  | countryChosen phone =>
    cases phone
    exact ⟨_,rfl,rfl⟩
  | noPhone => exact ⟨p,rfl,rfl⟩
  | edited => exact ⟨_,rfl,p.edited_voice.1⟩
  | cleared => exact ⟨_,rfl,rfl⟩
  | resumed => exact ⟨p,rfl,rfl⟩

end

/-- Whether the step numbered `i` is a phone step that knows this of calls. -/
def Scene.Knows (s : Scene γ σ) (i : Nat) (voice : Bool) : Prop :=
  ∃ o p, s.steps[i]? = some o ∧ o.step = .phone p ∧ p.voiceEnabled = voice

section
variable [Gateway γ] [SessionStore σ] {s : Scene γ σ} {i : Nat} {voice : Bool}

theorem Scene.Knows.turn (knows : s.Knows i voice) {act : Act} (unsent : ∀ input, act ≠ .submit i input) :
    (s.turn act).after.Knows i voice := by
  obtain ⟨o,p,found,phone,known⟩ := knows
  by_cases on : act.step? = some i
  · obtain ⟨step,responds,after⟩ := does_responds (s := s.still) on found
    rw [phone] at responds
    obtain ⟨p',rfl,same⟩ := responds.knows fun j input submit => by
      subst submit
      obtain rfl := Option.some.inj on
      exact unsent input rfl
    exact ⟨_,p',after,rfl,same.trans known⟩
  · exact ⟨o,p,does_elsewhere (s := s.still) found on,phone,known⟩

/-- A phone step knows what it knew until it is submitted again. -/
theorem Scene.run_knows {acts : List Act} {earlier later : List (Turn γ σ)} {t : Turn γ σ} (knows : s.Knows i voice)
    (unsent : ∀ e ∈ earlier, ∀ input, e.act ≠ .submit i input) (split : s.run acts = earlier ++ t :: later) :
    t.before.Knows i voice := by
  refine Scene.run_always (I := fun past s => (∀ e ∈ past, ∀ input, e.act ≠ .submit i input) → s.Knows i voice)
    (fun past s act known unsent => ?_) (fun _ => knows) split unsent
  obtain ⟨before,now⟩ := List.forall_mem_append.mp unsent
  exact (known before).turn (now _ (.head _))

/-- A phone step that is submitted and hands over leads to a code step, with all that this needs, and knows of calls
    what the answer tells, if it does. -/
theorem Scene.turn_knows {o : Opened} {p : PhoneStep} {input : String} {kind : Step} {h : Handoff}
    (found : s.steps[i]? = some o) (phone : o.step = .phone p)
    (handed : (s.turn (.submit i input)).reply = .moved (.next kind h)) :
    h.Fits kind ∧ (kind = .loginCode ∨ kind = .confirmationCode) ∧
      (s.turn (.submit i input)).after.Knows i ((h.features.map (·.voiceEnabled)).getD p.voiceEnabled) := by
  have on : (Act.submit i input).step? = some i := rfl
  obtain ⟨step,responds,after⟩ := does_responds (s := s.still) on found
  have replied : (s.still.does (.submit i input)).1 = .moved (.next kind h) := handed
  rw [phone,replied] at responds
  cases responds with
  | submitted submits =>
    have hands : (OpenStep.phone p).Hands (Text.trim input) (s.turn (.submit i input)).happened kind h := submits.hands
    obtain ⟨p',rfl,known⟩ := submits.knows
    exact ⟨hands.fits,hands.granted.1,_,p',after,rfl,known⟩

end

/-! ### By way of the code step -/

/-- Whether the code step that opens from a handoff leads to this phone step, when the user asks it for the code
    again. -/
def World.LeadsBack (w : World γ σ) (kind : Step) (h : Handoff) (q : PhoneStep) : Prop :=
  ∃ c h', OpenStep.openFrom w.settings kind h = .ok c ∧ (c.resend.run w).1.1 = some (.next .phoneNumber h') ∧
    OpenStep.openFrom w.settings .phoneNumber h' = .ok (.phone q)

/-- A code step leads to a phone step, which calls when the features that the code step was opened with offer calls. -/
theorem World.leads_back (w : World γ σ) {kind : Step} {h : Handoff} (fits : h.Fits kind)
    (code : kind = .loginCode ∨ kind = .confirmationCode) :
    ∃ q, w.LeadsBack kind h q ∧ (q.channel = .voiceCall ↔ h.features.any (·.voiceEnabled) = true) := by
  obtain ⟨c,opens⟩ := (OpenStep.opens_iff_fits w.settings kind h).mpr fits
  obtain ⟨h',back⟩ : ∃ h', c.handoffBack? = some h' := by
    have same := OpenStep.openFrom_step opens
    rcases code with rfl | rfl <;> cases c <;> cases same <;> exact ⟨_,rfl⟩
  obtain ⟨receiver,again,-,offers⟩ := OpenStep.handoffBack_eq back
  have moved : (c.resend.run w).1.1 = some (.next .phoneNumber h') := by
    rw [OpenStep.resend_run,back]
    simp [OpenStep.openFrom_open opens]
  obtain ⟨o,opens'⟩ := (OpenStep.opens_iff_fits w.settings .phoneNumber h').mpr
    (by simp [Handoff.Fits,Step.needs,Handoff.has,receiver])
  obtain ⟨q,rfl⟩ : ∃ q, o = .phone q := by
    have same := OpenStep.openFrom_step opens'
    cases o <;> cases same
    exact ⟨_,rfl⟩
  obtain ⟨voice,resending⟩ := (OpenStep.openFrom_begins opens').voice q rfl
  have offered : h.features.any (·.voiceEnabled) = h'.voiceEnabled := (OpenStep.openFrom_begins opens).offer _ offers
  refine ⟨q,⟨c,h',opens,moved,opens'⟩,?_⟩
  rw [q.channel_voice,resending,again,voice,offered]
  exact and_iff_right rfl

/-! ### Whether the ways agree -/

section
variable [Gateway γ] [SessionStore σ] {s : Scene γ σ}

theorem channel_eq_iff (a b : Channel) : a = b ↔ (a = .voiceCall ↔ b = .voiceCall) := by
  cases a <;> cases b <;> simp

/-- After a phone step has handed over to a code step, and until it is submitted again, both ways lead to a phone step
    that has the next code sent in the same way, unless the step knew before it was submitted that calls are offered
    and the answer had no features. -/
theorem ways_agree_iff {acts : List Act} {earlier between later : List (Turn γ σ)} {t u : Turn γ σ} {i : Nat}
    {input : String} {kind : Step} {h : Handoff} {o : Opened} {p : PhoneStep}
    (split : s.run acts = earlier ++ t :: (between ++ u :: later)) (submits : t.act = .submit i input)
    (handed : t.reply = .moved (.next kind h)) (found : t.before.steps[i]? = some o) (phone : o.step = .phone p)
    (last : ∀ e ∈ between, ∀ text, e.act ≠ .submit i text) (w : World γ σ) :
    (kind = .loginCode ∨ kind = .confirmationCode) ∧ ∃ o' p' q, u.before.steps[i]? = some o' ∧ o'.step = .phone p' ∧
      w.LeadsBack kind h q ∧ (q.channel = p'.resend.channel ↔ (h.features = none → p.voiceEnabled = false)) := by
  have turn := Scene.run_turn (split ▸ List.mem_append_right _ List.mem_cons_self : t ∈ s.run acts)
  obtain ⟨rest,goesOn⟩ := Scene.run_after split
  rw [submits] at turn
  generalize t.before = before at turn found
  subst turn
  obtain ⟨fits,code,knows⟩ := Scene.turn_knows found phone handed
  obtain ⟨o',p',found',phone',known⟩ := Scene.run_knows knows last goesOn
  obtain ⟨q,leads,calls⟩ := w.leads_back fits code
  refine ⟨code,o',p',q,found',phone',leads,?_⟩
  rw [channel_eq_iff,calls,p'.resend_channel,known]
  cases h.features <;> simp

end

/-- The service says with its answer that it offers calls, so both ways lead to a phone step that calls. -/
theorem granted_calls_agree :
    let h : Handoff :=
      { receiver := some 0, phoneNumber := some "+15", requestId := some "r", userId := some 7,
        features := some { voiceEnabled := true } }
    let run := (Scene.scripted
      { authenticateDevice := [.ok { requestId := "r", userId := 7, features := some { voiceEnabled := true } }] }).run
      [.start ⟨1,"",false⟩,.openStep .phoneNumber { receiver := some 0, phoneNumber := some "" },.submit 0 "5",
        .edited 0,.phoneResend 0]
    ∃ o p q, run[4].before.steps[0]? = some o ∧ o.step = .phone p ∧ run[4].before.world.LeadsBack .loginCode h q ∧
      q.channel = p.resend.channel := by
  intro h run
  have split : run = run.take 2 ++ run[2] :: ([run[3]] ++ run[4] :: []) := rfl
  obtain ⟨kind,h',handed⟩ : ∃ kind h', run[2].reply = .moved (.next kind h') := ⟨_,_,rfl⟩
  have offers : run[2].reply.offers? = some (.next .loginCode h) := by decide +kernel
  rw [handed] at offers
  cases offers
  obtain ⟨o,p,found,phone⟩ : ∃ o p, run[2].before.steps[0]? = some o ∧ o.step = .phone p := ⟨_,_,rfl,rfl⟩
  have last : ∀ e ∈ [run[3]], ∀ text, e.act ≠ .submit 0 text := List.forall_mem_singleton.mpr nofun
  obtain ⟨-,o',p',q,found',phone',leads,agree⟩ :=
    ways_agree_iff split rfl handed found phone last run[4].before.world
  exact ⟨o',p',q,found',phone',leads,agree.mpr nofun⟩

/-- The service offers calls, and its next answer says nothing of them. The phone step to which the user comes back
    calls, and the one to which the code step leads does not. -/
theorem silent_answer_differs :
    let run := (Scene.scripted
      { authenticateDevice := [.error (.unsupportedCarrier "m" { voiceEnabled := true }),
          .ok { requestId := "r1", userId := 7 },.ok { requestId := "r2", userId := 7 },
          .ok { requestId := "r3", userId := 7 }] }).run
      [.start ⟨1,"",false⟩,.openStep .phoneNumber { receiver := some 0, phoneNumber := some "" },.submit 0 "5",
        .submit 0 "5",
        .openStep .loginCode
          { receiver := some 0, phoneNumber := some "+15", requestId := some "r1", userId := some 7 },.resend 1,
        .openStep .phoneNumber { receiver := some 0, phoneNumber := some "+15", resend := true },.phoneResend 0,
        .submit 0 "5",.submit 2 "5"]
    (∀ t ∈ run, t.Follows) ∧ run[8].happened.filterMap Occurrence.channel? = [.voiceCall] ∧
      run[9].happened.filterMap Occurrence.channel? = [.sms] := by
  decide +kernel

end PhoneSignIn.Flow
