import PhoneSignIn.Proofs.Flow.Descent

/-!
When a code may be sent by a call. A phone step learns from the features it is answered with whether the service
offers calls, and else it goes by those of the answer from which the code step stems that led back to it
(`GoesBy`). It calls only when calls are offered and the code was asked for again (`calls_consented`). Each step goes
by what it was answered itself, so a step that was left behind may still call after another one has learned that
calls are offered no more (`left_step_calls`).
-/
namespace PhoneSignIn.Flow

variable {γ σ : Type}

/-! ### What a phone step learns -/

/-- The features that a phone step is answered with. -/
def Occurrence.features? : Occurrence → Option Features
  | .asked (.authenticateDevice ..) (.ok r) => r.features
  | .asked (.registerDevice ..) (.ok r) => r.features
  | .asked (.authenticateDevice ..) (.error (.unsupportedCarrier _ f)) => some f
  | _ => none

/-- Whether the service answers that the carrier cannot deliver a text message. -/
def Occurrence.Uncarried (o : Occurrence) : Prop :=
  ∃ number channel m f, o = .asked (.authenticateDevice number channel) (.error (.unsupportedCarrier m f))

/-- How a code is to be sent that is asked for. -/
def Occurrence.channel? : Occurrence → Option Channel
  | .asked (.authenticateDevice _ channel) _ | .asked (.registerDevice _ channel) _ => some channel
  | _ => none

/-- The features that the step numbered `i` is answered with in a turn. -/
def Turn.learnt (t : Turn γ σ) (i : Nat) : List Features :=
  if t.act.step? = some i then t.happened.filterMap Occurrence.features? else []

theorem Occurrence.features_of_uncalled (o : Occurrence) (uncalled : o.call? = none) : o.features? = none := by
  cases o with
  | asked => cases uncalled
  | _ => rfl

/-- Whether the service offers calls, after features that were learnt. -/
def offersVoice (learnt : List Features) (before : Bool) : Bool :=
  (learnt.getLast?.map (·.voiceEnabled)).getD before

/-- What a phone step learns from what happens: whether calls are offered, and when the code is sent again. -/
structure PhoneStep.Learns (p p' : PhoneStep) (act : Act) (l : List Occurrence) : Prop where
  voice : p'.voiceEnabled = offersVoice (l.filterMap Occurrence.features?) p.voiceEnabled
  resending : p'.resending = true → p.resending = true ∨ (∃ i, act = .phoneResend i) ∨ ∃ o ∈ l, o.Uncarried

theorem PhoneStep.Learns.nothing {p p' : PhoneStep} {act : Act} {l : List Occurrence}
    (silent : l.filterMap Occurrence.features? = []) (voice : p'.voiceEnabled = p.voiceEnabled)
    (resending : p'.resending = true → p.resending = true) : p.Learns p' act l where
  voice := by rw [silent,voice]; rfl
  resending := fun again => .inl (resending again)

theorem PhoneStep.Sends.learns {p p' : PhoneStep} {channel : Channel} {l : List Occurrence} {fin : Finale}
    (sends : p.Sends channel p' l fin) (act : Act) : p.Learns p' act l := by
  cases sends with
  | refused e known carried =>
    refine .nothing ?_ rfl id
    cases e with
    | unsupportedCarrier => exact absurd rfl carried
    | _ => rfl
  | carrierRefused m f =>
    obtain ⟨voice,-⟩ := PhoneStep.askAgain_voice { p with voiceEnabled := f.voiceEnabled }
    exact ⟨voice,fun _ => .inr (.inr ⟨_,.head _,_,_,m,f,rfl⟩)⟩
  | loginStarted r learnt =>
    subst learnt
    refine ⟨?_,.inl⟩
    obtain ⟨requestId,userId,number,features⟩ := r
    cases features <;> rfl
  | registrationRefused => exact .nothing rfl rfl id
  | registered m r learnt =>
    subst learnt
    refine ⟨?_,.inl⟩
    obtain ⟨number,features⟩ := r
    cases features <;> rfl

theorem PhoneStep.edited_voice (p : PhoneStep) :
    p.edited.voiceEnabled = p.voiceEnabled ∧ (p.edited.resending = true → p.resending = true) := by
  simp only [PhoneStep.edited]
  split
  · exact ⟨rfl,id⟩
  · exact ⟨rfl,fun again => absurd again Bool.false_ne_true⟩

section
variable [SessionStore σ] {w w' : World γ σ}

theorem Submits.learns {p : PhoneStep} {o' : OpenStep} {input : String} {m : Move}
    (submits : Submits (.phone p) input w m o' w') (empty : w.history = []) (act : Act) :
    ∃ p', o' = .phone p' ∧ p.Learns p' act w'.history := by
  cases submits with
  | ignored rest same =>
    rw [empty]
    rcases same with rfl | rfl
    · exact ⟨p,rfl,.nothing rfl rfl id⟩
    · exact ⟨_,rfl,.nothing rfl rfl id⟩
  | went accepted course ends =>
    obtain ⟨rest,history,quiet⟩ := ends.uncalled
    rw [World.advance_history,empty,List.nil_append] at history
    cases course with
    | @phone _ p' l _ sends =>
      obtain ⟨voice,resending⟩ := sends.learns act
      refine ⟨_,rfl,?_,fun again => ?_⟩
      · rw [history,filterMap_sends Occurrence.features_of_uncalled (PhoneStep.attempt_call _) quiet]
        exact voice
      · rcases resending again with before | asked | ⟨o,member,uncarried⟩
        · exact .inl before
        · exact .inr (.inl asked)
        · exact .inr (.inr ⟨o,history ▸ List.mem_append_left _ (.tail _ member),uncarried⟩)

/-- What a phone step learns from whatever is done on it. -/
theorem OpenStep.Responds.learns {p : PhoneStep} {o' : OpenStep} {act : Act} {reply : Reply}
    (responds : (OpenStep.phone p).Responds w act reply o' w') (empty : w.history = []) :
    ∃ p', o' = .phone p' ∧ p.Learns p' act w'.history := by
  have silent : w.history.filterMap Occurrence.features? = [] := by rw [empty]; rfl
  have noted (event : Journal.Event) :
      (w.history ++ [Occurrence.recorded event]).filterMap Occurrence.features? = [] := by
    rw [empty]
    rfl
  cases responds with
  | submitted submits => exact submits.learns empty _
  | wentBack back => cases back
  | stayed back => cases back
  | noWayBack => exact ⟨p,rfl,.nothing silent rfl id⟩
  | phoneResent phone =>
    cases phone
    refine ⟨_,rfl,?_,fun _ => .inr (.inl ⟨_,rfl⟩)⟩
    rw [silent]
    exact p.resend_voice.1
  | countryChosen phone =>
    cases phone
    exact ⟨_,rfl,.nothing (noted _) rfl id⟩
  | noPhone => exact ⟨p,rfl,.nothing silent rfl id⟩
  | edited => exact ⟨_,rfl,.nothing silent p.edited_voice.1 p.edited_voice.2⟩
  | cleared => exact ⟨_,rfl,.nothing silent rfl id⟩
  | resumed => exact ⟨p,rfl,.nothing (noted _) rfl id⟩

end

/-! ### Who has a code sent -/

theorem Occurrence.features_channel {o : Occurrence} {f : Features} (learnt : o.features? = some f) :
    ∃ channel, o.channel? = some channel := by
  unfold features? at learnt
  split at learnt
  · exact ⟨_,rfl⟩
  · exact ⟨_,rfl⟩
  · exact ⟨_,rfl⟩
  · cases learnt

theorem Occurrence.channel_call {o : Occurrence} {channel : Channel} (sent : o.channel? = some channel) :
    ∃ number, o.call? = some (.authenticateDevice number channel) ∨
      o.call? = some (.registerDevice number channel) := by
  unfold channel? at sent
  split at sent
  · cases sent
    exact ⟨_,.inl rfl⟩
  · cases sent
    exact ⟨_,.inr rfl⟩
  · cases sent

theorem Occurrence.channel_of_uncalled {o : Occurrence} (uncalled : o.call? = none) : o.channel? = none := by
  cases o with
  | asked => cases uncalled
  | _ => rfl

/-- A phone step that is sending starts with a login, and has the code sent in one way. -/
theorem PhoneStep.Sends.channels {p p' : PhoneStep} {channel : Channel} {l : List Occurrence} {fin : Finale}
    (sends : p.Sends channel p' l fin) :
    (∃ number answer, .asked (.authenticateDevice number channel) answer ∈ l) ∧
      ∀ o ∈ l, ∀ c ∈ o.channel?, c = channel := by
  cases sends <;> exact ⟨⟨_,_,.head _⟩,by simp [Occurrence.channel?,StepState.succeeded]⟩

/-- Only a phone step has a code sent, as it has it sent at that time, and it starts with a login. -/
theorem Submits.requests [SessionStore σ] {s s' : OpenStep} {input : String} {w w' : World γ σ} {m : Move}
    (submits : Submits s input w m s' w') (empty : w.history = []) {o : Occurrence} (there : o ∈ w'.history)
    {channel : Channel} (sent : o.channel? = some channel) : ∃ p, s = .phone p ∧ channel = p.channel ∧
      ∃ number answer, .asked (.authenticateDevice number channel) answer ∈ w'.history := by
  have phone : ∃ p, s = .phone p := by
    obtain ⟨number,called | called⟩ := Occurrence.channel_call sent
    · cases submits.calls empty (List.mem_filterMap.mpr ⟨o,there,called⟩) with
      | authenticate step => exact ⟨_,step⟩
    · cases submits.calls empty (List.mem_filterMap.mpr ⟨o,there,called⟩) with
      | register step => exact ⟨_,step⟩
  obtain ⟨p,rfl⟩ := phone
  obtain ⟨p',l,rest,fin,sends,history,quiet,-⟩ := submits.sends empty (List.ne_nil_of_mem there)
  obtain ⟨⟨number,answer,first⟩,channels⟩ := sends.channels
  have same : channel = p.channel := by
    rw [history,List.cons_append,List.mem_cons,List.mem_append] at there
    rcases there with rfl | before | after
    · rw [Occurrence.channel_of_uncalled p.attempt_call] at sent
      cases sent
    · exact channels o before channel sent
    · rw [Occurrence.channel_of_uncalled (quiet o after)] at sent
      cases sent
  refine ⟨p,rfl,same,number,same ▸ answer,?_⟩
  subst same
  exact history ▸ List.mem_append_left _ (.tail _ first)

/-- Whether a code is asked for in a turn, for the sign-in of a receiver. -/
def Turn.Requests (t : Turn γ σ) (r : ReceiverId) : Prop :=
  ∃ i input o, t.act = .submit i input ∧ t.before.steps[i]? = some o ∧ o.step.core.receiver = r ∧
    ∃ number channel answer, .asked (.authenticateDevice number channel) answer ∈ t.happened

theorem Turn.submits_phone [Gateway γ] [SessionStore σ] {s : Scene γ σ} {acts : List Act} {t : Turn γ σ}
    (member : t ∈ s.run acts) {o : Occurrence} (there : o ∈ t.happened) {channel : Channel}
    (sent : o.channel? = some channel) : ∃ i input x p, t.act = .submit i input ∧ t.before.steps[i]? = some x ∧
      x.step = .phone p ∧ channel = p.channel ∧ t.Requests x.step.core.receiver := by
  have submitted : ∃ i input x m step, t.act = .submit i input ∧ t.before.steps[i]? = some x ∧ t.reply = .moved m ∧
      Submits x.step input t.before.still.world m step t.after.world := by
    obtain ⟨number,called | called⟩ := Occurrence.channel_call sent
    · exact submits_of_call member (by simp) (List.mem_filterMap.mpr ⟨o,there,called⟩)
    · exact submits_of_call member (by simp) (List.mem_filterMap.mpr ⟨o,there,called⟩)
  obtain ⟨i,input,x,m,step,act,found,-,submits⟩ := submitted
  obtain ⟨p,phone,same,number,answer,first⟩ := submits.requests rfl there sent
  exact ⟨i,input,x,p,act,found,phone,same,i,input,x,act,found,rfl,number,_,answer,first⟩

/-! ### Runs -/

/-- Whether the code is asked for again in a turn, at the step numbered `i`: by the user, or because the carrier cannot
    deliver it as a text message. -/
def Turn.AsksAgain (t : Turn γ σ) (i : Nat) : Prop := (t.before.steps[i]?).isSome = true ∧ t.act.step? = some i ∧
  (t.act = .phoneResend i ∨ ∃ o ∈ t.happened, o.Uncarried)

theorem offersVoice_append (l l' : List Features) (before : Bool) :
    offersVoice (l ++ l') before = offersVoice l' (offersVoice l before) := by
  simp only [offersVoice,List.getLast?_append]
  cases l'.getLast? <;> simp

/-- What is known after some turns of a phone step that was opened from `h`. -/
structure PhoneStep.Voiced (past : List (Turn γ σ)) (i : Nat) (h : Handoff) (p : PhoneStep) : Prop where
  voice : p.voiceEnabled = offersVoice (past.flatMap (·.learnt i)) h.voiceEnabled
  resending : p.resending = true → h.resend = true ∨ ∃ a ∈ past, a.AsksAgain i
  requests : ∀ a ∈ past, a.learnt i ≠ [] → a.Requests p.core.receiver

structure Scene.Voiced (past : List (Turn γ σ)) (s : Scene γ σ) : Prop where
  unopened : ∀ i, s.steps[i]? = none → ∀ a ∈ past, a.learnt i = []
  phones : ∀ i (o : Opened) p, s.steps[i]? = some o → o.step = .phone p → p.Voiced past i o.handoff

theorem PhoneStep.Voiced.left {past : List (Turn γ σ)} {i : Nat} {h : Handoff} {p : PhoneStep}
    (voiced : p.Voiced past i h) {t : Turn γ σ} (elsewhere : t.act.step? ≠ some i) :
    p.Voiced (past ++ [t]) i h where
  voice := by
    rw [List.flatMap_append,List.flatMap_singleton,show t.learnt i = [] from if_neg elsewhere,List.append_nil]
    exact voiced.voice
  resending := fun again => (voiced.resending again).imp_right
    fun ⟨a,member,asks⟩ => ⟨a,List.mem_append_left _ member,asks⟩
  requests := by
    intro a member learnt
    rcases List.mem_append.mp member with before | now
    · exact voiced.requests a before learnt
    · rw [List.mem_singleton.mp now] at learnt
      exact absurd (if_neg elsewhere) learnt

section
variable [Gateway γ] [SessionStore σ] {s : Scene γ σ} {past : List (Turn γ σ)} {i : Nat} {act : Act}

theorem Scene.learnt_missing (missing : s.steps[i]? = none) (act : Act) : (s.turn act).learnt i = [] := by
  by_cases on : act.step? = some i
  · have does : s.still.does act = (.refused .noController,s.still) := does_missing on missing
    have nothing : (s.turn act).happened = [] := by rw [Turn.happened,turn,does]; rfl
    rw [Turn.learnt,nothing]
    exact if_pos on
  · exact if_neg on

theorem PhoneStep.Voiced.responds {o : Opened} {p p' : PhoneStep} (voiced : p.Voiced past i o.handoff)
    (found : s.steps[i]? = some o) (phone : o.step = .phone p) (on : act.step? = some i)
    (receiver : p'.core.receiver = p.core.receiver) (learns : p.Learns p' act (s.turn act).happened) :
    p'.Voiced (past ++ [s.turn act]) i o.handoff where
  voice := by
    have learnt : (s.turn act).learnt i = (s.turn act).happened.filterMap Occurrence.features? := if_pos on
    rw [List.flatMap_append,List.flatMap_singleton,offersVoice_append,← voiced.voice,learnt]
    exact learns.voice
  resending := by
    have here : (s.steps[i]?).isSome = true := by rw [found]; rfl
    intro again
    rcases learns.resending again with before | ⟨j,rfl⟩ | uncarried
    · exact (voiced.resending before).imp_right fun ⟨a,member,asks⟩ => ⟨a,List.mem_append_left _ member,asks⟩
    · obtain rfl : j = i := Option.some.inj on
      exact .inr ⟨_,List.mem_append_right _ (.head _),here,on,.inl rfl⟩
    · exact .inr ⟨_,List.mem_append_right _ (.head _),here,on,.inr uncarried⟩
  requests := by
    intro a member learnt
    rw [receiver]
    rcases List.mem_append.mp member with before | now
    · exact voiced.requests a before learnt
    · rw [List.mem_singleton.mp now] at learnt ⊢
      have all : (s.turn act).learnt i = (s.turn act).happened.filterMap Occurrence.features? := if_pos on
      rw [all] at learnt
      obtain ⟨f,features⟩ := List.exists_mem_of_ne_nil _ learnt
      obtain ⟨x,there,answered⟩ := List.mem_filterMap.mp features
      obtain ⟨channel,sent⟩ := Occurrence.features_channel answered
      have alone : s.turn act ∈ s.run [act] := List.mem_singleton_self _
      obtain ⟨j,input,q,-,submit,found',-,-,requests⟩ := Turn.submits_phone alone there sent
      have same : act = .submit j input := submit
      rw [same] at on
      obtain rfl : j = i := Option.some.inj on
      obtain rfl : o = q := Option.some.inj (found.symm.trans found')
      rw [phone] at requests
      exact requests

theorem Scene.Voiced.unlearnt (voiced : s.Voiced past) (missing : s.steps[i]? = none) (act : Act) :
    ∀ a ∈ past ++ [s.turn act], a.learnt i = [] :=
  List.forall_mem_append.mpr ⟨voiced.unopened i missing,List.forall_mem_singleton.mpr (learnt_missing missing act)⟩

theorem Scene.Voiced.turn (voiced : s.Voiced past) (act : Act) : (s.turn act).after.Voiced (past ++ [s.turn act]) where
  unopened := fun i missing => voiced.unlearnt (missing_before missing) act
  phones := by
    intro i x p' there phone
    cases s.still.does_evolves act there with
    | opened missing opens valid =>
      obtain ⟨voice,resending⟩ := (OpenStep.openFrom_begins valid).voice p' phone
      have nothing := voiced.unlearnt missing act
      refine ⟨?_,fun again => .inl (resending ▸ again),fun a member learnt => absurd (nothing a member) learnt⟩
      rw [List.flatMap_eq_nil_iff.mpr nothing]
      exact voice
    | left found elsewhere => exact (voiced.phones i x p' found phone).left elsewhere
    | @responded o step found on responds =>
      obtain rfl : step = .phone p' := phone
      obtain ⟨p,phone'⟩ := responds.phone
      have receiver := responds.becomes.receiver
      rw [phone'] at responds receiver
      obtain ⟨p'',same,learns⟩ := responds.learns rfl
      cases same
      exact (voiced.phones i o p found phone').responds found phone' on receiver learns

end

/-! ### Consent to calls -/

/-- Whether the step numbered `i`, a phone step, goes by these features: they were the last that it was answered with,
    or it was answered with none, and it was offered by a code step that had been offered with them. -/
inductive GoesBy (past : List (Turn γ σ)) (i : Nat) (f : Features) : Prop where
  | answered (last : (past.flatMap (·.learnt i)).getLast? = some f) : GoesBy past i f
  | handed {h j kind h' k input} (nothing : past.flatMap (·.learnt i) = []) (o : StepOpening past i .phoneNumber h)
    (back : o.origin.offer.act = .resend j) (code : StepOpening o.origin.before j kind h')
    (led : code.origin.offer.act = .submit k input) (granted : code.origin.offer.Grants f) : GoesBy past i f

/-- Whether the code was asked for again at the step numbered `i`: by the code step that has offered it, or since it
    was opened. -/
def AskedAgain (past : List (Turn γ σ)) (i : Nat) : Prop :=
  (∃ h, ∃ o : StepOpening past i .phoneNumber h, ∃ j, o.origin.offer.act = .resend j) ∨ ∃ a ∈ past, a.AsksAgain i

/-- Whether the step numbered `i` may have the code sent by a call, in the sign-in of a receiver: the service offers
    calls, the code is asked for again, and it was asked for before. -/
structure MayCall (past : List (Turn γ σ)) (i : Nat) (r : ReceiverId) : Prop where
  offered : ∃ f, GoesBy past i f ∧ f.voiceEnabled = true
  again : AskedAgain past i
  before : ∃ a ∈ past, a.Requests r

section
variable [Gateway γ] [SessionStore σ] {s : Scene γ σ} {acts : List Act} {earlier later : List (Turn γ σ)}
  {t : Turn γ σ} {i : Nat}

/-- A phone step that opens with the wish to send the code again was offered by a code step. -/
theorem StepOpening.wentBack {past rest : List (Turn γ σ)} {h : Handoff} (o : StepOpening past i .phoneNumber h)
    (split : s.run acts = past ++ rest) (again : h.resend = true ∨ h.voiceEnabled = true) :
    ∃ j x, o.origin.offer.act = .resend j ∧ o.origin.offer.before.steps[j]? = some x ∧
      x.step.handoffBack? = some h := by
  cases o.origin.offered (o.earlier_sub split) with
  | launched => rcases again with again | again <;> cases again
  | restarted => rcases again with again | again <;> cases again
  | wentBack act found back => exact ⟨_,_,act,found,back⟩
  | handed act found hands => cases hands

/-- What the service grants a phone step it was asked for. -/
theorem Turn.Grants.requests {f : Features} (granted : t.Grants f) (member : t ∈ s.run acts) {k : Nat} {input : String}
    (act : t.act = .submit k input) {q : Opened} (found : t.before.steps[k]? = some q) :
    t.Requests q.step.core.receiver := by
  have sent : ∃ o ∈ t.happened, ∃ channel, o.channel? = some channel := by
    rcases granted with ⟨number,channel,r,asked,-⟩ | ⟨number,channel,r,asked,-⟩
    · exact ⟨_,asked,channel,rfl⟩
    · exact ⟨_,asked,channel,rfl⟩
  obtain ⟨o,there,channel,sent⟩ := sent
  obtain ⟨k',input',q',-,act',found',-,-,requests⟩ := Turn.submits_phone member there sent
  rw [act] at act'
  cases act'
  rw [found] at found'
  cases found'
  exact requests

/-- A phone step that opens where calls are offered goes by the features that a code step was offered with. -/
theorem StepOpening.calls {past rest : List (Turn γ σ)} {h : Handoff} (o : StepOpening past i .phoneNumber h)
    (fresh : s.steps = []) (nothing : s.received = .stay) (follows : s.Follows acts)
    (split : s.run acts = past ++ rest) (voice : h.voiceEnabled = true) (unlearnt : past.flatMap (·.learnt i) = []) :
    (∃ f, GoesBy past i f ∧ f.voiceEnabled = true) ∧ ∃ a ∈ past, ∃ r, h.receiver = some r ∧ a.Requests r := by
  obtain ⟨j,x,back,found,handed⟩ := o.wentBack split (.inr voice)
  have split' := o.origin.run_split (o.run_split split)
  have member : o.origin.offer ∈ s.run acts := split' ▸ List.mem_append_right _ List.mem_cons_self
  obtain ⟨code⟩ := (Scene.run_traced fresh nothing follows split').opened j x found
  have faithful := Scene.run_faithful fresh member x (List.mem_of_getElem? found)
  -- What the code step hands over is what it was offered with.
  obtain ⟨receiver,-,-,offers⟩ := OpenStep.handoffBack_eq handed
  have offered := faithful.offer h.voiceEnabled offers
  rw [voice,Option.any_eq_true] at offered
  obtain ⟨f,features,calls⟩ := offered
  have kind : x.step.step = .loginCode ∨ x.step.step = .confirmationCode := by
    cases same : x.step <;> rw [same] at handed <;> cases handed
    · exact .inl rfl
    · exact .inr rfl
  have sub := code.earlier_sub split'
  obtain ⟨k,input,q,led,found',hands⟩ := code.origin.handed sub (by rcases kind with kind | kind <;> simp [kind])
  obtain ⟨p,phone⟩ := hands.phone kind
  have carried := hands.receiver
  rw [phone] at hands
  have granted := hands.granted.2.1 f features
  have requests := granted.requests (sub _ code.origin.offer_mem) led found'
  refine ⟨⟨f,.handed unlearnt o back code led granted,calls⟩,code.origin.offer,?_,q.step.core.receiver,?_,requests⟩
  · exact o.before_sub (o.origin.before_sub (code.before_sub code.origin.offer_mem))
  · rw [receiver,← faithful.receiver,carried]

/-- A code is sent by a call only where the service offers calls, when it is asked for again. In a run whose steps open
    from what was received last, it is a phone step that has it sent so, and then the features that this step goes by
    offer calls, and the code was asked for again at this step; so the first code of a sign-in is never sent by a
    call. -/
theorem calls_consented (fresh : s.steps = []) (nothing : s.received = .stay) (follows : s.Follows acts)
    (split : s.run acts = earlier ++ t :: later) {call : Occurrence} (there : call ∈ t.happened)
    (sent : call.channel? = some .voiceCall) : ∃ i input o, t.act = .submit i input ∧ t.before.steps[i]? = some o ∧
      o.step.step = .phoneNumber ∧ MayCall earlier i o.step.core.receiver := by
  have member : t ∈ s.run acts := split ▸ List.mem_append_right _ List.mem_cons_self
  obtain ⟨i,input,o,p,act,found,phone,same,-⟩ := Turn.submits_phone member there sent
  have eligible : p.resending = true ∧ p.voiceEnabled = true := by
    rw [PhoneStep.channel] at same
    split at same
    · rename_i both
      simpa using both
    · cases same
  have voiced : t.before.Voiced earlier := Scene.run_always (I := fun past s => s.Voiced past)
    (fun _ _ act voiced => voiced.turn act) ⟨by simp,by simp [fresh]⟩ split
  obtain ⟨voice,resending,requests⟩ := voiced.phones i o p found phone
  obtain ⟨opening⟩ := (Scene.run_traced fresh nothing follows split).opened i o found
  rw [phone] at opening
  have carried := (Scene.run_faithful fresh member o (List.mem_of_getElem? found)).receiver
  have receiver : o.step.core.receiver = p.core.receiver := by rw [phone]; rfl
  have again : AskedAgain earlier i := by
    rcases resending eligible.1 with handed | asks
    · obtain ⟨j,x,back,-⟩ := opening.wentBack split (.inl handed)
      exact .inl ⟨_,opening,j,back⟩
    · exact .inr asks
  have offered : (∃ f, GoesBy earlier i f ∧ f.voiceEnabled = true) ∧
      ∃ a ∈ earlier, a.Requests o.step.core.receiver := by
    rw [eligible.2] at voice
    by_cases unlearnt : earlier.flatMap (·.learnt i) = []
    · rw [unlearnt] at voice
      obtain ⟨goesBy,a,before,r,same,requests⟩ := opening.calls fresh nothing follows split voice.symm unlearnt
      rw [carried] at same
      exact ⟨goesBy,a,before,Option.some.inj same ▸ requests⟩
    · obtain ⟨f,last⟩ := Option.isSome_iff_exists.mp (List.getLast?_isSome.mpr unlearnt)
      rw [offersVoice,last] at voice
      obtain ⟨f',learnt⟩ := List.exists_mem_of_ne_nil _ unlearnt
      obtain ⟨a,before,learnt⟩ := List.mem_flatMap.mp learnt
      exact ⟨⟨f,.answered last,voice.symm⟩,a,before,receiver ▸ requests a before (List.ne_nil_of_mem learnt)⟩
  exact ⟨i,input,o,act,found,by rw [phone]; rfl,offered.1,again,offered.2⟩

end

/-- A carrier cannot deliver the text message, so the user is called. -/
theorem uncarried_called :
    let run := (Scene.scripted
      { authenticateDevice := [.error (.unsupportedCarrier "m" { voiceEnabled := true }),
          .ok { requestId := "r", userId := 7 }] }).run
      [.start ⟨1,"",false⟩,.openStep .phoneNumber { receiver := some 0, phoneNumber := some "" },.submit 0 "5",
        .submit 0 "5"]
    run[3].happened.filterMap Occurrence.channel? = [.voiceCall] ∧ MayCall (run.take 3) 0 0 := by
  intro run
  have channels : run[3].happened.filterMap Occurrence.channel? = [.voiceCall] := by decide +kernel
  have split : run = run.take 3 ++ run[3] :: run.drop 4 := rfl
  obtain ⟨call,there,sent⟩ := List.mem_filterMap.mp (channels ▸ List.mem_singleton_self Channel.voiceCall)
  obtain ⟨i,input,o,act,found,-,may⟩ := calls_consented rfl rfl (by decide +kernel) split there sent
  obtain ⟨rfl,-⟩ := Act.submit.inj act
  have receiver : run[3].before.steps[0]?.map (·.step.core.receiver) = some 0 := by decide +kernel
  rw [found] at receiver
  exact ⟨channels,Option.some.inj receiver ▸ may⟩

/-- A step that was left behind goes by what it was opened with. Here the service stops to offer calls when the code is
    sent again; then the user goes back from the first code step, and is called. -/
theorem left_step_calls :
    let run := (Scene.scripted
      { authenticateDevice := [.ok { requestId := "r1", userId := 7, features := some { voiceEnabled := true } },
          .ok { requestId := "r2", userId := 8, features := some { voiceEnabled := false } },
          .ok { requestId := "r3", userId := 9 }] }).run
      [.start ⟨1,"",false⟩,.openStep .phoneNumber { receiver := some 0, phoneNumber := some "" },.submit 0 "5",
        .openStep .loginCode
          { receiver := some 0, phoneNumber := some "+15", requestId := some "r1", userId := some 7,
            features := some { voiceEnabled := true } },
        .phoneResend 0,.submit 0 "5",.resend 1,
        .openStep .phoneNumber { receiver := some 0, phoneNumber := some "+15", resend := true, voiceEnabled := true },
        .submit 2 "5"]
    (∀ t ∈ run, t.Follows) ∧
      ((run.take 8).flatMap fun t => t.happened.filterMap Occurrence.features?).getLast? =
        some { voiceEnabled := false } ∧
      run[8].happened.filterMap Occurrence.channel? = [.voiceCall] := by
  decide +kernel

end PhoneSignIn.Flow
