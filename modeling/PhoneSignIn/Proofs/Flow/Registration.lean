import PhoneSignIn.Proofs.Flow.Activity
import PhoneSignIn.Proofs.Gateway.Classification

/-!
How a phone step has a code sent. It asks for a login first, and once. The answer that the device is unknown is no
error: it is neither counted nor shown nor recorded, and the number is registered, once, in the same submit. Any error
of the registration is an error like another, whatever it says of the device or of calls. This ends in four ways
(`PhoneStep.Enrols`), and these are all (`Submits.enrols`).
-/
namespace PhoneSignIn.Flow

variable {γ σ : Type}

/-- The journal's record of an error that a step answers with a move. -/
def StepState.noted (c : StepState) (m : Move) (e : CallError) : Occurrence :=
  .recorded ⟨c.step.component,if m = .stay then .ofError e else .failure⟩

theorem StepState.noted_plain (c : StepState) (m : Move) (e : CallError) : (c.noted m e).Plain :=
  .recorded c.step.component_ne

theorem StepState.Answers.noted {c c' : StepState} {e : CallError} {m : Move} {l : List Occurrence}
    (answer : c.Answers e m c' l) : l = [c.noted m e] := by
  cases answer <;> rfl

/-- An error that is reported last is recorded, and nothing else happens. -/
theorem Concludes.of_report [SessionStore σ] {c c' : StepState} {w w' : World γ σ} {e : CallError} {m : Move}
    (ends : Concludes c w (.report e) m c' w') : w' = w.advance w.gateway w.store [c.noted m e] := by
  cases ends with
  | reported answer => rw [answer.noted]
  | unkept keeps => rcases keeps with keeps | keeps <;> cases keeps

theorem Concludes.of_handOver [SessionStore σ] {c c' : StepState} {w w' : World γ σ} {step : Step} {h : Handoff}
    {m : Move} (ends : Concludes c w (.handOver step h) m c' w') : m = .next step h ∧ w' = w := by
  cases ends with
  | handedOver => exact ⟨rfl,rfl⟩
  | unkept keeps => rcases keeps with keeps | keeps <;> cases keeps

/-- How a phone step has a code sent to a number, and the step then: the errors that it meets, what happens, and the
    move. -/
inductive PhoneStep.Enrols (p : PhoneStep) (number : String) (p' : PhoneStep) :
    List CallError → List Occurrence → Move → Prop where
  | loginStarted {r h} : Enrols p number p' []
    [p.attempt,.asked (.authenticateDevice number p.channel) (.ok r),p.core.succeeded] (.next .loginCode h)
  | loginRefused {e m} (known : e.errorClass ≠ .unknownDevice) : Enrols p number p' [e]
    [p.attempt,.asked (.authenticateDevice number p.channel) (.error e),p.core.noted m e] m
  | registered {reason r h} : Enrols p number p' []
    [p.attempt,.asked (.authenticateDevice number p.channel) (.error (.unknownDevice reason)),
      .asked (.registerDevice number p.channel) (.ok r),p.core.succeeded] (.next .confirmationCode h)
  | registrationRefused {reason e m} (voice : p'.voiceEnabled = p.voiceEnabled)
    (resending : p'.resending = p.resending) : Enrols p number p' [e]
    [p.attempt,.asked (.authenticateDevice number p.channel) (.error (.unknownDevice reason)),
      .asked (.registerDevice number p.channel) (.error e),p.core.noted m e] m

section
variable {p p' : PhoneStep} {number : String} {es : List CallError} {l : List Occurrence} {m : Move}

/-- The errors that are met are those of the history; the answer that the device is unknown is none of them. -/
theorem PhoneStep.Enrols.errors (enrols : p.Enrols number p' es l m) : errors l = es := by
  have attempted := p.attempt_error
  have plain : ∀ o ∈ l, o.Plain := by
    cases enrols <;>
      simp [p.attempt_plain,p.core.succeeded_plain,p.core.noted_plain,Occurrence.Plain.asked]
  rw [errors_of_unkept fun o member => (plain o member).keeps_none.1]
  cases enrols with
  | loginRefused known =>
    rw [List.filterMap_cons_none attempted,List.filterMap_cons_some (Occurrence.refused_error known)]
    rfl
  | _ =>
    rw [List.filterMap_cons_none attempted]
    rfl

/-- A number is registered right after the answer that its device is unknown. -/
theorem PhoneStep.Enrols.paired (enrols : p.Enrols number p' es l m) {before after : List Occurrence} {n : String}
    {channel : Channel} {answer : Except CallError Registration}
    (split : l = before ++ .asked (.registerDevice n channel) answer :: after) :
    ∃ earlier reason,
      before = earlier ++ [.asked (.authenticateDevice n channel) (.error (.unknownDevice reason))] := by
  have attempt_ne : p.attempt ≠ .asked (.registerDevice n channel) answer := by
    intro same
    have called := p.attempt_call
    rw [same] at called
    cases called
  cases enrols with
  | loginStarted =>
    rcases before with _ | ⟨_,_ | ⟨_,_ | ⟨_,_⟩⟩⟩ <;> simp [StepState.succeeded,attempt_ne] at split
  | loginRefused =>
    rcases before with _ | ⟨_,_ | ⟨_,_ | ⟨_,_⟩⟩⟩ <;> simp [StepState.noted,attempt_ne] at split
  | registered =>
    rcases before with _ | ⟨_,_ | ⟨_,_ | ⟨_,_ | ⟨_,_⟩⟩⟩⟩ <;> simp [StepState.succeeded,attempt_ne] at split
    obtain ⟨rfl,rfl,⟨⟨rfl,rfl⟩,-⟩,-⟩ := split
    exact ⟨[p.attempt],_,rfl⟩
  | registrationRefused =>
    rcases before with _ | ⟨_,_ | ⟨_,_ | ⟨_,_ | ⟨_,_⟩⟩⟩⟩ <;> simp [StepState.noted,attempt_ne] at split
    obtain ⟨rfl,rfl,⟨⟨rfl,rfl⟩,-⟩,-⟩ := split
    exact ⟨[p.attempt],_,rfl⟩

end

/-- A phone step that accepts what the user sends has a code sent in one of these ways. -/
theorem Submits.enrols [SessionStore σ] {p : PhoneStep} {o' : OpenStep} {input : String} {w w' : World γ σ} {m : Move}
    (submits : Submits (.phone p) input w m o' w') (accepted : (OpenStep.phone p).accepts input = true)
    (empty : w.history = []) : ∃ p', o' = .phone p' ∧
      p.Enrols (PhoneStep.fullNumber p.countryCode (Text.trim input)) p' (errors w'.history) w'.history m := by
  cases submits with
  | ignored rest =>
    rw [accepted] at rest
    cases rest
  | @went s' l g st fin m c' w' accepted course ends =>
    have kept := course.keeps.step
    cases course with
    | @phone _ p' l _ sends =>
      -- The errors of the course are recorded as those of the step.
      have reported {e : CallError} (last : fin = .report e) :
          w'.history = p.attempt :: l ++ [p.core.noted m e] := by
        subst last
        rw [ends.of_report,World.advance_history,World.advance_history,empty]
        have kind : p'.core.step = p.core.step := kept
        simp [StepState.noted,OpenStep.core,kind]
      have handed {step : Step} {h : Handoff} (last : fin = .handOver step h) :
          m = .next step h ∧ w'.history = p.attempt :: l := by
        subst last
        obtain ⟨moved,same⟩ := ends.of_handOver
        refine ⟨moved,?_⟩
        rw [same,World.advance_history,empty]
        rfl
      have enrols : ∃ es, p.Enrols (PhoneStep.fullNumber p.countryCode (Text.trim input)) { p' with core := c' } es
          w'.history m := by
        cases sends with
        | refused e known => exact ⟨[e],reported rfl ▸ .loginRefused known⟩
        | carrierRefused reason f =>
          have known : (CallError.unsupportedCarrier reason f).errorClass ≠ .unknownDevice := by
            simp [CallError.errorClass]
          exact ⟨[.unsupportedCarrier reason f],reported rfl ▸ .loginRefused known⟩
        | loginStarted r =>
          obtain ⟨rfl,history⟩ := handed rfl
          exact ⟨[],history ▸ .loginStarted⟩
        | registrationRefused reason e => exact ⟨[e],reported rfl ▸ .registrationRefused rfl rfl⟩
        | registered reason r =>
          obtain ⟨rfl,history⟩ := handed rfl
          exact ⟨[],history ▸ .registered⟩
      obtain ⟨es,enrols⟩ := enrols
      exact ⟨{ p' with core := c' },rfl,enrols.errors.symm ▸ enrols⟩

section
variable [Gateway γ] [SessionStore σ] {s : Scene γ σ}

/-- In a run a phone step that accepts what the user sends settles, and has a code sent. -/
theorem Turn.enrols {acts : List Act} {t : Turn γ σ} (fresh : s.steps = []) (member : t ∈ s.run acts) {i : Nat}
    {input : String} {o : Opened} {p : PhoneStep} (act : t.act = .submit i input) (found : t.before.steps[i]? = some o)
    (phone : o.step = .phone p) (accepted : o.step.accepts input = true) :
    ∃ p' m, t.after.steps[i]? = some { o with step := .phone p' } ∧ t.reply = .moved m ∧
      (OpenStep.phone p).Settles (.phone p') (t.met i) (.moved m) ∧
      p.Enrols (PhoneStep.fullNumber p.countryCode (Text.trim input)) p' (t.met i) t.happened m := by
  obtain ⟨past,later,split⟩ := List.append_of_mem member
  have kind := (Scene.run_poised fresh split i o found).kind
  have turn := Scene.run_turn member
  rw [act] at turn
  obtain ⟨m,step,submits,-,reply,after⟩ := Scene.submit_turn found input
  rw [← turn] at submits reply after
  rw [phone] at submits accepted kind
  have met : t.met i = errors t.after.world.history := if_pos (by rw [act]; rfl)
  have settles := submits.settles accepted kind rfl
  obtain ⟨p',rfl,enrols⟩ := submits.enrols accepted rfl
  exact ⟨p',m,after,reply,met ▸ settles,met ▸ enrols⟩

/-- A step that has registered a number has accepted what the user sent, and is a phone step. -/
theorem Turn.registers_phone {acts : List Act} {t : Turn γ σ} (member : t ∈ s.run acts) {number : String}
    {channel : Channel} {answer : Except CallError Registration}
    (asked : .asked (.registerDevice number channel) answer ∈ t.happened) : ∃ i input o p, t.act = .submit i input ∧
      t.before.steps[i]? = some o ∧ o.step = .phone p ∧ o.step.accepts input = true := by
  have called : .registerDevice number channel ∈ t.happened.filterMap Occurrence.call? :=
    List.mem_filterMap.mpr ⟨_,asked,rfl⟩
  obtain ⟨i,input,o,m,step,act,found,-,submits⟩ := Turn.submits_of_call member (by simp) called
  obtain ⟨p,phone⟩ := (submits.calls rfl called).registration_phone
  refine ⟨i,input,o,p,act,found,phone,?_⟩
  rw [Turn.happened] at asked
  generalize t.after.world = w' at submits asked
  cases submits with
  | ignored => cases asked
  | went accepted => exact accepted

/-- In every run a number is registered only in a submit of a phone step, right after the service has answered that the
    device of that number is unknown when it was asked for a login by the same channel. A phone step that accepts what
    the user sends asks for a login once and registers the number at most once; it goes on to the code of a login only
    where the login was started, and to that of a registration only where the number was registered. That the device is
    unknown is no error of the step, and any error of a registration is one, which changes neither whether calls are
    offered nor whether the code is sent again. -/
theorem registration_paired {acts : List Act} {t : Turn γ σ} (fresh : s.steps = []) (member : t ∈ s.run acts) :
    (∀ before number channel answer after,
      t.happened = before ++ .asked (.registerDevice number channel) answer :: after →
      (∃ i input o p, t.act = .submit i input ∧ t.before.steps[i]? = some o ∧ o.step = .phone p) ∧
      ∃ earlier reason,
        before = earlier ++ [.asked (.authenticateDevice number channel) (.error (.unknownDevice reason))]) ∧
    ∀ i input o p, t.act = .submit i input → t.before.steps[i]? = some o → o.step = .phone p →
      o.step.accepts input = true → ∃ p' m, t.after.steps[i]? = some { o with step := .phone p' } ∧ t.reply = .moved m ∧
        (OpenStep.phone p).Settles (.phone p') (t.met i) (.moved m) ∧
        p.Enrols (PhoneStep.fullNumber p.countryCode (Text.trim input)) p' (t.met i) t.happened m := by
  refine ⟨fun before number channel answer after happened => ?_,
    fun i input o p act found phone accepted => Turn.enrols fresh member act found phone accepted⟩
  have asked : .asked (.registerDevice number channel) answer ∈ t.happened :=
    happened ▸ List.mem_append_right _ List.mem_cons_self
  obtain ⟨i,input,o,p,act,found,phone,accepted⟩ := Turn.registers_phone member asked
  obtain ⟨p',m,-,-,-,enrolled⟩ := Turn.enrols fresh member act found phone accepted
  exact ⟨⟨i,input,o,p,act,found,phone⟩,enrolled.paired happened⟩

end

/-- The service does not know a device, and the registration fails because the carrier delivers no text messages. That
    is told to the user, who is not called for it. -/
theorem refused_registration_told :
    let run := (Scene.scripted
      { authenticateDevice := [.error (.unknownDevice "m")]
        registerDevice := [.error (.unsupportedCarrier "n" { voiceEnabled := true })] }).run
      [.start ⟨1,"",false⟩,.openStep .phoneNumber { receiver := some 0, phoneNumber := some "" },.submit 0 "5"]
    ∃ o p p', run[2].before.steps[0]? = some o ∧ o.step = .phone p ∧ o.step.accepts "5" = true ∧
      run[2].after.steps[0]? = some { o with step := .phone p' } ∧
      (OpenStep.phone p).Settles (.phone p') [.unsupportedCarrier "n" { voiceEnabled := true }] (.moved .stay) ∧
      p.Enrols "+15" p' [.unsupportedCarrier "n" { voiceEnabled := true }] run[2].happened .stay := by
  intro run
  obtain ⟨o,p,found,phone,accepted,number⟩ : ∃ o p, run[2].before.steps[0]? = some o ∧ o.step = .phone p ∧
      o.step.accepts "5" = true ∧ PhoneStep.fullNumber p.countryCode (Text.trim "5") = "+15" :=
    ⟨_,_,rfl,rfl,by decide +kernel,by decide +kernel⟩
  have met : run[2].met 0 = [.unsupportedCarrier "n" { voiceEnabled := true }] := by decide +kernel
  have stays : run[2].reply = .moved .stay := rfl
  have member : run[2] ∈ run := List.getElem_mem _
  obtain ⟨-,submitted⟩ := registration_paired rfl member
  obtain ⟨p',m,after,reply,settles,enrols⟩ := submitted 0 "5" o p rfl found phone accepted
  obtain rfl : .stay = m := Reply.moved.inj (stays.symm.trans reply)
  rw [number,met] at enrols
  rw [met] at settles
  exact ⟨o,p,p',found,phone,accepted,after,settles,enrols⟩

end PhoneSignIn.Flow
