import PhoneSignIn.Proofs.Flow.Orderly

/-!
What a failure means. A sign-in tells of a failure when its failure screen is dismissed, and nothing that
was done before has used its receiver up. So every session that it has made active by then was made
active by a step that went on to ask for an email address, and a user is signed in who is told of as
failed exactly when the last of those sessions is a user's (`failure_told_iff`). The email step can fail
after that (`failure_after_email_request`).
-/
namespace PhoneSignIn.Flow

variable {γ σ : Type}

section
variable [SessionStore σ] {t : Turn γ σ} {r : ReceiverId}

/-- An orderly turn that tells of a failure makes no session active, and tells through the receiver that
    the sign-in carries. -/
theorem Turn.Ends.failure (ends : t.Ends) (carries : t.before.Carries r) {host : HostId} {message : String}
    (told : .delivered (.failure host message) ∈ t.happened) : t.kept = [] ∧ t.told r ≠ [] := by
  have outcome := Turn.mem_outcomes told rfl
  cases ends with
  | unkept kept holds dismissed =>
    obtain ⟨_,_,i,f,-,act,found⟩ := dismissed _ outcome
    have carried : t.carrier? = some r := by
      have receiver := carries.screens f (List.mem_of_getElem? found)
      simp [Turn.carrier?,act,found,receiver]
    refine ⟨kept,?_⟩
    rw [Turn.told,if_pos carried]
    exact List.ne_nil_of_mem outcome
  | kept act found reply happened plain after source held told =>
    obtain ⟨_,_,success⟩ := Turn.told_one happened plain told _ outcome
    cases success

/-- An orderly turn that makes a session active asks for an email address, or signs the user in and uses
    up the receiver that the sign-in carries. -/
theorem Turn.Ends.asks_or_brings (ends : t.Ends) (carries : t.before.Carries r) (kept : t.kept ≠ []) :
    (∃ h, t.reply = .moved (.next .email h)) ∨ t.brings r = true := by
  cases ends with
  | unkept nothing => exact absurd nothing kept
  | @kept i input o session l rest act found reply =>
    rcases reply with signedIn | asks
    · have receiver := carries.steps o (List.mem_of_getElem? found)
      have arrival : t.arrival? = some (r,successCode) := by
        simp [Turn.arrival?,Turn.carrier?,act,signedIn,found,receiver]
      exact .inr (by simp [Turn.brings,arrival,isOutcome])
    · exact .inl asks

end

section
variable [Gateway γ] [SessionStore σ]

/-- What a launched sign-in can go on with carries the receiver of its handoff, where nothing was open
    before. -/
theorem Scene.launched_carries {s : Scene γ σ} (noStep : s.steps = []) (noScreen : s.screens = [])
    {config : SignInRequest} {h : Handoff} {r : ReceiverId}
    (launched : (s.turn (.start config)).reply = .launched h) (carried : h.receiver = some r) :
    (s.turn (.start config)).after.Carries r := by
  obtain ⟨result,w',-,-,opens⟩ := s.still.start_does config
  have after : (s.turn (.start config)).after = _ := (opens h launched).2
  rw [after]
  exact ⟨⟨by simp [Scene.still,noScreen],carried⟩,by simp [Scene.still,noStep]⟩

variable [LawfulStore σ]

/-- A launched sign-in that is done in order, over a lawful store and with nothing open before it, tells of
    a failure only if every step that has made a session active went on to ask for an email address. A
    user is signed in then, whom the failure is told of, exactly when the last of those sessions is a
    user's. -/
theorem failure_told_iff (scene : Scene γ σ) (noStep : scene.steps = []) (noScreen : scene.screens = [])
    {config : SignInRequest} {h : Handoff} (launched : (scene.turn (.start config)).reply = .launched h)
    {acts : List Act} (orderly : (scene.turn (.start config)).after.Orderly acts) {earlier later : List (Turn γ σ)}
    {t : Turn γ σ} (split : (scene.turn (.start config)).after.run acts = earlier ++ t :: later) {host : HostId}
    {message : String} (told : .delivered (.failure host message) ∈ t.happened) :
    (∀ e ∈ earlier, e.kept ≠ [] → ∃ h, e.reply = .moved (.next .email h)) ∧
    ((∃ session, Holds t.after.world.store (some session) ∧ session.isGuest = false) ↔
      ∃ session, (earlier.flatMap Turn.kept).getLast? = some session ∧ session.isGuest = false) := by
  obtain ⟨r,carried,found⟩ := launched_receiver launched
  have carries := Scene.launched_carries noStep noScreen launched carried
  have inRun : ∀ e ∈ earlier ++ t :: later, e.Ends ∧ e.before.Carries r := by
    intro e member
    rw [← split] at member
    exact ⟨Scene.run_ends orderly member,Scene.run_carries orderly carries member⟩
  obtain ⟨ends,carriesBefore⟩ := inRun t (by simp)
  obtain ⟨unkept,throughIt⟩ := ends.failure carriesBefore told
  constructor
  · intro e member kept
    obtain ⟨ends',carries'⟩ := inRun e (List.mem_append_left _ member)
    rcases ends'.asks_or_brings carries' kept with asks | brings
    · exact asks
    · -- A receiver that has been used up tells nothing more.
      obtain ⟨-,⟨-,unused⟩,-⟩ := (run_told_iff found split).mp throughIt
      rw [unused e member] at brings
      cases brings
  · obtain ⟨active,held,guest⟩ := Scene.launched_guest launched
    have now := ends.holds (Scene.run_holds held orderly split)
    rw [unkept,List.getLast?_nil,Option.none_or] at now
    constructor
    · rintro ⟨session,holds,user⟩
      have same := now.unique holds
      cases last : (earlier.flatMap Turn.kept).getLast? with
      | none =>
        rw [last,Option.none_or] at same
        rw [guest session same] at user
        cases user
      | some kept =>
        rw [last,Option.some_or] at same
        obtain rfl := Option.some.inj same
        exact ⟨kept,rfl,user⟩
    · rintro ⟨session,last,user⟩
      rw [last] at now
      exact ⟨session,now,user⟩

end

/-- A number that the service refuses: the failure is told of when no session is held. -/
theorem refused_number_told :
    let acts : List Act :=
      [.openStep .phoneNumber { receiver := some 0, phoneNumber := some "" },.submit 0 "5",
        .openFailure { receiver := 0, reason := .fatal "gone" },.dismiss 0]
    let begun := (Scene.scripted { authenticateDevice := [.error (.fatal "gone")] }).turn (.start ⟨1,"",false⟩)
    ∃ t ∈ begun.after.run acts, t.outcomes = [.failure 1 "gone"] ∧
      ¬ ∃ session, Holds t.after.world.store (some session) ∧ session.isGuest = false := by
  intro acts begun
  have dismissed : ∃ t ∈ begun.after.run acts, t.outcomes = [.failure 1 "gone"] := by decide +kernel
  have unkept : ∀ e ∈ begun.after.run acts, e.kept = [] := by decide +kernel
  obtain ⟨t,member,outcomes⟩ := dismissed
  obtain ⟨earlier,later,split⟩ := List.append_of_mem member
  have told := Turn.delivered_of_outcomes (t := t) (d := .failure 1 "gone") (by simp [outcomes])
  obtain ⟨-,signedIn⟩ := failure_told_iff _ rfl rfl rfl (by decide +kernel) split told
  have nothing : earlier.flatMap Turn.kept = [] :=
    List.flatMap_eq_nil_iff.mpr fun e before => unkept e (split ▸ List.mem_append_left _ before)
  refine ⟨t,member,outcomes,?_⟩
  rw [signedIn,nothing]
  rintro ⟨session,last,-⟩
  cases last

/-- An address that the service refuses after a login: the failure is told of to a user who is signed in.
    So not every failure is told of when no user's session is held. -/
theorem failure_after_email_request :
    ¬ ∀ (gateway : GatewayScript) (config : SignInRequest) (h : Handoff) (acts : List Act),
      let begun := (Scene.scripted gateway).turn (.start config)
      begun.reply = .launched h → begun.after.Orderly acts → ∀ t ∈ begun.after.run acts, ∀ host message,
        .delivered (.failure host message) ∈ t.happened →
          ¬ ∃ session, Holds t.after.world.store (some session) ∧ session.isGuest = false := by
  intro signedOut
  let gateway : GatewayScript :=
    { authenticateDevice := [.ok { requestId := "r", userId := 7, features := some { emailEnabled := true } }]
      verifyCode := [.ok { token := some "t", secret := some "s", userId := 7 }]
      verifyAccount := [.ok { authToken := ⟨"t","s"⟩, userId := 7, phoneNumber := "+15", email := none }]
      submitEmail := [.error (.fatal "gone")] }
  let acts : List Act :=
    [.openStep .phoneNumber { receiver := some 0, phoneNumber := some "", wantsEmail := true },.submit 0 "5",
      .openStep .loginCode
        { receiver := some 0, phoneNumber := some "+15", requestId := some "r", userId := some 7,
          features := some { emailEnabled := true }, wantsEmail := true },.submit 1 "9",
      .openStep .email { receiver := some 0, phoneNumber := some "+15", wantsEmail := true },.submit 2 "a@b.c",
      .openFailure { receiver := 0, reason := .fatal "gone" },.dismiss 0]
  let session := Session.ofCredentials { token := some "t", secret := some "s", userId := 7 } "+15"
  have dismissed : ∃ t ∈ ((Scene.scripted gateway).turn (.start ⟨1,"",true⟩)).after.run acts,
      t.outcomes = [.failure 1 "gone"] ∧ t.after.world.store.active = some session := by decide +kernel
  obtain ⟨t,member,outcomes,held⟩ := dismissed
  have told := Turn.delivered_of_outcomes (t := t) (d := .failure 1 "gone") (by simp [outcomes])
  refine signedOut gateway ⟨1,"",true⟩ _ acts rfl (by decide +kernel) t member 1 "gone" told ?_
  exact ⟨session,MemoryStore.holds_iff.mpr held,rfl⟩

end PhoneSignIn.Flow
