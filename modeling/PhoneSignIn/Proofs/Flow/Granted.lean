import PhoneSignIn.Proofs.Flow.Orderly

/-!
What the sessions of a sign-in are worth. A step keeps what the last answer of the service grants as it
is, and the email step keeps the active session of a user again, so nothing but those answers decides
whether the sessions that a sign-in makes active, or tells of, are usable (`usable_iff_granted`). The
code step alone looks at the credentials before it takes them: a pin that is answered with no credentials
signs a guest in (`pin_grants_nothing`).
-/
namespace PhoneSignIn

/-- Whether credentials are those of a user and none of them is blank. -/
structure Grant.Usable (g : Grant) : Prop where
  user : g.userId ≠ guestId
  token : g.authToken.token ≠ ""
  secret : g.authToken.secret ≠ ""

/-- Whether a session is that of a user whose credentials can be used. -/
def Session.Usable (s : Session) : Prop := s.grant.Usable

end PhoneSignIn

namespace PhoneSignIn.Flow

variable {γ σ : Type}

/-- What the answers of a turn grant to the session that the turn makes active. -/
def Turn.granted? (t : Turn γ σ) : Option Grant :=
  if t.kept.isEmpty then none else (t.happened.filterMap Occurrence.grant?).getLast?

/-- Whether the sessions that a turn makes active, and those that it tells of, are usable. -/
structure Turn.Usable (t : Turn γ σ) : Prop where
  kept : ∀ session ∈ t.kept, session.Usable
  told : ∀ host session n, .delivered (.success host session n) ∈ t.happened → session.Usable

/-! ### One turn -/

/-- A session that a turn makes active, and what the turn's answers grant it. -/
theorem Turn.granted_one {t : Turn γ σ} {session : Session} {l rest : List Occurrence}
    (happened : t.happened = l ++ .wrote session (.ok ()) :: rest) (plain : ∀ x ∈ l, x.Plain)
    (after : ∀ x ∈ rest, x.write? = none ∧ x.grant? = none) :
    t.granted? = (l.filterMap Occurrence.grant?).getLast? := by
  have nothing : rest.filterMap Occurrence.grant? = [] :=
    List.filterMap_eq_nil_iff.mpr fun x member => (after x member).2
  have grants : t.happened.filterMap Occurrence.grant? = l.filterMap Occurrence.grant? := by
    rw [happened,List.filterMap_append,List.filterMap_cons_none rfl,nothing,List.append_nil]
  rw [Turn.granted?,Turn.kept_one happened plain after,grants]
  rfl

section
variable [SessionStore σ]

/-- Whether the user of a store, if it holds one, has a usable session. -/
def Scene.Trusted (s : Scene γ σ) : Prop :=
  ∃ active, Holds s.world.store active ∧ ∀ session ∈ active, session.isGuest = false → session.Usable

/-- The sessions of an orderly turn are usable exactly when what its answers grant them is. -/
theorem Turn.Ends.usable_iff {t : Turn γ σ} (ends : t.Ends) (trusted : t.before.Trusted) :
    t.Usable ↔ ∀ g ∈ t.granted?, g.Usable := by
  cases ends with
  | unkept kept holds told =>
    have nothing : t.granted? = none := by rw [Turn.granted?,kept]; rfl
    rw [nothing]
    constructor
    · intro usable g granted
      cases granted
    · intro _
      refine ⟨by simp [kept],?_⟩
      intro host session n delivered
      obtain ⟨_,_,_,_,failure,-⟩ := told _ (Turn.mem_outcomes delivered rfl)
      cases failure
  | @kept i input o session l rest act found reply happened plain after source held told =>
    -- All that the turn keeps or tells of is the one session that it has written.
    have one : t.Usable ↔ session.Usable := by
      have kept := Turn.kept_one happened plain after
      constructor
      · intro usable
        exact usable.kept session (by simp [kept])
      · intro usable
        refine ⟨by simp [kept,usable],?_⟩
        intro host session' n delivered
        obtain ⟨_,_,success⟩ := Turn.told_one happened plain told _ (Turn.mem_outcomes delivered rfl)
        cases success
        exact usable
    rw [one,Turn.granted_one happened plain after]
    cases source with
    | granted last =>
      rw [last]
      simp [Session.Usable]
    | active nothing answer user =>
      -- The email step keeps the session again that the store has answered with.
      obtain ⟨active,before,usable⟩ := trusted
      have same : active = some session := Except.ok.inj ((congrArg Prod.fst before).symm.trans answer)
      have kept : session.Usable := usable session (by simp [same]) user
      simp [nothing,kept]

/-- After a turn whose sessions are usable the user of the store has a usable session. -/
theorem Turn.Ends.trusted {t : Turn γ σ} (ends : t.Ends) (trusted : t.before.Trusted) (usable : t.Usable) :
    t.after.Trusted := by
  obtain ⟨active,held,before⟩ := trusted
  refine ⟨_,ends.holds held,?_⟩
  intro session member user
  cases last : t.kept.getLast? with
  | none =>
    rw [last] at member
    exact before session member user
  | some kept =>
    rw [last] at member
    obtain rfl : kept = session := Option.some.inj member
    exact usable.kept kept (List.mem_of_getLast? last)

end

/-! ### Whole runs -/

section
variable [Gateway γ] [SessionStore σ] [LawfulStore σ]

/-- In an orderly run all sessions are usable exactly when all that is granted to them is. -/
theorem run_usable_iff {s : Scene γ σ} (trusted : s.Trusted) {acts : List Act} (orderly : s.Orderly acts) :
    (∀ t ∈ s.run acts, t.Usable) ↔ ∀ t ∈ s.run acts, ∀ g ∈ t.granted?, g.Usable := by
  -- What each turn keeps is trusted before the next, whichever of the two is known of all turns.
  have before {P : Turn γ σ → Prop} (usable : ∀ t, t.Ends → t.before.Trusted → P t → t.Usable)
      (all : ∀ t ∈ s.run acts, P t) {t : Turn γ σ} (member : t ∈ s.run acts) : t.before.Trusted := by
    refine Scene.run_before (P := fun t => t.Orderly ∧ P t) (fun s act trusted known => ?_) trusted
      (fun t member => ⟨orderly t member,all t member⟩) member
    have ends := Scene.turn_ends known.1
    exact ends.trusted trusted (usable _ ends trusted known.2)
  constructor
  · intro usable t member
    have trusted := before (P := Turn.Usable) (fun _ _ _ usable => usable) usable member
    exact ((Scene.run_ends orderly member).usable_iff trusted).mp (usable t member)
  · intro granted t member
    have trusted := before (P := fun t => ∀ g ∈ t.granted?, g.Usable)
      (fun _ ends trusted granted => (ends.usable_iff trusted).mpr granted) granted member
    exact ((Scene.run_ends orderly member).usable_iff trusted).mpr (granted t member)

/-- In a launched sign-in that is done in order, over a lawful store, the sessions that steps make active
    and those that the host is told of are usable, all of them, exactly when each answer of the service
    that such a session is made of grants usable credentials. -/
theorem usable_iff_granted (scene : Scene γ σ) {config : SignInRequest} {h : Handoff}
    (launched : (scene.turn (.start config)).reply = .launched h) {acts : List Act}
    (orderly : (scene.turn (.start config)).after.Orderly acts) :
    (∀ t ∈ (scene.turn (.start config)).after.run acts, (∀ session ∈ t.kept, session.Usable) ∧
        ∀ host session n, .delivered (.success host session n) ∈ t.happened → session.Usable) ↔
      ∀ t ∈ (scene.turn (.start config)).after.run acts, ∀ g ∈ t.granted?, g.Usable := by
  have trusted : (scene.turn (.start config)).after.Trusted := by
    obtain ⟨active,held,guest⟩ := Scene.launched_guest launched
    refine ⟨active,held,?_⟩
    intro session member user
    rw [guest session member] at user
    cases user
  rw [← run_usable_iff trusted orderly]
  constructor
  · intro usable t member
    exact ⟨(usable t member).1,(usable t member).2⟩
  · intro usable t member
    exact ⟨(usable t member).kept,(usable t member).told⟩

end

/-- A code that is answered with credentials: the login keeps one session, and it is usable. -/
theorem login_usable :
    let scene := Scene.scripted
      { authenticateDevice := [.ok { requestId := "r", userId := 7 }]
        verifyCode := [.ok { token := some "t", secret := some "s", userId := 7 }] }
    let run := (scene.turn (.start ⟨1,"",false⟩)).after.run Act.logIn.tail
    (∀ t ∈ run, (∀ session ∈ t.kept, session.Usable) ∧
      ∀ host session n, .delivered (.success host session n) ∈ t.happened → session.Usable) ∧
    run.flatMap Turn.kept = [.ofCredentials { token := some "t", secret := some "s", userId := 7 } "+15"] := by
  intro scene run
  have launched : (scene.turn (.start ⟨1,"",false⟩)).reply =
      .launched { receiver := some 0, phoneNumber := some "" } := rfl
  have orderly : (scene.turn (.start ⟨1,"",false⟩)).after.Orderly Act.logIn.tail := by decide +kernel
  have kept : run.flatMap Turn.kept =
      [.ofCredentials { token := some "t", secret := some "s", userId := 7 } "+15"] := by decide +kernel
  refine ⟨(usable_iff_granted scene launched orderly).mpr ?_,kept⟩
  intro t member g granted
  have all : run.filterMap Turn.granted? = [⟨⟨"t","s"⟩,7⟩] := by decide +kernel
  have one : g ∈ run.filterMap Turn.granted? := List.mem_filterMap.mpr ⟨t,member,granted⟩
  rw [all,List.mem_singleton] at one
  subst one
  exact ⟨by decide,by decide,by decide⟩

/-- A pin that is answered with no credentials makes the session of a guest active: not every launched
    sign-in that is done in order makes usable sessions only. -/
theorem pin_grants_nothing :
    ¬ ∀ (gateway : GatewayScript) (config : SignInRequest) (h : Handoff) (acts : List Act),
      let begun := (Scene.scripted gateway).turn (.start config)
      begun.reply = .launched h → begun.after.Orderly acts → ∀ t ∈ begun.after.run acts,
        (∀ session ∈ t.kept, session.Usable) ∧
          ∀ host session n, .delivered (.success host session n) ∈ t.happened → session.Usable := by
  intro usable
  let acts : List Act :=
    [.openStep .phoneNumber { receiver := some 0, phoneNumber := some "" },.submit 0 "5",
      .openStep .loginCode
        { receiver := some 0, phoneNumber := some "+15", requestId := some "r", userId := some 7 },.submit 1 "9",
      .openStep .pinCode
        { receiver := some 0, phoneNumber := some "+15", requestId := some "r", userId := some 7 },.submit 2 "1"]
  let gateway : GatewayScript :=
    { authenticateDevice := [.ok { requestId := "r", userId := 7 }], verifyCode := [.ok {}], verifyPin := [.ok {}] }
  have signedIn : ∃ t ∈ ((Scene.scripted gateway).turn (.start ⟨1,"",false⟩)).after.run acts,
      t.kept = [.guest ⟨"",""⟩] := by decide +kernel
  obtain ⟨t,member,guest⟩ := signedIn
  obtain ⟨kept,-⟩ := usable gateway ⟨1,"",false⟩ _ acts rfl (by decide +kernel) t member
  have worth : (Session.guest ⟨"",""⟩).Usable := kept _ (by simp [guest])
  exact worth.user rfl

end PhoneSignIn.Flow
