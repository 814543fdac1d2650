import PhoneSignIn.Proofs.Flow.Descent

/-!
When the user is asked for an email address. A step asks for one only if the host wished it when the sign-in began,
and the service has let every phone step on the way do so (`Consented`, `run_consented`). It asks once the session
is kept, which is that of an account without an address, or that of a new account (`OpenStep.AsksAddress`); this
session is the active one until another is kept or forgotten (`address_consented`). What counts is the account's
session, and that of a guest has no address, whatever the account has (`guest_account_asked`).
-/
namespace PhoneSignIn

theorem Session.ofAccount_email (a : Account) :
    (ofAccount a).email = none ↔ a.email = none ∨ a.userId = guestId := by
  rw [ofAccount,ofRecord]
  split
  · rename_i guest
    exact iff_of_true rfl (.inr guest)
  · rename_i user
    exact (or_iff_left user).symm

end PhoneSignIn

namespace PhoneSignIn.Flow

variable {γ σ : Type}

/-! ### What a step asks an address for -/

/-- How a step comes to ask for the address of a session, by what has happened: the service has granted credentials
    and answered with the account of these, which has the same user and no address, or is a guest's; or it has created
    an account. -/
inductive OpenStep.AsksAddress (s : OpenStep) (l : List Occurrence) : Session → Prop where
  | fetched {n credentials granted a} (code : s.step = .loginCode ∨ s.step = .pinCode)
    (number : s.phoneNumber? = some n) (there : granted ∈ l) (grants : granted.credentials? = some credentials)
    (asked : .asked (.verifyAccount (.ofCredentials credentials n)) (.ok a) ∈ l)
    (missing : a.email = none ∨ a.userId = guestId) (same : a.userId = credentials.userId) :
    AsksAddress s l (.ofAccount a)
  | created {c code credentials} (step : s = .confirmationCode c)
    (asked : .asked (.createAccount code c.phoneNumber) (.ok credentials) ∈ l) :
    AsksAddress s l (.ofCredentials credentials c.phoneNumber)

theorem OpenStep.AsksAddress.mono {s : OpenStep} {l l' : List Occurrence} {session : Session}
    (asks : s.AsksAddress l session) (sub : l ⊆ l') : s.AsksAddress l' session := by
  cases asks with
  | fetched code number there grants asked missing same =>
    exact .fetched code number (sub there) grants (sub asked) missing same
  | created step asked => exact .created step (sub asked)

theorem SignsIn.wish {session : Session} {n : String} {wantsEmail : Bool} {l : List Occurrence} {fin : Finale}
    (goesOn : SignsIn session n wantsEmail l fin) {call : Call} (called : call ∈ l.filterMap Occurrence.call?) :
    wantsEmail = true := by
  cases goesOn with
  | direct => cases called
  | _ => rfl

theorem SignsIn.missing {c : Credentials} {n number number' : String} {wantsEmail : Bool} {l : List Occurrence}
    {session : Session} (goesOn : SignsIn (.ofCredentials c n) number wantsEmail l (.requestEmail session number')) :
    wantsEmail = true ∧ ∃ a, l = [.asked (.verifyAccount (.ofCredentials c n)) (.ok a)] ∧ session = .ofAccount a ∧
      (a.email = none ∨ a.userId = guestId) ∧ a.userId = c.userId := by
  cases goesOn with
  | addressMissing a missing =>
    have account := congrArg Grant.userId (Session.ofAccount_grant a)
    have granted := congrArg Grant.userId (Session.ofCredentials_grant c n)
    exact ⟨rfl,a,rfl,rfl,(Session.ofAccount_email a).mp missing.1,account.symm.trans (missing.2.trans granted)⟩

/-- A course that ends in asking for an address was taken by a step that wants one. -/
theorem Course.asksAddress [SessionStore σ] {text n : String} {st st' : σ} {s s' : OpenStep} {l : List Occurrence}
    {session : Session} (course : Course text st s s' l st' (.requestEmail session n)) :
    s.wantsEmail? = some true ∧ s.AsksAddress l session := by
  cases course with
  | phone sends => cases sends
  | loginCode checks =>
    cases checks with
    | taken c full goesOn =>
      obtain ⟨wish,a,rfl,rfl,missing,same⟩ := goesOn.missing
      exact ⟨congrArg some wish,.fetched (.inl rfl) rfl (.tail _ (.head _)) rfl (by simp) missing same⟩
  | confirmationCode checks =>
    cases checks with
    | addressWanted c wanted => exact ⟨congrArg some wanted,.created rfl (.tail _ (.head _))⟩
  | pinCode checks =>
    cases checks with
    | taken c goesOn =>
      obtain ⟨wish,a,rfl,rfl,missing,same⟩ := goesOn.missing
      exact ⟨congrArg some wish,.fetched (.inr rfl) rfl (.tail _ (.head _)) rfl (by simp) missing same⟩
  | email attaches => cases attaches

/-- A step that fetches an account wants an address. -/
theorem Course.fetches [SessionStore σ] {text : String} {st st' : σ} {s s' : OpenStep} {l : List Occurrence}
    {fin : Finale} (course : Course text st s s' l st' fin) {session : Session}
    (called : .verifyAccount session ∈ l.filterMap Occurrence.call?) : s.wantsEmail? = some true := by
  cases course with
  | phone sends => cases sends <;> simp at called
  | @loginCode s _ _ checks =>
    cases checks with
    | refused => simp at called
    | pinWanted => simp at called
    | taken c full goesOn => exact congrArg some (goesOn.wish (by simpa using called))
  | confirmationCode checks => cases checks <;> simp at called
  | @pinCode s _ _ checks =>
    cases checks with
    | refused => simp at called
    | taken c goesOn => exact congrArg some (goesOn.wish (by simpa using called))
  | email attaches => cases attaches <;> simp at called

/-- No course hands over to the email step; it asks for an address. -/
theorem Course.not_email [SessionStore σ] {text : String} {st st' : σ} {s s' : OpenStep} {l : List Occurrence}
    {h : Handoff} (course : Course text st s s' l st' (.handOver .email h)) : False := by
  cases course with
  | phone sends => cases sends
  | loginCode checks =>
    cases checks with
    | taken c full goesOn => exact goesOn.not_handOver _ _ rfl
  | confirmationCode checks => cases checks
  | pinCode checks =>
    cases checks with
    | taken c goesOn => exact goesOn.not_handOver _ _ rfl
  | email attaches => cases attaches

section
variable [SessionStore σ] {s s' : OpenStep} {input : String} {w w' : World γ σ} {m : Move}

/-- A submit that leads to the email step has kept the session that an address is asked for. -/
theorem Submits.asksAddress {h : Handoff} (submits : Submits s input w (.next .email h) s' w')
    (empty : w.history = []) : s.wantsEmail? = some true ∧ ∃ session st, s.AsksAddress w'.history session ∧
      .wrote session (.ok ()) ∈ w'.history ∧ SessionStore.write session st = (.ok (),w'.store) := by
  cases submits with
  | @went s' l g st fin m c' w' accepted course ends =>
    cases ends with
    | reported answer => cases answer
    | handedOver => exact course.not_email.elim
    | unkept keeps refused answer => cases answer
    | @emailRequested session n st' kept =>
      obtain ⟨wish,asks⟩ := course.asksAddress
      refine ⟨wish,session,st,asks.mono ?_,by simp,kept⟩
      rw [World.advance_history,World.advance_history,empty,List.nil_append]
      exact List.subset_append_left _ _

theorem Submits.fetches (submits : Submits s input w m s' w') (empty : w.history = []) {session : Session}
    (called : .verifyAccount session ∈ w'.history.filterMap Occurrence.call?) : s.wantsEmail? = some true := by
  cases submits with
  | ignored => simp [empty] at called
  | @went s' l g st fin m c' w' accepted course ends =>
    obtain ⟨rest,history,quiet⟩ := ends.uncalled
    rw [World.advance_history,empty,List.nil_append] at history
    rw [history,List.filterMap_append,List.filterMap_eq_nil_iff.mpr quiet,List.append_nil] at called
    exact course.fetches called

end

/-! ### Consent to email -/

/-- Whether the host and the service let the step numbered `i` lead to the email step: the sign-in began with this wish,
    and the service has let every phone step on the way to a code step do so. -/
inductive Consented : List (Turn γ σ) → Nat → Prop where
  | launched {past i h config} (o : StepOpening past i .phoneNumber h) (act : o.origin.offer.act = .start config)
    (wished : config.wantsEmail = true) : Consented past i
  | wentBack {past i h j} (o : StepOpening past i .phoneNumber h) (act : o.origin.offer.act = .resend j)
    (led : Consented o.origin.before j) : Consented past i
  | coded {past i kind h j input f} (o : StepOpening past i kind h)
    (code : kind = .loginCode ∨ kind = .confirmationCode) (act : o.origin.offer.act = .submit j input)
    (granted : o.origin.offer.Grants f) (emails : f.emailEnabled = true) (led : Consented o.origin.before j) :
    Consented past i
  | pinned {past i h j input} (o : StepOpening past i .pinCode h) (act : o.origin.offer.act = .submit j input)
    (led : Consented o.origin.before j) : Consented past i

theorem PhoneStep.asksEmail_iff {p : PhoneStep} {features : Option Features} : p.asksEmail features = true ↔
    p.wantsEmail = true ∧ ∃ f, features = some f ∧ f.emailEnabled = true := by
  rw [PhoneStep.asksEmail,Bool.and_eq_true,Option.any_eq_true]

section
variable [Gateway γ] [SessionStore σ] {s : Scene γ σ} {acts : List Act} {past rest : List (Turn γ σ)} {i : Nat}
  {kind : Step} {h : Handoff}

/-- A step that is handed the wish for an address has the consent of the step that has handed it on. -/
theorem StepOpening.consented (o : StepOpening past i kind h) (split : s.run acts = past ++ rest)
    (wish : h.wantsEmail = true) (other : kind ≠ .email)
    (before : ∀ j x, o.origin.offer.before.steps[j]? = some x → x.step.wantsEmail? = some true →
      Consented o.origin.before j) : Consented past i := by
  have offered := o.origin.offered (o.earlier_sub split)
  cases offered with
  | launched act => exact .launched o act wish
  | restarted => cases wish
  | @wentBack j x _ act found back =>
    obtain ⟨-,-,wants,-⟩ := OpenStep.handoffBack_eq back
    exact .wentBack o act (before j x found (wants.trans (congrArg some wish)))
  | @handed j input x _ _ act found hands =>
    have led := before j x found
    generalize x.step = step at hands led
    cases hands with
    | loginStarted phone asked =>
      subst phone
      obtain ⟨wants,f,features,emails⟩ := PhoneStep.asksEmail_iff.mp wish
      exact .coded o (.inl rfl) act (.inl ⟨_,_,_,asked,features⟩) emails (led (congrArg some wants))
    | registered phone asked =>
      subst phone
      obtain ⟨wants,f,features,emails⟩ := PhoneStep.asksEmail_iff.mp wish
      exact .coded o (.inr rfl) act (.inr ⟨_,_,_,asked,features⟩) emails (led (congrArg some wants))
    | pinWanted code =>
      subst code
      exact .pinned o act (led (congrArg some wish))
    | addressWanted => exact absurd rfl other

variable {earlier later : List (Turn γ σ)} {t : Turn γ σ} {o : Opened}

/-- In a run whose steps open from what was received last, a step that leads to the email step has the consent of host
    and service. -/
theorem run_consented (fresh : s.steps = []) (nothing : s.received = .stay) (follows : s.Follows acts)
    (split : s.run acts = earlier ++ t :: later) (found : t.before.steps[i]? = some o)
    (wish : o.step.wantsEmail? = some true) : Consented earlier i := by
  -- The step before was opened earlier, so the induction is on the number of turns.
  induction length : earlier.length using Nat.strongRecOn generalizing earlier t later i o with
  | ind m ih =>
    have member : t ∈ s.run acts := split ▸ List.mem_append_right _ List.mem_cons_self
    obtain ⟨opening⟩ := (Scene.run_traced fresh nothing follows split).opened i o found
    have handed := (Scene.run_faithful fresh member o (List.mem_of_getElem? found)).wish true wish
    have other : o.step.step ≠ .email := by
      intro email
      cases kind : o.step <;> simp [kind,OpenStep.step,OpenStep.wantsEmail?] at email wish
    refine opening.consented split handed other fun j x there wants => ?_
    exact ih _ (length ▸ opening.shorter) (opening.origin.run_split (opening.run_split split)) there wants rfl

end

/-! ### What the store holds -/

/-- Whether nothing is written and nothing is forgotten in a turn. -/
def Turn.Rests (t : Turn γ σ) : Prop := ∀ o ∈ t.happened, o.write? = none ∧ ∀ result, o ≠ .cleared result

section
variable [SessionStore σ] {active : Option Session}

theorem Arrives.reads {w w' : World γ σ} {id : ReceiverId} {code : Int32} {data : LoginResult}
    (arrives : Arrives w id code data w') : w'.store = w.store ∨ w'.store = (SessionStore.read w.store).2 := by
  cases arrives with
  | success => exact .inr rfl
  | _ => exact .inl rfl

theorem Refreshes.writes [Gateway γ] {session : Session} {w w' : World γ σ} {result : Option Session}
    (refreshes : Refreshes session w result w') :
    w'.store = w.store ∨ ∃ kept answer, .wrote kept answer ∈ w'.history := by
  cases refreshes with
  | guest => exact .inl rfl
  | unanswered => exact .inl rfl
  | unkept => exact .inr ⟨_,_,List.mem_append_right _ (.tail _ (.head _))⟩
  | refreshed => exact .inr ⟨_,_,List.mem_append_right _ (.tail _ (.head _))⟩

/-- Where nothing is written and nothing is forgotten the store is read once at most. -/
theorem Scene.Makes.reads [Gateway γ] {s : Scene γ σ} {act : Act} {reply : Reply} {w' : World γ σ}
    (makes : s.Makes act reply w') (rests : ∀ o ∈ w'.history, o.write? = none ∧ ∀ result, o ≠ .cleared result) :
    w'.store = s.world.store ∨ w'.store = (SessionStore.read s.world.store).2 := by
  cases makes with
  | recorded quiet records =>
    obtain ⟨l,-,rfl⟩ := records
    exact .inl rfl
  | began begins =>
    cases begins with
    | unreadable answer => exact .inr (congrArg Prod.snd answer).symm
    | already answer => exact .inr (congrArg Prod.snd answer).symm
    | launched answer => exact .inr (congrArg Prod.snd answer).symm
  | submitted found submits =>
    cases submits.writes with
    | nothing plain reads => exact reads
    | refused => cases (rests _ (List.mem_append_right _ (List.mem_append_right _ (.head _)))).1
    | emailRequested => cases (rests _ (List.mem_append_right _ (List.mem_append_right _ (.head _)))).1
    | @signedIn session n l g st st' _ plain source number kept arrives =>
      obtain ⟨rest,history,-⟩ := arrives.uncalled
      have wrote : .wrote session (.ok ()) ∈ w'.history := by simp [history]
      cases (rests _ wrote).1
  | dismissed found clicked arrives =>
    obtain ⟨l,-,rfl⟩ := clicked
    exact arrives.reads
  | handedIn hands arrives => exact arrives.reads
  | read => exact .inr rfl
  | @verified session =>
    rcases (refreshSession_refreshes session s.world).writes with same | ⟨kept,result,wrote⟩
    · exact .inl same
    · cases (rests _ wrote).1
  | cleared => exact absurd rfl ((rests _ (List.mem_append_right _ (.head _))).2 _)
  | _ => exact .inl rfl

theorem Scene.Makes.holds [Gateway γ] {s : Scene γ σ} {act : Act} {reply : Reply} {w' : World γ σ}
    (makes : s.Makes act reply w') (rests : ∀ o ∈ w'.history, o.write? = none ∧ ∀ result, o ≠ .cleared result)
    (held : Holds s.world.store active) : Holds w'.store active := by
  rcases makes.reads rests with same | same
  · rw [same]
    exact held
  · rw [same]
    exact held.read rfl

/-- A store that is left alone in some turns of a run goes on holding what it held before them. -/
theorem Scene.run_rested [Gateway γ] {s : Scene γ σ} {acts : List Act} {before between later : List (Turn γ σ)}
    {e t : Turn γ σ} (split : s.run acts = before ++ e :: between ++ t :: later)
    (held : Holds e.after.world.store active) (rest : ∀ x ∈ between, x.Rests) : Holds t.before.world.store active := by
  rw [List.append_assoc,List.cons_append] at split
  obtain ⟨acts',after⟩ := run_after split
  -- What comes after `e` is a run of its own, which begins with what is held.
  refine run_always (I := fun past s => (∀ x ∈ past, x.Rests) → Holds s.world.store active) ?_ (fun _ => held)
    after rest
  intro past s act holds rests
  have before := holds fun x member => rests x (List.mem_append_left _ member)
  exact (s.still.does_makes act).holds (rests _ (List.mem_append_right _ (.head _))) before

end

/-! ### Asking for an address -/

/-- Whether an address is asked for in a turn that comes after others: for the session of a step that may do so, which
    is kept and from then on the active one. -/
structure Turn.AsksAddress [SessionStore σ] (t : Turn γ σ) (past : List (Turn γ σ)) (session : Session) : Prop where
  step : ∃ i input o, t.act = .submit i input ∧ t.before.steps[i]? = some o ∧ Consented past i ∧
    o.step.AsksAddress t.happened session
  kept : .wrote session (.ok ()) ∈ t.happened
  active : Holds t.after.world.store (some session)

section
variable [Gateway γ] [SessionStore σ] {s : Scene γ σ} {acts : List Act} {earlier later : List (Turn γ σ)} {t : Turn γ σ}

theorem Turn.submits_of_email (member : t ∈ s.run acts) {h : Handoff}
    (offers : t.reply.offers? = some (.next .email h)) :
    ∃ i input o step, t.act = .submit i input ∧ t.before.steps[i]? = some o ∧
      Submits o.step input t.before.still.world (.next .email h) step t.after.world := by
  have replies := Scene.run_replies member
  generalize t.reply = reply at replies offers
  generalize t.act = act at replies
  generalize t.after.world = w' at replies ⊢
  cases replies with
  | nothing none =>
    rw [none] at offers
    cases offers
  | refused => cases offers
  | began begins => cases offers
  | @submitted i input o m step _ found submits =>
    cases m <;> cases offers
    exact ⟨i,input,o,step,rfl,found,submits⟩
  | @resent i o m _ found moved =>
    cases m <;> cases offers
    cases (OpenStep.resend_moves moved).1
  | restarted => cases offers

theorem run_asksAddress [LawfulStore σ] (fresh : s.steps = []) (nothing : s.received = .stay)
    (follows : s.Follows acts) (split : s.run acts = earlier ++ t :: later) {h : Handoff}
    (offers : t.reply.offers? = some (.next .email h)) : ∃ session, t.AsksAddress earlier session := by
  have member : t ∈ s.run acts := split ▸ List.mem_append_right _ List.mem_cons_self
  obtain ⟨i,input,o,step,act,found,submits⟩ := Turn.submits_of_email member offers
  obtain ⟨wish,session,st,asks,wrote,kept⟩ := submits.asksAddress rfl
  have consented := run_consented fresh nothing follows split found wish
  exact ⟨session,⟨i,input,o,act,found,consented,asks⟩,wrote,LawfulStore.holds_written kept⟩

theorem StepOffer.asksAddress [LawfulStore σ] {past rest : List (Turn γ σ)} {h : Handoff} (o : StepOffer past .email h)
    (fresh : s.steps = []) (nothing : s.received = .stay) (follows : s.Follows acts)
    (split : s.run acts = past ++ rest) : ∃ session, o.offer.AsksAddress o.before session :=
  run_asksAddress fresh nothing follows (o.run_split split) o.offers

/-- An address is asked for only if the host wished it when the sign-in began and the service has let every phone step
    on the way to the asking step do so. In a run whose steps open from what was received last, whoever is led to the
    email step was, for a session that has just been kept: that of an account which was fetched for new credentials,
    with the same user and no address, or a guest's; or that of a new account. When the email step opens this session is
    the active one, if nothing was kept or forgotten in between; an address is sent by a step that opened so; and an
    account is fetched by a step with the same consent only. -/
theorem address_consented [LawfulStore σ] (fresh : s.steps = []) (nothing : s.received = .stay)
    (follows : s.Follows acts) (split : s.run acts = earlier ++ t :: later) :
    (∀ h, t.reply.offers? = some (.next .email h) → ∃ session, t.AsksAddress earlier session) ∧
      (∀ h, t.act = .openStep .email h → ∃ o : StepOffer earlier .email h, ∃ session,
        o.offer.AsksAddress o.before session ∧
          ((∀ x ∈ o.between, x.Rests) → Holds t.before.world.store (some session))) ∧
      (∀ session email answer, .asked (.submitEmail session email) answer ∈ t.happened →
        ∃ i input h, t.act = .submit i input ∧ ∃ o : StepOpening earlier i .email h, ∃ session,
          o.origin.offer.AsksAddress o.origin.before session) ∧
      ∀ i input session answer, t.act = .submit i input → .asked (.verifyAccount session) answer ∈ t.happened →
        Consented earlier i := by
  have member : t ∈ s.run acts := split ▸ List.mem_append_right _ List.mem_cons_self
  have traced := Scene.run_traced fresh nothing follows split
  refine ⟨?offered,?opened,?sent,?fetched⟩
  case offered => exact fun h offers => run_asksAddress fresh nothing follows split offers
  case opened =>
    intro h opens
    have received : t.before.received = .next .email h := by
      have follow := follows t member
      rw [Turn.Follows,opens] at follow
      exact follow
    obtain ⟨o⟩ := traced.received _ _ received
    obtain ⟨session,asks⟩ := o.asksAddress fresh nothing follows split
    have parts : s.run acts = o.before ++ o.offer :: o.between ++ t :: later := by
      rw [o.run_split split,List.append_assoc,List.cons_append]
    exact ⟨o,session,asks,Scene.run_rested parts asks.active⟩
  case sent =>
    intro session email answer asked
    have called : .submitEmail session email ∈ t.happened.filterMap Occurrence.call? :=
      List.mem_filterMap.mpr ⟨_,asked,rfl⟩
    rcases (Scene.run_makes member).calls rfl called with ⟨i,input,x,act,found,calls⟩ | ⟨session',-,other⟩
    · cases calls with
      | submitEmail step active =>
        obtain ⟨o⟩ := traced.opened i x found
        rw [step] at o
        have asks := o.origin.asksAddress fresh nothing follows (o.run_split split)
        exact ⟨i,input,_,act,o,asks⟩
    · cases other
  case fetched =>
    intro i input session answer act asked
    have called : .verifyAccount session ∈ t.happened.filterMap Occurrence.call? :=
      List.mem_filterMap.mpr ⟨_,asked,rfl⟩
    rcases (Scene.run_makes member).calls rfl called with ⟨i',input',x,act',found,-⟩ | ⟨session',act',-⟩
    · rw [act] at act'
      cases act'
      obtain ⟨m,step,-,submits⟩ := Turn.submitted member act found
      exact run_consented fresh nothing follows split found (submits.fetches rfl called)
    · rw [act] at act'
      cases act'

end

/-- A login whose host wishes an address and whose service lets a step ask for one. -/
def Act.logInWishing : List Act :=
  let features : Features := { emailEnabled := true }
  [.start ⟨1,"",true⟩,.openStep .phoneNumber { receiver := some 0, phoneNumber := some "", wantsEmail := true },
    .submit 0 "5",
    .openStep .loginCode
      { receiver := some 0, phoneNumber := some "+15", requestId := some "r", userId := some 7,
        features := some features, wantsEmail := true },
    .submit 1 "9"]

/-- An address is asked for where the host wishes it, the service lets it, and the account has none. -/
theorem missing_address_asked :
    let run := (Scene.scripted
      { authenticateDevice := [.ok { requestId := "r", userId := 7, features := some { emailEnabled := true } }]
        verifyCode := [.ok { token := some "t", secret := some "s", userId := 7 }]
        verifyAccount := [.ok { authToken := ⟨"t","s"⟩, userId := 7, phoneNumber := "+15", email := none }] }).run
      Act.logInWishing
    ∃ session, run[4].AsksAddress (run.take 4) session := by
  intro run
  have split : run = run.take 4 ++ run[4] :: run.drop 5 := rfl
  exact (address_consented rfl rfl (by decide +kernel) split).1
    { receiver := some 0, phoneNumber := some "+15", wantsEmail := true } (by decide +kernel)

/-- A guest is asked for an address, even where the account has one. -/
theorem guest_account_asked :
    let credentials : Credentials := { token := some "t", secret := some "s", userId := 0 }
    let account : Account :=
      { authToken := ⟨"t","s"⟩, userId := 0, phoneNumber := "+15", email := some { address := "a@b.c" } }
    let run := (Scene.scripted
      { authenticateDevice := [.ok { requestId := "r", userId := 7, features := some { emailEnabled := true } }]
        verifyCode := [.ok credentials]
        verifyAccount := [.ok account] }).run Act.logInWishing
    (∀ t ∈ run, t.Follows) ∧
      run[4].reply.offers? =
        some (.next .email { receiver := some 0, phoneNumber := some "+15", wantsEmail := true }) ∧
      .asked (.verifyAccount (.ofCredentials credentials "+15")) (.ok account) ∈ run[4].happened ∧
      account.email ≠ none :=
  ⟨by decide +kernel,by decide +kernel,.tail _ (.tail _ (.tail _ (.head _))),by decide⟩

end PhoneSignIn.Flow
