import PhoneSignIn.Proofs.Flow.Activity

/-!
When a step is closed, and what is done on it then. A step closes when it gives up and when it hands over or signs the
user in, and only a user who comes back to a phone step opens it again, unless it has given up (`OpenStep.Shifts`). So
whether a step is closed is told by the turns so far (`Closed`). Nothing that is done on a closed step goes beyond what
the step shows and what the journal keeps of it (`OpenStep.Rests`), and a step that does not accept what the user sends
does nothing either (`OpenStep.ignoring`).
-/
namespace PhoneSignIn.Flow

variable {γ σ : Type}

/-! ### Closing and opening -/

/-- Whether the step numbered `i` hands over in a turn, or signs the user in. -/
def Turn.HandsOver (t : Turn γ σ) (i : Nat) : Prop :=
  t.act.step? = some i ∧ ∃ m, t.reply = .moved m ∧ (m = .signedIn ∨ ∃ step h, m = .next step h)

/-- Whether the user comes back in a turn to the phone step numbered `i`, to have the code sent again. -/
def Turn.ComesBack (t : Turn γ σ) (i : Nat) : Prop := t.act = .phoneResend i ∧ t.reply = .nothing

/-- Whether the step numbered `i` has given up. -/
def GivenUp (past : List (Turn γ σ)) (i : Nat) : Prop := ∃ a ∈ past, a.GivesUp i

/-- Whether the step numbered `i` has given up, or has handed over and the user has not come back to it since. -/
def Closed (past : List (Turn γ σ)) (i : Nat) : Prop :=
  GivenUp past i ∨ Since (·.HandsOver i) (·.ComesBack i) past

theorem givenUp_append {past : List (Turn γ σ)} {t : Turn γ σ} {i : Nat} :
    GivenUp (past ++ [t]) i ↔ GivenUp past i ∨ t.GivesUp i := by
  simp [GivenUp,or_and_right,exists_or]

/-- Whether a step gives up, hands over or is come back to in a turn; what is left of it then. -/
inductive OpenStep.Shifts (t : Turn γ σ) (i : Nat) (o o' : OpenStep) : Prop where
  | gaveUp (gives : t.GivesUp i) (spent : o'.core.budget.spent = true)
  | handedOver (goesOn : ¬ t.GivesUp i) (hands : t.HandsOver i) (same : o'.core.budget.spent = o.core.budget.spent)
    (closed : o'.core.isClosed = true)
  | cameBack (goesOn : ¬ t.GivesUp i) (stays : ¬ t.HandsOver i) (back : t.ComesBack i)
    (same : o'.core.budget.spent = o.core.budget.spent) (closed : o'.core.isClosed = o.core.budget.spent)
  | stood (goesOn : ¬ t.GivesUp i) (stays : ¬ t.HandsOver i) (away : ¬ t.ComesBack i)
    (same : o'.core.budget.spent = o.core.budget.spent) (closed : o'.core.isClosed = o.core.isClosed)

/-- How the step numbered `i` is left by the turns so far. -/
structure OpenStep.LeftBy (past : List (Turn γ σ)) (i : Nat) (o : OpenStep) : Prop where
  spent : o.core.budget.spent = true ↔ GivenUp past i
  closed : o.core.isClosed = true ↔ Closed past i

theorem OpenStep.LeftBy.shifts {past : List (Turn γ σ)} {t : Turn γ σ} {i : Nat} {o o' : OpenStep}
    (left : o.LeftBy past i) (shifts : o.Shifts t i o') : o'.LeftBy (past ++ [t]) i := by
  obtain ⟨spent,closed⟩ := left
  rw [Closed] at closed
  cases shifts with
  | gaveUp gives spent' =>
    have given : GivenUp (past ++ [t]) i := givenUp_append.mpr (.inr gives)
    exact ⟨iff_of_true spent' given,iff_of_true (StepState.closed_of_spent spent') (.inl given)⟩
  | handedOver goesOn hands same closed' =>
    exact ⟨by rw [same,givenUp_append,spent]; simp [goesOn],iff_of_true closed' (.inr (since_append.mpr (.inl hands)))⟩
  | cameBack goesOn stays back same closed' =>
    refine ⟨by rw [same,givenUp_append,spent]; simp [goesOn],?_⟩
    rw [closed',spent,Closed,givenUp_append,since_append]
    simp [goesOn,stays,back]
  | stood goesOn stays away same closed' =>
    refine ⟨by rw [same,givenUp_append,spent]; simp [goesOn],?_⟩
    rw [closed',closed,Closed,givenUp_append,since_append]
    simp [goesOn,stays,away]

theorem PhoneStep.resend_closed (p : PhoneStep) : p.resend.core.isClosed = p.core.budget.spent := by
  rw [resend,askAgain_closed]
  simp only [StepState.reenter]
  split
  · rename_i spent
    rw [spent]
    exact StepState.closed_of_spent spent
  · rfl

theorem PhoneStep.edited_closed (p : PhoneStep) : p.edited.core.isClosed = p.core.isClosed := by
  rw [edited]
  split <;> rfl

theorem OpenStep.edited_closed (o : OpenStep) : o.edited.core.isClosed = o.core.isClosed := by
  cases o with
  | phone p => exact p.edited_closed
  | _ => rfl

theorem OpenStep.clearError_closed (o : OpenStep) : o.clearError.core.isClosed = o.core.isClosed := by
  rw [clearError,setCore_core]
  rfl

theorem OpenStep.setCore_closed (o : OpenStep) {core : StepState} (budget : core.budget = o.core.budget)
    (same : core.handedOver = o.core.handedOver) :
    (o.setCore core).core.budget.spent = o.core.budget.spent ∧ (o.setCore core).core.isClosed = o.core.isClosed := by
  rw [setCore_core,StepState.isClosed,budget,same]
  exact ⟨rfl,rfl⟩

section
variable [SessionStore σ] {o o' : OpenStep} {w w' : World γ σ} {t : Turn γ σ} {i : Nat}

theorem OpenStep.Responds.shifts (responds : o.Responds w t.act t.reply o' w') (on : t.act.step? = some i)
    (kind : o.core.step = o.step) (empty : w.history = []) : o.Shifts t i o' := by
  obtain ⟨before,act,reply,after⟩ := t
  simp only at responds on
  -- What is replied without a move neither gives up nor hands over.
  have still (act : Act) (reply : Reply) (unmoved : ∀ m, reply = .moved m → m = .stay) :
      ¬ Turn.GivesUp ⟨before,act,reply,after⟩ i ∧ ¬ Turn.HandsOver ⟨before,act,reply,after⟩ i := by
    constructor
    · rintro ⟨-,f,gaveUp⟩
      cases unmoved _ gaveUp
    · rintro ⟨-,m,moved,hands⟩
      rw [unmoved m moved] at hands
      simp at hands
  have stood {act : Act} {reply : Reply} {o' : OpenStep} (unmoved : ∀ m, reply = .moved m → m = .stay)
      (away : act ≠ .phoneResend i ∨ reply ≠ .nothing)
      (same : o'.core.budget.spent = o.core.budget.spent ∧ o'.core.isClosed = o.core.isClosed) :
      o.Shifts ⟨before,act,reply,after⟩ i o' := by
    obtain ⟨goesOn,stays⟩ := still act reply unmoved
    exact .stood goesOn stays (fun back => away.elim (absurd back.1) (absurd back.2)) same.1 same.2
  cases responds with
  | @submitted _ input m _ _ submits =>
    by_cases accepted : o.accepts input = true
    · have settles := submits.settles accepted kind empty
      generalize errors w'.history = es at settles
      have open_ := OpenStep.open_of_accepts accepted
      cases settles with
      | told charged after_open =>
        refine stood (by simp) (.inl (by simp)) ⟨?_,after_open.trans open_.symm⟩
        rw [StepState.unspent_of_open after_open,StepState.unspent_of_open open_]
      | gaveUp charged spent => exact .gaveUp ⟨on,_,rfl⟩ spent
      | finished hands budget closed =>
        refine .handedOver ?_ ⟨on,m,rfl,hands⟩ (by rw [budget]) closed
        rintro ⟨-,f,gaveUp⟩
        cases gaveUp
        simp at hands
    · cases submits with
      | ignored rest same =>
        rcases same with rfl | rfl
        · exact stood (by simp) (.inl (by simp)) ⟨rfl,rfl⟩
        · exact stood (by simp) (.inl (by simp)) (o.setCore_closed rfl rfl)
      | went accepted' => exact absurd accepted' accepted
  | wentBack back open_ =>
    refine .handedOver ?_ ⟨on,_,rfl,.inr ⟨_,_,rfl⟩⟩ ?_ ?_
    · rintro ⟨-,f,gaveUp⟩
      cases gaveUp
    · rw [setCore_core]
      rfl
    · rw [setCore_core]
      rfl
  | phoneResent phone =>
    subst phone
    cases on
    obtain ⟨goesOn,stays⟩ := still (.phoneResend i) .nothing (by simp)
    exact .cameBack goesOn stays ⟨rfl,rfl⟩ (by rw [core,core,PhoneStep.resend_budget]) (PhoneStep.resend_closed _)
  | stayed => exact stood (by simp) (.inl (by simp)) ⟨rfl,rfl⟩
  | noWayBack => exact stood (by simp) (.inl (by simp)) ⟨rfl,rfl⟩
  | countryChosen phone => exact stood (by simp) (.inl (by simp)) (phone ▸ ⟨rfl,rfl⟩)
  | noPhone => exact stood (by simp) (.inr (by simp)) ⟨rfl,rfl⟩
  | edited => exact stood (by simp) (.inl (by simp)) ⟨by rw [o.edited_budget],o.edited_closed⟩
  | cleared => exact stood (by simp) (.inl (by simp)) (o.setCore_closed rfl rfl)
  | resumed => exact stood (by simp) (.inl (by simp)) ⟨rfl,rfl⟩

end

/-! ### What is done on a closed step -/

/-- What the journal keeps of an act on a step that does nothing. -/
def OpenStep.echo (o : OpenStep) : Act → List Occurrence
  | .resume _ => [.recorded ⟨o.core.step.component,.impression⟩]
  | .chooseCountry .. => if o.step = .phoneNumber then [.recorded ⟨o.core.step.component,.click .countryCode⟩] else []
  | _ => []

/-- What comes of an act on a closed step: the step stays closed, nothing is replied but to stay, and nothing happens
    but what the journal keeps. -/
structure OpenStep.Rests (o : OpenStep) (w : World γ σ) (act : Act) (reply : Reply) (o' : OpenStep) (w' : World γ σ) :
    Prop where
  closed : o'.core.isClosed = true
  stays : ∀ m, reply = .moved m → m = .stay
  submitted : ∀ i input, act = .submit i input → reply = .moved .stay
  resent : ∀ i, act = .resend i → o.handoffBack? ≠ none → reply = .moved .stay
  world : w' = w.advance w.gateway w.store (o.echo act)

section
variable [SessionStore σ] {o o' : OpenStep} {w w' : World γ σ} {act : Act} {reply : Reply}

theorem OpenStep.Responds.rests (responds : o.Responds w act reply o' w') (closed : o.core.isClosed = true)
    (away : ∀ i, act = .phoneResend i → reply ≠ .nothing) : o.Rests w act reply o' w' := by
  have nothing : w = w.advance w.gateway w.store [] := w.advance_nothing.symm
  cases responds with
  | submitted submits =>
    cases submits with
    | ignored rest same =>
      refine ⟨?_,by simp,by simp,by simp,nothing⟩
      rcases same with rfl | rfl
      · exact closed
      · rw [setCore_core]
        exact closed
    | went accepted =>
      rw [open_of_accepts accepted] at closed
      cases closed
  | wentBack back open_ =>
    rw [open_] at closed
    cases closed
  | stayed => exact ⟨closed,by simp,by simp,by simp,nothing⟩
  | noWayBack back => exact ⟨closed,by simp,by simp,fun _ _ some => absurd back some,nothing⟩
  | phoneResent => exact absurd rfl (away _ rfl)
  | countryChosen phone =>
    subst phone
    exact ⟨closed,by simp,by simp,by simp,rfl⟩
  | noPhone other phones =>
    have silent : o.echo act = [] := by
      cases act with
      | chooseCountry => exact if_neg other
      | resume => cases phones
      | _ => rfl
    refine ⟨closed,by simp,?_,?_,silent ▸ nothing⟩
    · rintro i input rfl
      cases phones
    · rintro i rfl
      cases phones
  | edited => exact ⟨o.edited_closed.trans closed,by simp,by simp,by simp,nothing⟩
  | cleared => exact ⟨o.clearError_closed.trans closed,by simp,by simp,by simp,nothing⟩
  | resumed => exact ⟨closed,by simp,by simp,by simp,rfl⟩

/-- A user who comes back to a phone step can send a number again, unless the step has given up. -/
theorem OpenStep.Responds.cameBack (responds : o.Responds w act reply o' w') {i : Nat}
    (back : act = .phoneResend i) (nothing : reply = .nothing) :
    w' = w ∧ ∀ input, Text.trim input ≠ "" → (o'.accepts input = true ↔ o.core.budget.spent = false) := by
  cases responds with
  | @phoneResent _ p phone =>
    subst phone
    refine ⟨rfl,fun input written => ?_⟩
    have closed := p.resend_closed
    simp [accepts,core,closed,written]
  | submitted => cases back
  | wentBack => cases back
  | stayed => cases back
  | noWayBack => cases back
  | countryChosen => cases back
  | noPhone => cases nothing
  | edited => cases back
  | cleared => cases back
  | resumed => cases back

end

/-! ### Runs -/

theorem Turn.refused_stays {t : Turn γ σ} {i : Nat} (unmoved : t.act.step? = some i → ∀ m, t.reply ≠ .moved m) :
    ¬ t.GivesUp i ∧ ¬ t.HandsOver i :=
  ⟨fun ⟨on,_,moved⟩ => unmoved on _ moved,fun ⟨on,_,moved,_⟩ => unmoved on _ moved⟩

theorem not_closed_append {past : List (Turn γ σ)} {t : Turn γ σ} {i : Nat} (open_ : ¬ Closed past i)
    (unmoved : t.act.step? = some i → ∀ m, t.reply ≠ .moved m) : ¬ Closed (past ++ [t]) i := by
  obtain ⟨goesOn,stays⟩ := Turn.refused_stays unmoved
  rw [Closed,givenUp_append,since_append]
  rintro ((given | gives) | hands | ⟨since,-⟩)
  · exact open_ (.inl given)
  · exact goesOn gives
  · exact stays hands
  · exact open_ (.inr since)

section
variable [Gateway γ] [SessionStore σ] {s : Scene γ σ}

theorem Scene.turn_refused {i : Nat} (missing : s.steps[i]? = none) (act : Act) (on : act.step? = some i) (m : Move) :
    (s.turn act).reply ≠ .moved m := by
  have does : s.still.does act = (.refused .noController,s.still) := does_missing on missing
  rw [turn,does]
  simp

/-- What is known after some turns of which steps of a scene are closed. -/
structure Scene.Shut (past : List (Turn γ σ)) (s : Scene γ σ) : Prop where
  poised : s.Poised past
  unopened : ∀ i : Nat, s.steps[i]? = none → ¬ Closed past i
  opened : ∀ (i : Nat) (o : Opened), s.steps[i]? = some o → o.step.LeftBy past i

theorem Scene.Shut.turn {past : List (Turn γ σ)} (shut : s.Shut past) (act : Act) :
    (s.turn act).after.Shut (past ++ [s.turn act]) where
  poised := shut.poised.turn act
  unopened i missing := not_closed_append (shut.unopened i (missing_before missing))
    (fun on => Scene.turn_refused (missing_before missing) act on)
  opened := by
    intro i x there
    cases s.still.does_evolves act there with
    | opened missing opens valid =>
      have open_ := OpenStep.openFrom_open valid
      have never : ¬ Closed (past ++ [s.turn act]) i :=
        not_closed_append (shut.unopened i missing) (fun on => Scene.turn_refused missing act on)
      refine ⟨iff_of_false ?_ (fun given => never (.inl given)),iff_of_false (by simp [open_]) never⟩
      simp [StepState.unspent_of_open open_]
    | left found elsewhere =>
      obtain ⟨goesOn,stays⟩ := Turn.refused_stays (t := s.turn act) (i := i) (fun on => absurd on elsewhere)
      refine (shut.opened i x found).shifts (.stood goesOn stays ?_ rfl rfl)
      rintro ⟨back,-⟩
      exact elsewhere (by rw [show act = _ from back]; rfl)
    | responded found on responds =>
      have shifts := OpenStep.Responds.shifts (t := s.turn act) responds on (shut.poised i _ found).kind rfl
      exact (shut.opened i _ found).shifts shifts

theorem Scene.run_shut {acts : List Act} {earlier later : List (Turn γ σ)} {t : Turn γ σ} (fresh : s.steps = [])
    (split : s.run acts = earlier ++ t :: later) : t.before.Shut earlier :=
  run_always (I := fun past s => s.Shut past) (fun _ _ act shut => shut.turn act)
    ⟨by simp [Poised,fresh],by simp [Closed,GivenUp,Since],by simp [fresh]⟩ split

theorem OpenStep.accepts_blank {o : OpenStep} {input : String} (other : o.step ≠ .email)
    (blank : Text.trim input = "") : o.accepts input = false ∧ o.ignoring = o := by
  cases o with
  | email => exact absurd rfl other
  | _ => simp [accepts,ignoring,blank]

theorem OpenStep.accepts_invalid {o : OpenStep} {input : String} (email : o.step = .email)
    (open_ : o.core.isClosed = false) (invalid : EmailAddress.isValid (Text.trim input) = false) :
    o.accepts input = false ∧ o.ignoring = o.setCore (o.core.showError invalidEmailMessage) := by
  cases o with
  | email => simp [accepts,ignoring,open_,invalid]
  | _ => cases email

/-- A submit that a step does not accept leaves the scene as it is, but for what the step shows. -/
theorem Scene.turn_unaccepted {i : Nat} {o : Opened} (found : s.steps[i]? = some o) {input : String}
    (ignored : o.step.accepts input = false) : (s.turn (.submit i input)).reply = .moved .stay ∧
      (s.turn (.submit i input)).after = s.still.setStep i o.step.ignoring := by
  have there : s.still.steps[i]? = some o := found
  have does : s.still.does (.submit i input) = (.moved .stay,s.still.setStep i o.step.ignoring) := by
    simp only [Scene.does,onStep,there,perform,OpenStep.submit_unaccepted ignored]
    rfl
  rw [turn,does]
  exact ⟨rfl,rfl⟩

/-- In every run a step is closed exactly when it has given up, or has handed over or signed the user in and the user
    has not come back to it since. Until then nothing that is done on it makes a call, touches the store, tells a host
    or is replied with a move, and the journal keeps no more of it than that the step came into view or a country was
    chosen. The user who comes back can send a number again, unless the step has given up. Text that is blank leaves all
    as it is, and what is no address is said to be none. -/
theorem closed_inert {acts : List Act} {earlier later : List (Turn γ σ)} {t : Turn γ σ} {i : Nat} {o : Opened}
    (fresh : s.steps = []) (split : s.run acts = earlier ++ t :: later) (found : t.before.steps[i]? = some o)
    (on : t.act.step? = some i) : ∃ x, t.after.steps[i]? = some x ∧
      (o.step.core.isClosed = true ↔ Closed earlier i) ∧
      (Closed earlier i → ¬ t.ComesBack i →
        o.step.Rests t.before.still.world t.act t.reply x.step t.after.world) ∧
      (t.ComesBack i → t.after.world = t.before.still.world ∧
        ∀ input, Text.trim input ≠ "" → (x.step.accepts input = true ↔ ¬ GivenUp earlier i)) ∧
      (∀ input, t.act = .submit i input → o.step.step ≠ .email → Text.trim input = "" →
        t.reply = .moved .stay ∧ t.after = t.before.still) ∧
      (∀ input, t.act = .submit i input → o.step.step = .email → o.step.core.isClosed = false →
        EmailAddress.isValid (Text.trim input) = false → t.reply = .moved .stay ∧
          t.after = t.before.still.setStep i (o.step.setCore (o.step.core.showError invalidEmailMessage))) := by
  have member : t ∈ s.run acts := split ▸ List.mem_append_right _ List.mem_cons_self
  obtain ⟨spent,closed⟩ := (Scene.run_shut fresh split).opened i o found
  have turn := Scene.run_turn member
  generalize t.before = before at *
  generalize t.act = act at turn on ⊢
  subst turn
  obtain ⟨step,responds,after⟩ := Scene.does_responds (s := before.still) on found
  refine ⟨_,after,closed,fun shut away => ?_,?_,?_,?_⟩
  · refine responds.rests (closed.mpr shut) fun j again nothing => away ⟨?_,nothing⟩
    subst again
    cases on
    rfl
  · rintro ⟨back,nothing⟩
    obtain ⟨world,again⟩ := responds.cameBack back nothing
    refine ⟨world,fun input written => (again input written).trans ?_⟩
    rw [← spent,Bool.not_eq_true]
  · rintro input rfl other blank
    obtain ⟨ignored,same⟩ := OpenStep.accepts_blank other blank
    obtain ⟨stays,unchanged⟩ := Scene.turn_unaccepted found ignored
    rw [same,Scene.setStep_same (s := before.still) found] at unchanged
    exact ⟨stays,unchanged⟩
  · rintro input rfl email open_ invalid
    obtain ⟨ignored,shown⟩ := OpenStep.accepts_invalid email open_ invalid
    exact shown ▸ Scene.turn_unaccepted found ignored

end

/-- A phone step that has handed over is submitted again, and nothing comes of it. -/
theorem handed_over_inert :
    let run := (Scene.scripted { authenticateDevice := [.ok { requestId := "r", userId := 7 }] }).run
      [.start ⟨1,"",false⟩,.openStep .phoneNumber { receiver := some 0, phoneNumber := some "" },.submit 0 "5",
        .submit 0 "6"]
    ∃ o x, run[3].before.steps[0]? = some o ∧ run[3].after.steps[0]? = some x ∧ Closed (run.take 3) 0 ∧
      o.step.Rests run[3].before.still.world (.submit 0 "6") (.moved .stay) x.step run[3].after.world := by
  intro run
  have split : run = run.take 3 ++ run[3] :: run.drop 4 := rfl
  obtain ⟨o,found,shut⟩ : ∃ o, run[3].before.steps[0]? = some o ∧ o.step.core.isClosed = true :=
    ⟨_,rfl,by decide +kernel⟩
  obtain ⟨x,after,closed,rests,-⟩ := closed_inert rfl split found rfl
  have handed := closed.mp shut
  exact ⟨o,x,found,after,handed,rests handed (by simp [Turn.ComesBack,run,Scene.run,Scene.turn])⟩

end PhoneSignIn.Flow
