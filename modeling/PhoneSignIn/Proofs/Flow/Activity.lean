import PhoneSignIn.Proofs.Flow.Budget

/-!
What the action control of a step shows. A submit sets the control to work, and every way out of the submit takes it
from there: an error that the user is told of is shown, a step that hands over or signs the user in shows that it is
done, and a step that gives up is closed (`OpenStep.Settles`). Nothing else that is done on a step sets its control to
anything but its start (`OpenStep.Responds.reshows`). So an open step asks for an action or tells of an error that it
has met, and is never left at work (`control_never_stuck`).
-/
namespace PhoneSignIn.Flow

variable {γ σ : Type}

/-! ### The ways out of a submit -/

/-- How a step stands that has accepted what the user sends, by the errors that it has met in doing so and by what it
    replies. -/
inductive OpenStep.Settles (o o' : OpenStep) : List CallError → Reply → Prop where
  | told {e} (charged : o.core.budget.charge e = (.tell,o'.core.budget)) (open_ : o'.core.isClosed = false)
    (activity : o'.core.view.activity = .error)
    (message : o'.core.view.message = some (o.step.messages.message e)) : Settles o o' [e] (.moved .stay)
  | gaveUp {e} (charged : o.core.budget.charge e = (.giveUp,o'.core.budget)) (spent : o'.core.budget.spent = true) :
    Settles o o' [e] (.moved (.gaveUp { receiver := o.core.receiver, reason := e }))
  | finished {m} (moved : m = .signedIn ∨ ∃ step h, m = .next step h) (budget : o'.core.budget = o.core.budget)
    (closed : o'.core.isClosed = true) (activity : o'.core.view.activity = .finish)
    (message : o'.core.view.message = none) : Settles o o' [] (.moved m)

theorem ErrorBudget.charge_tell {b : ErrorBudget} {e : CallError} (unspent : b.spent = false) (mild : e.isFatal = false)
    (room : b.count + 1 ≤ b.limit) : b.charge e = (.tell,{ b with count := b.count + 1 }) := by
  have within : ¬ b.limit < b.count + 1 := UInt64.not_lt.mpr room
  simp [charge,unspent,mild,within]

theorem ErrorBudget.charge_giveUp {b : ErrorBudget} {e : CallError} (unspent : b.spent = false)
    (severe : e.isFatal = true ∨ b.limit < b.count + 1) :
    b.charge e = (.giveUp,{ b with count := b.count + 1, spent := true }) := by
  simp [charge,unspent,severe]

/-- How a step stands after the last thing of a submit. -/
inductive StepState.Stands (c c' : StepState) : Move → Prop where
  | told (counted : c'.budget.count = c.budget.count + 1) (closed : c'.isClosed = c.isClosed)
    (activity : c'.view.activity = .error) : Stands c c' .stay
  | gaveUp {f} : Stands c c' (.gaveUp f)
  | finished {m} (moved : m = .signedIn ∨ ∃ step h, m = .next step h) (done : c' = c.finish) : Stands c c' m

theorem StepState.Answers.stands {c c' : StepState} {e : CallError} {m : Move} {l : List Occurrence}
    (answer : c.Answers e m c' l) : c.Stands c' m := by
  cases answer with
  | told => exact .told rfl rfl rfl
  | gaveUp => exact .gaveUp

theorem Concludes.stands [SessionStore σ] {c c' : StepState} {w w' : World γ σ} {fin : Finale} {m : Move}
    (ends : Concludes c w fin m c' w') : c.Stands c' m := by
  cases ends with
  | reported answer => exact answer.stands
  | handedOver => exact .finished (.inr ⟨_,_,rfl⟩) rfl
  | unkept _ _ answer => exact answer.stands
  | emailRequested => exact .finished (.inr ⟨_,_,rfl⟩) rfl
  | signedIn => exact .finished (.inl rfl) rfl

section
variable [SessionStore σ] {o o' : OpenStep} {w w' : World γ σ} {act : Act} {reply : Reply}

/-- Every way out of a submit settles the step. -/
theorem Submits.settles {input : String} {m : Move} (submits : Submits o input w m o' w')
    (accepted : o.accepts input = true) (kind : o.core.step = o.step) (empty : w.history = []) :
    o.Settles o' (errors w'.history) (.moved m) := by
  have charges := submits.charges empty
  cases submits with
  | ignored rest =>
    rw [accepted] at rest
    cases rest
  | @went s' l g st fin m c' w' accepted course ends =>
    have budget := course.keeps.budget
    generalize errors w'.history = es at charges
    cases ends.stands with
    | told counted closed activity =>
      cases charges with
      | nothing same =>
        -- The count of the error tells that there was one.
        rw [OpenStep.setCore_core] at same
        rw [same,budget] at counted
        simp at counted
      | told unspent mild room counted message =>
        refine .told ?_ ?_ ?_ (kind ▸ message)
        · rw [counted]
          exact ErrorBudget.charge_tell unspent mild room
        · rw [OpenStep.setCore_core,closed,course.keeps.closed]
          exact OpenStep.open_of_accepts accepted
        · rw [OpenStep.setCore_core]
          exact activity
    | gaveUp =>
      cases charges with
      | nothing same goesOn => exact absurd rfl (goesOn _)
      | gaveUp unspent severe counted =>
        refine .gaveUp ?_ (by rw [counted])
        rw [counted]
        exact ErrorBudget.charge_giveUp unspent severe
    | finished moved done =>
      have none_met : es = [] := by
        cases charges with
        | nothing => rfl
        | told => rcases moved with moved | ⟨_,_,moved⟩ <;> cases moved
        | gaveUp => rcases moved with moved | ⟨_,_,moved⟩ <;> cases moved
      subst none_met done
      refine .finished moved ?_ ?_ ?_ ?_
      · rw [OpenStep.setCore_core]
        exact budget
      · rw [OpenStep.setCore_core]
        rfl
      · rw [OpenStep.setCore_core]
        rfl
      · rw [OpenStep.setCore_core]
        exact course.keeps.silent

/-! ### All that is done on a step -/

/-- What the control of a step that is open after a turn shows then: it asks for an action, it tells of an error that
    the step has met in the turn, or it shows what it has shown before. -/
def OpenStep.Reshows (o o' : OpenStep) (es : List CallError) : Prop :=
  o'.core.isClosed = false → o'.core.view.activity = .start ∨ o'.core.view.activity = .error ∧ es ≠ [] ∨
    o.core.isClosed = false ∧ o'.core.view.activity = o.core.view.activity

/-- A control that shows what it showed before. -/
theorem OpenStep.reshows_same {es : List CallError} (closed : o'.core.isClosed = o.core.isClosed)
    (activity : o'.core.view.activity = o.core.view.activity) : o.Reshows o' es :=
  fun open_ => .inr (.inr ⟨closed ▸ open_,activity⟩)

theorem Submits.reshows {input : String} {m : Move} (submits : Submits o input w m o' w')
    (kind : o.core.step = o.step) (empty : w.history = []) : o.Reshows o' (errors w'.history) := by
  by_cases accepted : o.accepts input = true
  · intro open_
    have settles := submits.settles accepted kind empty
    generalize errors w'.history = es at settles ⊢
    cases settles with
    | told charged open_ activity => exact .inr (.inl ⟨activity,by simp⟩)
    | gaveUp charged spent => exact absurd (StepState.closed_of_spent spent) (by simp [open_])
    | finished moved budget closed => exact absurd closed (by simp [open_])
  · cases submits with
    | ignored rest same =>
      rcases same with rfl | rfl
      · exact OpenStep.reshows_same rfl rfl
      · refine OpenStep.reshows_same ?_ ?_
        · rw [OpenStep.setCore_core]
          rfl
        · rw [OpenStep.setCore_core]
          rfl
    | went accepted' => exact absurd accepted' accepted

/-- A phone step that is open after the user came back to it, or has changed the number, shows its start or what it
    has shown before. -/
theorem PhoneStep.resend_activity {p : PhoneStep} (open_ : p.resend.core.isClosed = false) :
    p.resend.core.view.activity = .start := by
  have unspent : p.core.budget.spent = false := by
    rw [← p.resend_budget]
    exact StepState.unspent_of_open open_
  simp only [resend,askAgain,StepState.reenter,unspent]
  split <;> rfl

theorem PhoneStep.edited_reshows (p : PhoneStep) (es : List CallError) :
    (OpenStep.phone p).Reshows (.phone p.edited) es := by
  have same : { p with core := p.core.clearError }.channel = p.channel := rfl
  rw [edited]
  cases called : p.channel with
  | sms =>
    simp only [same,called]
    exact OpenStep.reshows_same rfl rfl
  | voiceCall =>
    simp only [same,called]
    exact fun _ => .inl rfl

/-- Only a submit sets the control of a step to anything but its start. -/
theorem OpenStep.Responds.reshows (responds : o.Responds w act reply o' w') (kind : o.core.step = o.step)
    (empty : w.history = []) : o.Reshows o' (errors w'.history) := by
  cases responds with
  | submitted submits => exact submits.reshows kind empty
  | wentBack =>
    intro open_
    rw [setCore_core] at open_
    cases open_
  | phoneResent => exact fun open_ => .inl (PhoneStep.resend_activity open_)
  | countryChosen phone => exact phone ▸ reshows_same rfl rfl
  | edited =>
    cases o with
    | phone p => exact p.edited_reshows _
    | _ => exact reshows_same rfl rfl
  | cleared =>
    refine reshows_same ?_ ?_
    · rw [clearError,setCore_core]
      rfl
    · rw [clearError,setCore_core]
      rfl
  | _ => exact reshows_same rfl rfl

/-- A step stays of its kind. -/
theorem Submits.kind {input : String} {m : Move} (submits : Submits o input w m o' w') :
    o'.core.step = o.core.step := by
  cases submits with
  | ignored rest same =>
    rcases same with rfl | rfl
    · rfl
    · rw [OpenStep.setCore_core]
      rfl
  | @went s' l g st fin m c' w' accepted course ends =>
    have answered {e : CallError} {m : Move} {c' : StepState} {l : List Occurrence}
        (answer : s'.core.Answers e m c' l) : c'.step = s'.core.step := by
      cases answer <;> rfl
    rw [OpenStep.setCore_core,← course.keeps.step]
    cases ends with
    | reported answer => exact answered answer
    | unkept _ _ answer => exact answered answer
    | _ => rfl

theorem PhoneStep.resend_kind (p : PhoneStep) : p.resend.core.step = p.core.step := by
  simp only [resend,askAgain,StepState.reenter]
  split <;> split <;> rfl

theorem PhoneStep.edited_kind (p : PhoneStep) : p.edited.core.step = p.core.step := by
  rw [edited]
  split <;> rfl

theorem OpenStep.Responds.kind (responds : o.Responds w act reply o' w') (kind : o.core.step = o.step) :
    o'.core.step = o'.step := by
  rw [responds.becomes.keeps.1,← kind]
  cases responds with
  | submitted submits => exact submits.kind
  | wentBack =>
    rw [setCore_core]
    rfl
  | phoneResent phone => exact phone ▸ PhoneStep.resend_kind _
  | countryChosen phone => exact phone ▸ rfl
  | edited =>
    cases o with
    | phone p => exact p.edited_kind
    | _ => rfl
  | cleared =>
    rw [clearError,setCore_core]
    rfl
  | _ => rfl

end

/-- A step that has just been opened asks for an action. -/
theorem OpenStep.openFrom_starts {settings : Settings} {kind : Step} {h : Handoff} {o : OpenStep}
    (opens : OpenStep.openFrom settings kind h = .ok o) :
    o.core.step = o.step ∧ o.core.view.activity = .start := by
  obtain ⟨r,_,_,-,core⟩ := openFrom_new opens
  rw [openFrom_step opens,core]
  exact ⟨rfl,rfl⟩

/-! ### Runs -/

/-- What the control of the step numbered `i` shows after some turns: while the step is open, that it asks for an action
    or that the step has met an error. -/
structure OpenStep.Poised (past : List (Turn γ σ)) (i : Nat) (o : OpenStep) : Prop where
  kind : o.core.step = o.step
  control : o.core.isClosed = false →
    o.core.view.activity = .start ∨ o.core.view.activity = .error ∧ past.flatMap (·.met i) ≠ []

theorem OpenStep.Poised.reshows {past : List (Turn γ σ)} {t : Turn γ σ} {i : Nat} {o o' : OpenStep}
    (poised : o.Poised past i) (kind : o'.core.step = o'.step) (reshows : o.Reshows o' (t.met i)) :
    o'.Poised (past ++ [t]) i where
  kind := kind
  control open_ := by
    rw [List.flatMap_append,List.flatMap_singleton]
    rcases reshows open_ with start | ⟨error,met⟩ | ⟨before,same⟩
    · exact .inl start
    · exact .inr ⟨error,List.append_ne_nil_of_right_ne_nil _ met⟩
    · rw [same]
      exact (poised.control before).imp_right fun ⟨error,met⟩ => ⟨error,List.append_ne_nil_of_left_ne_nil met _⟩

section
variable [Gateway γ] [SessionStore σ] {s : Scene γ σ}

/-- What is known of all controls of a scene after some turns. -/
def Scene.Poised (past : List (Turn γ σ)) (s : Scene γ σ) : Prop :=
  ∀ (i : Nat) (o : Opened), s.steps[i]? = some o → o.step.Poised past i

theorem Scene.Poised.turn {past : List (Turn γ σ)} (poised : s.Poised past) (act : Act) :
    (s.turn act).after.Poised (past ++ [s.turn act]) := by
  intro i x there
  cases s.still.does_evolves act there with
  | opened missing opens valid =>
    obtain ⟨kind,start⟩ := OpenStep.openFrom_starts valid
    exact ⟨kind,fun _ => .inl start⟩
  | left found elsewhere => exact (poised i x found).reshows (poised i x found).kind (OpenStep.reshows_same rfl rfl)
  | @responded o step found on responds =>
    have before := poised i o found
    have met : (s.turn act).met i = errors (s.turn act).after.world.history := if_pos on
    exact before.reshows (responds.kind before.kind) (met ▸ responds.reshows before.kind rfl)

theorem Scene.run_poised {acts : List Act} {earlier later : List (Turn γ σ)} {t : Turn γ σ} (fresh : s.steps = [])
    (split : s.run acts = earlier ++ t :: later) : t.before.Poised earlier :=
  run_always (I := fun past s => s.Poised past) (fun _ _ act poised => poised.turn act) (by simp [Poised,fresh]) split

end

end PhoneSignIn.Flow
