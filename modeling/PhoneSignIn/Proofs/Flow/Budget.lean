import PhoneSignIn.Proofs.Flow.Provenance
import PhoneSignIn.Proofs.Flow.Response

/-!
What a step does with its errors. The errors that a step meets in a turn are what fails before a session is kept
(`Turn.met`). A submit meets one at most, and answers it by telling the user or by giving up; nothing else that is
done on a step touches its budget (`OpenStep.Responds.charges`). So the count of a step is the number of errors
that it has met, and a step that has given up meets no more (`errors_budgeted`).
-/
namespace PhoneSignIn.Flow

variable {γ σ : Type}

/-! ### The errors of a turn -/

/-- The error that a step meets. A device that the service does not know is registered, and a session that is
    missing where a user's is needed is an error like another. -/
def Occurrence.error? : Occurrence → Option CallError
  | .asked (.authenticateDevice ..) (.error (.unknownDevice _)) => none
  | .asked _ (.error e) => some e
  | .read (.error e) | .wrote _ (.error e) => some (.ofStorage e)
  | .read (.ok active) => if active.all (·.isGuest) then some (.fatal "") else none
  | _ => none

/-- The errors that are met until a session is kept; what is read after that is read for the host. -/
def errors (l : List Occurrence) : List CallError :=
  (l.takeWhile fun o => o.kept?.isNone).filterMap Occurrence.error?

/-- The errors that the step numbered `i` meets in a turn. -/
def Turn.met (t : Turn γ σ) (i : Nat) : List CallError := if t.act.step? = some i then errors t.happened else []

/-- Whether the step numbered `i` gives up in a turn. -/
def Turn.GivesUp (t : Turn γ σ) (i : Nat) : Prop := t.act.step? = some i ∧ ∃ f, t.reply = .moved (.gaveUp f)

/-- Where no session is kept, all errors are met. -/
theorem errors_append {l rest : List Occurrence} (unkept : ∀ o ∈ l, o.kept? = none) :
    errors (l ++ rest) = l.filterMap Occurrence.error? ++ errors rest := by
  rw [errors,List.takeWhile_append_of_pos (fun o member => by rw [unkept o member]; rfl),List.filterMap_append,errors]

theorem errors_of_unkept {l : List Occurrence} (unkept : ∀ o ∈ l, o.kept? = none) :
    errors l = l.filterMap Occurrence.error? := by
  have all : errors (l ++ []) = l.filterMap Occurrence.error? ++ errors [] := errors_append unkept
  rwa [List.append_nil,show errors [] = [] from rfl,List.append_nil] at all

theorem StepState.attempt_error (c : StepState) : c.attempt.error? = none := rfl
theorem PhoneStep.attempt_error (s : PhoneStep) : s.attempt.error? = none := by
  rw [PhoneStep.attempt]
  cases s.channel <;> rfl

theorem Occurrence.refused_error {number : String} {channel : Channel} {e : CallError}
    (known : e.errorClass ≠ .unknownDevice) :
    (Occurrence.asked (.authenticateDevice number channel) (.error e)).error? = some e := by
  cases e with
  | unknownDevice => exact absurd rfl known
  | _ => rfl

theorem Occurrence.guest_error {active : Option Session} (guest : ∀ session ∈ active, session.isGuest = true) :
    (Occurrence.read (.ok active)).error? = some (.fatal "") := by
  cases active with
  | none => rfl
  | some session => simp [Occurrence.error?,guest session rfl]

theorem Occurrence.user_error {session : Session} (user : session.isGuest = false) :
    (Occurrence.read (.ok (some session))).error? = none := by
  simp [Occurrence.error?,user]

/-- The error that a submit ends with. -/
def Finale.error? : Finale → Option CallError
  | .report e => some e
  | _ => none

theorem SignsIn.errors {session : Session} {phoneNumber : String} {wantsEmail : Bool} {l : List Occurrence}
    {fin : Finale} (goesOn : SignsIn session phoneNumber wantsEmail l fin) :
    l.filterMap Occurrence.error? = fin.error?.toList := by
  cases goesOn <;> rfl

/-- A course meets the error that it reports last, and no other. -/
theorem Course.errors [SessionStore σ] {text : String} {st st' : σ} {s s' : OpenStep} {l : List Occurrence}
    {fin : Finale} (course : Course text st s s' l st' fin) : l.filterMap Occurrence.error? = fin.error?.toList := by
  cases course with
  | @phone s _ _ _ sends =>
    rw [List.filterMap_cons_none s.attempt_error]
    cases sends with
    | refused e known => rw [List.filterMap_cons_some (Occurrence.refused_error known)]; rfl
    | _ => rfl
  | loginCode checks =>
    cases checks with
    | taken c full goesOn => exact goesOn.errors
    | _ => rfl
  | confirmationCode checks => cases checks <;> rfl
  | pinCode checks =>
    cases checks with
    | taken c goesOn => exact goesOn.errors
    | _ => rfl
  | @email s _ _ _ attaches =>
    rw [List.filterMap_cons_none s.core.attempt_error]
    cases attaches with
    | unreadable => rfl
    | noUser answer guest => rw [List.filterMap_cons_some (Occurrence.guest_error guest)]; rfl
    | refused answer user => rw [List.filterMap_cons_none (Occurrence.user_error user)]; rfl
    | taken answer user => rw [List.filterMap_cons_none (Occurrence.user_error user)]; rfl

/-! ### The budget of one step -/

/-- What becomes of the budget of a step that meets these errors, and what is replied. -/
inductive OpenStep.Charges (o o' : OpenStep) : List CallError → Reply → Prop where
  | nothing {reply} (same : o'.core.budget = o.core.budget) (goesOn : ∀ f, reply ≠ .moved (.gaveUp f)) :
    Charges o o' [] reply
  | told {e} (unspent : o.core.budget.spent = false) (mild : e.isFatal = false)
    (room : o.core.budget.count + 1 ≤ o.core.budget.limit)
    (counted : o'.core.budget = { o.core.budget with count := o.core.budget.count + 1 })
    (message : o'.core.view.message = some (o.core.step.messages.message e)) : Charges o o' [e] (.moved .stay)
  | gaveUp {e} (unspent : o.core.budget.spent = false)
    (severe : e.isFatal = true ∨ o.core.budget.limit < o.core.budget.count + 1)
    (counted : o'.core.budget = { o.core.budget with count := o.core.budget.count + 1, spent := true }) :
    Charges o o' [e] (.moved (.gaveUp { receiver := o.core.receiver, reason := e }))

theorem StepState.Answers.charges {o o' : OpenStep} {c' : StepState} {e : CallError} {m : Move} {l : List Occurrence}
    (answer : o'.core.Answers e m c' l) (keeps : o.Keeps o') (unspent : o.core.budget.spent = false) :
    o.Charges (o'.setCore c') [e] (.moved m) := by
  obtain ⟨step,receiver,budget⟩ := keeps
  cases answer with
  | told mild room =>
    rw [budget] at room
    refine .told unspent mild room ?_ ?_
    · rw [OpenStep.setCore_core,← budget]
      rfl
    · rw [OpenStep.setCore_core,← step]
      rfl
  | gaveUp severe =>
    rw [budget] at severe
    rw [receiver]
    refine .gaveUp unspent severe ?_
    rw [OpenStep.setCore_core,← budget]

/-- A step that accepts what the user sends has not given up. -/
theorem OpenStep.unspent {o : OpenStep} {input : String} (accepted : o.accepts input = true) :
    o.core.budget.spent = false := StepState.unspent_of_open (open_of_accepts accepted)

theorem Submits.charges [SessionStore σ] {o o' : OpenStep} {input : String} {w w' : World γ σ} {m : Move}
    (submits : Submits o input w m o' w') (empty : w.history = []) : o.Charges o' (errors w'.history) (.moved m) := by
  cases submits with
  | ignored rest same =>
    rw [empty]
    refine .nothing ?_ (by simp)
    rcases same with rfl | rfl
    · rfl
    · rw [OpenStep.setCore_core]
      rfl
  | @went s' l g st fin m c' w' accepted course ends =>
    have unspent := OpenStep.unspent accepted
    have unkept : ∀ x ∈ l, x.kept? = none := fun x member => (course.plain x member).keeps_none.1
    have answered {e : CallError} {m : Move} {c' : StepState} {rest : List Occurrence}
        (answer : s'.core.Answers e m c' rest) : errors rest = [] := by
      cases answer <;> rfl
    have finished : s'.core.finish.budget = o.core.budget := course.keeps.budget
    have met (rest : List Occurrence) : errors (w.history ++ l ++ rest) = fin.error?.toList ++ errors rest := by
      rw [empty,List.nil_append,errors_append unkept,course.errors]
    cases ends with
    | reported answer =>
      rw [World.advance_history,World.advance_history,met,answered answer]
      exact answer.charges course.keeps unspent
    | handedOver =>
      have nothing := met []
      rw [List.append_nil] at nothing
      rw [World.advance_history,nothing]
      exact .nothing (by rw [OpenStep.setCore_core,finished]) (by simp)
    | @unkept _ session _ e _ _ _ rest keeps refused answer =>
      have failed : errors (.wrote session (.error e) :: rest) = [.ofStorage e] :=
        congrArg (CallError.ofStorage e :: ·) (answered answer)
      rw [World.advance_history,World.advance_history,met,failed]
      rcases keeps with rfl | rfl
      · exact answer.charges course.keeps unspent
      · exact answer.charges course.keeps unspent
    | emailRequested =>
      rw [World.advance_history,World.advance_history,met]
      exact .nothing (by rw [OpenStep.setCore_core,finished]) (by simp)
    | @signedIn session phoneNumber st' =>
      obtain ⟨rest,history,-⟩ := (handIn_arrives s'.core.receiver successCode { phoneNumber }
        ((w.advance g st l).advance g st' [.wrote session (.ok ())])).uncalled
      rw [World.advance_history,World.advance_history,List.append_assoc (w.history ++ l)] at history
      have same := congrArg errors history
      rw [met] at same
      exact same ▸ .nothing (by rw [OpenStep.setCore_core,finished]) (by simp)

theorem PhoneStep.resend_budget (p : PhoneStep) : p.resend.core.budget = p.core.budget := by
  obtain ⟨_,_,asked⟩ := PhoneStep.askAgain_keeps { p with core := p.core.reenter }
  rw [resend,asked]
  simp only [StepState.reenter]
  split <;> rfl

theorem OpenStep.edited_budget (o : OpenStep) : o.edited.core.budget = o.core.budget := by
  cases o with
  | phone p =>
    simp only [edited,PhoneStep.edited,core]
    split <;> rfl
  | _ => rfl

section
variable [SessionStore σ] {o o' : OpenStep} {w w' : World γ σ} {act : Act} {reply : Reply}

/-- Only a submit touches the budget of a step. -/
theorem OpenStep.Responds.charges (responds : o.Responds w act reply o' w') (empty : w.history = []) :
    o.Charges o' (errors w'.history) reply := by
  have silent : errors w.history = [] := by rw [empty]; rfl
  have noted (event : Journal.Event) : errors (w.history ++ [.recorded event]) = [] := by rw [empty]; rfl
  cases responds with
  | submitted submits => exact submits.charges empty
  | wentBack =>
    rw [World.advance_history,noted]
    exact .nothing (by rw [setCore_core]; rfl) (by simp)
  | stayed => exact silent ▸ .nothing rfl (by simp)
  | noWayBack => exact silent ▸ .nothing rfl (by simp)
  | phoneResent phone =>
    subst phone
    exact silent ▸ .nothing (PhoneStep.resend_budget _) (by simp)
  | countryChosen phone =>
    subst phone
    rw [World.advance_history,noted]
    exact .nothing rfl (by simp)
  | noPhone => exact silent ▸ .nothing rfl (by simp)
  | edited => exact silent ▸ .nothing o.edited_budget (by simp)
  | cleared => exact silent ▸ .nothing (by rw [clearError,setCore_core]; rfl) (by simp)
  | resumed =>
    rw [World.advance_history,noted]
    exact .nothing rfl (by simp)

/-- A step that has given up makes no calls and writes nothing. -/
theorem OpenStep.Responds.idle (responds : o.Responds w act reply o' w') (empty : w.history = [])
    (spent : o.core.budget.spent = true) : ∀ x ∈ w'.history, x.call? = none ∧ x.write? = none := by
  have noted (event : Journal.Event) :
      ∀ x ∈ w.history ++ [.recorded event], x.call? = none ∧ x.write? = none := by
    rw [empty]
    simp [Occurrence.call?,Occurrence.write?]
  cases responds with
  | submitted submits =>
    cases submits with
    | ignored => simp [empty]
    | went accepted =>
      rw [unspent accepted] at spent
      cases spent
  | wentBack => exact noted _
  | countryChosen => exact noted _
  | resumed => exact noted _
  | _ => simp [empty]

end

/-! ### The settings -/

theorem Arrives.settings [SessionStore σ] {w w' : World γ σ} {id : ReceiverId} {code : Int32} {data : LoginResult}
    (arrives : Arrives w id code data w') : w'.settings = w.settings := by
  cases arrives <;> rfl

theorem World.Silent.settings {w w' : World γ σ} (silent : w.Silent w') : w'.settings = w.settings := by
  obtain ⟨l,g,st,-,rfl⟩ := silent
  rfl

theorem Scene.Makes.settings [Gateway γ] [SessionStore σ] {s : Scene γ σ} {act : Act} {reply : Reply} {w' : World γ σ}
    (makes : s.Makes act reply w') : w'.settings = s.world.settings := by
  cases makes with
  | recorded quiet records => exact records.silent.settings
  | began begins => cases begins <;> rfl
  | submitted found submits =>
    rcases submits.silent_or_signedIn with ⟨-,silent⟩ | ⟨-,_,_,silent,arrives⟩
    · exact silent.settings
    · exact arrives.settings.trans silent.settings
  | dismissed found clicked arrives => exact arrives.settings.trans clicked.silent.settings
  | handedIn hands arrives => exact arrives.settings
  | verified => exact (refreshSession_silent _ _).settings
  | _ => rfl

/-! ### Runs -/

/-- How the step numbered `i` stands with its budget after some turns. -/
structure OpenStep.Budgeted (o : OpenStep) (limit : UInt64) (past : List (Turn γ σ)) (i : Nat) : Prop where
  limit : o.core.budget.limit = limit
  count : o.errorCount.toNat = (past.flatMap (·.met i)).length
  closed : (∃ a ∈ past, a.GivesUp i) → o.core.budget.spent = true

/-- Whether nothing has been done in some turns on a step that is to be numbered `i`. -/
def Untouched (past : List (Turn γ σ)) (i : Nat) : Prop := ∀ a ∈ past, a.met i = [] ∧ ¬ a.GivesUp i

theorem OpenStep.BeginsWith.budgeted {o : OpenStep} {settings : Settings} {h : Handoff}
    (begins : o.BeginsWith settings h) {past : List (Turn γ σ)} {i : Nat} (untouched : Untouched past i) :
    o.Budgeted settings.maxErrors past i where
  limit := by rw [begins.budget]
  count := by
    rw [List.flatMap_eq_nil_iff.mpr fun a member => (untouched a member).1,errorCount,begins.budget]
    rfl
  closed := fun ⟨a,member,gaveUp⟩ => absurd gaveUp (untouched a member).2

/-- A turn in which the step neither meets an error nor gives up changes nothing. -/
theorem OpenStep.Budgeted.stands {o o' : OpenStep} {limit : UInt64} {past : List (Turn γ σ)} {i : Nat}
    (budgeted : o.Budgeted limit past i) (same : o'.core.budget = o.core.budget) {t : Turn γ σ} (met : t.met i = [])
    (goesOn : ¬ t.GivesUp i) : o'.Budgeted limit (past ++ [t]) i where
  limit := by rw [same,budgeted.limit]
  count := by
    rw [List.flatMap_append,List.flatMap_singleton,met,List.append_nil,← budgeted.count,errorCount,same]
    rfl
  closed := by
    rintro ⟨a,member,gaveUp⟩
    rw [same]
    rcases List.mem_append.mp member with before | now
    · exact budgeted.closed ⟨a,before,gaveUp⟩
    · rw [List.mem_singleton.mp now] at gaveUp
      exact absurd gaveUp goesOn

/-- A turn that counts an error more, and in which the step gives up only if its budget is spent then. -/
theorem OpenStep.Budgeted.counts {o o' : OpenStep} {limit : UInt64} {past : List (Turn γ σ)} {i : Nat}
    (budgeted : o.Budgeted limit past i) (unspent : o.core.budget.spent = false) {spent : Bool}
    (counted : o'.core.budget = { o.core.budget with count := o.core.budget.count + 1, spent }) {t : Turn γ σ}
    {e : CallError} (met : t.met i = [e]) (goesOn : t.GivesUp i → spent = true)
    (few : ((past ++ [t]).flatMap (·.met i)).length < UInt64.size) : o'.Budgeted limit (past ++ [t]) i where
  limit := by rw [counted,budgeted.limit]
  count := by
    have before := budgeted.count
    rw [List.flatMap_append,List.flatMap_singleton,met,List.length_append,List.length_singleton] at few ⊢
    rw [← before] at few ⊢
    rw [errorCount,counted,UInt64.toNat_add]
    exact Nat.mod_eq_of_lt few
  closed := by
    rintro ⟨a,member,gaveUp⟩
    rw [counted]
    rcases List.mem_append.mp member with before | now
    · have spent := budgeted.closed ⟨a,before,gaveUp⟩
      rw [unspent] at spent
      cases spent
    · rw [List.mem_singleton.mp now] at gaveUp
      exact goesOn gaveUp

/-- How a step answers its `n`th error in a turn: the user is told of it when it is within the limit and no retry is in
    vain; else the step gives up. -/
def OpenStep.Answered (limit : UInt64) (n : Nat) (o o' : OpenStep) (t : Turn γ σ) (e : CallError) : Prop :=
  if n ≤ limit.toNat ∧ e.isFatal = false then
    t.reply = .moved .stay ∧ o'.core.view.message = some (o.core.step.messages.message e)
  else t.reply = .moved (.gaveUp { receiver := o.core.receiver, reason := e })

/-- How a step spends its budget in a turn, when it has met `n` errors before: it answers the one error that it meets,
    and gives up for that only. -/
structure OpenStep.Spends (limit : UInt64) (n i : Nat) (o o' : OpenStep) (t : Turn γ σ) : Prop where
  answers : ∀ e ∈ t.met i, t.met i = [e] ∧ o.Answered limit (n + 1) o' t e
  cause : t.GivesUp i → t.met i ≠ []

/-- Whether a step that has given up does so no more in a turn: it meets no error, its budget stays as it is, it makes
    no call and writes nothing. -/
structure OpenStep.StaysClosed (i : Nat) (o o' : OpenStep) (t : Turn γ σ) : Prop where
  closed : o.core.isClosed = true ∧ o'.core.isClosed = true
  met : t.met i = []
  goesOn : ¬ t.GivesUp i
  budget : o'.core.budget = o.core.budget
  idle : t.act.step? = some i → ∀ y ∈ t.happened, y.call? = none ∧ y.write? = none

theorem OpenStep.spends_nothing {limit : UInt64} {n i : Nat} {o o' : OpenStep} {t : Turn γ σ} (met : t.met i = [])
    (goesOn : ¬ t.GivesUp i) : o.Spends limit n i o' t where
  answers := by simp [met]
  cause gaveUp := absurd gaveUp goesOn

theorem StepState.closed_of_spent {c : StepState} (spent : c.budget.spent = true) : c.isClosed = true := by
  rw [isClosed,spent,Bool.or_true]

section
variable [Gateway γ] [SessionStore σ] {s : Scene γ σ} {acts : List Act} {earlier later : List (Turn γ σ)}
  {t : Turn γ σ} {i : Nat} {o : Opened}

theorem Scene.turn_missing (missing : s.steps[i]? = none) (act : Act) :
    (s.turn act).met i = [] ∧ ¬ (s.turn act).GivesUp i := by
  by_cases on : act.step? = some i
  · have does : s.still.does act = (.refused .noController,s.still) := does_missing on missing
    have nothing : (s.turn act).happened = [] := by rw [Turn.happened,turn,does]; rfl
    constructor
    · rw [Turn.met,nothing]
      exact if_pos on
    · rintro ⟨-,f,gaveUp⟩
      rw [turn,does] at gaveUp
      cases gaveUp
  · exact ⟨if_neg on,fun gaveUp => on gaveUp.1⟩

theorem Untouched.turn {past : List (Turn γ σ)} (untouched : Untouched past i) (missing : s.steps[i]? = none)
    (act : Act) : Untouched (past ++ [s.turn act]) i :=
  List.forall_mem_append.mpr ⟨untouched,List.forall_mem_singleton.mpr (Scene.turn_missing missing act)⟩

theorem OpenStep.Budgeted.responds {limit : UInt64} {past : List (Turn γ σ)} {act : Act} {o step : OpenStep}
    (budgeted : o.Budgeted limit past i) (on : act.step? = some i)
    (responds : o.Responds s.still.world act (s.turn act).reply step (s.turn act).after.world)
    (few : ((past ++ [s.turn act]).flatMap (·.met i)).length < UInt64.size) :
    step.Budgeted limit (past ++ [s.turn act]) i := by
  have met : (s.turn act).met i = errors (s.turn act).after.world.history := if_pos on
  have charges := responds.charges rfl
  rw [← met] at charges
  generalize es : (s.turn act).met i = met at charges
  generalize answer : (s.turn act).reply = reply at charges
  cases charges with
  | nothing same goesOn => exact budgeted.stands same es fun ⟨_,f,gaveUp⟩ => goesOn f (answer.symm.trans gaveUp)
  | told unspent mild room counted message =>
    have same : step.core.budget =
        { o.core.budget with count := o.core.budget.count + 1, spent := o.core.budget.spent } := counted
    refine budgeted.counts unspent same es (fun ⟨_,f,gaveUp⟩ => ?_) few
    rw [answer] at gaveUp
    cases gaveUp
  | gaveUp unspent severe counted => exact budgeted.counts unspent counted es (fun _ => rfl) few

/-- What is known of all budgets of a scene after some turns. -/
structure Scene.Budgeted (limit : UInt64) (past : List (Turn γ σ)) (s : Scene γ σ) : Prop where
  settings : s.world.settings.maxErrors = limit
  unopened : ∀ i, s.steps[i]? = none → Untouched past i
  opened : ∀ i o, s.steps[i]? = some o → (past.flatMap (·.met i)).length < UInt64.size → o.step.Budgeted limit past i

theorem Scene.Budgeted.turn {limit : UInt64} {past : List (Turn γ σ)} (budgeted : s.Budgeted limit past) (act : Act) :
    (s.turn act).after.Budgeted limit (past ++ [s.turn act]) where
  settings := (congrArg Settings.maxErrors (s.still.does_makes act).settings).trans budgeted.settings
  unopened := fun i missing => (budgeted.unopened i (missing_before missing)).turn (missing_before missing) act
  opened := by
    intro i x there few
    have fewer : (past.flatMap (·.met i)).length < UInt64.size := by
      rw [List.flatMap_append,List.length_append] at few
      omega
    cases s.still.does_evolves act there with
    | opened missing opens valid =>
      rw [← budgeted.settings]
      exact (OpenStep.openFrom_begins valid).budgeted ((budgeted.unopened i missing).turn (s := s) missing act)
    | left found elsewhere =>
      exact (budgeted.opened i x found fewer).stands rfl (if_neg elsewhere) fun gaveUp => elsewhere gaveUp.1
    | responded found on responds => exact (budgeted.opened i _ found fewer).responds on responds few

theorem OpenStep.Responds.spends {limit : UInt64} {past : List (Turn γ σ)} {act : Act} {o step : OpenStep}
    (on : act.step? = some i)
    (responds : o.Responds s.still.world act (s.turn act).reply step (s.turn act).after.world)
    (budgeted : o.Budgeted limit past i) (few : ((past ++ [s.turn act]).flatMap (·.met i)).length < UInt64.size) :
    o.Spends limit (past.flatMap (·.met i)).length i step (s.turn act) ∧
      (o.core.budget.spent = true → o.StaysClosed i step (s.turn act)) := by
  have met : (s.turn act).met i = errors (s.turn act).after.world.history := if_pos on
  have charges := responds.charges rfl
  rw [← met] at charges
  have idle := responds.idle rfl
  rw [List.flatMap_append,List.flatMap_singleton,List.length_append,← budgeted.count] at few
  rw [← budgeted.count,← budgeted.limit]
  generalize es : (s.turn act).met i = met at charges few
  generalize answer : (s.turn act).reply = reply at charges
  -- The number of the next error, as it is counted.
  have number (room : o.errorCount.toNat + 1 < UInt64.size) :
      (o.core.budget.count + 1).toNat = o.errorCount.toNat + 1 := by
    rw [UInt64.toNat_add]
    exact Nat.mod_eq_of_lt room
  cases charges with
  | nothing same goesOn =>
    have stays : ¬ (s.turn act).GivesUp i := fun ⟨_,f,gaveUp⟩ => goesOn f (answer.symm.trans gaveUp)
    refine ⟨spends_nothing es stays,fun spent => ⟨⟨?_,?_⟩,es,stays,same,fun _ => idle spent⟩⟩
    · exact StepState.closed_of_spent spent
    · exact StepState.closed_of_spent (same ▸ spent)
  | @told e unspent mild room counted message =>
    refine ⟨⟨fun e' member => ?_,fun _ => by simp [es]⟩,fun spent => absurd spent (by simp [unspent])⟩
    rw [es] at member ⊢
    rw [List.mem_singleton.mp member]
    have within : o.errorCount.toNat + 1 ≤ o.core.budget.limit.toNat := by
      rw [← number few]
      exact room
    exact ⟨rfl,(if_pos ⟨within,mild⟩).mpr ⟨answer,message⟩⟩
  | @gaveUp e unspent severe counted =>
    refine ⟨⟨fun e' member => ?_,fun _ => by simp [es]⟩,fun spent => absurd spent (by simp [unspent])⟩
    rw [es] at member ⊢
    rw [List.mem_singleton.mp member]
    have beyond : ¬ (o.errorCount.toNat + 1 ≤ o.core.budget.limit.toNat ∧ e.isFatal = false) := by
      rintro ⟨within,mild⟩
      rcases severe with fatal | exceeded
      · rw [fatal] at mild
        cases mild
      · have exceeded : o.core.budget.limit.toNat < (o.core.budget.count + 1).toNat := exceeded
        rw [number few] at exceeded
        exact absurd within (Nat.not_le_of_lt exceeded)
    exact ⟨rfl,(if_neg beyond).mpr answer⟩

/-- In every run a step has counted the errors that it has met. It meets one at most in a turn; the user is told of it
    when it is within the limit and can be recovered from, and else the step gives up, for that error only. A step
    that has given up stays closed, whatever is done. -/
theorem errors_budgeted (fresh : s.steps = []) (split : s.run acts = earlier ++ t :: later)
    (found : t.before.steps[i]? = some o) (few : ((earlier ++ [t]).flatMap (·.met i)).length < UInt64.size) :
    ∃ x, t.after.steps[i]? = some x ∧ o.step.Budgeted s.world.settings.maxErrors earlier i ∧
      x.step.Budgeted s.world.settings.maxErrors (earlier ++ [t]) i ∧
      o.step.Spends s.world.settings.maxErrors (earlier.flatMap (·.met i)).length i x.step t ∧
      ((∃ a ∈ earlier, a.GivesUp i) → o.step.StaysClosed i x.step t) := by
  have member : t ∈ s.run acts := split ▸ List.mem_append_right _ List.mem_cons_self
  have budgeted : t.before.Budgeted s.world.settings.maxErrors earlier :=
    Scene.run_always (I := fun past s' => s'.Budgeted s.world.settings.maxErrors past)
      (fun _ _ act budgeted => budgeted.turn act) ⟨rfl,by simp [Untouched],by simp [fresh]⟩ split
  have stands : o.step.Budgeted s.world.settings.maxErrors earlier i := budgeted.opened i o found (by
    rw [List.flatMap_append,List.length_append] at few
    omega)
  have turn := Scene.run_turn member
  generalize t.before = before at *
  generalize t.act = act at turn
  subst turn
  by_cases on : act.step? = some i
  · obtain ⟨step,responds,after⟩ := Scene.does_responds (s := before.still) on found
    obtain ⟨spends,closed⟩ := responds.spends on stands few
    exact ⟨_,after,stands,(budgeted.turn act).opened i _ after few,spends,fun gaveUp => closed (stands.closed gaveUp)⟩
  · have after := Scene.does_elsewhere (s := before.still) found on
    have goesOn : ¬ (before.turn act).GivesUp i := fun gaveUp => on gaveUp.1
    refine ⟨o,after,stands,(budgeted.turn act).opened i o after few,OpenStep.spends_nothing (if_neg on) goesOn,?_⟩
    intro gaveUp
    have closed := StepState.closed_of_spent (stands.closed gaveUp)
    exact ⟨⟨closed,closed⟩,if_neg on,goesOn,rfl,fun here => absurd here on⟩

end

/-- A phone step that has met a fatal error stays closed when the user asks for the code again. -/
theorem given_up_stays :
    let run := (Scene.scripted
      { authenticateDevice := [.error (.service 1 "later"),.error (.fatal "gone"),
          .ok { requestId := "r", userId := 7 }] }).run
      [.start ⟨1,"",false⟩,.openStep .phoneNumber { receiver := some 0, phoneNumber := some "" },.submit 0 "5",
        .edited 0,.submit 0 "5",.phoneResend 0,.submit 0 "5"]
    (run.take 6).flatMap (·.met 0) = [.service 1 "later",.fatal "gone"] ∧ run[6].met 0 = [] ∧
      ∃ o, run[6].before.steps[0]? = some o ∧ o.step.errorCount.toNat = 2 ∧ o.step.core.isClosed = true := by
  intro run
  have met : (run.take 6).flatMap (·.met 0) = [.service 1 "later",.fatal "gone"] := by decide +kernel
  have split : run = run.take 6 ++ run[6] :: run.drop 7 := rfl
  have few : ((run.take 6 ++ [run[6]]).flatMap (·.met 0)).length < UInt64.size := by decide +kernel
  have gaveUp : run[4].GivesUp 0 := ⟨rfl,{ receiver := 0, reason := .fatal "gone" },rfl⟩
  obtain ⟨o,found⟩ := Option.isSome_iff_exists.mp (show (run[6].before.steps[0]?).isSome = true by decide +kernel)
  obtain ⟨_,-,stands,-,-,closed⟩ := errors_budgeted rfl split found few
  have stays := closed ⟨run[4],.tail _ (.tail _ (.tail _ (.tail _ (.head _)))),gaveUp⟩
  refine ⟨met,stays.met,o,found,?_,stays.closed.1⟩
  rw [stands.count,met]
  rfl

end PhoneSignIn.Flow
