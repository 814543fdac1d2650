import PhoneSignIn.Proofs.Flow.Closing
import PhoneSignIn.Proofs.Flow.Voice

/-!
The journal accounts for what is done on a step. A submit that a step accepts is written down as one click, and after
it that a call went well, or the error that the step has met, or both in this order (`Aftermath`); nothing else that is
done on a step tells of an error, a failure or a success (`OpenStep.Responds.records`). So what a step has recorded in
a run tells the errors that it has shown, in their order, and whether it has given up, and its count is their number
(`ledger_accounts`).
-/
namespace PhoneSignIn.Journal

/-- The service's code of an error that was shown. -/
def Action.shown? : Action → Option (Option Int32)
  | .error code => some code
  | _ => none

/-- How many errors some actions tell of: those that were shown, and those for which a step gave up. -/
def faults (l : List Action) : Nat := (l.filterMap Action.shown?).length + l.count .failure

theorem faults_append (l l' : List Action) : faults (l ++ l') = faults l + faults l' := by
  simp only [faults,List.filterMap_append,List.length_append,List.count_append]
  omega

/-- What a component does in a part of the journal. -/
def actionsOf (component : Component) (l : List Event) : List Action :=
  (l.filter (·.component = component)).map (·.action)

/-- Some actions as a component records them. -/
def recordedBy (component : Component) (l : List Action) : List Event := l.map (Event.mk component)

theorem actionsOf_recordedBy {component : Component} {own : List Action} {aside : List Event}
    (apart : ∀ event ∈ aside, event.component ≠ component) :
    actionsOf component (recordedBy component own ++ aside) = own := by
  have nothing : aside.filter (·.component = component) = [] :=
    List.filter_eq_nil_iff.mpr fun event member => by simpa using apart event member
  have all : (recordedBy component own).filter (·.component = component) = recordedBy component own :=
    List.filter_eq_self.mpr fun event member => by
      obtain ⟨action,-,rfl⟩ := List.mem_map.mp member
      simp
  rw [actionsOf,List.filter_append,nothing,all,List.append_nil,recordedBy,List.map_map]
  exact List.map_id own

end PhoneSignIn.Journal

namespace PhoneSignIn.Flow
open Journal (actionsOf recordedBy faults)

variable {γ σ : Type}

/-! ### What the journal keeps -/

/-- What the journal keeps when something happens. -/
def Occurrence.event? : Occurrence → Option Journal.Event
  | .recorded event => some event
  | _ => none

/-- What the journal keeps of all that happens. -/
def journal (l : List Occurrence) : List Journal.Event := l.filterMap Occurrence.event?

theorem journal_append (l l' : List Occurrence) : journal (l ++ l') = journal l ++ journal l' :=
  List.filterMap_append

/-- What the journal keeps of a turn. -/
def Turn.journal (t : Turn γ σ) : List Journal.Event := Flow.journal t.happened

/-- What the step numbered `i` records in a turn: the actions of its component, when something is done on it. -/
def Turn.entries (t : Turn γ σ) (i : Nat) : List Journal.Action :=
  match t.before.steps[i]? with
  | some o => if t.act.step? = some i then actionsOf o.step.step.component t.journal else []
  | none => []

/-- All that the step numbered `i` records in some turns. -/
def ledger (past : List (Turn γ σ)) (i : Nat) : List Journal.Action := past.flatMap (·.entries i)

/-- What a step gives up with. -/
def Reply.failure? : Reply → Option FailureHandoff
  | .moved (.gaveUp f) => some f
  | _ => none

theorem Reply.failure_iff {reply : Reply} : reply.failure?.isSome = true ↔ ∃ f, reply = .moved (.gaveUp f) := by
  unfold failure?
  split <;> simp_all

instance Turn.decidableGivesUp (t : Turn γ σ) (i : Nat) : Decidable (t.GivesUp i) :=
  decidable_of_iff (t.act.step? = some i ∧ t.reply.failure?.isSome = true) (and_congr_right' Reply.failure_iff)

/-- The errors that the step numbered `i` shows in a turn: those that it meets, unless it gives up. -/
def Turn.shown (t : Turn γ σ) (i : Nat) : List CallError := if t.GivesUp i then [] else t.met i

/-- The click that is to be recorded of a submit after what its step has recorded before. A code that comes by a call
    is asked for with a click of its own; else the user tries again when an error was shown. -/
def Turn.clickAfter (t : Turn γ σ) (past : List Journal.Action) : Journal.Element :=
  if ∃ o ∈ t.happened, o.channel? = some .voiceCall then .callMe
  else if past.filterMap Journal.Action.shown? = [] then .submit else .retry

/-! ### What a submit records -/

/-- What a step records after the click of a submit that it has accepted, by the errors that it has met and how it goes
    on: one error that is shown with its code, or that it gives up for, where a call may have gone well before; or
    else that a call went well. -/
inductive Aftermath : List CallError → Move → List Journal.Action → Prop where
  | told {e n} (most : n ≤ 1) : Aftermath [e] .stay (List.replicate n .success ++ [.error e.code?])
  | gaveUp {e f n} (most : n ≤ 1) : Aftermath [e] (.gaveUp f) (List.replicate n .success ++ [.failure])
  | finished {m} (moved : m = .signedIn ∨ ∃ step h, m = .next step h) : Aftermath [] m [.success]

/-- What the user clicks who sends something. -/
def StepState.element (c : StepState) : Journal.Element := if c.budget.hasErrors then .retry else .submit

/-- What the user clicks who sends something; a call is asked for with a click of its own. -/
def OpenStep.element : OpenStep → Journal.Element
  | .phone p => match p.channel with
    | .voiceCall => .callMe
    | .sms => p.core.element
  | o => o.core.element

theorem OpenStep.attempt_recorded (o : OpenStep) :
    o.attempt = .recorded ⟨o.core.step.component,.click o.element⟩ := by
  cases o with
  | phone p =>
    simp only [attempt,element,PhoneStep.attempt]
    cases p.channel <;> rfl
  | _ => rfl

theorem SignsIn.journal {session : Session} {phoneNumber : String} {wantsEmail : Bool} {l : List Occurrence}
    {fin : Finale} (goesOn : SignsIn session phoneNumber wantsEmail l fin) : Flow.journal l = [] := by
  cases goesOn <;> rfl

/-- A course records the click first, and then at most that a call went well, which it does unless it ends with an
    error. -/
theorem Course.journal [SessionStore σ] {text : String} {st st' : σ} {s s' : OpenStep} {l : List Occurrence}
    {fin : Finale} (course : Course text st s s' l st' fin) : ∃ n ≤ 1, (fin.error? = none → n = 1) ∧
      Flow.journal l = recordedBy s.core.step.component (.click s.element :: List.replicate n .success) := by
  have click (rest : List Occurrence) :
      Flow.journal (s.attempt :: rest) = ⟨s.core.step.component,.click s.element⟩ :: Flow.journal rest := by
    rw [s.attempt_recorded]
    rfl
  have went {call : Call} {answer : Except CallError call.Answer} {rest : List Occurrence}
      (silent : Flow.journal rest = []) :
      Flow.journal (s.attempt :: .asked call answer :: s.core.succeeded :: rest) =
        recordedBy s.core.step.component [.click s.element,.success] := by
    rw [click]
    change _ :: ⟨_,.success⟩ :: Flow.journal rest = _
    rw [silent]
    rfl
  cases course with
  | phone sends =>
    cases sends with
    | loginStarted => exact ⟨1,Nat.le_refl _,fun _ => rfl,click _⟩
    | registered => exact ⟨1,Nat.le_refl _,fun _ => rfl,click _⟩
    | _ => exact ⟨0,Nat.zero_le _,nofun,click _⟩
  | loginCode checks =>
    cases checks with
    | refused => exact ⟨0,Nat.zero_le _,nofun,click _⟩
    | pinWanted => exact ⟨1,Nat.le_refl _,fun _ => rfl,click _⟩
    | taken c full goesOn => exact ⟨1,Nat.le_refl _,fun _ => rfl,went goesOn.journal⟩
  | confirmationCode checks =>
    cases checks with
    | refused => exact ⟨0,Nat.zero_le _,nofun,click _⟩
    | _ => exact ⟨1,Nat.le_refl _,fun _ => rfl,click _⟩
  | pinCode checks =>
    cases checks with
    | refused => exact ⟨0,Nat.zero_le _,nofun,click _⟩
    | taken c goesOn => exact ⟨1,Nat.le_refl _,fun _ => rfl,went goesOn.journal⟩
  | email attaches =>
    cases attaches with
    | taken => exact ⟨1,Nat.le_refl _,fun _ => rfl,click _⟩
    | _ => exact ⟨0,Nat.zero_le _,nofun,click _⟩

theorem StepState.Answers.journal {c c' : StepState} {e : CallError} {m : Move} {l : List Occurrence}
    (answer : c.Answers e m c' l) : ∃ own, Flow.journal l = recordedBy c.step.component own ∧ errors l = [] ∧
      ∀ n ≤ 1, Aftermath [e] m (List.replicate n .success ++ own) := by
  cases answer with
  | told => exact ⟨[.ofError e],rfl,rfl,fun _ most => .told most⟩
  | gaveUp => exact ⟨[.failure],rfl,rfl,fun _ most => .gaveUp most⟩

/-- What the journal keeps of a result that reaches a receiver is that the host is told. -/
theorem Arrives.journal [SessionStore σ] {w w' : World γ σ} {id : ReceiverId} {code : Int32} {data : LoginResult}
    (arrives : Arrives w id code data w') :
    ∃ l, w'.history = w.history ++ l ∧ ∀ event ∈ Flow.journal l, event.component = .auth := by
  have telling {w : World γ σ} {c : Callback} {d : Delivery} :
      ∀ event ∈ Flow.journal (w.telling c d), event.component = .auth := by
    intro event member
    obtain ⟨o,there,kept⟩ := List.mem_filterMap.mp member
    rcases World.telling_cases there with rfl | rfl
    · cases kept
      rfl
    · cases kept
  cases arrives with
  | success => exact ⟨_,rfl,telling⟩
  | failure => exact ⟨_,rfl,telling⟩
  | dropped => exact ⟨[],by simp,nofun⟩
  | meaningless => exact ⟨[],by simp,nofun⟩

/-- What happens last in a submit, with the errors that are met in it and what the journal keeps of it, when a call has
    gone well `n` times before. What is recorded aside is that a host is told. -/
theorem Concludes.journal [SessionStore σ] {c c' : StepState} {w w' : World γ σ} {fin : Finale} {m : Move}
    (ends : Concludes c w fin m c' w') {n : Nat} (most : n ≤ 1) (went : fin.error? = none → n = 1) :
    ∃ l own aside, w'.history = w.history ++ l ∧ Flow.journal l = recordedBy c.step.component own ++ aside ∧
      (∀ event ∈ aside, event.component = .auth) ∧
      Aftermath (fin.error?.toList ++ errors l) m (List.replicate n .success ++ own) := by
  cases ends with
  | reported answer =>
    obtain ⟨own,kept,nothing,after⟩ := answer.journal
    refine ⟨_,own,[],rfl,by rw [kept,List.append_nil],nofun,?_⟩
    rw [nothing]
    exact after n most
  | handedOver =>
    obtain rfl := went rfl
    exact ⟨[],[],[],by simp,rfl,nofun,.finished (.inr ⟨_,_,rfl⟩)⟩
  | @unkept _ session _ e _ _ _ _ keeps refused answer =>
    obtain ⟨own,kept,nothing,after⟩ := answer.journal
    -- A session is written after a call that went well only, so a refusal to keep it follows a success.
    have none_reported : fin.error? = none := by rcases keeps with rfl | rfl <;> rfl
    obtain rfl := went none_reported
    refine ⟨_,own,[],rfl,kept.trans (List.append_nil _).symm,nofun,?_⟩
    have met : errors (.wrote session (.error e) :: _) = [.ofStorage e] :=
      congrArg (CallError.ofStorage e :: ·) nothing
    rw [none_reported,met]
    exact after 1 most
  | emailRequested =>
    obtain rfl := went rfl
    exact ⟨_,[],[],rfl,rfl,nofun,.finished (.inr ⟨_,_,rfl⟩)⟩
  | @signedIn session phoneNumber st' =>
    obtain rfl := went rfl
    obtain ⟨l,history,told⟩ := (handIn_arrives c.receiver successCode { phoneNumber }
      (w.advance w.gateway st' [.wrote session (.ok ())])).journal
    rw [World.advance_history,List.append_assoc] at history
    exact ⟨_,[],Flow.journal l,history,rfl,told,.finished (.inl rfl)⟩

section
variable [SessionStore σ] {o o' : OpenStep} {w w' : World γ σ} {act : Act} {reply : Reply}

/-- A submit that is accepted records the click first, and then what comes of it. -/
theorem Submits.journal {input : String} {m : Move} (submits : Submits o input w m o' w')
    (accepted : o.accepts input = true) (empty : w.history = []) :
    ∃ rest aside, Flow.journal w'.history = recordedBy o.core.step.component (.click o.element :: rest) ++ aside ∧
      (∀ event ∈ aside, event.component = .auth) ∧ Aftermath (errors w'.history) m rest := by
  cases submits with
  | ignored rest =>
    rw [accepted] at rest
    cases rest
  | @went s' l g st fin m c' w' accepted course ends =>
    have unkept : ∀ x ∈ l, x.kept? = none := fun x member => (course.plain x member).keeps_none.1
    obtain ⟨n,most,well,before⟩ := course.journal
    obtain ⟨last,own,aside,history,kept,told,after⟩ := ends.journal most well
    rw [World.advance_history,empty,List.nil_append] at history
    refine ⟨List.replicate n .success ++ own,aside,?_,told,?_⟩
    · rw [history,journal_append,before,kept,course.keeps.step]
      simp [recordedBy]
    · rwa [history,errors_append unkept,course.errors]

/-- What a step records in a turn, by the errors that it meets and what is replied: what comes of a submit that it has
    accepted, or else at most that the step came into view and what was clicked. -/
inductive OpenStep.Records (o : OpenStep) : List CallError → Reply → List Journal.Action → Prop where
  | submitted {es m rest} (after : Aftermath es m rest) : Records o es (.moved m) (.click o.element :: rest)
  | quiet {reply l} (plain : ∀ action ∈ l, action = .impression ∨ ∃ element, action = .click element)
    (goesOn : ∀ f, reply ≠ .moved (.gaveUp f)) : Records o [] reply l

theorem OpenStep.Responds.records (responds : o.Responds w act reply o' w') (empty : w.history = []) :
    ∃ own aside, Flow.journal w'.history = recordedBy o.core.step.component own ++ aside ∧
      (∀ event ∈ aside, event.component = .auth) ∧ o.Records (errors w'.history) reply own := by
  have silent {reply : Reply} (goesOn : ∀ f, reply ≠ .moved (.gaveUp f)) :
      ∃ own aside, Flow.journal w.history = recordedBy o.core.step.component own ++ aside ∧
        (∀ event ∈ aside, event.component = .auth) ∧ o.Records (errors w.history) reply own := by
    rw [empty]
    exact ⟨[],[],rfl,nofun,.quiet nofun goesOn⟩
  have noted {reply : Reply} (action : Journal.Action)
      (plain : action = .impression ∨ ∃ element, action = .click element)
      (goesOn : ∀ f, reply ≠ .moved (.gaveUp f)) :
      ∃ own aside, Flow.journal (w.history ++ [.recorded ⟨o.core.step.component,action⟩]) =
          recordedBy o.core.step.component own ++ aside ∧ (∀ event ∈ aside, event.component = .auth) ∧
        o.Records (errors (w.history ++ [.recorded ⟨o.core.step.component,action⟩])) reply own := by
    rw [empty]
    exact ⟨[action],[],rfl,nofun,.quiet (List.forall_mem_singleton.mpr plain) goesOn⟩
  cases responds with
  | @submitted _ input m _ _ submits =>
    by_cases accepted : o.accepts input = true
    · obtain ⟨rest,aside,kept,told,after⟩ := submits.journal accepted empty
      exact ⟨_,aside,kept,told,.submitted after⟩
    · cases submits with
      | ignored => exact silent (by simp)
      | went accepted' => exact absurd accepted' accepted
  | wentBack => exact noted _ (.inr ⟨_,rfl⟩) (by simp)
  | countryChosen phone => exact phone ▸ noted _ (.inr ⟨_,rfl⟩) (by simp)
  | resumed => exact noted _ (.inl rfl) (by simp)
  | _ => exact silent (by simp)

/-- A code is asked for by a call when the step that accepts the submit is one that calls. -/
theorem Submits.calls_iff {input : String} {m : Move} (submits : Submits o input w m o' w')
    (accepted : o.accepts input = true) (empty : w.history = []) :
    (∃ x ∈ w'.history, x.channel? = some .voiceCall) ↔ ∃ p, o = .phone p ∧ p.channel = .voiceCall := by
  constructor
  · rintro ⟨x,there,sent⟩
    obtain ⟨p,phone,same,-⟩ := submits.requests empty there sent
    exact ⟨p,phone,same.symm⟩
  · rintro ⟨p,rfl,voice⟩
    obtain ⟨rest,aside,kept,-⟩ := submits.journal accepted empty
    have happened : w'.history ≠ [] := by
      intro nothing
      rw [nothing] at kept
      cases kept
    obtain ⟨p',l,rest,fin,sends,history,-⟩ := submits.sends empty happened
    obtain ⟨⟨number,answer,asked⟩,-⟩ := sends.channels
    rw [history,← voice]
    exact ⟨_,List.mem_append_left _ (.tail _ asked),rfl⟩

/-- The click that is recorded tells whether a call is asked for, and else whether the step has counted an error. -/
theorem Submits.element {input : String} {m : Move} (submits : Submits o input w m o' w')
    (accepted : o.accepts input = true) (empty : w.history = []) : o.element =
      if ∃ x ∈ w'.history, x.channel? = some .voiceCall then .callMe
      else if o.errorCount.toNat = 0 then .submit else .retry := by
  have counted : o.core.element = if o.errorCount.toNat = 0 then .submit else .retry := by
    have some_counted : o.core.budget.hasErrors = true ↔ o.errorCount.toNat ≠ 0 := by
      simp [ErrorBudget.hasErrors,OpenStep.errorCount,UInt64.lt_iff_toNat_lt,Nat.pos_iff_ne_zero]
    by_cases none_counted : o.errorCount.toNat = 0
    · rw [StepState.element,if_neg (by simp [some_counted,none_counted]),if_pos none_counted]
    · rw [StepState.element,if_pos (some_counted.mpr none_counted),if_neg none_counted]
  split
  · rename_i called
    obtain ⟨p,rfl,voice⟩ := (submits.calls_iff accepted empty).mp called
    simp only [OpenStep.element,voice]
  · rename_i texted
    rw [submits.calls_iff accepted empty] at texted
    rw [← counted]
    cases o with
    | phone p =>
      cases sent : p.channel with
      | voiceCall => exact absurd ⟨p,rfl,sent⟩ texted
      | sms =>
        simp only [OpenStep.element,sent]
        rfl
    | _ => rfl

end

/-! ### Turns -/

/-- Whether what the step numbered `i` records in a turn tells which errors it shows and whether it gives up. -/
structure Turn.Balances (t : Turn γ σ) (i : Nat) : Prop where
  shown : (t.entries i).filterMap Journal.Action.shown? = (t.shown i).map (·.code?)
  failures : (t.entries i).count .failure = if t.GivesUp i then 1 else 0
  faults : faults (t.entries i) = (t.met i).length

/-- An error that is met is shown with its code, or it is what the step gives up for. -/
theorem OpenStep.Records.sums {o : OpenStep} {es : List CallError} {reply : Reply} {own : List Journal.Action}
    (records : o.Records es reply own) :
    own.filterMap Journal.Action.shown? = (if reply.failure?.isSome then [] else es.map (·.code?)) ∧
      own.count .failure = (if reply.failure?.isSome then 1 else 0) ∧ faults own = es.length := by
  have none_shown (n : Nat) : (List.replicate n Journal.Action.success).filterMap Journal.Action.shown? = [] :=
    List.filterMap_replicate_of_none rfl
  cases records with
  | submitted after =>
    cases after with
    | told => simp [faults,List.filterMap_cons,none_shown,Reply.failure?,List.count_replicate,Journal.Action.shown?]
    | gaveUp => simp [faults,List.filterMap_cons,none_shown,Reply.failure?,List.count_replicate,Journal.Action.shown?]
    | finished moved => rcases moved with rfl | ⟨_,_,rfl⟩ <;> exact ⟨rfl,rfl,rfl⟩
  | quiet plain goesOn =>
    have none_shown : own.filterMap Journal.Action.shown? = [] := by
      refine List.filterMap_eq_nil_iff.mpr fun action member => ?_
      rcases plain action member with rfl | ⟨_,rfl⟩ <;> rfl
    have no_failure : own.count .failure = 0 := by
      refine List.count_eq_zero.mpr fun member => ?_
      rcases plain _ member with failed | ⟨_,failed⟩ <;> cases failed
    have still : ¬ reply.failure?.isSome = true := fun gaveUp => by
      obtain ⟨f,moved⟩ := Reply.failure_iff.mp gaveUp
      exact goesOn f moved
    rw [if_neg still,if_neg still,faults,none_shown,no_failure]
    exact ⟨rfl,rfl,rfl⟩

theorem OpenStep.Records.balances {o : OpenStep} {t : Turn γ σ} {i : Nat}
    (records : o.Records (t.met i) t.reply (t.entries i)) (on : t.act.step? = some i) : t.Balances i := by
  obtain ⟨shown,failures,all⟩ := records.sums
  have gives : t.reply.failure?.isSome = true ↔ t.GivesUp i := Reply.failure_iff.trans (and_iff_right on).symm
  simp only [gives] at shown failures
  refine ⟨?_,failures,all⟩
  rw [shown,Turn.shown]
  split <;> rfl

/-- What a step has recorded in some turns sums up what it has recorded in each. -/
structure Balanced (past : List (Turn γ σ)) (i : Nat) : Prop where
  shown : (ledger past i).filterMap Journal.Action.shown? = (past.flatMap (·.shown i)).map (·.code?)
  failures : (ledger past i).count .failure = past.countP (·.GivesUp i)
  faults : faults (ledger past i) = (past.flatMap (·.met i)).length

theorem Balanced.turn {past : List (Turn γ σ)} {t : Turn γ σ} {i : Nat} (balanced : Balanced past i)
    (balances : t.Balances i) : Balanced (past ++ [t]) i where
  shown := by
    rw [ledger,List.flatMap_append,List.filterMap_append,List.flatMap_append,List.map_append,List.flatMap_singleton,
      List.flatMap_singleton,balances.shown]
    exact congrArg (· ++ _) balanced.shown
  failures := by
    rw [ledger,List.flatMap_append,List.count_append,List.flatMap_singleton,balances.failures,List.countP_append,
      List.countP_singleton,← balanced.failures]
    simp [ledger]
  faults := by
    rw [ledger,List.flatMap_append,List.flatMap_append,List.flatMap_singleton,List.flatMap_singleton,
      List.length_append,← balances.faults,← balanced.faults]
    exact Journal.faults_append _ _

section
variable [Gateway γ] [SessionStore σ] {s : Scene γ σ} {i : Nat} {o : Opened}

omit [Gateway γ] [SessionStore σ] in
theorem Turn.entries_of_journal {t : Turn γ σ} (found : t.before.steps[i]? = some o) (on : t.act.step? = some i)
    {own : List Journal.Action} {aside : List Journal.Event}
    (kept : t.journal = recordedBy o.step.step.component own ++ aside)
    (told : ∀ event ∈ aside, event.component = .auth) : t.entries i = own := by
  have apart : ∀ event ∈ aside, event.component ≠ o.step.step.component :=
    fun event member => told event member ▸ (Step.component_ne _).symm
  simp only [entries,found,if_pos on,kept]
  exact Journal.actionsOf_recordedBy apart

/-- What is recorded in a turn in which something is done on a step: what the step records, and aside that a host is
    told. -/
theorem Scene.turn_records (found : s.steps[i]? = some o) (kind : o.step.core.step = o.step.step) {act : Act}
    (on : act.step? = some i) : ∃ aside,
      (s.turn act).journal = recordedBy o.step.step.component ((s.turn act).entries i) ++ aside ∧
      (∀ event ∈ aside, event.component = .auth) ∧
      o.step.Records ((s.turn act).met i) (s.turn act).reply ((s.turn act).entries i) := by
  obtain ⟨step,responds,-⟩ := does_responds (s := s.still) on found
  obtain ⟨own,aside,kept,told,records⟩ := responds.records rfl
  rw [kind] at kept
  have met : (s.turn act).met i = errors (s.turn act).after.world.history := if_pos on
  rw [Turn.entries_of_journal (t := s.turn act) found on kept told,met]
  exact ⟨aside,kept,told,records⟩

theorem Scene.turn_balances {past : List (Turn γ σ)} (poised : s.Poised past) (act : Act) (i : Nat) :
    (s.turn act).Balances i := by
  -- A step on which nothing is done records nothing.
  have untouched (entries : (s.turn act).entries i = []) (met : (s.turn act).met i = [])
      (goesOn : ¬ (s.turn act).GivesUp i) : (s.turn act).Balances i := by
    refine ⟨?_,?_,?_⟩
    · rw [entries,Turn.shown,if_neg goesOn,met]
      rfl
    · rw [entries,if_neg goesOn]
      rfl
    · rw [entries,met]
      rfl
  cases found : s.steps[i]? with
  | none =>
    obtain ⟨met,goesOn⟩ := turn_missing found act
    exact untouched (by simp only [Turn.entries,turn,found]) met goesOn
  | some o =>
    by_cases on : act.step? = some i
    · obtain ⟨aside,-,-,records⟩ := turn_records found (poised i o found).kind on
      exact records.balances on
    · exact untouched (by simp only [Turn.entries,turn,found,on,if_false]) (if_neg on) fun gaveUp => on gaveUp.1

/-! ### Runs -/

/-- What becomes of the budget of a step in a turn. -/
theorem Scene.turn_charges (found : s.steps[i]? = some o) {act : Act} (on : act.step? = some i) :
    ∃ step, (s.turn act).after.steps[i]? = some { o with step } ∧
      o.step.Charges step ((s.turn act).met i) (s.turn act).reply := by
  obtain ⟨step,responds,after⟩ := does_responds (s := s.still) on found
  have met : (s.turn act).met i = errors (s.turn act).after.world.history := if_pos on
  rw [met]
  exact ⟨step,after,responds.charges rfl⟩

/-- A step that gives up has not given up before. -/
theorem Scene.Shut.gives_up_first {past : List (Turn γ σ)} (shut : s.Shut past) {act : Act}
    (gives : (s.turn act).GivesUp i) : ¬ GivenUp past i := by
  cases found : s.steps[i]? with
  | none => exact absurd gives (turn_missing found act).2
  | some o =>
    have on : act.step? = some i := gives.1
    obtain ⟨f,gaveUp⟩ := gives.2
    obtain ⟨step,-,charges⟩ := turn_charges found on
    rw [← (shut.opened i o found).spent,Bool.not_eq_true]
    rw [gaveUp] at charges
    generalize (s.turn act).met i = es at charges
    cases charges with
    | nothing same goesOn => exact absurd rfl (goesOn f)
    | gaveUp unspent => exact unspent

omit [Gateway γ] [SessionStore σ] in
/-- A step shows as many errors as its limit says, and gives up for one more. Where the limit is not the greatest
    number there is, they can be counted. -/
theorem OpenStep.Charges.within {o o' : OpenStep} {es : List CallError} {reply : Reply} (charges : o.Charges o' es reply)
    {limit : UInt64} (narrow : limit.toNat + 1 < UInt64.size) {past : List (Turn γ σ)} {i : Nat}
    (budgeted : o.Budgeted limit past i) {n : Nat} (counted : (past.flatMap (·.met i)).length = n)
    (few : n ≤ limit.toNat + 1) (room : o.core.budget.spent = false → n ≤ limit.toNat) :
    n + es.length ≤ limit.toNat + 1 ∧ (o'.core.budget.spent = false → n + es.length ≤ limit.toNat) := by
  have count : o.errorCount.toNat = n := budgeted.count.trans counted
  cases charges with
  | nothing same => exact ⟨few,fun unspent => room (same ▸ unspent)⟩
  | told unspent mild fits =>
    have fits : (o.core.budget.count + 1).toNat ≤ limit.toNat := budgeted.limit ▸ fits
    have next : (o.core.budget.count + 1).toNat = n + 1 := by
      rw [UInt64.toNat_add,← count]
      exact Nat.mod_eq_of_lt (Nat.lt_of_le_of_lt (Nat.succ_le_succ (count ▸ room unspent)) narrow)
    exact ⟨Nat.succ_le_succ (room unspent),fun _ => next ▸ fits⟩
  | gaveUp unspent severe charged =>
    refine ⟨Nat.succ_le_succ (room unspent),fun open_ => ?_⟩
    rw [charged] at open_
    cases open_

/-- How many errors the steps of a scene have met after some turns. -/
structure Scene.Within (limit : UInt64) (past : List (Turn γ σ)) (s : Scene γ σ) : Prop where
  few : ∀ i, (past.flatMap (·.met i)).length ≤ limit.toNat + 1
  room : ∀ (i : Nat) (o : Opened), s.steps[i]? = some o → o.step.core.budget.spent = false →
    (past.flatMap (·.met i)).length ≤ limit.toNat

theorem Scene.Within.turn {limit : UInt64} (narrow : limit.toNat + 1 < UInt64.size) {past : List (Turn γ σ)}
    (within : s.Within limit past) (budgeted : s.Budgeted limit past) (act : Act) :
    (s.turn act).after.Within limit (past ++ [s.turn act]) := by
  have counts (i : Nat) : ((past ++ [s.turn act]).flatMap (·.met i)).length =
      (past.flatMap (·.met i)).length + ((s.turn act).met i).length := by
    rw [List.flatMap_append,List.flatMap_singleton,List.length_append]
  have idle (i : Nat) (none_met : (s.turn act).met i = []) :
      ((past ++ [s.turn act]).flatMap (·.met i)).length = (past.flatMap (·.met i)).length := by
    rw [counts,none_met]
    rfl
  have charged {i : Nat} {o : Opened} {step : OpenStep} (found : s.steps[i]? = some o)
      (charges : o.step.Charges step ((s.turn act).met i) (s.turn act).reply) :=
    charges.within narrow (budgeted.opened i o found (Nat.lt_of_le_of_lt (within.few i) narrow)) rfl (within.few i)
      (within.room i o found)
  constructor
  · intro i
    cases found : s.steps[i]? with
    | none =>
      rw [idle i (turn_missing found act).1]
      exact within.few i
    | some o =>
      by_cases on : act.step? = some i
      · obtain ⟨step,-,charges⟩ := turn_charges found on
        rw [counts]
        exact (charged found charges).1
      · rw [idle i (if_neg on)]
        exact within.few i
  · intro i x there unspent
    cases s.still.does_evolves act there with
    | opened missing opens valid =>
      rw [idle i (turn_missing (s := s) missing act).1,
        List.flatMap_eq_nil_iff.mpr fun a member => (budgeted.unopened i missing a member).1]
      exact Nat.zero_le _
    | left found elsewhere =>
      rw [idle i (if_neg elsewhere)]
      exact within.room i x found unspent
    | @responded o step found on responds =>
      obtain ⟨step',after,charges⟩ := turn_charges (s := s) found on
      have same : step' = step := congrArg Opened.step (Option.some.inj (after.symm.trans there))
      rw [counts]
      exact (charged found charges).2 (same ▸ unspent)

/-- What is known after some turns of what the steps of a scene have recorded. -/
structure Scene.Accounts (limit : UInt64) (past : List (Turn γ σ)) (s : Scene γ σ) : Prop where
  shut : s.Shut past
  budgeted : s.Budgeted limit past
  balanced : ∀ i, Balanced past i
  once : ∀ i, past.countP (·.GivesUp i) ≤ 1
  within : limit.toNat + 1 < UInt64.size → s.Within limit past

theorem Scene.Accounts.turn {limit : UInt64} {past : List (Turn γ σ)} (accounts : s.Accounts limit past) (act : Act) :
    (s.turn act).after.Accounts limit (past ++ [s.turn act]) where
  shut := accounts.shut.turn act
  budgeted := accounts.budgeted.turn act
  balanced i := (accounts.balanced i).turn (turn_balances accounts.shut.poised act i)
  once := by
    intro i
    rw [List.countP_append,List.countP_singleton]
    by_cases gives : (s.turn act).GivesUp i
    · have none_before : past.countP (·.GivesUp i) = 0 :=
        List.countP_eq_zero.mpr fun a member gave =>
          accounts.shut.gives_up_first gives ⟨a,member,of_decide_eq_true gave⟩
      rw [none_before]
      split <;> simp
    · rw [if_neg (by simpa using gives)]
      exact accounts.once i
  within narrow := (accounts.within narrow).turn narrow accounts.budgeted act

theorem Scene.run_accounts {acts : List Act} {earlier later : List (Turn γ σ)} {t : Turn γ σ} (fresh : s.steps = [])
    (split : s.run acts = earlier ++ t :: later) : t.before.Accounts s.world.settings.maxErrors earlier := by
  have begins : s.Accounts s.world.settings.maxErrors [] := by
    refine ⟨⟨?_,?_,?_⟩,⟨rfl,?_,?_⟩,fun _ => ⟨rfl,rfl,rfl⟩,fun _ => Nat.zero_le _,fun _ => ⟨?_,?_⟩⟩ <;>
      simp [Poised,Closed,GivenUp,Since,Untouched,fresh]
  exact run_always (I := fun past s' => s'.Accounts s.world.settings.maxErrors past)
    (fun _ _ act accounts => accounts.turn act) begins split

/-- What the step numbered `i` has recorded in some turns: its count is the number of errors and failures; the errors
    are those that it has shown, in their order and with their codes; and a failure is recorded each time that it
    gives up, which is once at most. -/
structure OpenStep.Accounted (past : List (Turn γ σ)) (i : Nat) (o : OpenStep) : Prop where
  count : o.errorCount.toNat = faults (ledger past i)
  shown : (ledger past i).filterMap Journal.Action.shown? = (past.flatMap (·.shown i)).map (·.code?)
  failures : (ledger past i).count .failure = past.countP (·.GivesUp i)
  once : (ledger past i).count .failure ≤ 1

omit [Gateway γ] [SessionStore σ] in
theorem Scene.Accounts.accounted {limit : UInt64} {past : List (Turn γ σ)} (accounts : s.Accounts limit past)
    (found : s.steps[i]? = some o) (few : limit.toNat + 1 < UInt64.size ∨ faults (ledger past i) < UInt64.size) :
    o.step.Accounted past i := by
  obtain ⟨shown,failures,all⟩ := accounts.balanced i
  have fits : (past.flatMap (·.met i)).length < UInt64.size := by
    rcases few with narrow | few
    · exact Nat.lt_of_le_of_lt ((accounts.within narrow).few i) narrow
    · rwa [← all]
  exact ⟨all ▸ (accounts.budgeted.opened i o found fits).count,shown,failures,failures ▸ accounts.once i⟩

omit [Gateway γ] [SessionStore σ] in
/-- A step that has not given up has counted an error when it has shown one. -/
theorem OpenStep.Accounted.count_zero {past : List (Turn γ σ)} {o : OpenStep} (accounted : o.Accounted past i)
    (unspent : ¬ GivenUp past i) :
    o.errorCount.toNat = 0 ↔ (ledger past i).filterMap Journal.Action.shown? = [] := by
  have no_failure : (ledger past i).count .failure = 0 := by
    rw [accounted.failures,List.countP_eq_zero]
    exact fun a member gave => unspent ⟨a,member,of_decide_eq_true gave⟩
  rw [accounted.count,faults,no_failure,Nat.add_zero,List.length_eq_zero_iff]

/-- A submit that a step accepts is recorded as the click that is due after what the step has recorded before, and
    what comes of it. -/
theorem Scene.Accounts.submitted {limit : UInt64} {past : List (Turn γ σ)} (accounts : s.Accounts limit past)
    (found : s.steps[i]? = some o) (accounted : o.step.Accounted past i) {input : String}
    (accepted : o.step.accepts input = true) :
    ∃ m rest, (s.turn (.submit i input)).reply = .moved m ∧
      (s.turn (.submit i input)).entries i = .click ((s.turn (.submit i input)).clickAfter (ledger past i)) :: rest ∧
      Aftermath ((s.turn (.submit i input)).met i) m rest := by
  obtain ⟨m,step,submits,-,reply,-⟩ := submit_turn found input
  obtain ⟨rest,aside,kept,told,after⟩ := submits.journal accepted rfl
  rw [(accounts.shut.poised i o found).kind] at kept
  have entries : (s.turn (.submit i input)).entries i = .click o.step.element :: rest :=
    Turn.entries_of_journal (t := s.turn (.submit i input)) found rfl kept told
  have unspent : ¬ GivenUp past i := by
    rw [← (accounts.shut.opened i o found).spent,OpenStep.unspent accepted]
    exact Bool.false_ne_true
  have due : o.step.element = (s.turn (.submit i input)).clickAfter (ledger past i) := by
    rw [submits.element accepted rfl,Turn.clickAfter]
    simp only [accounted.count_zero unspent]
    rfl
  have met : (s.turn (.submit i input)).met i = errors (s.turn (.submit i input)).after.world.history := if_pos rfl
  rw [entries,due,met]
  exact ⟨m,rest,reply,rfl,after⟩

/-- In every run the journal accounts for what is done on a step. The count of the step is the number of the errors and
    failures that it has recorded: an error, with its code, for each error that it has shown, and a failure when it
    gives up, which it does once. A submit that it accepts is recorded as one click, which tells whether a call is
    asked for or else whether an error was shown before, and after it that a call went well, or the error or failure
    that is replied, or both. Of a submit that it does not accept nothing is recorded. What is recorded besides is that
    a host is told. Only where the limit is the greatest number there is has a run to be short enough for its errors to
    be counted. -/
theorem ledger_accounts {acts : List Act} {earlier later : List (Turn γ σ)} {t : Turn γ σ} (fresh : s.steps = [])
    (split : s.run acts = earlier ++ t :: later) (found : t.before.steps[i]? = some o)
    (few : s.world.settings.maxErrors.toNat + 1 < UInt64.size ∨ faults (ledger (earlier ++ [t]) i) < UInt64.size) :
    ∃ x, t.after.steps[i]? = some x ∧ o.step.Accounted earlier i ∧ x.step.Accounted (earlier ++ [t]) i ∧
      (t.act.step? = some i → ∃ aside, t.journal = recordedBy o.step.step.component (t.entries i) ++ aside ∧
        ∀ event ∈ aside, event.component = .auth) ∧
      ∀ input, t.act = .submit i input →
        if o.step.accepts input then ∃ m rest, t.reply = .moved m ∧
          t.entries i = .click (t.clickAfter (ledger earlier i)) :: rest ∧ Aftermath (t.met i) m rest
        else t.journal = [] := by
  have member : t ∈ s.run acts := split ▸ List.mem_append_right _ List.mem_cons_self
  have accounts := Scene.run_accounts fresh split
  have fewer : s.world.settings.maxErrors.toNat + 1 < UInt64.size ∨ faults (ledger earlier i) < UInt64.size := by
    refine few.imp_right (Nat.lt_of_le_of_lt ?_)
    rw [ledger,ledger,List.flatMap_append,Journal.faults_append]
    exact Nat.le_add_right _ _
  have before := accounts.accounted found fewer
  have turn := Scene.run_turn member
  generalize t.before = scene at *
  generalize t.act = act at turn ⊢
  subst turn
  obtain ⟨x,after⟩ := Scene.does_stays (s := scene.still) found act
  refine ⟨x,after,before,(accounts.turn act).accounted after few,?_,?_⟩
  · intro on
    obtain ⟨aside,kept,told,-⟩ := Scene.turn_records found (accounts.shut.poised i o found).kind on
    exact ⟨aside,kept,told⟩
  · rintro input rfl
    split
    · rename_i accepted
      exact accounts.submitted found before accepted
    · rename_i unaccepted
      have same := (Scene.turn_unaccepted found (Bool.eq_false_iff.mpr unaccepted)).2
      rw [Turn.journal,Turn.happened,same]
      rfl

end

/-- A carrier does not take messages, and the user asks for a call. That is a click of its own, though an error was
    shown before. -/
theorem call_accounted :
    let run := (Scene.scripted
      { authenticateDevice := [.error (.unsupportedCarrier "no messages" { voiceEnabled := true }),
          .ok { requestId := "r", userId := 7 }] }).run
      [.start ⟨1,"",false⟩,.openStep .phoneNumber { receiver := some 0, phoneNumber := some "" },.submit 0 "5",
        .submit 0 "5"]
    ∃ x, run[3].after.steps[0]? = some x ∧
      (ledger (run.take 3) 0).filterMap Journal.Action.shown? = [some ErrorCode.unsupportedCarrier] ∧
      run[3].entries 0 = [.click .callMe,.success] ∧ x.step.errorCount.toNat = 1 := by
  intro run
  have split : run = run.take 3 ++ run[3] :: run.drop 4 := rfl
  obtain ⟨o,found,accepted⟩ : ∃ o, run[3].before.steps[0]? = some o ∧ o.step.accepts "5" = true :=
    ⟨_,rfl,by decide +kernel⟩
  obtain ⟨x,after,-,accounted,-,submitted⟩ := ledger_accounts rfl split found (.inl (by decide))
  have recorded := submitted "5" rfl
  rw [if_pos accepted] at recorded
  obtain ⟨m,rest,-,entries,ends⟩ := recorded
  have called : run[3].clickAfter (ledger (run.take 3) 0) = .callMe := by decide +kernel
  have met : run[3].met 0 = [] := by decide +kernel
  have counted : faults (ledger (run.take 3 ++ [run[3]]) 0) = 1 := by decide +kernel
  rw [met] at ends
  rw [called] at entries
  cases ends with
  | finished => exact ⟨x,after,by decide +kernel,entries,accounted.count.trans counted⟩

end PhoneSignIn.Flow
