import PhoneSignIn.Flow.StepState

/-!
What the operations of the flow do to a world. An operation that touches no receiver moves the
gateway and the store on and appends to the history (`World.advance`). A result that reaches a
receiver uses it up, and the host is told when the receiver was unused and the host can be told
(`handIn_run`). An open step answers an error by telling the user or by giving up (`report_run`).
-/
namespace PhoneSignIn.Flow

variable {γ σ α β : Type}

/-- The world after its gateway and its store have moved on while `l` happened. -/
def World.advance (w : World γ σ) (gateway : γ) (store : σ) (l : List Occurrence) : World γ σ :=
  { w with gateway, store, history := w.history ++ l }

/-- The world after a receiver has been used up. -/
def World.used (w : World γ σ) (id : ReceiverId) : World γ σ :=
  { w with receivers := w.receivers.modify id fun r => { r with delivered := true } }

namespace World
variable (w : World γ σ) (g g' : γ) (st st' : σ) (l l' : List Occurrence) (id : ReceiverId)

@[simp] theorem advance_gateway : (w.advance g st l).gateway = g := rfl
@[simp] theorem advance_store : (w.advance g st l).store = st := rfl
@[simp] theorem advance_receivers : (w.advance g st l).receivers = w.receivers := rfl
@[simp] theorem advance_history : (w.advance g st l).history = w.history ++ l := rfl
@[simp] theorem advance_canTell (c : Callback) : (w.advance g st l).canTell c = w.canTell c := rfl

@[simp] theorem advance_advance : (w.advance g st l).advance g' st' l' = w.advance g' st' (l ++ l') := by
  simp [advance]

@[simp] theorem advance_nothing : w.advance w.gateway w.store [] = w := by
  simp [advance]

@[simp] theorem used_gateway : (w.used id).gateway = w.gateway := rfl
@[simp] theorem used_store : (w.used id).store = w.store := rfl
@[simp] theorem used_history : (w.used id).history = w.history := rfl
@[simp] theorem used_canTell (c : Callback) : (w.used id).canTell c = w.canTell c := rfl

/-- Using up a receiver that is used up, or that is not there, changes nothing. -/
theorem used_of_used (before : ∀ r ∈ w.receivers[id]?, r.delivered = true) : w.used id = w := by
  have same : w.receivers.modify id (fun r => { r with delivered := true }) = w.receivers := by
    apply List.ext_getElem?
    intro i
    rw [List.getElem?_modify]
    by_cases here : id = i
    · subst here
      cases found : w.receivers[id]? with
      | none => rfl
      | some r =>
        have delivered := before r found
        cases r
        simp_all
    · simp [here]
  rw [World.used,same]

end World

/-! ### Single operations -/

theorem bind_run (x : Operation γ σ α) (f : α → Operation γ σ β) (w : World γ σ) :
    (x >>= f).run w = (f (x.run w).1).run (x.run w).2 := rfl
theorem get_run (w : World γ σ) : (get : Operation γ σ (World γ σ)).run w = (w,w) := rfl
theorem map_run (f : α → β) (x : Operation γ σ α) (w : World γ σ) :
    (f <$> x).run w = (f (x.run w).1,(x.run w).2) := rfl

theorem log_run (o : Occurrence) (w : World γ σ) : (log o).run w = ((),w.advance w.gateway w.store [o]) := rfl
theorem record_run (component : Journal.Component) (action : Journal.Action) (w : World γ σ) :
    (record component action).run w = ((),w.advance w.gateway w.store [.recorded ⟨component,action⟩]) := rfl

/-- What happens when a call is made now. -/
def World.asking [Gateway γ] (w : World γ σ) (call : Call) : Occurrence := .asked call (Gateway.ask call w.gateway).1

theorem asking_run [Gateway γ] (call : Call) (w : World γ σ) : (ask call).run w =
    ((Gateway.ask call w.gateway).1,w.advance (Gateway.ask call w.gateway).2 w.store [w.asking call]) := rfl

/-- Whether two worlds have the same gateway and the same store. -/
structure World.Matches (w' w : World γ σ) : Prop where
  gateway : w'.gateway = w.gateway
  store : w'.store = w.store

theorem World.Matches.refl (w : World γ σ) : w.Matches w := ⟨rfl,rfl⟩

theorem World.Matches.advanced (w' w : World γ σ) (g : γ) (st : σ) (l l' : List Occurrence) :
    (w'.advance g st l).Matches (w.advance g st l') := ⟨rfl,rfl⟩

/-- What a gateway answers does not depend on what has happened before. -/
theorem ask_matching [Gateway γ] (call : Call) (w : World γ σ) : ∃ answer g, Gateway.ask call w.gateway = (answer,g) ∧
    ∀ w' : World γ σ, w'.Matches w → (ask call).run w' = (answer,w'.advance g w.store [.asked call answer]) :=
  ⟨(Gateway.ask call w.gateway).1,(Gateway.ask call w.gateway).2,rfl,
    fun w' same => by rw [asking_run,World.asking,same.gateway,same.store]⟩

theorem readSession_run [SessionStore σ] (w : World γ σ) : readSession.run w =
    ((SessionStore.read w.store).1,
      w.advance w.gateway (SessionStore.read w.store).2 [.read (SessionStore.read w.store).1]) := rfl
theorem writeSession_run [SessionStore σ] (session : Session) (w : World γ σ) : (writeSession session).run w =
    ((SessionStore.write session w.store).1,
      w.advance w.gateway (SessionStore.write session w.store).2
        [.wrote session (SessionStore.write session w.store).1]) := rfl
theorem clearSession_run [SessionStore σ] (w : World γ σ) : clearSession.run w =
    ((SessionStore.clear w.store).1,
      w.advance w.gateway (SessionStore.clear w.store).2 [.cleared (SessionStore.clear w.store).1]) := rfl

/-! ### What has happened -/

/-- What a host was told of a sign-in. -/
def Occurrence.outcome? : Occurrence → Option Delivery
  | .delivered (.success host session phoneNumber) => some (.success host session phoneNumber)
  | .delivered (.failure host message) => some (.failure host message)
  | _ => none

theorem Occurrence.of_outcome {o : Occurrence} {d : Delivery} (told : o.outcome? = some d) : o = .delivered d := by
  cases o with
  | delivered d' => cases d' <;> cases told <;> rfl
  | _ => cases told

/-- What the journal keeps of an outcome. -/
def Occurrence.note? : Occurrence → Option Journal.Action
  | .recorded ⟨.auth,.success⟩ => some .success
  | .recorded ⟨.auth,.failure⟩ => some .failure
  | _ => none

/-- The session that was written, and whether the store kept it. -/
def Occurrence.write? : Occurrence → Option (Session × Except StorageError Unit)
  | .wrote session result => some (session,result)
  | _ => none

/-- What happens between two changes of the store and two outcomes: calls, readings, and what the
    screens record. -/
inductive Occurrence.Plain : Occurrence → Prop where
  | asked (call : Call) (answer : Except CallError call.Answer) : Plain (.asked call answer)
  | read (result : Except StorageError (Option Session)) : Plain (.read result)
  | recorded {component action} (elsewhere : component ≠ .auth) : Plain (.recorded ⟨component,action⟩)

namespace Occurrence.Plain

theorem tells_none {o : Occurrence} (plain : o.Plain) : o.outcome? = none := by
  cases plain <;> rfl

theorem notes_none {o : Occurrence} (plain : o.Plain) : o.note? = none := by
  cases plain with
  | asked => rfl
  | read => rfl
  | @recorded component action elsewhere => cases component <;> first | rfl | exact absurd rfl elsewhere

theorem writes_none {o : Occurrence} (plain : o.Plain) : o.write? = none := by
  cases plain <;> rfl

end Occurrence.Plain

theorem Step.component_ne (step : Step) : step.component ≠ .auth := by
  cases step <;> simp [Step.component]

/-! ### Results -/

/-- How the journal records what a host is told. -/
def Delivery.action : Delivery → Journal.Action
  | .success .. | .changed _ => .success
  | .failure .. => .failure

/-- What happens when something is to be told through a callback: nothing when it cannot be told. -/
def World.telling (w : World γ σ) (c : Callback) (d : Delivery) : List Occurrence :=
  if w.canTell c then [.recorded ⟨.auth,d.action⟩,.delivered d] else []

/-- What a host is told of a sign-in that succeeded, by what its store answers. -/
def Callback.outcome (c : Callback) (phoneNumber : String) : Except StorageError (Option Session) → Delivery
  | .ok (some session) => .success c.host session phoneNumber
  | .ok none => .failure c.host "No active session after login"
  | .error e => .failure c.host e.message

theorem Callback.outcome_told (c : Callback) (phoneNumber : String) (answer : Except StorageError (Option Session)) :
    (Occurrence.delivered (c.outcome phoneNumber answer)).outcome? = some (c.outcome phoneNumber answer) := by
  rcases answer with e | _ | session <;> rfl

theorem World.telling_outcomes {w : World γ σ} {c : Callback} {d : Delivery}
    (told : (Occurrence.delivered d).outcome? = some d) :
    (w.telling c d).filterMap Occurrence.outcome? = if w.canTell c then [d] else [] := by
  rw [World.telling]
  split
  · cases d with
    | changed => cases told
    | success => rfl
    | failure => rfl
  · rfl

theorem World.telling_notes {w : World γ σ} {c : Callback} {d : Delivery} :
    (w.telling c d).filterMap Occurrence.note? = if w.canTell c then [d.action] else [] := by
  rw [World.telling]
  split
  · cases d <;> rfl
  · rfl

theorem World.telling_cases {w : World γ σ} {c : Callback} {d : Delivery} {o : Occurrence}
    (member : o ∈ w.telling c d) : o = .recorded ⟨.auth,d.action⟩ ∨ o = .delivered d := by
  rw [World.telling] at member
  split at member
  · rcases List.mem_cons.mp member with noted | told
    · exact .inl noted
    · exact .inr (List.mem_singleton.mp told)
  · cases member

theorem World.mem_telling {w : World γ σ} {c : Callback} {d d' : Delivery} (member : .delivered d' ∈ w.telling c d) :
    d' = d := by
  rcases World.telling_cases member with noted | told
  · cases noted
  · exact Occurrence.delivered.inj told

/-- A host is told once it has been recorded that it is told, if it can be told. -/
theorem tell_run (c : Callback) (d : Delivery) (w : World γ σ) :
    (do if (← get).canTell c then record .auth d.action; log (.delivered d) : Operation γ σ Unit).run w =
      ((),w.advance w.gateway w.store (w.telling c d)) := by
  rw [bind_run]
  change StateT.run (if w.canTell c = true then _ else _) w = _
  by_cases can : w.canTell c = true
  · rw [if_pos can,World.telling,if_pos can]
    simp only [bind_run,record_run,log_run,World.advance_advance]
    rfl
  · rw [if_neg can,World.telling,if_neg can,World.advance_nothing]
    rfl

theorem tellSuccess_run (c : Callback) (session : Session) (phoneNumber : String) (w : World γ σ) :
    (c.tellSuccess session phoneNumber).run w =
      ((),w.advance w.gateway w.store (w.telling c (.success c.host session phoneNumber))) := tell_run c _ w
theorem tellFailure_run (c : Callback) (message : String) (w : World γ σ) :
    (c.tellFailure message).run w = ((),w.advance w.gateway w.store (w.telling c (.failure c.host message))) :=
  tell_run c _ w

theorem useUp_run (id : ReceiverId) (w : World γ σ) :
    (useUp id).run w = ((w.receivers[id]?.filter (!·.delivered)).map (·.callback),w.used id) := by
  simp only [useUp,bind_run,get_run]
  cases found : w.receivers[id]? with
  | none =>
    rw [w.used_of_used id (by simp [found])]
    rfl
  | some r =>
    cases delivered : r.delivered
    · simp [Option.filter,delivered]
      rfl
    · simp [Option.filter,delivered]
      rfl

/-- A success that reaches an unused receiver uses it up and is told with what the store answers. -/
theorem handIn_success [SessionStore σ] {id : ReceiverId} {r : Receiver} {w : World γ σ}
    (found : w.receivers[id]? = some r) (unused : r.delivered = false) (data : LoginResult) :
    (handIn id successCode data).run w = ((),(w.used id).advance w.gateway (SessionStore.read w.store).2
      (.read (SessionStore.read w.store).1 ::
        w.telling r.callback (r.callback.outcome data.phoneNumber (SessionStore.read w.store).1))) := by
  simp only [handIn,if_true,bind_run,useUp_run,found,Option.filter,unused,Bool.not_false,Option.map_some,
    readSession_run,World.used_store,World.used_gateway]
  cases answer : (SessionStore.read w.store).1 with
  | error e => simp only [tellFailure_run,Callback.outcome,World.telling,World.advance_advance]; rfl
  | ok active =>
    cases active with
    | none => simp only [tellFailure_run,Callback.outcome,World.telling,World.advance_advance]; rfl
    | some session => simp only [tellSuccess_run,Callback.outcome,World.telling,World.advance_advance]; rfl

/-- A failure that reaches an unused receiver uses it up and is told with its message. -/
theorem handIn_failure [SessionStore σ] {id : ReceiverId} {r : Receiver} {w : World γ σ}
    (found : w.receivers[id]? = some r) (unused : r.delivered = false) (data : LoginResult) :
    (handIn id failureCode data).run w = ((),(w.used id).advance w.gateway w.store
      (w.telling r.callback (.failure r.callback.host (data.loginError.getD "")))) := by
  have different : failureCode ≠ successCode := by decide
  simp only [handIn,if_neg different,if_true,bind_run,useUp_run,found,Option.filter,unused,Bool.not_false,
    Option.map_some,tellFailure_run]
  rfl

/-- A result that reaches a used receiver, or none, changes nothing. -/
theorem handIn_used [SessionStore σ] {id : ReceiverId} {w : World γ σ}
    (before : ∀ r ∈ w.receivers[id]?, r.delivered = true) (code : Int32) (data : LoginResult) :
    (handIn id code data).run w = ((),w) := by
  have nothing : w.receivers[id]?.filter (!·.delivered) = none := by
    cases found : w.receivers[id]? with
    | none => rfl
    | some r => simp [Option.filter,before r found]
  simp only [handIn]
  split
  · simp only [bind_run,useUp_run,nothing,Option.map_none,w.used_of_used id before]
    rfl
  · split
    · simp only [bind_run,useUp_run,nothing,Option.map_none,w.used_of_used id before]
      rfl
    · rfl

/-- A result of another kind changes nothing. -/
theorem handIn_other [SessionStore σ] {code : Int32} (noSuccess : code ≠ successCode)
    (noFailure : code ≠ failureCode) (id : ReceiverId) (data : LoginResult) (w : World γ σ) :
    (handIn id code data).run w = ((),w) := by
  simp only [handIn,if_neg noSuccess,if_neg noFailure]
  rfl

/-- What comes of a result that is handed to a receiver. -/
inductive Arrives [SessionStore σ] (w : World γ σ) (id : ReceiverId) (code : Int32) (data : LoginResult) :
    World γ σ → Prop where
  /-- The first success is told with what the store answers. -/
  | success {r} (signedIn : code = successCode) (found : w.receivers[id]? = some r) (unused : r.delivered = false) :
    Arrives w id code data ((w.used id).advance w.gateway (SessionStore.read w.store).2
      (.read (SessionStore.read w.store).1 ::
        w.telling r.callback (r.callback.outcome data.phoneNumber (SessionStore.read w.store).1)))
  /-- The first failure is told with its message. -/
  | failure {r} (failed : code = failureCode) (found : w.receivers[id]? = some r) (unused : r.delivered = false) :
    Arrives w id code data ((w.used id).advance w.gateway w.store
      (w.telling r.callback (.failure r.callback.host (data.loginError.getD ""))))
  /-- A later result is dropped, and so is one for which there is no receiver. -/
  | dropped (before : ∀ r ∈ w.receivers[id]?, r.delivered = true) : Arrives w id code data w
  /-- A result of another kind means nothing. -/
  | meaningless (noSuccess : code ≠ successCode) (noFailure : code ≠ failureCode) : Arrives w id code data w

theorem handIn_arrives [SessionStore σ] (id : ReceiverId) (code : Int32) (data : LoginResult) (w : World γ σ) :
    Arrives w id code data ((handIn id code data).run w).2 := by
  by_cases before : ∀ r ∈ w.receivers[id]?, r.delivered = true
  · rw [handIn_used before]
    exact .dropped before
  · obtain ⟨r,found,unused⟩ : ∃ r, w.receivers[id]? = some r ∧ r.delivered = false := by simpa using before
    by_cases signedIn : code = successCode
    · subst signedIn
      rw [handIn_success found unused]
      exact .success rfl found unused
    · by_cases failed : code = failureCode
      · subst failed
        rw [handIn_failure found unused]
        exact .failure rfl found unused
      · rw [handIn_other signedIn failed]
        exact .meaningless signedIn failed

/-! ### Errors -/

/-- How a step answers an error: it tells the user and stays open, or it gives up. -/
inductive StepState.Answers (c : StepState) (e : CallError) : Move → StepState → List Occurrence → Prop where
  | told (mild : e.isFatal = false) (room : c.budget.count + 1 ≤ c.budget.limit) :
    Answers c e .stay
      (({ c with budget.count := c.budget.count + 1 }.showError (c.step.messages.message e)).withActivity .error)
      [.recorded ⟨c.step.component,.ofError e⟩]
  | gaveUp (severe : e.isFatal = true ∨ c.budget.limit < c.budget.count + 1) :
    Answers c e (.gaveUp { receiver := c.receiver, reason := e })
      { c with budget := { c.budget with count := c.budget.count + 1, spent := true } }
      [.recorded ⟨c.step.component,.failure⟩]

theorem StepState.Answers.plain {c c' : StepState} {e : CallError} {m : Move} {l : List Occurrence}
    (answer : c.Answers e m c' l) : ∀ o ∈ l, o.Plain := by
  cases answer with
  | told => simpa using Occurrence.Plain.recorded c.step.component_ne
  | gaveUp => simpa using Occurrence.Plain.recorded c.step.component_ne

theorem report_run {c : StepState} (unspent : c.budget.spent = false) (e : CallError) (w : World γ σ) :
    ∃ m c' l, c.Answers e m c' l ∧ (c.report e).run w = ((m,c'),w.advance w.gateway w.store l) := by
  by_cases severe : (e.isFatal || c.budget.limit < c.budget.count + 1) = true
  · refine ⟨_,_,_,.gaveUp (by simpa using severe),?_⟩
    simp only [StepState.report,ErrorBudget.charge,unspent,Bool.false_eq_true,if_false,severe,if_true]
    rfl
  · have mild : e.isFatal = false ∧ c.budget.count + 1 ≤ c.budget.limit := by simpa using severe
    refine ⟨_,_,_,.told mild.1 mild.2,?_⟩
    simp only [StepState.report,ErrorBudget.charge,unspent,Bool.false_eq_true,if_false,severe]
    rfl

end PhoneSignIn.Flow
