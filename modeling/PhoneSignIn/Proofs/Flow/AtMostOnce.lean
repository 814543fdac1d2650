import PhoneSignIn.Proofs.Flow.Turn

/-!
A receiver tells its host at most once. Every result that reaches it comes with a turn
(`Turn.arrival?`); the first success or failure uses it up, and the host is told of it when the host is
there and has not withdrawn its wish to be told. `Turn.Treats` says what one turn does to a receiver,
`turn_treats` that every turn does, and `outcome_told_once` what comes of it over a whole run.
-/
namespace PhoneSignIn.Flow

variable {γ σ : Type}

/-- The host that is told. -/
def Delivery.host? : Delivery → Option HostId
  | .success host .. | .failure host _ => some host
  | .changed _ => none

/-- Whether a result is a success or a failure. -/
def isOutcome (code : Int32) : Bool := code == successCode || code == failureCode

namespace Turn

/-! ### What reaches a receiver -/

/-- The receiver that a turn hands a result to, with the result's code. -/
def arrival? (t : Turn γ σ) : Option (ReceiverId × Int32) :=
  match t.act, t.reply with
  | .submit .., .moved .signedIn => t.carrier?.map (·,successCode)
  | .dismiss _, _ => t.carrier?.map (·,failureCode)
  | .handIn id code _, _ => some (id,code)
  | .reportSuccess id _, _ => some (id,successCode)
  | .reportFailure id _, _ => some (id,failureCode)
  | _, _ => none

/-- Whether a turn hands a success or a failure to a receiver. -/
def brings (t : Turn γ σ) (r : ReceiverId) : Bool :=
  t.arrival?.any fun (id,code) => id == r && isOutcome code

/-- Whether a turn withdraws the wish to be told through a receiver. -/
def withdraws (t : Turn γ σ) (r : ReceiverId) : Bool :=
  match t.act with
  | .withdraw id => id == r
  | _ => false

/-- What a turn tells through a receiver. -/
def told (t : Turn γ σ) (r : ReceiverId) : List Delivery :=
  if t.carrier? = some r then t.happened.filterMap Occurrence.outcome? else []

/-- What the journal notes of the outcomes that a turn tells through a receiver. -/
def noted (t : Turn γ σ) (r : ReceiverId) : List Journal.Action :=
  if t.carrier? = some r then t.happened.filterMap Occurrence.note? else []

/-- A receiver after a turn. -/
def leaves (t : Turn γ σ) (r : ReceiverId) (rc : Receiver) : Receiver where
  callback := { rc.callback with withdrawn := rc.callback.withdrawn || t.withdraws r }
  delivered := rc.delivered || t.brings r

/-- Whether a turn brings a receiver its first result while the host can be told. -/
def tells (t : Turn γ σ) (r : ReceiverId) (rc : Receiver) : Bool :=
  t.brings r && !rc.delivered && t.before.world.canTell rc.callback

/-- What a turn does to a receiver. -/
structure Treats (t : Turn γ σ) (r : ReceiverId) (rc : Receiver) : Prop where
  after : t.after.world.receivers[r]? = some (t.leaves r rc)
  told : ∃ d : Delivery, d.host? = some rc.callback.host ∧
    t.told r = (if t.tells r rc then [d] else []) ∧ t.noted r = if t.tells r rc then [d.action] else []

end Turn

/-! ### One turn -/

theorem Callback.outcome_host (c : Callback) (phoneNumber : String) (answer : Except StorageError (Option Session)) :
    (c.outcome phoneNumber answer).host? = some c.host := by
  rcases answer with e | _ | session <;> rfl

theorem World.used_found {w : World γ σ} {id r : ReceiverId} {rc : Receiver} (found : w.receivers[r]? = some rc) :
    (w.used id).receivers[r]? = some { rc with delivered := rc.delivered || id == r } := by
  rw [World.used,List.getElem?_modify,found]
  by_cases here : id = r
  · simp [here]
  · have elsewhere : (id == r) = false := by simpa using here
    simp [here,elsewhere]

section
variable [SessionStore σ] {w w' : World γ σ} {id r : ReceiverId} {code : Int32} {data : LoginResult} {rc : Receiver}

/-- A result that is a success or a failure uses up the receiver that it is handed to, and no other. -/
theorem Arrives.receiver (arrives : Arrives w id code data w') (found : w.receivers[r]? = some rc) :
    w'.receivers[r]? = some { rc with delivered := rc.delivered || (id == r && isOutcome code) } := by
  cases arrives with
  | success signedIn =>
    subst signedIn
    simpa [isOutcome] using World.used_found found
  | failure failed =>
    subst failed
    simpa [isOutcome] using World.used_found found
  | dropped before =>
    by_cases here : id = r
    · subst here
      have used := before rc found
      obtain ⟨callback,delivered⟩ := rc
      simp_all
    · have elsewhere : (id == r) = false := by simpa using here
      simp [found,elsewhere]
  | meaningless noSuccess noFailure =>
    have nothing : isOutcome code = false := by simp [isOutcome,noSuccess,noFailure]
    simp [found,nothing]

/-- The host is told once, of the first success or failure, if it can be told then. -/
theorem Arrives.tells (arrives : Arrives w id code data w') (found : w.receivers[id]? = some rc) :
    ∃ (d : Delivery) (l : List Occurrence), d.host? = some rc.callback.host ∧ w'.history = w.history ++ l ∧
      l.filterMap Occurrence.outcome? =
        (if isOutcome code && !rc.delivered && w.canTell rc.callback then [d] else []) ∧
      l.filterMap Occurrence.note? =
        if isOutcome code && !rc.delivered && w.canTell rc.callback then [d.action] else [] := by
  cases arrives with
  | @success r signedIn found' unused =>
    obtain rfl : r = rc := Option.some.inj (found'.symm.trans found)
    refine ⟨r.callback.outcome data.phoneNumber (SessionStore.read w.store).1,_,r.callback.outcome_host _ _,rfl,?_,?_⟩
    · rw [List.filterMap_cons_none rfl,World.telling_outcomes (r.callback.outcome_told _ _)]
      simp [isOutcome,signedIn,unused]
    · rw [List.filterMap_cons_none rfl,World.telling_notes]
      simp [isOutcome,signedIn,unused]
  | @failure r failed found' unused =>
    obtain rfl : r = rc := Option.some.inj (found'.symm.trans found)
    refine ⟨.failure r.callback.host (data.loginError.getD ""),_,rfl,rfl,?_,?_⟩
    · rw [World.telling_outcomes rfl]
      simp [isOutcome,failed,unused]
    · rw [World.telling_notes]
      simp [isOutcome,failed,unused]
  | dropped before =>
    exact ⟨.failure rc.callback.host "",[],rfl,by simp,by simp [before rc found],by simp [before rc found]⟩
  | meaningless noSuccess noFailure =>
    exact ⟨.failure rc.callback.host "",[],rfl,by simp,by simp [isOutcome,noSuccess,noFailure],
      by simp [isOutcome,noSuccess,noFailure]⟩

end

section
variable {t : Turn γ σ} {r : ReceiverId} {rc : Receiver}

/-- A turn that hands nothing in and tells nothing leaves every receiver as it is. -/
theorem treats_of_silent (silent : t.before.still.world.Silent t.after.world)
    (found : t.before.world.receivers[r]? = some rc) (idle : t.brings r = false) (kept : t.withdraws r = false) :
    t.Treats r rc := by
  obtain ⟨l,g,st,quiet,after⟩ := silent
  have happened : t.happened = l := by simp [Turn.happened,after,Scene.still]
  have outcomes : t.happened.filterMap Occurrence.outcome? = [] := by
    rw [happened,List.filterMap_eq_nil_iff]
    exact fun o member => (quiet o member).1
  have notes : t.happened.filterMap Occurrence.note? = [] := by
    rw [happened,List.filterMap_eq_nil_iff]
    exact fun o member => (quiet o member).2
  constructor
  · simp [after,Scene.still,found,Turn.leaves,idle,kept]
  · exact ⟨.failure rc.callback.host "",rfl,by simp [Turn.told,outcomes,Turn.tells,idle],
      by simp [Turn.noted,notes,Turn.tells,idle]⟩

/-- A turn on nothing that carries a receiver tells nothing through one. -/
theorem treats_of_uncarried (uncarried : t.carrier? = none) (same : t.after.world.receivers[r]? = some rc)
    (idle : t.brings r = false) (kept : t.withdraws r = false) : t.Treats r rc := by
  constructor
  · simp [same,Turn.leaves,idle,kept]
  · exact ⟨.failure rc.callback.host "",rfl,by simp [Turn.told,uncarried,Turn.tells,idle],
      by simp [Turn.noted,uncarried,Turn.tells,idle]⟩

/-- A turn that hands a result in after nothing has been told. -/
theorem treats_of_arrives [SessionStore σ] {w : World γ σ} {id : ReceiverId} {code : Int32} {data : LoginResult}
    (silent : t.before.still.world.Silent w) (arrives : Arrives w id code data t.after.world)
    (carried : t.carrier? = some id) (arrival : t.arrival? = some (id,code))
    (found : t.before.world.receivers[r]? = some rc) (kept : t.withdraws r = false) : t.Treats r rc := by
  obtain ⟨l,g,st,quiet,rfl⟩ := silent
  have brings : t.brings r = (id == r && isOutcome code) := by simp [Turn.brings,arrival]
  have found' : (t.before.still.world.advance g st l).receivers[r]? = some rc := found
  constructor
  · rw [arrives.receiver found']
    simp [Turn.leaves,kept,brings]
  · by_cases here : id = r
    · subst here
      obtain ⟨d,l',host,after,outcomes,notes⟩ := arrives.tells found'
      have happened : t.happened = l ++ l' := by simpa [Turn.happened,Scene.still] using after
      have outcomes' : t.happened.filterMap Occurrence.outcome? = l'.filterMap Occurrence.outcome? := by
        rw [happened,List.filterMap_append,List.filterMap_eq_nil_iff.mpr fun o member => (quiet o member).1]
        rfl
      have notes' : t.happened.filterMap Occurrence.note? = l'.filterMap Occurrence.note? := by
        rw [happened,List.filterMap_append,List.filterMap_eq_nil_iff.mpr fun o member => (quiet o member).2]
        rfl
      have tells : t.tells id rc = (isOutcome code && !rc.delivered && t.before.world.canTell rc.callback) := by
        rw [Turn.tells,brings,beq_self_eq_true,Bool.true_and]
      refine ⟨d,host,?_,?_⟩
      · rw [Turn.told,if_pos carried,outcomes',outcomes,tells]
        rfl
      · rw [Turn.noted,if_pos carried,notes',notes,tells]
        rfl
    · have elsewhere : t.carrier? ≠ some r := by simpa [carried] using here
      exact ⟨.failure rc.callback.host "",rfl,by simp [Turn.told,elsewhere,Turn.tells,brings,here],
        by simp [Turn.noted,elsewhere,Turn.tells,brings,here]⟩

end

theorem quiet_arrival {t : Turn γ σ} (quiet : t.act.isQuiet = true) : t.arrival? = none := by
  obtain ⟨before,act,reply,after⟩ := t
  cases act <;> first | rfl | cases quiet

theorem quiet_withdraws {t : Turn γ σ} (quiet : t.act.isQuiet = true) (r : ReceiverId) : t.withdraws r = false := by
  obtain ⟨before,act,reply,after⟩ := t
  cases act <;> first | rfl | cases quiet

theorem withdraw_receivers (id : ReceiverId) (w : World γ σ) : ((withdraw id).run w).2.receivers =
    w.receivers.modify id fun r => { r with callback.withdrawn := true } := rfl

/-- A withdrawn wish to be told is withdrawn from one receiver. -/
theorem treats_of_withdrawn {t : Turn γ σ} {r id : ReceiverId} {rc : Receiver} (act : t.act = .withdraw id)
    (after : t.after.world = ((withdraw id).run t.before.still.world).2)
    (found : t.before.world.receivers[r]? = some rc) : t.Treats r rc := by
  have nothing : t.happened = [] := by
    rw [Turn.happened,after]
    rfl
  have idle : t.brings r = false := by simp [Turn.brings,Turn.arrival?,act]
  have withdraws : t.withdraws r = (id == r) := by simp [Turn.withdraws,act]
  have found' : t.before.still.world.receivers[r]? = some rc := found
  constructor
  · rw [after,withdraw_receivers,List.getElem?_modify,found',Turn.leaves,withdraws,idle]
    by_cases here : id = r
    · simp [here]
    · have elsewhere : (id == r) = false := by simpa using here
      simp [here,elsewhere]
  · exact ⟨.failure rc.callback.host "",rfl,by simp [Turn.told,nothing,Turn.tells,idle],
      by simp [Turn.noted,nothing,Turn.tells,idle]⟩

section
variable [Gateway γ] [SessionStore σ] {s : Scene γ σ} {r : ReceiverId} {rc : Receiver}

/-- Every turn treats every receiver as its results say. -/
theorem treats_of_makes {t : Turn γ σ} (makes : t.before.still.Makes t.act t.reply t.after.world)
    (found : t.before.world.receivers[r]? = some rc) : t.Treats r rc := by
  have nothing : t.before.still.world.Silent t.before.still.world := (World.Records.nothing _).silent
  generalize world : t.after.world = w' at makes
  generalize act : t.act = a at makes
  generalize reply : t.reply = answer at makes
  cases makes with
  | recorded quiet records =>
    rw [← act] at quiet
    exact treats_of_silent (world ▸ records.silent) found (by rw [Turn.brings,quiet_arrival quiet]; rfl)
      (quiet_withdraws quiet r)
  | began begins =>
    refine treats_of_uncarried (by simp [Turn.carrier?,act]) ?_ (by simp [Turn.brings,Turn.arrival?,act])
      (by simp [Turn.withdraws,act])
    rw [world]
    cases begins with
    | unreadable => exact found
    | already => exact found
    | launched => exact World.joined_found found _
  | @submitted i input o m step _ there submits =>
    have there' : t.before.steps[i]? = some o := there
    have carried : t.carrier? = some o.step.core.receiver := by simp [Turn.carrier?,act,there']
    have kept : t.withdraws r = false := by simp [Turn.withdraws,act]
    rcases submits.silent_or_signedIn with ⟨other,silent⟩ | ⟨signedIn,w'',data,silent,arrives⟩
    · have idle : t.arrival? = none := by
        rw [Turn.arrival?,act,reply]
        cases m <;> first | rfl | exact absurd rfl other
      exact treats_of_silent (world ▸ silent) found (by rw [Turn.brings,idle]; rfl) kept
    · have arrival : t.arrival? = some (o.step.core.receiver,successCode) := by
        rw [Turn.arrival?,act,reply,signedIn,carried]
        rfl
      exact treats_of_arrives silent (world ▸ arrives) carried arrival found kept
  | unsubmitted =>
    exact treats_of_silent (world ▸ nothing) found (by simp [Turn.brings,Turn.arrival?,act,reply])
      (by simp [Turn.withdraws,act])
  | @dismissed i f _ _ _ there clicked arrives =>
    have there' : t.before.screens[i]? = some f := there
    have carried : t.carrier? = some f.failure.receiver := by simp [Turn.carrier?,act,there']
    have arrival : t.arrival? = some (f.failure.receiver,failureCode) := by simp [Turn.arrival?,act,carried]
    exact treats_of_arrives clicked.silent (world ▸ arrives) carried arrival found (by simp [Turn.withdraws,act])
  | @undismissed i missing =>
    have missing' : t.before.screens[i]? = none := missing
    exact treats_of_silent (world ▸ nothing) found (by simp [Turn.brings,Turn.arrival?,Turn.carrier?,act,missing'])
      (by simp [Turn.withdraws,act])
  | @handedIn _ id code data _ _ hands arrives =>
    have carried : t.carrier? = some id ∧ t.arrival? = some (id,code) ∧ t.withdraws r = false := by
      cases a <;> simp_all [Act.hands?,Turn.carrier?,Turn.arrival?,Turn.withdraws]
    exact treats_of_arrives nothing (world ▸ arrives) carried.1 carried.2.1 found carried.2.2
  | withdrawn => exact treats_of_withdrawn act world found
  | hosted =>
    exact treats_of_uncarried (by simp [Turn.carrier?,act]) (world ▸ found)
      (by simp [Turn.brings,Turn.arrival?,act]) (by simp [Turn.withdraws,act])
  | read =>
    exact treats_of_silent (world ▸ readSession_silent _) found (by simp [Turn.brings,Turn.arrival?,act])
      (by simp [Turn.withdraws,act])
  | verified =>
    exact treats_of_silent (world ▸ refreshSession_silent _ _) found (by simp [Turn.brings,Turn.arrival?,act])
      (by simp [Turn.withdraws,act])
  | cleared =>
    exact treats_of_uncarried (by simp [Turn.carrier?,act]) (world ▸ found)
      (by simp [Turn.brings,Turn.arrival?,act]) (by simp [Turn.withdraws,act])

theorem turn_treats (found : s.world.receivers[r]? = some rc) (act : Act) : (s.turn act).Treats r rc :=
  treats_of_makes (s.still.does_makes act) found

/-! ### Whole runs -/

omit [Gateway γ] [SessionStore σ] in
/-- A receiver after some turns. -/
def Receiver.afterAll (rc : Receiver) (r : ReceiverId) (turns : List (Turn γ σ)) : Receiver where
  callback := { rc.callback with withdrawn := rc.callback.withdrawn || turns.any (·.withdraws r) }
  delivered := rc.delivered || turns.any (·.brings r)

/-- Before each turn of a run a receiver is what the turns before have left. -/
theorem run_receiver {acts : List Act} {earlier later : List (Turn γ σ)} {t : Turn γ σ}
    (found : s.world.receivers[r]? = some rc) (split : s.run acts = earlier ++ t :: later) :
    t.before.world.receivers[r]? = some (rc.afterAll r earlier) ∧ t.Treats r (rc.afterAll r earlier) := by
  induction earlier generalizing s rc acts with
  | nil =>
    cases acts with
    | nil => cases split
    | cons act acts =>
      obtain ⟨rfl,-⟩ := List.cons.inj split
      have same : rc.afterAll r ([] : List (Turn γ σ)) = rc := by simp [Receiver.afterAll]
      rw [same]
      exact ⟨found,turn_treats found act⟩
  | cons e earlier ih =>
    cases acts with
    | nil => cases split
    | cons act acts =>
      obtain ⟨rfl,rest⟩ := List.cons.inj split
      have grown : rc.afterAll r (s.turn act :: earlier) = ((s.turn act).leaves r rc).afterAll r earlier := by
        simp [Receiver.afterAll,Turn.leaves,Bool.or_assoc]
      rw [grown]
      exact ih (turn_treats found act).after rest

/-- A turn of a run tells through a receiver exactly when it brings the first result while the host can
    be told. -/
theorem run_told_iff {acts : List Act} {earlier later : List (Turn γ σ)} {t : Turn γ σ}
    (found : s.world.receivers[r]? = some rc) (split : s.run acts = earlier ++ t :: later) :
    t.told r ≠ [] ↔ t.brings r = true ∧ (rc.delivered = false ∧ ∀ e ∈ earlier, e.brings r = false) ∧
      t.before.world.canTell (rc.afterAll r earlier).callback = true := by
  obtain ⟨-,treats⟩ := run_receiver found split
  obtain ⟨d,-,told,-⟩ := treats.told
  have tells : t.told r ≠ [] ↔ t.tells r (rc.afterAll r earlier) = true := by
    rw [told]
    split <;> simp [*]
  rw [tells]
  simp [Turn.tells,Receiver.afterAll,and_assoc]

/-- A run tells at most once through a receiver, and never through one that is used up. -/
theorem run_told_length (found : s.world.receivers[r]? = some rc) (acts : List Act) :
    ((s.run acts).flatMap (·.told r)).length ≤ if rc.delivered then 0 else 1 := by
  induction acts generalizing s rc with
  | nil => simp [Scene.run]
  | cons act acts ih =>
    have treats := turn_treats found act
    obtain ⟨d,-,told,-⟩ := treats.told
    have rest := ih treats.after
    have count : ((s.turn act).told r).length = if (s.turn act).tells r rc then 1 else 0 := by
      rw [told]
      split <;> rfl
    rw [Scene.run,List.flatMap_cons,List.length_append,count]
    -- What tells uses the receiver up, so nothing is told after it.
    cases brings : (s.turn act).brings r with
    | false =>
      have same : ((s.turn act).leaves r rc).delivered = rc.delivered := by simp [Turn.leaves,brings]
      have idle : (s.turn act).tells r rc = false := by simp [Turn.tells,brings]
      rw [same] at rest
      simpa [idle] using rest
    | true =>
      have used : ((s.turn act).leaves r rc).delivered = true := by simp [Turn.leaves,brings]
      rw [if_pos used,Nat.le_zero] at rest
      rw [rest,Nat.add_zero,Turn.tells]
      cases rc.delivered with
      | true => simp
      | false =>
        rw [if_neg (by simp : ¬(false = true))]
        split <;> omega

/-- A launched sign-in has a receiver of its own, which is unused and tells the host of the sign-in. -/
theorem launched_receiver {config : SignInRequest} {h : Handoff}
    (launched : (s.turn (.start config)).reply = .launched h) : ∃ r, h.receiver = some r ∧
      (s.turn (.start config)).after.world.receivers[r]? = some { callback := { host := config.host } } := by
  obtain ⟨result,w',begins,-,opens⟩ := s.still.start_does config
  obtain ⟨rfl,after⟩ := opens h launched
  cases begins with
  | launched =>
    refine ⟨_,rfl,?_⟩
    have world : (s.turn (.start config)).after = _ := after
    rw [world]
    simp [World.joined]

/-- A launched sign-in tells its host once at most, whatever is done in whatever order: when the first
    success or failure reaches its receiver, if the host is there then and has not withdrawn its wish to
    be told. The journal notes an outcome for each, and no other result uses the receiver up. -/
theorem outcome_told_once (scene : Scene γ σ) {config : SignInRequest} {h : Handoff}
    (launched : (scene.turn (.start config)).reply = .launched h) (acts : List Act) :
    ∃ r, h.receiver = some r ∧
      (((scene.turn (.start config)).after.run acts).flatMap (·.told r)).length ≤ 1 ∧
      ∀ earlier t later, (scene.turn (.start config)).after.run acts = earlier ++ t :: later →
        (t.told r ≠ [] ↔ t.brings r = true ∧ (∀ e ∈ earlier, e.brings r = false) ∧
          (∀ e ∈ earlier, e.withdraws r = false) ∧ t.before.world.isThere config.host = true) ∧
        (∀ d ∈ t.told r, d.host? = some config.host) ∧
        t.noted r = (t.told r).map Delivery.action ∧
        t.after.world.receivers[r]?.map (·.delivered) = some ((earlier ++ [t]).any (·.brings r)) := by
  obtain ⟨r,carried,found⟩ := launched_receiver launched
  refine ⟨r,carried,run_told_length found acts,?_⟩
  intro earlier t later split
  obtain ⟨before,treats⟩ := run_receiver found split
  obtain ⟨d,host,told,noted⟩ := treats.told
  refine ⟨?_,?_,?_,?_⟩
  · rw [run_told_iff found split]
    simp [Receiver.afterAll,World.canTell]
  · intro d' member
    rw [told] at member
    split at member
    · obtain rfl := List.mem_singleton.mp member
      exact host
    · cases member
  · rw [told,noted]
    split <;> rfl
  · rw [treats.after]
    simp [Turn.leaves,Receiver.afterAll]

end

/-- A result of another kind, a failure and a success that are handed in one after the other: the
    failure is told, and it alone. -/
theorem first_failure_told : ∃ r, some 0 = some r ∧
    let run := ((Scene.scripted {}).turn (.start ⟨1,"",false⟩)).after.run
      [.handIn 0 300 {},.handIn 0 400 { loginError := some "offline" },.handIn 0 200 { phoneNumber := "+1" }]
    (run.flatMap (·.told r)).length ≤ 1 ∧ run.map (·.told r) = [[],[.failure 1 "offline"],[]] := by
  have launched : ((Scene.scripted {}).turn (.start ⟨1,"",false⟩)).reply =
      .launched { receiver := some 0, phoneNumber := some "" } := rfl
  obtain ⟨r,carried,once,-⟩ := outcome_told_once _ launched
    [.handIn 0 300 {},.handIn 0 400 { loginError := some "offline" },.handIn 0 200 { phoneNumber := "+1" }]
  refine ⟨r,carried,once,?_⟩
  obtain rfl : 0 = r := Option.some.inj carried
  rfl

end PhoneSignIn.Flow
