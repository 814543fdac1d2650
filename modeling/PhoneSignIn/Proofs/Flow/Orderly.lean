import PhoneSignIn.Proofs.Flow.AtMostOnce
import PhoneSignIn.Proofs.Flow.Persistence

/-!
Runs of one sign-in. In an `Orderly` turn a step opens from the transition just received and a failure
screen from the failure just received, and nobody begins another sign-in, hands a result in or changes
the session beside the flow. All steps and screens of such a run carry one receiver (`Scene.Carries`).
Over a lawful store every turn ends in one of two ways (`Turn.Ends`): it makes no session active, or it
makes one active and then asks for an address or signs the user in. So the store holds the session that
was kept last (`Scene.run_holds`).
-/
namespace PhoneSignIn.Flow

variable {γ σ : Type}

/-- Whether an act belongs to one sign-in that is done in order, by the transition received last. -/
def Act.Orderly (act : Act) (received : Move) : Prop :=
  match act with
  | .openStep kind h => received = .next kind h
  | .openFailure failure => received = .gaveUp failure
  | .start _ | .handIn .. | .reportSuccess .. | .reportFailure .. | .verify _ | .signOut => False
  | _ => True

instance (act : Act) (received : Move) : Decidable (act.Orderly received) :=
  match act with
  | .openStep kind h => inferInstanceAs (Decidable (received = .next kind h))
  | .openFailure failure => inferInstanceAs (Decidable (received = .gaveUp failure))
  | .start _ | .handIn .. | .reportSuccess .. | .reportFailure .. | .verify _ | .signOut => .isFalse id
  | .submit .. | .resend _ | .phoneResend _ | .chooseCountry .. | .edited _ | .clearError _ | .resume _
  | .resumeFailure _ | .dismiss _ | .restart _ | .withdraw _ | .hosts .. | .activeSession => .isTrue trivial

def Turn.Orderly (t : Turn γ σ) : Prop := t.act.Orderly t.before.received

instance (t : Turn γ σ) : Decidable t.Orderly := inferInstanceAs (Decidable (t.act.Orderly t.before.received))

/-! ### One receiver -/

/-- Whether what a move leads to carries a receiver. -/
def Move.Carries (r : ReceiverId) : Move → Prop
  | .next _ h => h.receiver = some r
  | .gaveUp failure => failure.receiver = r
  | .stay | .signedIn => True

/-- Whether what a sign-in has received and the failure screens carry a receiver. -/
structure Scene.Receives (s : Scene γ σ) (r : ReceiverId) : Prop where
  screens : ∀ f ∈ s.screens, f.failure.receiver = r
  received : s.received.Carries r

/-- Whether all that a sign-in can go on with carries a receiver. -/
structure Scene.Carries (s : Scene γ σ) (r : ReceiverId) : Prop extends s.Receives r where
  steps : ∀ o ∈ s.steps, o.step.core.receiver = r

theorem StepState.Answers.carries {c c' : StepState} {e : CallError} {m : Move} {l : List Occurrence}
    (answer : c.Answers e m c' l) : m.Carries c.receiver := by
  cases answer with
  | told => trivial
  | gaveUp => rfl

theorem SignsIn.not_handOver {session : Session} {phoneNumber : String} {wantsEmail : Bool} {l : List Occurrence}
    {fin : Finale} (goesOn : SignsIn session phoneNumber wantsEmail l fin) (step : Step) (h : Handoff) :
    fin ≠ .handOver step h := by
  cases goesOn <;> simp

/-- What a submit leads to carries the step's receiver. -/
theorem Submits.carries [SessionStore σ] {s s' : OpenStep} {input : String} {w w' : World γ σ} {m : Move}
    (submits : Submits s input w m s' w') : m.Carries s.core.receiver := by
  cases submits with
  | ignored => trivial
  | went accepted course ends =>
    have kept := course.keeps.receiver
    cases ends with
    | reported answer => exact kept ▸ answer.carries
    | unkept keeps refused answer => exact kept ▸ answer.carries
    | emailRequested => exact congrArg some kept
    | signedIn => trivial
    | handedOver =>
      cases course with
      | phone sends => cases sends <;> rfl
      | loginCode checks =>
        cases checks with
        | pinWanted => rfl
        | taken c full goesOn => exact absurd rfl (goesOn.not_handOver _ _)
      | confirmationCode checks => cases checks
      | pinCode checks =>
        cases checks with
        | taken c goesOn => exact absurd rfl (goesOn.not_handOver _ _)
      | email attaches => cases attaches

theorem StepState.goBack_carries {c : StepState} {h : Handoff} (carried : h.receiver = some c.receiver)
    (w : World γ σ) : ((c.goBack h).run w).1.1.Carries c.receiver := by
  simp only [StepState.goBack]
  split
  · trivial
  · exact carried

/-- A way back carries the step's receiver. -/
theorem OpenStep.resend_carries {s : OpenStep} {w : World γ σ} {m : Move} (moved : (s.resend.run w).1.1 = some m) :
    m.Carries s.core.receiver := by
  cases s with
  | loginCode s =>
    cases moved
    exact StepState.goBack_carries rfl w
  | confirmationCode s =>
    cases moved
    exact StepState.goBack_carries rfl w
  | phone => cases moved
  | pinCode => cases moved
  | email => cases moved

theorem Scene.follow_received {s : Scene γ σ} {r : ReceiverId} {m : Move} (before : s.received.Carries r)
    (moved : m.Carries r) : (s.follow m).received.Carries r := by
  cases m with
  | stay => exact before
  | next => exact moved
  | gaveUp => exact moved
  | signedIn => exact moved

namespace Scene
variable [Gateway γ] [SessionStore σ] {s : Scene γ σ} {r : ReceiverId}

/-- In order, a new failure screen opens from the failure just received, and what is received carries the
    receiver of the step or the screen that it comes from. -/
theorem does_receives {act : Act} (orderly : act.Orderly s.received) (carries : s.Carries r) :
    (s.does act).2.Receives r := by
  have same {s' : Scene γ σ} (screens : s'.screens = s.screens) (received : s'.received = s.received) :
      s'.Receives r := ⟨screens ▸ carries.screens,received ▸ carries.received⟩
  have nothing : s.Receives r := same rfl rfl
  cases act with
  | openStep kind h =>
    simp only [does,openStep]
    split
    · exact same rfl rfl
    · exact nothing
  | submit i input =>
    refine onStep_keeps (P := (·.Receives r)) nothing ?_
    intro o found
    obtain ⟨m,step,w',submits,ran⟩ := submits o.step input s.world
    have moved := submits.carries
    rw [carries.steps o (List.mem_of_getElem? found)] at moved
    simp only [perform,ran]
    exact ⟨by rw [follow_screens]; exact carries.screens,follow_received carries.received moved⟩
  | resend i =>
    refine onStep_keeps (P := (·.Receives r)) nothing ?_
    intro o found
    simp only [perform]
    split
    · rename_i answer
      obtain ⟨moved,rfl⟩ := Prod.mk.inj answer
      have carried := OpenStep.resend_carries (congrArg Prod.fst moved)
      rw [carries.steps o (List.mem_of_getElem? found)] at carried
      exact ⟨by rw [follow_screens]; exact carries.screens,follow_received carries.received carried⟩
    · rename_i answer
      obtain ⟨-,rfl⟩ := Prod.mk.inj answer
      exact same rfl rfl
  | phoneResend i =>
    exact onPhone_keeps (P := (·.Receives r)) nothing fun o p _ _ => same rfl rfl
  | chooseCountry i countryCode =>
    exact onPhone_keeps (P := (·.Receives r)) nothing fun o p _ _ => same rfl rfl
  | edited i =>
    exact onStep_keeps (P := (·.Receives r)) nothing fun o _ => same rfl rfl
  | clearError i =>
    exact onStep_keeps (P := (·.Receives r)) nothing fun o _ => same rfl rfl
  | resume i =>
    exact onStep_keeps (P := (·.Receives r)) nothing fun o _ => same rfl rfl
  | openFailure failure =>
    refine ⟨?_,carries.received⟩
    intro f member
    rcases List.mem_append.mp member with before | new
    · exact carries.screens f before
    · obtain rfl := List.mem_singleton.mp new
      have received : s.received = .gaveUp failure := orderly
      have carried := carries.received
      rw [received] at carried
      exact carried
  | resumeFailure i =>
    exact onScreen_keeps (P := (·.Receives r)) nothing fun f _ => same rfl rfl
  | dismiss i =>
    exact onScreen_keeps (P := (·.Receives r)) nothing fun f _ => same rfl rfl
  | restart i =>
    refine onScreen_keeps (P := (·.Receives r)) nothing ?_
    intro f found
    exact ⟨carries.screens,congrArg some (carries.screens f (List.mem_of_getElem? found))⟩
  | withdraw id => exact same rfl rfl
  | hosts present others => exact same rfl rfl
  | activeSession =>
    simp only [does,perform]
    cases (readSession.run s.world).1 <;> exact same rfl rfl
  | _ => exact orderly.elim

/-- In order, all steps and screens go on carrying one receiver. -/
theorem turn_carries {act : Act} (orderly : (s.turn act).Orderly) (carries : s.Carries r) :
    (s.turn act).after.Carries r := by
  have carries' : s.still.Carries r := ⟨⟨carries.screens,carries.received⟩,carries.steps⟩
  refine ⟨does_receives (s := s.still) orderly carries',?_⟩
  intro o member
  rcases (s.still.does_changes act).member member with ⟨kind,opens,valid⟩ | ⟨o',before,-,becomes⟩
  · have just : s.received = .next kind o.handoff := by
      rw [opens] at orderly
      exact orderly
    have carried := carries.received
    rw [just] at carried
    exact Option.some.inj ((OpenStep.openFrom_keeps valid).1.symm.trans carried)
  · rw [becomes.receiver]
    exact carries.steps o' before

end Scene

/-! ### How a turn ends -/

/-- The session that was made the active one. -/
def Occurrence.kept? : Occurrence → Option Session
  | .wrote session (.ok _) => some session
  | _ => none

theorem Occurrence.kept_of_unwritten {o : Occurrence} (unwritten : o.write? = none) : o.kept? = none := by
  cases o with
  | wrote => cases unwritten
  | _ => rfl

/-- The sessions that a turn has made active. -/
def Turn.kept (t : Turn γ σ) : List Session := t.happened.filterMap Occurrence.kept?

/-- What a turn has told hosts of sign-ins. -/
def Turn.outcomes (t : Turn γ σ) : List Delivery := t.happened.filterMap Occurrence.outcome?

/-- What a host is told of a sign-in is an outcome. -/
theorem Turn.mem_outcomes {t : Turn γ σ} {d : Delivery} (told : .delivered d ∈ t.happened)
    (outcome : (Occurrence.delivered d).outcome? = some d) : d ∈ t.outcomes := List.mem_filterMap.mpr ⟨_,told,outcome⟩

theorem Turn.delivered_of_outcomes {t : Turn γ σ} {d : Delivery} (outcome : d ∈ t.outcomes) :
    .delivered d ∈ t.happened := by
  obtain ⟨o,there,told⟩ := List.mem_filterMap.mp outcome
  rw [Occurrence.of_outcome told] at there
  exact there

/-- How an orderly turn ends. -/
inductive Turn.Ends [SessionStore σ] (t : Turn γ σ) : Prop where
  /-- It makes no session active, and it tells no one unless a failure screen is dismissed. -/
  | unkept (kept : t.kept = []) (holds : ∀ active, Holds t.before.world.store active → Holds t.after.world.store active)
    (told : ∀ d ∈ t.outcomes, ∃ host m i f, d = .failure host m ∧ t.act = .dismiss i ∧ t.before.screens[i]? = some f)
  /-- It makes one session active, and tells of it if the user is signed in with it. -/
  | kept {i input o session l rest} (act : t.act = .submit i input) (found : t.before.steps[i]? = some o)
    (reply : t.reply = .moved .signedIn ∨ ∃ h, t.reply = .moved (.next .email h))
    (happened : t.happened = l ++ .wrote session (.ok ()) :: rest) (plain : ∀ x ∈ l, x.Plain)
    (after : ∀ x ∈ rest, x.write? = none ∧ x.grant? = none) (source : Source t.before.world.store l session)
    (held : Holds t.after.world.store (some session))
    (told : ∀ d ∈ rest.filterMap Occurrence.outcome?, ∃ host n, d = .success host session n)

theorem Occurrence.Plain.keeps_none {o : Occurrence} (plain : o.Plain) : o.kept? = none ∧ o.outcome? = none :=
  ⟨Occurrence.kept_of_unwritten plain.writes_none,plain.tells_none⟩

theorem ends_of_silent [SessionStore σ] {t : Turn γ σ} (silent : ∀ o ∈ t.happened, o.kept? = none ∧ o.outcome? = none)
    (holds : ∀ active, Holds t.before.world.store active → Holds t.after.world.store active) : t.Ends := by
  refine .unkept ?_ holds ?_
  · rw [Turn.kept,List.filterMap_eq_nil_iff]
    exact fun o member => (silent o member).1
  · intro d told
    obtain ⟨o,member,outcome⟩ := List.mem_filterMap.mp told
    rw [(silent o member).2] at outcome
    cases outcome

/-- A turn in which nothing happens ends quietly. -/
theorem ends_of_still [SessionStore σ] {t : Turn γ σ} (nothing : t.happened = [])
    (same : t.after.world.store = t.before.world.store) : t.Ends := by
  refine ends_of_silent ?_ ?_
  · intro o member
    rw [nothing] at member
    cases member
  · intro active held
    rw [same]
    exact held

/-- A turn that has written one session, after calls and before what it tells, has kept that one. -/
theorem Turn.kept_one {t : Turn γ σ} {session : Session} {l rest : List Occurrence}
    (happened : t.happened = l ++ .wrote session (.ok ()) :: rest) (plain : ∀ x ∈ l, x.Plain)
    (after : ∀ x ∈ rest, x.write? = none ∧ x.grant? = none) : t.kept = [session] := by
  have before : l.filterMap Occurrence.kept? = [] :=
    List.filterMap_eq_nil_iff.mpr fun x member => (plain x member).keeps_none.1
  have nothing : rest.filterMap Occurrence.kept? = [] :=
    List.filterMap_eq_nil_iff.mpr fun x member => Occurrence.kept_of_unwritten (after x member).1
  rw [Turn.kept,happened,List.filterMap_append,before,List.nil_append]
  exact congrArg (session :: ·) nothing

/-- A turn that makes one session active, after calls and before what it tells, tells of that one only. -/
theorem Turn.told_one {t : Turn γ σ} {session : Session} {l rest : List Occurrence}
    (happened : t.happened = l ++ .wrote session (.ok ()) :: rest) (plain : ∀ x ∈ l, x.Plain)
    (told : ∀ d ∈ rest.filterMap Occurrence.outcome?, ∃ host n, d = .success host session n) :
    ∀ d ∈ t.outcomes, ∃ host n, d = .success host session n := by
  intro d member
  have before : l.filterMap Occurrence.outcome? = [] :=
    List.filterMap_eq_nil_iff.mpr fun x member => (plain x member).tells_none
  rw [Turn.outcomes,happened,List.filterMap_append,before,List.nil_append] at member
  exact told d member

/-- After an orderly turn the store holds the session that was kept last. -/
theorem Turn.Ends.holds [SessionStore σ] {t : Turn γ σ} (ends : t.Ends) {active : Option Session}
    (held : Holds t.before.world.store active) : Holds t.after.world.store (t.kept.getLast?.or active) := by
  cases ends with
  | unkept kept holds =>
    rw [kept]
    exact holds active held
  | kept act found reply happened plain after source now =>
    rw [Turn.kept_one happened plain after]
    exact now

section
variable [SessionStore σ] [LawfulStore σ] {t : Turn γ σ}

/-- A submit makes one session active or none. -/
theorem Writes.ends {i : Nat} {input : String} {o : Opened} {m : Move} (act : t.act = .submit i input)
    (found : t.before.steps[i]? = some o) (reply : t.reply = .moved m)
    (writes : Writes o.step t.before.still.world m t.after.world) : t.Ends := by
  have read {st : σ} (reads : st = t.before.still.world.store ∨ st = (SessionStore.read t.before.still.world.store).2)
      {active : Option Session} (held : Holds t.before.world.store active) : Holds st active := by
    rcases reads with rfl | rfl
    · exact held
    · have same : (SessionStore.read t.before.still.world.store).2 = t.before.world.store := congrArg Prod.snd held
      rw [same]
      exact held
  generalize world : t.after.world = w' at writes
  have happened : t.happened = w'.history := congrArg World.history world
  cases writes with
  | nothing plain reads unsigned =>
    refine ends_of_silent ?_ ?_
    · intro o member
      rw [happened] at member
      exact (plain o member).keeps_none
    · intro active held
      rw [world]
      exact read reads held
  | refused plain plain' reads refused =>
    refine ends_of_silent ?_ ?_
    · intro o member
      rw [happened] at member
      rcases List.mem_append.mp (show o ∈ _ ++ _ :: _ from member) with before | after
      · exact (plain o before).keeps_none
      · rcases List.mem_cons.mp after with rfl | after
        · exact ⟨rfl,rfl⟩
        · exact (plain' o after).keeps_none
    · intro active held
      rw [world]
      exact LawfulStore.holds_refused (read reads held) refused
  | emailRequested plain source kept =>
    exact .kept act found (.inr ⟨_,reply⟩) happened plain (by simp) source
      (world ▸ LawfulStore.holds_written kept) (by simp)
  | signedIn plain source number kept arrives =>
    obtain ⟨session,n,l,rest,-,source,happened',plain,after,held,told⟩ :=
      (Writes.signedIn plain source number kept arrives).signedIn_held
    refine .kept act found (.inl reply) (happened.trans happened') plain after source (world ▸ held) ?_
    intro d member
    obtain ⟨host,success⟩ := told d member
    exact ⟨host,n,success⟩

/-- Every orderly turn ends in one of these ways. -/
theorem orderly_ends [Gateway γ] (orderly : t.Orderly) (makes : t.before.still.Makes t.act t.reply t.after.world) :
    t.Ends := by
  generalize world : t.after.world = w' at makes
  have happened : t.happened = w'.history := congrArg World.history world
  generalize act : t.act = a at makes
  generalize reply : t.reply = answer at makes
  cases makes with
  | recorded quiet records =>
    obtain ⟨l,plain,rfl⟩ := records.plain
    refine ends_of_silent ?_ ?_
    · intro o member
      rw [happened] at member
      exact (plain o member).keeps_none
    · intro active held
      rw [world]
      exact held
  | submitted found submits => exact (world ▸ submits.writes).ends act found reply
  | unsubmitted => exact ends_of_still happened (by rw [world]; rfl)
  | @dismissed i f _ w _ found clicked arrives =>
    obtain ⟨l,plain,rfl⟩ := clicked.plain
    have there : t.before.screens[i]? = some f := found
    cases arrives with
    | success signedIn => exact absurd signedIn (by decide)
    | @failure r failed =>
      rw [World.advance_history,World.used_history,World.advance_history] at happened
      refine .unkept ?_ (fun active held => world ▸ held) ?_
      · rw [Turn.kept,List.filterMap_eq_nil_iff]
        intro o member
        rw [happened,List.mem_append,List.mem_append] at member
        rcases member with (before | recorded) | telling
        · cases before
        · exact (plain o recorded).keeps_none.1
        · rcases World.telling_cases telling with rfl | rfl <;> rfl
      · intro d told
        obtain ⟨o,member,outcome⟩ := List.mem_filterMap.mp told
        rw [happened,List.mem_append,List.mem_append] at member
        rcases member with (before | recorded) | telling
        · cases before
        · rw [(plain o recorded).tells_none] at outcome
          cases outcome
        · rcases World.telling_cases telling with rfl | rfl
          · cases outcome
          · cases outcome
            exact ⟨_,_,i,f,rfl,act,there⟩
    | dropped =>
      refine ends_of_silent ?_ fun active held => world ▸ held
      intro o member
      rw [happened] at member
      exact (plain o member).keeps_none
    | meaningless _ noFailure => exact absurd rfl noFailure
  | undismissed => exact ends_of_still happened (by rw [world]; rfl)
  | withdrawn => exact ends_of_still happened (by rw [world]; rfl)
  | hosted => exact ends_of_still happened (by rw [world]; rfl)
  | read =>
    refine ends_of_silent ?_ ?_
    · intro o member
      rw [happened] at member
      rcases List.mem_append.mp member with before | read
      · cases before
      · obtain rfl := List.mem_singleton.mp read
        exact ⟨rfl,rfl⟩
    · intro active held
      have answer : SessionStore.read t.before.still.world.store = (.ok active,t.before.world.store) := held
      rw [world,readSession_run,World.advance_store,answer]
      exact held
  | handedIn hands =>
    rw [Turn.Orderly,act] at orderly
    cases a with
    | handIn => exact orderly.elim
    | reportSuccess => exact orderly.elim
    | reportFailure => exact orderly.elim
    | _ => cases hands
  | _ =>
    rw [Turn.Orderly,act] at orderly
    exact orderly.elim

end

/-! ### Orderly runs -/

namespace Scene
variable [Gateway γ] [SessionStore σ] {s : Scene γ σ}

/-- Whether all acts are done in order. -/
def Orderly (s : Scene γ σ) (acts : List Act) : Prop := ∀ t ∈ s.run acts, t.Orderly

instance (s : Scene γ σ) (acts : List Act) : Decidable (s.Orderly acts) :=
  inferInstanceAs (Decidable (∀ t ∈ s.run acts, t.Orderly))

/-- All steps and screens of an orderly run carry one receiver. -/
theorem run_carries {r : ReceiverId} {acts : List Act} (orderly : s.Orderly acts) (carries : s.Carries r) {t : Turn γ σ}
    (member : t ∈ s.run acts) : t.before.Carries r :=
  run_before (P := Turn.Orderly) (fun _ _ carries orderly => turn_carries orderly carries) carries orderly member

variable [LawfulStore σ]

theorem turn_ends {act : Act} (orderly : (s.turn act).Orderly) : (s.turn act).Ends :=
  orderly_ends orderly (s.still.does_makes act)

/-- Every turn of an orderly run ends in one of the two ways. -/
theorem run_ends {acts : List Act} (orderly : s.Orderly acts) {t : Turn γ σ} (member : t ∈ s.run acts) : t.Ends := by
  have inOrder := orderly t member
  rw [run_turn member] at inOrder ⊢
  exact turn_ends inOrder

/-- Before each turn of an orderly run the store holds the session that was kept last. -/
theorem run_holds {active : Option Session} (held : Holds s.world.store active) {acts : List Act}
    (orderly : s.Orderly acts) {earlier later : List (Turn γ σ)} {t : Turn γ σ}
    (split : s.run acts = earlier ++ t :: later) :
    Holds t.before.world.store ((earlier.flatMap Turn.kept).getLast?.or active) := by
  refine run_past (I := fun past s => Holds s.world.store ((past.flatMap Turn.kept).getLast?.or active))
    (P := Turn.Orderly) ?_ [] (by simpa using held) orderly split
  intro past s act held inOrder
  have next := (turn_ends inOrder).holds held
  rw [← Option.or_assoc,← List.getLast?_append] at next
  simpa using next

omit [LawfulStore σ] in
/-- A launched sign-in is without a user: its store holds no session, or that of a guest. -/
theorem launched_guest [LawfulStore σ] {config : SignInRequest} {h : Handoff}
    (launched : (s.turn (.start config)).reply = .launched h) :
    ∃ active, Holds (s.turn (.start config)).after.world.store active ∧ ∀ session ∈ active, session.isGuest = true := by
  obtain ⟨result,w',begins,-,opens⟩ := s.still.start_does config
  obtain ⟨rfl,after⟩ := opens h launched
  cases begins with
  | @launched active st answer guest =>
    refine ⟨active,?_,guest⟩
    have world : (s.turn (.start config)).after = _ := after
    rw [world]
    exact LawfulStore.holds_read answer

end Scene

end PhoneSignIn.Flow
