import PhoneSignIn.Flow.Host
import PhoneSignIn.Gateway.Script
import PhoneSignIn.Proofs.Flow.Submission

/-!
Runs of the flow. A `Scene` is a world with all steps and failure screens that hosts have opened in it
and with the transition received last. An `Act` is one thing that a host or a user does, on any step,
screen or receiver; `Scene.does` does it, and a `Turn` keeps what was before, what was answered and what
is after. `Scene.run` is the turns of a list of acts.
-/
namespace PhoneSignIn.Flow

variable {γ σ : Type}

/-- A step that has been opened, with the handoff it opened from. -/
structure Opened where
  handoff : Handoff
  step : OpenStep
deriving DecidableEq, Repr

structure Scene (γ σ : Type) where
  world : World γ σ
  /-- All steps, in the order of their opening. -/
  steps : List Opened := []
  /-- All failure screens, in the order of their opening. -/
  screens : List FailureScreen := []
  /-- The last transition that was not to stay. -/
  received : Move := .stay

inductive Act where
  | start (config : SignInRequest)
  | openStep (step : Step) (handoff : Handoff)
  | submit (i : Nat) (input : String)
  /-- The code step's own way to have the code sent again. -/
  | resend (i : Nat)
  /-- The phone step's own way to have the code sent again. -/
  | phoneResend (i : Nat)
  | chooseCountry (i : Nat) (countryCode : UInt32)
  | edited (i : Nat)
  | clearError (i : Nat)
  | resume (i : Nat)
  | openFailure (failure : FailureHandoff)
  | resumeFailure (i : Nat)
  | dismiss (i : Nat)
  | restart (i : Nat)
  | handIn (id : ReceiverId) (code : Int32) (data : LoginResult)
  | reportSuccess (id : ReceiverId) (phoneNumber : String)
  | reportFailure (id : ReceiverId) (reason : CallError)
  | withdraw (id : ReceiverId)
  /-- From now on these hosts are there. -/
  | hosts (present : Option HostId) (others : List HostId)
  | activeSession
  | verify (session : Session)
  | signOut
deriving DecidableEq, Repr

/-- The step that an act is done on. -/
def Act.step? : Act → Option Nat
  | .submit i _ | .resend i | .phoneResend i | .chooseCountry i _ | .edited i | .clearError i | .resume i => some i
  | _ => none

/-! ### What an act does -/

namespace Scene

/-- Do an operation of the flow. -/
def perform {α : Type} (s : Scene γ σ) (act : Operation γ σ α) : α × Scene γ σ :=
  ((act.run s.world).1,{ s with world := (act.run s.world).2 })

/-- Remember the last transition. -/
def follow (s : Scene γ σ) : Move → Scene γ σ
  | .stay => s
  | move => { s with received := move }

/-- Change a step. -/
def setStep (s : Scene γ σ) (i : Nat) (step : OpenStep) : Scene γ σ :=
  { s with steps := s.steps.modify i fun o => { o with step } }

/-- Do something with a step. -/
def onStep (s : Scene γ σ) (i : Nat) (act : OpenStep → Reply × Scene γ σ) : Reply × Scene γ σ :=
  match s.steps[i]? with
  | some o => act o.step
  | none => (.refused .noController,s)

/-- Do something with a phone step. -/
def onPhone (s : Scene γ σ) (i : Nat) (act : PhoneStep → Operation γ σ PhoneStep) : Reply × Scene γ σ :=
  s.onStep i fun
    | .phone p =>
      let (p,s) := s.perform (act p)
      (.nothing,s.setStep i (.phone p))
    | _ => (.refused .notPhone,s)

/-- Do something with a failure screen. -/
def onScreen (s : Scene γ σ) (i : Nat) (act : FailureScreen → Reply × Scene γ σ) : Reply × Scene γ σ :=
  match s.screens[i]? with
  | some f => act f
  | none => (.refused .noFailure,s)

/-- Begin a sign-in. -/
def start [SessionStore σ] (s : Scene γ σ) (config : SignInRequest) : Reply × Scene γ σ :=
  match s.perform (startSignIn config) with
  | (.error e,s) => (.openingError e,s)
  | (.ok (.signedIn session),s) => (.already session,s)
  | (.ok (.launch h),s) => (.launched h,s.follow (.next .phoneNumber h))

/-- Open a step. -/
def openStep (s : Scene γ σ) (step : Step) (handoff : Handoff) : Reply × Scene γ σ :=
  match OpenStep.openFrom s.world.settings step handoff with
  | .ok o => (.opened o.step,{ s with steps := s.steps ++ [{ handoff, step := o }] })
  | .error e => (.openingError e,s)

/-- Do what an act says. -/
def does [Gateway γ] [SessionStore σ] (s : Scene γ σ) : Act → Reply × Scene γ σ
  | .start config => s.start config
  | .openStep step handoff => s.openStep step handoff
  | .submit i input => s.onStep i fun o =>
    let ((move,o),s) := s.perform (o.submit input)
    (.moved move,(s.setStep i o).follow move)
  | .resend i => s.onStep i fun o =>
    match s.perform o.resend with
    | ((some move,o),s) => (.moved move,(s.setStep i o).follow move)
    | ((none,o),s) => (.nothing,s.setStep i o)
  | .phoneResend i => s.onPhone i fun p => return p.resend
  | .chooseCountry i countryCode => s.onPhone i (·.chooseCountry countryCode)
  | .edited i => s.onStep i fun o => (.nothing,s.setStep i o.edited)
  | .clearError i => s.onStep i fun o => (.nothing,s.setStep i o.clearError)
  | .resume i => s.onStep i fun o => (.nothing,(s.perform o.resume).2)
  | .openFailure failure => (.reason failure.reason,{ s with screens := s.screens ++ [{ failure }] })
  | .resumeFailure i => s.onScreen i fun f => (.nothing,(s.perform f.resume).2)
  | .dismiss i => s.onScreen i fun f => (.nothing,(s.perform f.dismiss).2)
  | .restart i => s.onScreen i fun f =>
    let (h,s) := s.perform f.restart
    (.launched h,s.follow (.next .phoneNumber h))
  | .handIn id code data => (.nothing,(s.perform (Flow.handIn id code data)).2)
  | .reportSuccess id phoneNumber => (.nothing,(s.perform (Flow.reportSuccess id phoneNumber)).2)
  | .reportFailure id reason => (.nothing,(s.perform (Flow.reportFailure id reason)).2)
  | .withdraw id => (.nothing,(s.perform (Flow.withdraw id)).2)
  | .hosts present others => (.nothing,{ s with world.host := present, world.others := others })
  | .activeSession =>
    match s.perform readSession with
    | (.ok session,s) => (.session session,s)
    | (.error e,s) => (.storageError e,s)
  | .verify session =>
    let (session,s) := s.perform (refreshSession session)
    (.session session,s)
  | .signOut =>
    match s.perform Flow.signOut with
    | (.ok (),s) => (.done,s)
    | (.error e,s) => (.storageError e,s)

end Scene

/-- The scene of a script, with one host and no session. -/
def Scene.scripted (gateway : GatewayScript) : Scene GatewayScript MemoryStore :=
  { world := { gateway, store := {}, host := some 1 } }

/-- A user who enters a phone number and the code that is sent to it. -/
def Act.logIn : List Act :=
  [.start ⟨1,"",false⟩,.openStep .phoneNumber { receiver := some 0, phoneNumber := some "" },.submit 0 "5",
    .openStep .loginCode
      { receiver := some 0, phoneNumber := some "+15", requestId := some "r", userId := some 7 },.submit 1 "9"]

/-! ### Turns and runs -/

/-- One act in a scene, with what was answered. -/
structure Turn (γ σ : Type) where
  before : Scene γ σ
  act : Act
  reply : Reply
  after : Scene γ σ

namespace Scene

/-- The scene with nothing told of what has happened. -/
def still (s : Scene γ σ) : Scene γ σ := { s with world.history := [] }

/-- Do an act, and keep what comes of it. -/
def turn [Gateway γ] [SessionStore σ] (s : Scene γ σ) (act : Act) : Turn γ σ :=
  { before := s, act, reply := (s.still.does act).1, after := (s.still.does act).2 }

/-- The turns of a list of acts. -/
def run [Gateway γ] [SessionStore σ] (s : Scene γ σ) : List Act → List (Turn γ σ)
  | [] => []
  | act :: acts => s.turn act :: (s.turn act).after.run acts

end Scene

namespace Turn

/-- What happened during a turn. -/
def happened (t : Turn γ σ) : List Occurrence := t.after.world.history

/-- The receiver that is carried by what a turn's act is done on. -/
def carrier? (t : Turn γ σ) : Option ReceiverId :=
  match t.act with
  | .submit i _ | .resend i | .phoneResend i | .chooseCountry i _ | .edited i | .clearError i | .resume i =>
    t.before.steps[i]?.map (·.step.core.receiver)
  | .resumeFailure i | .dismiss i | .restart i => t.before.screens[i]?.map (·.failure.receiver)
  | .handIn id .. | .reportSuccess id _ | .reportFailure id _ | .withdraw id => some id
  | .start _ | .openStep .. | .openFailure _ | .hosts .. | .activeSession | .verify _ | .signOut => none

end Turn

/-- Whether a turn of one kind has been, and none of another since. -/
def Since (P Q : Turn γ σ → Prop) (past : List (Turn γ σ)) : Prop :=
  ∃ a e b, past = a ++ e :: b ∧ P e ∧ ∀ t ∈ b, ¬ Q t

theorem since_append {P Q : Turn γ σ → Prop} {past : List (Turn γ σ)} {t : Turn γ σ} :
    Since P Q (past ++ [t]) ↔ P t ∨ Since P Q past ∧ ¬ Q t := by
  constructor
  · rintro ⟨a,e,b,split,one,none⟩
    rcases List.eq_nil_or_concat b with rfl | ⟨b,last,rfl⟩
    · obtain ⟨-,same⟩ := List.append_inj' split rfl
      cases same
      exact .inl one
    · rw [List.concat_eq_append] at split none
      rw [← List.cons_append,← List.append_assoc] at split
      obtain ⟨before,same⟩ := List.append_inj' split rfl
      cases same
      obtain ⟨earlier,now⟩ := List.forall_mem_append.mp none
      exact .inr ⟨⟨a,e,b,before,one,earlier⟩,now t (.head _)⟩
  · rintro (one | ⟨⟨a,e,b,rfl,one,earlier⟩,now⟩)
    · exact ⟨past,t,[],rfl,one,by simp⟩
    · exact ⟨a,e,b ++ [t],by simp,one,List.forall_mem_append.mpr ⟨earlier,List.forall_mem_singleton.mpr now⟩⟩

/-! ### Runs -/

namespace Scene
variable [Gateway γ] [SessionStore σ]

/-- What every turn of a kind keeps, of the turns so far and the scene, holds of what was before each turn of a run
    of that kind. -/
theorem run_past {I : List (Turn γ σ) → Scene γ σ → Prop} {P : Turn γ σ → Prop}
    (keeps : ∀ past s act, I past s → P (s.turn act) → I (past ++ [s.turn act]) (s.turn act).after)
    (past : List (Turn γ σ)) {s : Scene γ σ} (begins : I past s) {acts : List Act} (all : ∀ t ∈ s.run acts, P t)
    {earlier later : List (Turn γ σ)} {t : Turn γ σ} (split : s.run acts = earlier ++ t :: later) :
    I (past ++ earlier) t.before := by
  induction earlier generalizing past s acts with
  | nil =>
    cases acts with
    | nil => cases split
    | cons act acts =>
      obtain ⟨rfl,-⟩ := List.cons.inj split
      rw [List.append_nil]
      exact begins
  | cons e earlier ih =>
    cases acts with
    | nil => cases split
    | cons act acts =>
      obtain ⟨rfl,rest⟩ := List.cons.inj split
      have first : P (s.turn act) := all _ List.mem_cons_self
      have next := ih _ (keeps past s act begins first) (fun t member => all t (List.mem_cons_of_mem _ member)) rest
      simpa using next

/-- What every turn keeps, of the turns so far and the scene, holds before each turn of a run. -/
theorem run_always {I : List (Turn γ σ) → Scene γ σ → Prop}
    (keeps : ∀ past s act, I past s → I (past ++ [s.turn act]) (s.turn act).after) {s : Scene γ σ} (begins : I [] s)
    {acts : List Act} {earlier later : List (Turn γ σ)} {t : Turn γ σ} (split : s.run acts = earlier ++ t :: later) :
    I earlier t.before :=
  run_past (P := fun _ => True) (fun past s act kept _ => keeps past s act kept) [] begins (fun _ _ => trivial) split

/-- What every turn of a kind keeps holds before each turn of a run of that kind. -/
theorem run_before {I : Scene γ σ → Prop} {P : Turn γ σ → Prop}
    (keeps : ∀ s act, I s → P (s.turn act) → I (s.turn act).after) {s : Scene γ σ} (begins : I s) {acts : List Act}
    (all : ∀ t ∈ s.run acts, P t) {t : Turn γ σ} (member : t ∈ s.run acts) : I t.before := by
  obtain ⟨earlier,later,split⟩ := List.append_of_mem member
  exact run_past (I := fun _ s => I s) (fun _ s act => keeps s act) [] begins all split

/-- Each turn of a run is the turn of its act. -/
theorem run_turn {s : Scene γ σ} {acts : List Act} {t : Turn γ σ} (member : t ∈ s.run acts) :
    t = t.before.turn t.act := by
  induction acts generalizing s with
  | nil => cases member
  | cons act acts ih =>
    rcases List.mem_cons.mp member with rfl | later
    · rfl
    · exact ih later

/-- In a run nothing is done but its acts. -/
theorem run_act {s : Scene γ σ} {acts : List Act} {t : Turn γ σ} (member : t ∈ s.run acts) : t.act ∈ acts := by
  induction acts generalizing s with
  | nil => cases member
  | cons act acts ih =>
    rcases List.mem_cons.mp member with rfl | later
    · exact List.mem_cons_self
    · exact List.mem_cons_of_mem _ (ih later)

/-- What comes after a turn of a run is a run of the scene that the turn left. -/
theorem run_after {s : Scene γ σ} {acts : List Act} {before later : List (Turn γ σ)} {e : Turn γ σ}
    (split : s.run acts = before ++ e :: later) : ∃ rest, e.after.run rest = later := by
  induction before generalizing s acts with
  | nil =>
    cases acts with
    | nil => cases split
    | cons act acts =>
      obtain ⟨rfl,rest⟩ := List.cons.inj split
      exact ⟨acts,rest⟩
  | cons b before ih =>
    cases acts with
    | nil => cases split
    | cons act acts => exact ih (List.cons.inj split).2

end Scene

end PhoneSignIn.Flow
