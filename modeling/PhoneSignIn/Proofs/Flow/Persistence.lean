import PhoneSignIn.Proofs.Flow.Turn
import PhoneSignIn.Proofs.Store.Lawful

/-!
A session is kept before anyone is told of it. `Writes` is all that a submit makes of the store: one
write at most, of a session whose `Source` is an answer of the service or the active session; after a
write that the store refuses the step gives up. Over a lawful store whoever is told of a success is told
of the session that the store holds (`success_held`), and `persisted_before_told` puts the two together
for all runs.
-/
namespace PhoneSignIn

/-- The credentials that are granted to a user. -/
structure Grant where
  authToken : AuthToken
  userId : Int64
deriving DecidableEq, Repr

/-- What a session grants. -/
def Session.grant (s : Session) : Grant := ⟨s.authToken,s.id⟩

theorem Session.ofRecord_grant (r : SessionRecord) : (ofRecord r).grant = ⟨r.authToken,r.id⟩ := by
  rw [ofRecord]
  split
  · rename_i guest
    simp [Session.grant,Session.guest,guest]
  · rfl

theorem Session.ofCredentials_grant (c : Credentials) (phoneNumber : String) :
    (ofCredentials c phoneNumber).grant = ⟨⟨c.token.getD "",c.secret.getD ""⟩,c.userId⟩ := ofRecord_grant _
theorem Session.ofAccount_grant (a : Account) : (ofAccount a).grant = ⟨a.authToken,a.userId⟩ := ofRecord_grant _

end PhoneSignIn

namespace PhoneSignIn.Flow

variable {γ σ : Type}

/-! ### Where a session comes from -/

/-- What an answer of the service grants. -/
def Occurrence.grant? : Occurrence → Option Grant
  | .asked (.createAccount ..) (.ok c) | .asked (.verifyCode ..) (.ok c) | .asked (.verifyPin ..) (.ok c) =>
    some ⟨⟨c.token.getD "",c.secret.getD ""⟩,c.userId⟩
  | .asked (.verifyAccount _) (.ok a) => some ⟨a.authToken,a.userId⟩
  | _ => none

/-- Where the session comes from that a step makes the active one: it has what the last answer granted,
    or it is the active session of a user, as the store answers it. -/
inductive Source [SessionStore σ] (st : σ) (l : List Occurrence) (session : Session) : Prop where
  | granted (last : (l.filterMap Occurrence.grant?).getLast? = some session.grant)
  | active (nothing : l.filterMap Occurrence.grant? = []) (answer : (SessionStore.read st).1 = .ok (some session))
    (user : session.isGuest = false)

/-- The session that the last thing of a submit makes the active one, and the phone number it hands over. -/
def Finale.keeps? : Finale → Option (Session × String)
  | .requestEmail session phoneNumber | .signIn session phoneNumber => some (session,phoneNumber)
  | .report _ | .handOver .. => none

/-- The phone number that a step was opened with; the phone step has none. -/
def OpenStep.phoneNumber? : OpenStep → Option String
  | .phone _ => none
  | .loginCode s => some s.phoneNumber
  | .confirmationCode s => some s.phoneNumber
  | .pinCode s => some s.phoneNumber
  | .email s => some s.phoneNumber

/-- A user with a new session goes on with that session, or with the one of the account. -/
theorem SignsIn.keeps {session kept : Session} {phoneNumber n : String} {wantsEmail : Bool} {l : List Occurrence}
    {fin : Finale} (goesOn : SignsIn session phoneNumber wantsEmail l fin) (keeps : fin.keeps? = some (kept,n)) :
    n = phoneNumber ∧ ((session.grant :: l.filterMap Occurrence.grant?).getLast? = some kept.grant) := by
  cases goesOn with
  | direct =>
    cases keeps
    exact ⟨rfl,rfl⟩
  | accountRefused => cases keeps
  | addressMissing a missing =>
    cases keeps
    rw [Session.ofAccount_grant]
    exact ⟨rfl,rfl⟩
  | addressKnown a known =>
    cases keeps
    rw [Session.ofAccount_grant]
    exact ⟨rfl,rfl⟩

/-- What a course makes the active session comes from a source, and the number that it hands over is the
    one that the step was opened with. -/
theorem Course.keeps_source [SessionStore σ] {text : String} {st st' : σ} {s s' : OpenStep} {l : List Occurrence}
    {fin : Finale} {kept : Session} {n : String} (course : Course text st s s' l st' fin)
    (keeps : fin.keeps? = some (kept,n)) : Source st l kept ∧ s.phoneNumber? = some n := by
  cases course with
  | phone sends => cases sends <;> cases keeps
  | @loginCode s _ _ checks =>
    cases checks with
    | refused => cases keeps
    | pinWanted => cases keeps
    | taken c full goesOn =>
      obtain ⟨rfl,last⟩ := goesOn.keeps keeps
      rw [Session.ofCredentials_grant] at last
      exact ⟨.granted last,rfl⟩
  | @confirmationCode s _ _ checks =>
    cases checks with
    | refused => cases keeps
    | addressWanted c =>
      cases keeps
      exact ⟨.granted (by rw [Session.ofCredentials_grant]; rfl),rfl⟩
    | taken c =>
      cases keeps
      exact ⟨.granted (by rw [Session.ofCredentials_grant]; rfl),rfl⟩
  | @pinCode s _ _ checks =>
    cases checks with
    | refused => cases keeps
    | taken c goesOn =>
      obtain ⟨rfl,last⟩ := goesOn.keeps keeps
      rw [Session.ofCredentials_grant] at last
      exact ⟨.granted last,rfl⟩
  | @email s _ _ _ attaches =>
    cases attaches with
    | unreadable => cases keeps
    | noUser => cases keeps
    | refused => cases keeps
    | taken answer user c =>
      cases keeps
      exact ⟨.active rfl (congrArg Prod.fst answer) user,rfl⟩

/-- A course only reads the store. -/
theorem Course.store [SessionStore σ] {text : String} {st st' : σ} {s s' : OpenStep} {l : List Occurrence}
    {fin : Finale} (course : Course text st s s' l st' fin) : st' = st ∨ st' = (SessionStore.read st).2 := by
  cases course with
  | phone => exact .inl rfl
  | loginCode => exact .inl rfl
  | confirmationCode => exact .inl rfl
  | pinCode => exact .inl rfl
  | email attaches =>
    cases attaches with
    | unreadable answer => exact .inr (congrArg Prod.snd answer).symm
    | noUser answer => exact .inr (congrArg Prod.snd answer).symm
    | refused answer => exact .inr (congrArg Prod.snd answer).symm
    | taken answer => exact .inr (congrArg Prod.snd answer).symm

/-! ### What a submit writes -/

/-- All that a submit makes of the store. A submit that signs the user in, or asks for an address, has
    written one session, which the store has kept; one that could not write gives up. -/
inductive Writes [SessionStore σ] (s : OpenStep) (w : World γ σ) : Move → World γ σ → Prop where
  | nothing {m l g st} (plain : ∀ o ∈ l, o.Plain) (reads : st = w.store ∨ st = (SessionStore.read w.store).2)
    (unsigned : m ≠ .signedIn) : Writes s w m (w.advance g st l)
  | refused {session e l l' g st st'} (plain : ∀ o ∈ l, o.Plain) (plain' : ∀ o ∈ l', o.Plain)
    (reads : st = w.store ∨ st = (SessionStore.read w.store).2)
    (refused : SessionStore.write session st = (.error e,st')) :
    Writes s w (.gaveUp { receiver := s.core.receiver, reason := .ofStorage e })
      (w.advance g st' (l ++ .wrote session (.error e) :: l'))
  | emailRequested {session n l g st st'} (plain : ∀ o ∈ l, o.Plain) (source : Source w.store l session)
    (kept : SessionStore.write session st = (.ok (),st')) :
    Writes s w (.next .email { receiver := s.core.receiver, phoneNumber := n, wantsEmail := true })
      (w.advance g st' (l ++ [.wrote session (.ok ())]))
  | signedIn {session n l g st st' w'} (plain : ∀ o ∈ l, o.Plain) (source : Source w.store l session)
    (number : s.phoneNumber? = some n) (kept : SessionStore.write session st = (.ok (),st'))
    (arrives : Arrives (w.advance g st' (l ++ [.wrote session (.ok ())])) s.core.receiver successCode
      { phoneNumber := n } w') : Writes s w .signedIn w'

theorem Submits.writes [SessionStore σ] {s s' : OpenStep} {input : String} {w w' : World γ σ} {m : Move}
    (submits : Submits s input w m s' w') : Writes s w m w' := by
  cases submits with
  | ignored =>
    have nothing : Writes s w .stay (w.advance w.gateway w.store []) :=
      .nothing (List.forall_mem_nil _) (.inl rfl) (by simp)
    rwa [World.advance_nothing] at nothing
  | @went s' l g st fin m c' w' accepted course ends =>
    have receiver := course.keeps.receiver
    cases ends with
    | @reported e m c' l' answer =>
      rw [World.advance_advance]
      refine .nothing ?_ course.store (by cases answer <;> simp)
      intro o member
      rcases List.mem_append.mp member with before | after
      · exact course.plain o before
      · exact answer.plain o after
    | handedOver => exact .nothing course.plain course.store (by simp)
    | unkept keeps refused answer =>
      cases answer with
      | told mild => cases mild
      | gaveUp severe =>
        rw [World.advance_advance,receiver]
        exact .refused course.plain (by simpa using .recorded (Step.component_ne _)) course.store refused
    | emailRequested kept =>
      rw [World.advance_advance,receiver]
      exact .emailRequested course.plain (course.keeps_source rfl).1 kept
    | @signedIn session n st' kept =>
      have keeps : (Finale.signIn session n).keeps? = some (session,n) := rfl
      obtain ⟨source,number⟩ := course.keeps_source keeps
      have arrives := handIn_arrives s'.core.receiver successCode { phoneNumber := n }
        ((w.advance g st l).advance g st' [.wrote session (.ok ())])
      rw [World.advance_advance,receiver] at arrives
      rw [World.advance_advance,receiver]
      exact .signedIn course.plain source number kept arrives

/-! ### Over a lawful store -/

/-- What happens silently is no outcome. -/
theorem told_of_silent {w w' : World γ σ} (silent : w.Silent w') (empty : w.history = []) :
    ∀ o ∈ w'.history, o.outcome? = none := by
  obtain ⟨l,g,st,quiet,rfl⟩ := silent
  intro o member
  rw [World.advance_history,empty,List.nil_append] at member
  exact (quiet o member).1

section
variable [SessionStore σ] [LawfulStore σ]

/-- Who is told of a success that is handed in is told of the session that the store holds. -/
theorem Arrives.success_held {w w' : World γ σ} {id : ReceiverId} {code : Int32} {data : LoginResult}
    (arrives : Arrives w id code data w') {host : HostId} {session : Session} {n : String}
    (new : .delivered (.success host session n) ∉ w.history)
    (told : .delivered (.success host session n) ∈ w'.history) :
    Holds w'.store (some session) ∧ n = data.phoneNumber := by
  cases arrives with
  | @success r =>
    rw [World.advance_history,World.used_history,List.mem_append,List.mem_cons] at told
    rcases told with before | read | telling
    · exact absurd before new
    · cases read
    · have same := World.mem_telling telling
      cases answer : SessionStore.read w.store with
      | mk result st =>
        rw [answer] at same
        rcases result with e | _ | active
        · cases same
        · cases same
        · cases same
          exact ⟨by simpa [answer] using LawfulStore.holds_read answer,rfl⟩
  | failure =>
    rw [World.advance_history,World.used_history,List.mem_append] at told
    rcases told with before | telling
    · exact absurd before new
    · cases World.mem_telling telling
  | dropped => exact absurd told new
  | meaningless => exact absurd told new

/-- Who is told of a success is told of the session that the store holds then. -/
theorem success_held [Gateway γ] {s : Scene γ σ} {act : Act} {reply : Reply} {w' : World γ σ}
    (empty : s.world.history = []) (makes : s.Makes act reply w') {host : HostId} {session : Session} {n : String}
    (told : .delivered (.success host session n) ∈ w'.history) : Holds w'.store (some session) := by
  have unsaid (silent : s.world.Silent w') : False := by
    cases told_of_silent silent empty _ told
  have unheard {w : World γ σ} (silent : s.world.Silent w) : .delivered (.success host session n) ∉ w.history := by
    intro member
    cases told_of_silent silent empty _ member
  have nothing : s.world.Silent s.world := (World.Records.nothing _).silent
  cases makes with
  | recorded quiet records => exact (unsaid records.silent).elim
  | began begins =>
    cases begins with
    | unreadable => simp [empty] at told
    | @already active st answer =>
      rw [World.advance_history,empty,List.nil_append,List.mem_append] at told
      rcases told with before | telling
      · simp at before
      · cases World.mem_telling telling
        exact LawfulStore.holds_read answer
    | launched => simp [World.joined,empty] at told
  | submitted found submits =>
    rcases submits.silent_or_signedIn with ⟨-,silent⟩ | ⟨-,w'',data,silent,arrives⟩
    · exact (unsaid silent).elim
    · exact (arrives.success_held (unheard silent) told).1
  | unsubmitted => exact (unsaid nothing).elim
  | dismissed found clicked arrives => exact (arrives.success_held (unheard clicked.silent) told).1
  | undismissed => exact (unsaid nothing).elim
  | handedIn hands arrives => exact (arrives.success_held (unheard nothing) told).1
  | withdrawn => exact (unheard nothing told).elim
  | hosted => exact (unheard nothing told).elim
  | read => exact (unsaid (readSession_silent _)).elim
  | verified => exact (unsaid (refreshSession_silent _ _)).elim
  | cleared => simp [clearSession_run,empty] at told

/-- A submit that signs the user in has written one session, which the store holds from then on, and
    tells of that session only, with the phone number that the step was opened with. -/
theorem Writes.signedIn_held {s : OpenStep} {w w' : World γ σ} (writes : Writes s w .signedIn w') :
    ∃ session n l told, s.phoneNumber? = some n ∧ Source w.store l session ∧
      w'.history = w.history ++ (l ++ .wrote session (.ok ()) :: told) ∧ (∀ o ∈ l, o.Plain) ∧
      (∀ o ∈ told, o.write? = none ∧ o.grant? = none) ∧ Holds w'.store (some session) ∧
      ∀ d ∈ told.filterMap Occurrence.outcome?, ∃ host, d = .success host session n := by
  cases writes with
  | nothing _ _ unsigned => exact absurd rfl unsigned
  | @signedIn session n l g st st' _ plain source number kept arrives =>
    have held : Holds st' (some session) := LawfulStore.holds_written kept
    refine ⟨session,n,l,?_⟩
    cases arrives with
    | @success r =>
      -- The store answers with the session that it has just kept.
      have answer : SessionStore.read st' = (.ok (some session),st') := held
      refine ⟨.read (.ok (some session)) :: w.telling r.callback (.success r.callback.host session n),number,source,
        ?_,plain,?_,?_,?_⟩
      · simp only [World.advance_history,World.used_history,World.advance_store,answer,List.append_assoc,
          List.singleton_append]
        rfl
      · intro o member
        rcases List.mem_cons.mp member with rfl | telling
        · exact ⟨rfl,rfl⟩
        · rcases World.telling_cases telling with rfl | rfl
          · exact ⟨rfl,rfl⟩
          · exact ⟨rfl,rfl⟩
      · simp only [World.advance_store,answer]
        exact held
      · intro d member
        rw [List.filterMap_cons_none rfl,World.telling_outcomes rfl] at member
        split at member
        · exact ⟨_,List.mem_singleton.mp member⟩
        · cases member
    | failure failed => cases failed
    | dropped =>
      exact ⟨[],number,source,by simp,plain,by simp,held,by simp⟩
    | meaningless noSuccess => exact absurd rfl noSuccess

/-- A submit whose session the store refuses gives up; it tells no one and uses no receiver up. -/
theorem Writes.refused_gaveUp {s : OpenStep} {w w' : World γ σ} {m : Move} (writes : Writes s w m w')
    (empty : w.history = []) {session : Session} {e : StorageError} (failed : .wrote session (.error e) ∈ w'.history) :
    m = .gaveUp { receiver := s.core.receiver, reason := .ofStorage e } ∧ w'.receivers = w.receivers ∧
      w'.history.filterMap Occurrence.outcome? = [] := by
  cases writes with
  | nothing plain =>
    rw [World.advance_history,empty,List.nil_append] at failed
    cases (plain _ failed).writes_none
  | refused plain plain' reads refused =>
    rw [World.advance_history,empty,List.nil_append,List.mem_append,List.mem_cons] at failed
    rcases failed with before | same | after
    · cases (plain _ before).writes_none
    · cases same
      refine ⟨rfl,rfl,List.filterMap_eq_nil_iff.mpr ?_⟩
      intro o member
      rw [World.advance_history,empty,List.nil_append,List.mem_append,List.mem_cons] at member
      rcases member with before | rfl | after
      · exact (plain o before).tells_none
      · rfl
      · exact (plain' o after).tells_none
    · cases (plain' _ after).writes_none
  | emailRequested plain =>
    rw [World.advance_history,empty,List.nil_append,List.mem_append,List.mem_singleton] at failed
    rcases failed with before | same
    · cases (plain _ before).writes_none
    · cases same
  | signedIn plain source number kept arrives =>
    obtain ⟨_,_,l,told,-,-,happened,plain,unwritten,-,-⟩ :=
      (Writes.signedIn plain source number kept arrives).signedIn_held
    rw [happened,empty,List.nil_append,List.mem_append,List.mem_cons] at failed
    rcases failed with before | same | after
    · cases (plain _ before).writes_none
    · cases same
    · cases (unwritten _ after).1

end

/-! ### The phone number that a step was opened with -/

/-- Whether a step has the phone number that it was opened with. -/
def Opened.Agrees (o : Opened) : Prop := ∀ n ∈ o.step.phoneNumber?, o.handoff.phoneNumber = some n

theorem OpenStep.Becomes.phoneNumber? {s s' : OpenStep} (becomes : s.Becomes s') :
    s'.phoneNumber? = s.phoneNumber? := by
  cases becomes with
  | phone => rfl
  | changed => cases s <;> rfl

theorem StepState.showTerms_new (c : StepState) (features : Option Features) :
    ∃ terms, c.showTerms features = { c with view := { c.view with terms } } := by
  rw [showTerms]
  split
  · exact ⟨.updated,rfl⟩
  · exact ⟨c.view.terms,rfl⟩

/-- How a step opens: what its handoff has, and the step then. -/
inductive OpenStep.OpensAs (settings : Settings) (h : Handoff) : Step → OpenStep → Prop where
  | phone {r p} (receiver : h.receiver = some r)
    (new : p =
      { core := .new settings .phoneNumber r, countryCode := settings.countryCode,
        suggested := h.phoneNumber.filter (· ≠ ""), wantsEmail := h.wantsEmail, voiceEnabled := h.voiceEnabled }) :
    OpensAs settings h .phoneNumber (.phone (if h.resend then p.askAgain else p))
  | loginCode {r n q u} (receiver : h.receiver = some r) (number : h.phoneNumber = some n)
    (request : h.requestId = some q) (user : h.userId = some u) :
    OpensAs settings h .loginCode (.loginCode
      { core := (StepState.new settings .loginCode r).showTerms h.features, phoneNumber := n, requestId := q, userId := u,
        wantsEmail := h.wantsEmail, features := h.features })
  | confirmationCode {r n} (receiver : h.receiver = some r) (number : h.phoneNumber = some n) :
    OpensAs settings h .confirmationCode (.confirmationCode
      { core := (StepState.new settings .confirmationCode r).showTerms h.features, phoneNumber := n,
        wantsEmail := h.wantsEmail, voiceEnabled := h.features.any (·.voiceEnabled) })
  | pinCode {r n q u} (receiver : h.receiver = some r) (number : h.phoneNumber = some n)
    (request : h.requestId = some q) (user : h.userId = some u) :
    OpensAs settings h .pinCode (.pinCode
      { core := .new settings .pinCode r, phoneNumber := n, requestId := q, userId := u, wantsEmail := h.wantsEmail })
  | email {r n} (receiver : h.receiver = some r) (number : h.phoneNumber = some n) :
    OpensAs settings h .email (.email { core := .new settings .email r, phoneNumber := n })

theorem OpenStep.openFrom_iff {settings : Settings} {kind : Step} {h : Handoff} {o : OpenStep} :
    OpenStep.openFrom settings kind h = .ok o ↔ OpensAs settings h kind o := by
  obtain ⟨receiver,phoneNumber,requestId,userId,features,wantsEmail,resend,voiceEnabled⟩ := h
  constructor
  · intro opens
    cases kind with
    | phoneNumber => cases receiver <;> cases opens; exact .phone rfl rfl
    | failure => cases receiver <;> cases opens
    | loginCode =>
      cases receiver <;> cases phoneNumber <;> cases requestId <;> cases userId <;> cases opens
      exact .loginCode rfl rfl rfl rfl
    | confirmationCode => cases receiver <;> cases phoneNumber <;> cases opens; exact .confirmationCode rfl rfl
    | pinCode =>
      cases receiver <;> cases phoneNumber <;> cases requestId <;> cases userId <;> cases opens
      exact .pinCode rfl rfl rfl rfl
    | email => cases receiver <;> cases phoneNumber <;> cases opens; exact .email rfl rfl
  · intro opens
    cases opens with
    | phone receiver new => cases receiver; cases new; rfl
    | loginCode receiver number request user => cases receiver; cases number; cases request; cases user; rfl
    | confirmationCode receiver number => cases receiver; cases number; rfl
    | pinCode receiver number request user => cases receiver; cases number; cases request; cases user; rfl
    | email receiver number => cases receiver; cases number; rfl

/-- A step opens as new. It shows how the next code is sent and what its handoff says of the terms, and nothing else. -/
theorem OpenStep.openFrom_new {settings : Settings} {kind : Step} {h : Handoff} {o : OpenStep}
    (opens : OpenStep.openFrom settings kind h = .ok o) : ∃ r button terms, h.receiver = some r ∧
      o.core = { StepState.new settings kind r with view := { button, terms } } := by
  cases openFrom_iff.mp opens with
  | @phone r p receiver new =>
    subst new
    split
    · obtain ⟨button,terms,asked⟩ := PhoneStep.askAgain_keeps _
      exact ⟨r,button,terms,receiver,by rw [asked]; rfl⟩
    · exact ⟨r,_,_,receiver,rfl⟩
  | @loginCode r _ _ _ receiver =>
    obtain ⟨terms,shown⟩ := StepState.showTerms_new (.new settings .loginCode r) h.features
    exact ⟨r,_,terms,receiver,shown⟩
  | @confirmationCode r _ receiver =>
    obtain ⟨terms,shown⟩ := StepState.showTerms_new (.new settings .confirmationCode r) h.features
    exact ⟨r,_,terms,receiver,shown⟩
  | pinCode receiver => exact ⟨_,_,_,receiver,rfl⟩
  | email receiver => exact ⟨_,_,_,receiver,rfl⟩

/-- A step takes its receiver from the handoff that it opens from, and every step but the phone step its
    number. -/
theorem OpenStep.openFrom_keeps {settings : Settings} {kind : Step} {h : Handoff} {o : OpenStep}
    (opens : OpenStep.openFrom settings kind h = .ok o) :
    h.receiver = some o.core.receiver ∧ ∀ n ∈ o.phoneNumber?, h.phoneNumber = some n := by
  constructor
  · obtain ⟨r,_,_,receiver,core⟩ := openFrom_new opens
    rw [core]
    exact receiver
  · intro n same
    cases openFrom_iff.mp opens with
    | phone => cases same
    | loginCode receiver number => exact number.trans same
    | confirmationCode receiver number => exact number.trans same
    | pinCode receiver number => exact number.trans same
    | email receiver number => exact number.trans same

theorem turn_agrees [Gateway γ] [SessionStore σ] {s : Scene γ σ} (agree : ∀ o ∈ s.steps, o.Agrees) (act : Act) :
    ∀ o ∈ (s.turn act).after.steps, o.Agrees := by
  intro x member
  rcases (s.still.does_changes act).member member with ⟨kind,-,valid⟩ | ⟨o,before,handoff,becomes⟩
  · exact (OpenStep.openFrom_keeps valid).2
  · intro n number
    rw [becomes.phoneNumber?] at number
    rw [handoff]
    exact agree o before n number

/-! ### All runs -/

/-- A submit is answered with a move, unless there is no step to be submitted. -/
theorem submit_writes [Gateway γ] [SessionStore σ] {s : Scene γ σ} {i : Nat} {input : String} {reply : Reply}
    {w' : World γ σ} (makes : s.Makes (.submit i input) reply w') :
    (reply = .refused .noController ∧ w' = s.world) ∨
      ∃ o m, s.steps[i]? = some o ∧ reply = .moved m ∧ Writes o.step s.world m w' := by
  cases makes with
  | recorded quiet => cases quiet
  | submitted found submits => exact .inr ⟨_,_,found,rfl,submits.writes⟩
  | unsubmitted => exact .inl ⟨rfl,rfl⟩
  | handedIn hands => cases hands

section
variable [Gateway γ] [SessionStore σ] [LawfulStore σ]

/-- Nothing that is done on a step tells a host of a failure. -/
theorem step_tells_no_failure {s : Scene γ σ} {act : Act} {reply : Reply} {w' : World γ σ} {i : Nat}
    (onStep : act.step? = some i) (empty : s.world.history = []) (makes : s.Makes act reply w') (host : HostId)
    (message : String) : .delivered (.failure host message) ∉ w'.history := by
  intro told
  have unsaid (silent : s.world.Silent w') : False := by
    cases told_of_silent silent empty _ told
  cases makes with
  | recorded quiet records => exact unsaid records.silent
  | submitted found submits =>
    rcases submits.silent_or_signedIn with ⟨-,silent⟩ | ⟨rfl,-⟩
    · exact unsaid silent
    · obtain ⟨session,n,l,told',-,-,happened,plain,-,-,successes⟩ := submits.writes.signedIn_held
      rw [happened,empty,List.nil_append,List.mem_append,List.mem_cons] at told
      rcases told with before | same | after
      · cases (plain _ before).tells_none
      · cases same
      · obtain ⟨_,success⟩ := successes _ (List.mem_filterMap.mpr ⟨_,after,rfl⟩)
        cases success
  | unsubmitted => exact unsaid (World.Records.nothing _).silent
  | handedIn hands => cases act <;> simp_all [Act.step?,Act.hands?]
  | _ => cases onStep

/-- Over a lawful store a session is kept before anyone is told of it: in every run that begins with no
    step open, who is told of a success is told of the session that the store holds then. A submit that
    signs the user in has written one session, before it tells of it with the phone number that its step
    was opened with; a submit whose session the store refuses gives up, tells no one and uses no receiver
    up; and no step tells of a failure. -/
theorem persisted_before_told {scene : Scene γ σ} (fresh : scene.steps = []) {acts : List Act} {t : Turn γ σ}
    (member : t ∈ scene.run acts) :
    (∀ host session n, .delivered (.success host session n) ∈ t.happened → Holds t.after.world.store (some session)) ∧
    (∀ i input, t.act = .submit i input → t.reply = .moved .signedIn →
      ∃ o session n l told, t.before.steps[i]? = some o ∧ o.handoff.phoneNumber = some n ∧
        t.happened = l ++ .wrote session (.ok ()) :: told ∧ (∀ x ∈ l, x.write? = none ∧ x.outcome? = none) ∧
        (∀ x ∈ told, x.write? = none) ∧ Holds t.after.world.store (some session) ∧
        ∀ d ∈ told.filterMap Occurrence.outcome?, ∃ host, d = .success host session n) ∧
    (∀ i input session e, t.act = .submit i input → .wrote session (.error e) ∈ t.happened →
      ∃ o, t.before.steps[i]? = some o ∧
        t.reply = .moved (.gaveUp { receiver := o.step.core.receiver, reason := .ofStorage e }) ∧
        (CallError.ofStorage e).isFatal = true ∧ t.after.world.receivers = t.before.world.receivers ∧
        t.happened.filterMap Occurrence.outcome? = []) ∧
    (∀ i host message, t.act.step? = some i → .delivered (.failure host message) ∉ t.happened) := by
  have agree : ∀ o ∈ t.before.steps, o.Agrees := by
    refine Scene.run_before (I := fun s => ∀ o ∈ s.steps, o.Agrees) (P := fun _ => True)
      (fun s act agree _ => turn_agrees agree act) ?_ (fun _ _ => trivial) member
    simp [fresh]
  obtain turn := Scene.run_turn member
  have makes : t.before.still.Makes t.act t.reply t.after.world := by
    rw [turn]
    exact t.before.still.does_makes t.act
  refine ⟨?_,?_,?_,?_⟩
  · intro host session n told
    exact success_held rfl makes told
  · intro i input act signedIn
    rw [act,signedIn] at makes
    rcases submit_writes makes with ⟨refused,-⟩ | ⟨o,m,found,moved,writes⟩
    · cases refused
    · cases moved
      obtain ⟨session,n,l,told,number,-,happened,plain,unwritten,held,successes⟩ := writes.signedIn_held
      exact ⟨o,session,n,l,told,found,agree o (List.mem_of_getElem? found) n number,happened,
        fun x before => ⟨(plain x before).writes_none,(plain x before).tells_none⟩,fun x after => (unwritten x after).1,
        held,successes⟩
  · intro i input session e act failed
    rw [act] at makes
    rcases submit_writes makes with ⟨-,same⟩ | ⟨o,m,found,moved,writes⟩
    · rw [Turn.happened,same] at failed
      cases failed
    · obtain ⟨gaveUp,receivers,silent⟩ := writes.refused_gaveUp rfl failed
      exact ⟨o,found,by rw [moved,gaveUp],rfl,receivers,silent⟩
  · intro i host message onStep
    exact step_tells_no_failure onStep rfl makes host message

end

/-- A code that is answered with credentials: the last turn of the login tells of the session that the
    store holds, with the number that the code was sent to. -/
theorem login_persisted_before_told :
    let session := Session.ofCredentials { token := some "t", secret := some "s", userId := 7 } "+15"
    ∃ t ∈ (Scene.scripted
        { authenticateDevice := [.ok { requestId := "r", userId := 7 }]
          verifyCode := [.ok { token := some "t", secret := some "s", userId := 7 }] }).run Act.logIn,
      t.reply = .moved .signedIn ∧ t.happened.filterMap Occurrence.outcome? = [.success 1 session "+15"] ∧
        Holds t.after.world.store (some session) := by
  intro session
  let run := (Scene.scripted
    { authenticateDevice := [.ok { requestId := "r", userId := 7 }]
      verifyCode := [.ok { token := some "t", secret := some "s", userId := 7 }] }).run Act.logIn
  have member : run[4] ∈ run := List.getElem_mem _
  have outcomes : run[4].happened.filterMap Occurrence.outcome? = [.success 1 session "+15"] := rfl
  obtain ⟨held,-⟩ := persisted_before_told rfl member
  refine ⟨run[4],member,rfl,outcomes,held 1 session "+15" ?_⟩
  have told : .success 1 session "+15" ∈ run[4].happened.filterMap Occurrence.outcome? := by simp [outcomes]
  obtain ⟨o,there,outcome⟩ := List.mem_filterMap.mp told
  rw [Occurrence.of_outcome outcome] at there
  exact there

end PhoneSignIn.Flow
