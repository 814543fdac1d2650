import PhoneSignIn.Proofs.Flow.Orderly
import PhoneSignIn.Proofs.Store.Keeping

/-!
Verifying a session is all or nothing. Whoever listens is told of a session exactly where a verification answers with
one (`Refreshes.changes`), and by then the session is kept; else the content of the store is as it was. Nothing else
that is done in a scene tells the listener anything (`Scene.Makes.changes`), so over a whole run the listener is told
of the sessions that verifications have kept, in their order.
-/
namespace PhoneSignIn.Flow

variable {γ σ : Type}

/-! ### What the listener is told -/

/-- The session that has changed, where that is told. -/
def Occurrence.change? : Occurrence → Option Session
  | .delivered (.changed session) => some session
  | _ => none

/-- The sessions that the listener was told of. -/
def World.changes (w : World γ σ) : List Session := w.history.filterMap Occurrence.change?

namespace World
variable {w w' : World γ σ} {g : γ} {st : σ} {l : List Occurrence}

@[simp] theorem advance_changes : (w.advance g st l).changes = w.changes ++ l.filterMap Occurrence.change? := by
  simp [changes]

theorem advance_unchanged (unchanged : ∀ o ∈ l, o.change? = none) : (w.advance g st l).changes = w.changes := by
  rw [advance_changes,List.filterMap_eq_nil_iff.mpr unchanged,List.append_nil]

theorem telling_unchanged {c : Callback} {d : Delivery} (told : (Occurrence.delivered d).outcome? = some d) :
    ∀ o ∈ w.telling c d, o.change? = none := by
  intro o member
  rcases telling_cases member with rfl | rfl
  · rfl
  · cases d with
    | changed => cases told
    | success => rfl
    | failure => rfl

theorem Records.changes (records : w.Records w') : w'.changes = w.changes := by
  obtain ⟨l,noted,rfl⟩ := records
  refine advance_unchanged ?_
  intro o member
  cases noted o member
  rfl

end World

section
variable [SessionStore σ] {w w' : World γ σ}

theorem Occurrence.Plain.change_none {o : Occurrence} (plain : o.Plain) : o.change? = none := by
  cases plain <;> rfl

theorem Arrives.changes {id : ReceiverId} {code : Int32} {data : LoginResult} (arrives : Arrives w id code data w') :
    w'.changes = w.changes := by
  cases arrives with
  | success =>
    refine World.advance_unchanged ?_
    intro o member
    rcases List.mem_cons.mp member with rfl | telling
    · rfl
    · exact World.telling_unchanged (Callback.outcome_told ..) o telling
  | failure => exact World.advance_unchanged (World.telling_unchanged rfl)
  | dropped => rfl
  | meaningless => rfl

theorem Begins.changes {config : SignInRequest} {result : Except OpeningError Beginning}
    (begins : Begins config w result w') : w'.changes = w.changes := by
  cases begins with
  | unreadable => simp [Occurrence.change?]
  | already =>
    refine World.advance_unchanged (List.forall_mem_append.mpr ⟨?_,World.telling_unchanged rfl⟩)
    simp [Occurrence.change?]
  | @launched active st =>
    have same : (w.advance w.gateway st [.recorded ⟨.auth,.impression⟩,.read (.ok active)]).changes = w.changes :=
      World.advance_unchanged (by simp [Occurrence.change?])
    exact same

theorem Concludes.changes {c c' : StepState} {fin : Finale} {m : Move} (ends : Concludes c w fin m c' w') :
    w'.changes = w.changes := by
  have answered {e m c' l} (answer : c.Answers e m c' l) : ∀ o ∈ l, o.change? = none := by
    cases answer <;> simp [Occurrence.change?]
  cases ends with
  | reported answer => exact World.advance_unchanged (answered answer)
  | handedOver => rfl
  | unkept keeps refused answer =>
    exact World.advance_unchanged (List.forall_mem_cons.mpr ⟨rfl,answered answer⟩)
  | emailRequested => simp [Occurrence.change?]
  | signedIn =>
    rw [(handIn_arrives _ _ _ _).changes]
    simp [Occurrence.change?]

theorem Submits.changes {s s' : OpenStep} {input : String} {m : Move} (submits : Submits s input w m s' w') :
    w'.changes = w.changes := by
  cases submits with
  | ignored => rfl
  | went accepted course ends =>
    rw [ends.changes]
    exact World.advance_unchanged fun o member => (course.plain o member).change_none

/-- A verification tells the listener of the session that it answers with. -/
theorem Refreshes.changes [Gateway γ] {session : Session} {result : Option Session}
    (refreshes : Refreshes session w result w') : w'.changes = w.changes ++ result.toList := by
  cases refreshes with
  | guest => simp
  | unanswered => simp [Occurrence.change?]
  | unkept => simp [Occurrence.change?]
  | refreshed => exact World.advance_changes

/-- Only verifications tell the listener anything. -/
theorem Scene.Makes.changes [Gateway γ] {s : Scene γ σ} {act : Act} {reply : Reply} (makes : s.Makes act reply w')
    (other : ∀ session, act ≠ .verify session) : w'.changes = s.world.changes := by
  cases makes with
  | recorded quiet records => exact records.changes
  | began begins => exact begins.changes
  | submitted found submits => exact submits.changes
  | unsubmitted => rfl
  | dismissed found clicked arrives => rw [arrives.changes,clicked.changes]
  | undismissed => rfl
  | handedIn hands arrives => exact arrives.changes
  | withdrawn => rfl
  | hosted => rfl
  | read => simp [readSession_run,Occurrence.change?]
  | verified => exact absurd rfl (other _)
  | cleared => simp [clearSession_run,Occurrence.change?]

end

/-! ### One verification -/

/-- What comes of a verification: all that it is for, or nothing. -/
structure AllOrNothing [Gateway γ] [SessionStore σ] [KeepingStore σ] (session : Session) (w : World γ σ)
    (result : Option Session) (w' : World γ σ) : Prop where
  some_iff (r : Session) : result = some r ↔ session.isGuest = false ∧ ∃ account,
    (Gateway.ask (.verifyAccount session) w.gateway).1 = .ok account ∧ r = .ofAccount account ∧
      (SessionStore.write r w.store).1 = .ok ()
  /-- What it answers with is kept, and nothing else is answered by the store. -/
  kept (r : Session) (given : result = some r) : KeepingStore.content w'.store = KeepingStore.keeping r ∧
    ∀ active, (SessionStore.read w'.store).1 = .ok active → active = some r
  /-- The listener is told once, of what it answers with, and after the write. -/
  told (r : Session) (given : result = some r) : ∃ account, w'.history = w.history ++
    [.asked (.verifyAccount session) (.ok account),.wrote r (.ok ()),.delivered (.changed r)]
  unkept (nothing : result = none) : KeepingStore.content w'.store = KeepingStore.content w.store
  untold (nothing : result = none) : w'.changes = w.changes
  /-- For a guest no call is made, nor is anything else done. -/
  rests (guest : session.isGuest = true) : w' = w

section
variable [Gateway γ] [SessionStore σ] {session : Session} {w w' : World γ σ} {result : Option Session}

theorem Refreshes.some_iff (refreshes : Refreshes session w result w') (r : Session) :
    result = some r ↔ session.isGuest = false ∧ ∃ account,
      (Gateway.ask (.verifyAccount session) w.gateway).1 = .ok account ∧ r = .ofAccount account ∧
        (SessionStore.write r w.store).1 = .ok () := by
  cases refreshes with
  | guest guest => simp [guest]
  | unanswered user answer => simp [answer]
  | unkept user answer refused =>
    simp only [answer,reduceCtorEq,false_iff]
    rintro ⟨-,account,same,rfl,kept⟩
    cases same
    rw [refused] at kept
    cases kept
  | @refreshed account g st user answer kept =>
    constructor
    · intro given
      cases given
      exact ⟨user,account,congrArg Prod.fst answer,rfl,congrArg Prod.fst kept⟩
    · rintro ⟨-,account',same,rfl,-⟩
      rw [answer] at same
      cases same
      rfl

theorem Refreshes.allOrNothing [KeepingStore σ] (refreshes : Refreshes session w result w') :
    AllOrNothing session w result w' where
  some_iff := refreshes.some_iff
  kept r given := by
    cases refreshes with
    | @refreshed account _ st _ _ kept =>
      cases given
      have whole : KeepingStore.content st = KeepingStore.keeping (.ofAccount account) :=
        KeepingStore.content_written kept
      exact ⟨whole,fun active answer => KeepingStore.answer_keeping whole (Prod.ext answer rfl)⟩
    | _ => cases given
  told r given := by
    cases refreshes with
    | @refreshed account =>
      cases given
      exact ⟨account,rfl⟩
    | _ => cases given
  unkept nothing := by
    cases refreshes with
    | guest => rfl
    | unanswered => rfl
    | unkept user answer refused => exact KeepingStore.content_refused refused
    | refreshed => cases nothing
  untold nothing := by
    rw [refreshes.changes,nothing,Option.toList_none,List.append_nil]
  rests guest := by
    cases refreshes with
    | guest => rfl
    | unanswered user => simp [user] at guest
    | unkept user => simp [user] at guest
    | refreshed user => simp [user] at guest

/-- A verification makes the session active that it answers with, and no other. -/
theorem Refreshes.keeps (refreshes : Refreshes session w result w') :
    w'.history.filterMap Occurrence.kept? = w.history.filterMap Occurrence.kept? ++ result.toList := by
  cases refreshes with
  | guest => simp
  | unanswered => simp [Occurrence.kept?]
  | unkept => simp [Occurrence.kept?]
  | refreshed => exact List.filterMap_append

end

/-! ### Verifications in a run -/

def Act.verifies : Act → Bool
  | .verify _ => true
  | _ => false

theorem Act.verifies_iff {act : Act} : act.verifies = true ↔ ∃ session, act = .verify session := by
  cases act <;> simp [verifies]

/-- The sessions that the listener is told of in a turn. -/
def Turn.announced (t : Turn γ σ) : List Session := t.happened.filterMap Occurrence.change?

section
variable [Gateway γ] [SessionStore σ]

theorem Scene.turn_announced (s : Scene γ σ) (act : Act) :
    (s.turn act).announced = if act.verifies then (s.turn act).kept else [] := by
  by_cases verifies : act.verifies = true
  · obtain ⟨session,rfl⟩ := Act.verifies_iff.mp verifies
    have refreshes := refreshSession_refreshes session s.still.world
    have told := refreshes.changes
    have kept := refreshes.keeps
    simp only [World.changes,still,List.filterMap_nil,List.nil_append] at told kept
    exact told.trans kept.symm
  · rw [if_neg verifies]
    exact (s.still.does_makes act).changes fun session same => verifies (Act.verifies_iff.mpr ⟨session,same⟩)

theorem Scene.run_announced (s : Scene γ σ) (acts : List Act) :
    (s.run acts).flatMap Turn.announced = ((s.run acts).filter (·.act.verifies)).flatMap Turn.kept := by
  induction acts generalizing s with
  | nil => rfl
  | cons act acts ih =>
    rw [run,List.flatMap_cons,ih,turn_announced]
    by_cases verifies : act.verifies = true
    · rw [if_pos verifies,List.filter_cons_of_pos (by exact verifies),List.flatMap_cons]
    · rw [if_neg verifies,List.filter_cons_of_neg (by exact verifies),List.nil_append]

/-- Verifying a session is all or nothing, and over a run the listener is told of the sessions that verifications have
    kept, and of no others, in their order. -/
theorem verification_all_or_nothing [KeepingStore σ] :
    (∀ session (w : World γ σ),
      AllOrNothing session w ((refreshSession session).run w).1 ((refreshSession session).run w).2) ∧
      ∀ (s : Scene γ σ) acts,
        (s.run acts).flatMap Turn.announced = ((s.run acts).filter (·.act.verifies)).flatMap Turn.kept :=
  ⟨fun session w => (refreshSession_refreshes session w).allOrNothing,Scene.run_announced⟩

/-- An account is fetched, and its session is kept in a file, of which the listener is told; where there is a directory
    in the place of the file, it stays there. -/
theorem verified_into_file :
    let account : Account := { authToken := ⟨"t","s"⟩, userId := 7, phoneNumber := "+15", email := none }
    let session : Session := .ofAccount account
    let gateway : GatewayScript := { verifyAccount := [.ok account] }
    let file : FileStore := { path := ["s.json"], disk := {} }
    let occupied : FileStore := { path := ["s.json"], disk := ({} : FileTree).insert ["s.json"] .directory }
    let w : World GatewayScript FileStore := { gateway, store := file }
    let w' : World GatewayScript FileStore := { gateway, store := occupied }
    ((refreshSession session).run w).1 = some session ∧
      KeepingStore.content ((refreshSession session).run w).2.store = KeepingStore.keeping session ∧
      ((refreshSession session).run w').1 = none ∧
      KeepingStore.content ((refreshSession session).run w').2.store = KeepingStore.content occupied := by
  intro account session gateway file occupied w w'
  have done := verification_all_or_nothing.1 session w
  have failed := verification_all_or_nothing.1 session w'
  have given : ((refreshSession session).run w).1 = some session := by decide +kernel
  have refused : ((refreshSession session).run w').1 = none := by decide +kernel
  exact ⟨given,(done.kept session given).1,refused,failed.unkept refused⟩

end

end PhoneSignIn.Flow
