import PhoneSignIn.Proofs.Flow.Consent
import PhoneSignIn.Proofs.Store.Reopening

/-!
A sign-in outlives the program. A submit that signs the user in leaves its session in the file
(`Writes.signedIn_left`), and turns in which nothing is written and nothing is forgotten leave the file alone
(`Scene.run_same_file`). The next program opens the file. Whoever begins a sign-in there is told of that session,
as often as one begins, until the user signs out; from then on a sign-in is launched (`sign_in_outlives_program`).
-/
namespace PhoneSignIn.Flow
open FileStore

variable {γ γ' : Type}

/-! ### What is left behind -/

/-- The session that the store holds after a submit has signed the user in is left in the file. -/
theorem Writes.signedIn_left {s : OpenStep} {w w' : World γ FileStore} (writes : Writes s w .signedIn w')
    {session : Session} (held : Holds w'.store (some session)) :
    w'.store.disk.find w'.store.path = .ok (.file (bytes session)) := by
  cases writes with
  | nothing _ _ unsigned => exact absurd rfl unsigned
  | @signedIn kept _ _ _ st st' _ _ _ _ written arrives =>
    have reads : w'.store = st' ∨ w'.store = (SessionStore.read st').2 := arrives.reads
    -- The store holds one session only, the one that was written.
    have held' : Holds w'.store (some kept) := by
      have first : Holds st' (some kept) := LawfulStore.holds_written written
      rcases reads with same | same
      · exact same ▸ first
      · exact same ▸ first.read rfl
    obtain rfl : kept = session := Option.some.inj (held'.unique held)
    obtain ⟨path,found⟩ := write_left written
    have same : SameFile st' w'.store := by
      rcases reads with same | same
      · exact same ▸ .refl st'
      · exact same ▸ read_same st'
    rw [same.2,same.1,path]
    exact found

/-- A file is left alone by turns in which nothing is written and nothing is forgotten. -/
theorem Scene.run_same_file [Gateway γ] {s : Scene γ FileStore} {acts : List Act}
    (rest : ∀ t ∈ s.run acts, t.Rests) {last : Turn γ FileStore} (ended : (s.run acts).getLast? = some last) :
    SameFile s.world.store last.after.world.store := by
  induction acts generalizing s with
  | nil => cases ended
  | cons act acts ih =>
    have first : SameFile s.world.store (s.turn act).after.world.store := by
      have rests := rest (s.turn act) List.mem_cons_self
      rcases (s.still.does_makes act).reads rests with same | same
      · exact same ▸ .refl _
      · exact same ▸ read_same s.world.store
    rw [Scene.run] at ended
    cases later : (s.turn act).after.run acts with
    | nil =>
      rw [later] at ended
      cases ended
      exact first
    | cons t ts =>
      rw [later,List.getLast?_cons_cons,← later] at ended
      exact first.trans (ih (fun t member => rest t (List.mem_cons_of_mem _ member)) ended)

/-! ### At the door -/

/-- What is done before any step is open: hosts come and go, and ask for a sign-in or for the active session, or the
    user signs out. -/
def Act.AtDoor : Act → Prop
  | .start _ | .hosts .. | .activeSession | .signOut => True
  | _ => False

/-- The store of a scene keeps the session of a user, until someone signs out; then there is none any more. -/
structure Scene.Stays (path : Path) (disk : FileTree) (s : Session) (past : List (Turn γ FileStore))
    (scene : Scene γ FileStore) : Prop where
  signedIn : (∀ t ∈ past, t.act ≠ .signOut) → Keeping path disk s scene.world.store
  signedOut : (∃ t ∈ past, t.act = .signOut) → Gone path scene.world.store

section
variable [Gateway γ] {path : Path} {disk : FileTree} {s : Session} {scene : Scene γ FileStore}
  {past : List (Turn γ FileStore)}

theorem Scene.turn_start (scene : Scene γ FileStore) (config : SignInRequest) :
    ∃ result w', Begins config scene.still.world result w' ∧ (scene.turn (.start config)).after.world = w' ∧
      (scene.turn (.start config)).reply = match result with
        | .error e => .openingError e
        | .ok (.signedIn session) => .already session
        | .ok (.launch h) => .launched h := by
  have begins := startSignIn_begins config scene.still.world
  refine ⟨_,_,begins,?_⟩
  simp only [Scene.turn,Scene.does,Scene.start,Scene.perform]
  rcases ((startSignIn config).run scene.still.world).1 with e | session | h
  · exact ⟨rfl,rfl⟩
  · exact ⟨rfl,rfl⟩
  · exact ⟨follow_world _,rfl⟩

/-- Where a user is signed in, whoever begins a sign-in is told at once. -/
theorem Scene.start_already (keeping : Keeping path disk s scene.world.store) (user : s.isGuest = false)
    (config : SignInRequest) : (scene.turn (.start config)).reply = .already s ∧
      (scene.turn (.start config)).happened = [.recorded ⟨.auth,.impression⟩,.read (.ok (some s))] ++
        scene.world.telling { host := config.host } (.success config.host s s.phoneNumber) ∧
      (scene.turn (.start config)).after.world.gateway = scene.world.gateway ∧
      (scene.turn (.start config)).after.world.store = (SessionStore.read scene.world.store).2 := by
  obtain ⟨result,w',begins,after,reply⟩ := scene.turn_start config
  have answers : (SessionStore.read scene.still.world.store).1 = .ok (some s) := keeping.read.1
  rw [reply,Turn.happened,after]
  cases begins with
  | unreadable answer =>
    rw [answer] at answers
    cases answers
  | already answer =>
    rw [answer] at answers
    cases answers
    exact ⟨rfl,rfl,rfl,(congrArg Prod.snd answer).symm⟩
  | launched answer guest =>
    rw [answer] at answers
    cases answers
    simp [user] at guest

/-- Where no user is signed in, a sign-in is launched with a receiver of its own. -/
theorem Scene.start_launches (gone : Gone path scene.world.store) (config : SignInRequest) :
    (scene.turn (.start config)).reply = .launched
        { receiver := scene.world.receivers.length, phoneNumber := config.phoneNumber
          wantsEmail := config.wantsEmail } ∧
      (scene.turn (.start config)).happened = [.recorded ⟨.auth,.impression⟩,.read (.ok none)] ∧
      (scene.turn (.start config)).after.world.receivers =
        scene.world.receivers ++ [{ callback := { host := config.host }, delivered := false }] ∧
      (scene.turn (.start config)).after.world.gateway = scene.world.gateway ∧
      (scene.turn (.start config)).after.world.store = scene.world.store := by
  obtain ⟨result,w',begins,after,reply⟩ := scene.turn_start config
  have answers : SessionStore.read scene.still.world.store = (.ok none,scene.still.world.store) := gone.read
  rw [reply,Turn.happened,after]
  cases begins with
  | unreadable answer =>
    rw [answer] at answers
    cases answers
  | already answer =>
    rw [answer] at answers
    cases answers
  | launched answer guest =>
    rw [answer] at answers
    cases answers
    exact ⟨rfl,rfl,rfl,rfl,rfl⟩

theorem Scene.turn_signOut (scene : Scene γ FileStore) (cleared : (SessionStore.clear scene.world.store).1 = .ok ()) :
    (scene.turn .signOut).reply = .done ∧
      (scene.turn .signOut).after.world.store = (SessionStore.clear scene.world.store).2 := by
  have ran := clearSession_run scene.still.world
  have cleared' : (SessionStore.clear scene.still.world.store).1 = .ok () := cleared
  simp only [Scene.turn,Scene.does,Scene.perform,signOut,ran,cleared']
  exact ⟨trivial,rfl⟩

/-- Nothing that is done at the door but signing out takes the session away. -/
theorem Scene.Stays.turn (stays : scene.Stays path disk s past) {act : Act} (door : act.AtDoor)
    (user : s.isGuest = false) : (scene.turn act).after.Stays path disk s (past ++ [scene.turn act]) := by
  have before {P : Turn γ FileStore → Prop} (all : ∀ t ∈ past ++ [scene.turn act], P t) : ∀ t ∈ past, P t :=
    fun t member => all t (List.mem_append_left _ member)
  -- Whoever has signed out, and does not in this turn, has done so before.
  have signed (another : act ≠ .signOut) (out : ∃ t ∈ past ++ [scene.turn act], t.act = .signOut) :
      ∃ t ∈ past, t.act = .signOut := by
    obtain ⟨t,member,out⟩ := out
    rcases List.mem_append.mp member with before | here
    · exact ⟨t,before,out⟩
    · rw [List.mem_singleton.mp here] at out
      exact absurd out another
  cases act with
  | start config =>
    refine ⟨fun none => ?_,fun out => ?_⟩
    · obtain ⟨-,-,-,store⟩ := start_already (stays.signedIn (before none)) user config
      rw [store]
      exact (stays.signedIn (before none)).read.2
    · have gone := stays.signedOut (signed nofun out)
      obtain ⟨-,-,-,-,store⟩ := start_launches gone config
      exact store ▸ gone
  | hosts present others =>
    exact ⟨fun none => stays.signedIn (before none),fun out => stays.signedOut (signed nofun out)⟩
  | activeSession =>
    have store : (scene.turn .activeSession).after.world.store = (SessionStore.read scene.world.store).2 :=
      congrArg World.store scene.still.activeSession_world
    refine ⟨fun none => ?_,fun out => ?_⟩
    · rw [store]
      exact (stays.signedIn (before none)).read.2
    · have gone := stays.signedOut (signed nofun out)
      have same : (SessionStore.read scene.world.store).2 = scene.world.store := congrArg Prod.snd gone.read
      rw [store,same]
      exact gone
  | signOut =>
    refine ⟨fun none => absurd rfl (none _ (List.mem_append_right _ (.head _))),fun _ => ?_⟩
    by_cases out : ∃ t ∈ past, t.act = .signOut
    · obtain ⟨cleared,gone⟩ := (stays.signedOut out).clear
      exact (scene.turn_signOut cleared).2 ▸ gone
    · obtain ⟨cleared,gone⟩ := (stays.signedIn (by simpa using out)).clear
      exact (scene.turn_signOut cleared).2 ▸ gone
  | _ => exact door.elim

end

/-! ### The next program -/

/-- Whatever was done last, the session of the user who was signed in is in the file. -/
theorem left_in_file [Gateway γ] {scene : Scene γ FileStore} {acts : List Act}
    {earlier later : List (Turn γ FileStore)} {t last : Turn γ FileStore} {i : Nat} {input : String} {s : Session}
    (split : scene.run acts = earlier ++ t :: later) (submitted : t.act = .submit i input)
    (finished : t.reply = .moved .signedIn) (persisted : .wrote s (.ok ()) ∈ t.happened) (rest : ∀ x ∈ later, x.Rests)
    (ended : (t :: later).getLast? = some last) :
    last.after.world.store.disk.find last.after.world.store.path = .ok (.file (bytes s)) := by
  have member : t ∈ scene.run acts := by simp [split]
  have makes : t.before.still.Makes t.act t.reply t.after.world := by
    rw [Scene.run_turn member]
    exact t.before.still.does_makes t.act
  rw [submitted,finished] at makes
  rcases submit_writes makes with ⟨refused,-⟩ | ⟨o,m,-,moved,writes⟩
  · cases refused
  · cases moved
    obtain ⟨kept,_,l,told,-,-,happened,plain,unwritten,held,-⟩ := writes.signedIn_held
    obtain rfl : s = kept := by
      rw [Turn.happened,happened,Scene.still,List.nil_append,List.mem_append,List.mem_cons] at persisted
      rcases persisted with before | same | after
      · cases (plain _ before).writes_none
      · exact (Occurrence.wrote.inj same).1
      · cases (unwritten _ after).1
    have found := writes.signedIn_left held
    obtain ⟨acts',after⟩ := Scene.run_after split
    cases later with
    | nil =>
      cases ended
      exact found
    | cons x later =>
      rw [List.getLast?_cons_cons,← after] at ended
      obtain ⟨path,disk⟩ := Scene.run_same_file (after ▸ rest) ended
      rw [path,disk]
      exact found

/-- What a submit has kept when it signs a user in survives the program, as long as nothing more is done to the file:
    in another program that opens the file, whoever begins a sign-in is answered with that session, and is told of it
    once when it can be told, without a call and with the file left as it is, until someone signs out. That succeeds,
    and from then on a sign-in is launched, with a receiver of its own that has told no one. -/
theorem sign_in_outlives_program [Gateway γ] [Gateway γ'] {scene : Scene γ FileStore} {acts : List Act}
    {earlier later : List (Turn γ FileStore)} {t last : Turn γ FileStore} {i : Nat} {input : String} {s : Session}
    (split : scene.run acts = earlier ++ t :: later) (submitted : t.act = .submit i input)
    (finished : t.reply = .moved .signedIn) (persisted : .wrote s (.ok ()) ∈ t.happened) (user : s.isGuest = false)
    (rest : ∀ x ∈ later, x.Rests) (ended : (t :: later).getLast? = some last) {next : Scene γ' FileStore}
    (path : next.world.store.path = last.after.world.store.path)
    (disk : next.world.store.disk = last.after.world.store.disk) (opened : next.world.store.cache = none)
    {acts' : List Act} (door : ∀ act ∈ acts', act.AtDoor) {earlier' later' : List (Turn γ' FileStore)}
    {u : Turn γ' FileStore} (split' : next.run acts' = earlier' ++ u :: later') :
    (∀ config, u.act = .start config → (∀ x ∈ earlier', x.act ≠ .signOut) → u.reply = .already s ∧
      u.happened = [.recorded ⟨.auth,.impression⟩,.read (.ok (some s))] ++
        (if u.before.world.isThere config.host then
          [.recorded ⟨.auth,.success⟩,.delivered (.success config.host s s.phoneNumber)] else []) ∧
      u.after.world.gateway = u.before.world.gateway ∧
      u.after.world.store.disk = last.after.world.store.disk) ∧
    (u.act = .signOut → u.reply = .done ∧
      u.after.world.store.disk.find last.after.world.store.path = .error .notFound) ∧
    (∀ config, u.act = .start config → (∃ x ∈ earlier', x.act = .signOut) →
      u.reply = .launched
        { receiver := u.before.world.receivers.length, phoneNumber := config.phoneNumber
          wantsEmail := config.wantsEmail } ∧
      u.happened = [.recorded ⟨.auth,.impression⟩,.read (.ok none)] ∧
      u.after.world.receivers = u.before.world.receivers ++
        [{ callback := { host := config.host }, delivered := false }] ∧
      u.after.world.gateway = u.before.world.gateway ∧ u.after.world.store = u.before.world.store) := by
  have found := left_in_file split submitted finished persisted rest ended
  have begins : next.Stays last.after.world.store.path last.after.world.store.disk s [] := by
    refine ⟨fun _ => ⟨path,disk,found,?_⟩,fun out => ?_⟩
    · simp [opened]
    · simp at out
  have doors : ∀ x ∈ next.run acts', x.act.AtDoor := fun x member => door _ (Scene.run_act member)
  have stays : u.before.Stays last.after.world.store.path last.after.world.store.disk s earlier' :=
    Scene.run_past (P := fun x => x.act.AtDoor) (fun past sc act stays door => stays.turn door user) []
      begins doors split'
  have member : u ∈ next.run acts' := by simp [split']
  obtain ⟨before,act,rfl⟩ : ∃ before act, u = Scene.turn before act := ⟨_,_,Scene.run_turn member⟩
  replace stays : before.Stays last.after.world.store.path last.after.world.store.disk s earlier' := stays
  refine ⟨?_,?_,?_⟩
  · intro config started inside
    obtain rfl : act = .start config := started
    have keeping := stays.signedIn inside
    obtain ⟨reply,happened,gateway,store⟩ := Scene.start_already keeping user config
    refine ⟨reply,?_,gateway,?_⟩
    · rw [happened]
      simp only [World.telling,World.canTell,Bool.not_false,Bool.true_and]
      rfl
    · rw [store]
      exact keeping.read.2.whole
  · intro out
    obtain rfl : act = .signOut := out
    by_cases outside : ∃ x ∈ earlier', x.act = .signOut
    · obtain ⟨cleared,gone⟩ := (stays.signedOut outside).clear
      obtain ⟨reply,store⟩ := Scene.turn_signOut _ cleared
      exact ⟨reply,store ▸ gone.missing⟩
    · obtain ⟨cleared,gone⟩ := (stays.signedIn (by simpa using outside)).clear
      obtain ⟨reply,store⟩ := Scene.turn_signOut _ cleared
      exact ⟨reply,store ▸ gone.missing⟩
  · intro config started outside
    obtain rfl : act = .start config := started
    exact Scene.start_launches (stays.signedOut outside) config

/-- A login whose store is one file on an empty disk. -/
def fileScene : Scene GatewayScript FileStore where
  world :=
    { gateway :=
        { authenticateDevice := [.ok { requestId := "r", userId := 7 }]
          verifyCode := [.ok { token := some "t", secret := some "s", userId := 7 }] }
      store := { path := ["s.json"], disk := {} }, host := some 1 }

theorem fileScene_login : ∃ earlier t, fileScene.run Act.logIn = earlier ++ [t] ∧ t.act = .submit 1 "9" ∧
    t.reply = .moved .signedIn ∧ t.happened.filterMap Occurrence.write? =
      [(.ofCredentials { token := some "t", secret := some "s", userId := 7 } "+15",.ok ())] :=
  ⟨[_,_,_,_],(fileScene.run Act.logIn)[4],rfl,rfl,by rfl,by rfl⟩

/-- The session of a login is in the file that the next program opens: a sign-in is answered with it, and launched
    only after the user has signed out. -/
theorem login_outlives_program :
    ∃ earlier t, fileScene.run Act.logIn = earlier ++ [t] ∧ t.reply = .moved .signedIn ∧
      let next : Scene GatewayScript FileStore :=
        { world := { gateway := {}, store := t.after.world.store.reopen, host := some 2 } }
      ∃ u u' u'', next.run [.start ⟨2,"",false⟩,.signOut,.start ⟨2,"",false⟩] = [u,u',u''] ∧
        u.reply = .already (.ofCredentials { token := some "t", secret := some "s", userId := 7 } "+15") ∧
        u'.reply = .done ∧ ∃ h, u''.reply = .launched h := by
  obtain ⟨earlier,t,split,submitted,finished,writes⟩ := fileScene_login
  let session := Session.ofCredentials { token := some "t", secret := some "s", userId := 7 } "+15"
  have persisted : .wrote session (.ok ()) ∈ t.happened := by
    have wrote : (session,.ok ()) ∈ t.happened.filterMap Occurrence.write? := writes ▸ List.mem_singleton_self _
    obtain ⟨o,there,write⟩ := List.mem_filterMap.mp wrote
    cases o <;> cases write
    exact there
  refine ⟨earlier,t,split,finished,?_⟩
  intro next
  let acts := [Act.start ⟨2,"",false⟩,.signOut,.start ⟨2,"",false⟩]
  have door : ∀ act ∈ acts, act.AtDoor := by simp [acts,Act.AtDoor]
  have survives (earlier' : List (Turn GatewayScript FileStore)) {later' : List (Turn GatewayScript FileStore)}
      {u : Turn GatewayScript FileStore} (split' : next.run acts = earlier' ++ u :: later') :=
    sign_in_outlives_program split submitted finished persisted rfl (List.forall_mem_nil _) rfl (by rfl) (by rfl)
      (by rfl) door split'
  have already := (survives [] rfl).1 _ rfl (List.forall_mem_nil _)
  have out := (survives [_] rfl).2.1 rfl
  have launched := (survives [_,_] rfl).2.2 _ rfl ⟨_,.tail _ (.head _),rfl⟩
  exact ⟨_,_,_,rfl,already.1,out.1,_,launched.1⟩

end PhoneSignIn.Flow
