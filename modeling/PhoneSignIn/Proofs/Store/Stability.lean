import PhoneSignIn.Proofs.Store.Interruption

/-!
What an open store of one file goes by, when others may change the disk behind its back. Its history is what has come
of everything that was done with it, and what it remembers is what the history `tells`: the session last set or
cleared, and else the one first read (`cache_on`, and `Follows.run` for all incidents together). So once an operation
has succeeded, the store answers from its history only, and until then what the path leads to on the disk (`Reading`,
`reads_stable`).
-/
namespace PhoneSignIn.FileStore

/-- What can happen to an open store. -/
inductive Incident where
  | get
  | set (session : Session) (draw : Nat)
  | clear
  /-- Something else changes what is on the disk. -/
  | disturb (disk : FileTree)

/-- What has come of an incident. -/
inductive Outcome where
  | got (answer : Except StorageError (Option Session))
  | put (session : Session) (answer : Except StorageError Unit)
  | cleared (answer : Except StorageError Unit)
  | disturbed
deriving DecidableEq, Repr

/-- The outcome of an incident, and the store afterwards. -/
def Incident.on : Incident → FileStore → Outcome × FileStore
  | .get, f => f.read.map .got id
  | .set s n, f => (FileStore.write s { f with serial := n }).map (.put s) id
  | .clear, f => f.clear.map .cleared id
  | .disturb disk, f => (.disturbed,{ f with disk })

/-- The history of a store after incidents, and the store. -/
def run : List Incident → FileStore → List Outcome × FileStore
  | [], f => ([],f)
  | i :: is, f => ((i.on f).1 :: (run is (i.on f).2).1,(run is (i.on f).2).2)

namespace Outcome

/-- The active session, where an outcome changes it. -/
def decides : Outcome → Option (Option Session)
  | .put s (.ok ()) => some (some s)
  | .cleared (.ok ()) => some none
  | _ => none

/-- The active session, where an outcome answers it. -/
def answers : Outcome → Option (Option Session)
  | .got (.ok active) => some active
  | _ => none

/-- Whether an operation has succeeded. -/
def Succeeds : Outcome → Prop
  | .got answer => ∃ active, answer = .ok active
  | .put _ answer => answer = .ok ()
  | .cleared answer => answer = .ok ()
  | .disturbed => False

theorem not_succeeds_iff (o : Outcome) : ¬o.Succeeds ↔ o.decides = none ∧ o.answers = none := by
  cases o with
  | got answer => cases answer <;> simp [Succeeds,decides,answers]
  | put s answer => cases answer <;> simp [Succeeds,decides,answers]
  | cleared answer => cases answer <;> simp [Succeeds,decides,answers]
  | disturbed => simp [Succeeds,decides,answers]

end Outcome

/-- The session that was last set, or none if it was cleared since; when neither was done, the session first read. A
    history in which nothing has succeeded tells nothing. -/
def tells (past : List Outcome) : Option (Option Session) :=
  (past.filterMap Outcome.decides).getLast?.or (past.filterMap Outcome.answers).head?

theorem tells_concat (past : List Outcome) (o : Outcome) :
    tells (past ++ [o]) = o.decides.or ((tells past).or o.answers) := by
  have last : ((past ++ [o]).filterMap Outcome.decides).getLast? =
      o.decides.or (past.filterMap Outcome.decides).getLast? := by
    cases decided : o.decides <;> simp [List.filterMap_append,decided]
  have first : ((past ++ [o]).filterMap Outcome.answers).head? =
      (past.filterMap Outcome.answers).head?.or o.answers := by
    cases answered : o.answers <;> simp [List.filterMap_append,List.head?_append,answered]
  rw [tells,tells,last,first,Option.or_assoc,Option.or_assoc]

theorem tells_eq_none_iff (past : List Outcome) : tells past = none ↔ ∀ o ∈ past, ¬o.Succeeds := by
  simp only [tells,Option.or_eq_none_iff,List.getLast?_eq_none_iff,List.head?_eq_none_iff,List.filterMap_eq_nil_iff,
    Outcome.not_succeeds_iff]
  exact ⟨fun nothing o member => ⟨nothing.1 o member,nothing.2 o member⟩,
    fun nothing => ⟨fun o member => (nothing o member).1,fun o member => (nothing o member).2⟩⟩

/-! ### What a store remembers -/

variable {f : FileStore} {path : Path} {past : List Outcome}

/-- An outcome replaces what a store remembers when it changes the session, and adds to it when it answers one. -/
theorem cache_on (i : Incident) (f : FileStore) : (i.on f).2.path = f.path ∧
    (i.on f).2.cache = (i.on f).1.decides.or (f.cache.or (i.on f).1.answers) := by
  cases i with
  | get =>
    simp only [Incident.on,read]
    cases remembered : f.cache with
    | some active => exact ⟨rfl,remembered⟩
    | none =>
      cases loaded : f.load with
      | ok active => exact ⟨rfl,rfl⟩
      | error e => exact ⟨rfl,remembered⟩
  | set s n =>
    simp only [Incident.on,write]
    split
    · exact ⟨rfl,(Option.or_none).symm⟩
    · split
      · exact ⟨rfl,rfl⟩
      · exact ⟨rfl,(Option.or_none).symm⟩
  | clear =>
    simp only [Incident.on,clear]
    split
    · exact ⟨rfl,rfl⟩
    · exact ⟨rfl,rfl⟩
    · exact ⟨rfl,(Option.or_none).symm⟩
  | disturb disk => exact ⟨rfl,(Option.or_none).symm⟩

/-- A store of the file at `path` that remembers what its history tells. -/
structure Follows (path : Path) (past : List Outcome) (f : FileStore) : Prop where
  path : f.path = path
  cache : f.cache = tells past

theorem Follows.on (follows : Follows path past f) (i : Incident) :
    Follows path (past ++ [(i.on f).1]) (i.on f).2 := by
  obtain ⟨path,cache⟩ := cache_on i f
  constructor
  · rw [path,follows.path]
  · rw [cache,follows.cache,tells_concat]

theorem Follows.run (follows : Follows path past f) (is : List Incident) :
    Follows path (past ++ (run is f).1) (run is f).2 := by
  induction is generalizing past f with
  | nil => simpa [FileStore.run] using follows
  | cons i is ih => simpa [FileStore.run] using ih (follows.on i)

/-- A store answers what it remembers, or else what is now in its file. -/
theorem read_eq (f : FileStore) : f.read.1 = f.cache.elim (firstAnswer f.path f.disk) .ok := by
  rw [firstAnswer,read,read]
  cases remembered : f.cache with
  | some active => rfl
  | none =>
    have same : f.load = load { path := f.path, disk := f.disk } := rfl
    rw [same]
    cases load { path := f.path, disk := f.disk } <;> rfl

/-- What the file at a path is read as, by what the path leads to. -/
inductive Reading (path : Path) (disk : FileTree) : Except StorageError (Option Session) → Prop where
  | text {bytes : List UInt8} {text : String} (there : disk.find path = .ok (.file bytes))
    (read : Text.Utf8.decode? bytes = some text) : Reading path disk (.ok (Session.Stored.decode text))
  | noText {bytes : List UInt8} (there : disk.find path = .ok (.file bytes)) (unread : Text.Utf8.decode? bytes = none) :
    Reading path disk (.error ⟨"stream did not contain valid UTF-8"⟩)
  | directory (there : disk.find path = .ok .directory) : Reading path disk (.error ⟨"Is a directory"⟩)
  | missing (nowhere : disk.find path = .error .notFound) : Reading path disk (.ok none)
  | unreached {e : FileError} (fails : disk.find path = .error e) (other : e ≠ .notFound) :
    Reading path disk (.error ⟨e.reason⟩)

theorem firstAnswer_reading (path : Path) (disk : FileTree) : Reading path disk (firstAnswer path disk) := by
  rw [firstAnswer_eq]
  split
  · split
    · exact .text ‹_› ‹_›
    · exact .noText ‹_› ‹_›
  · exact .directory ‹_›
  · exact .missing ‹_›
  · rename_i e other fails
    exact .unreached fails other

/-- Whatever is done with a store after it was opened, and however the disk is changed behind its back: once an
    operation has succeeded, a reading answers the session last set, none if it was cleared since, and what was answered
    first if neither was done; before, it answers what the file is read as at the time. A reading that fails leaves
    nothing to be remembered. -/
theorem reads_stable (path : Path) (disk : FileTree) (is : List Incident) :
    let past := (run is { path, disk }).1
    let f := (run is { path, disk }).2
    (∀ active, tells past = some active → f.read.1 = .ok active) ∧
      (tells past = none → Reading path f.disk f.read.1) ∧
      ((tells past).isSome ↔ ∃ o ∈ past, o.Succeeds) ∧ ∀ e, f.read.1 = .error e → f.read.2 = f := by
  intro past f
  have opened : Follows path [] ({ path, disk } : FileStore) := ⟨rfl,rfl⟩
  obtain ⟨there,cache⟩ : Follows path past f := opened.run is
  have answer : f.read.1 = (tells past).elim (firstAnswer path f.disk) .ok := by rw [read_eq,cache,there]
  refine ⟨fun active told => by rw [answer,told]; rfl,fun silent => ?_,?_,fun e failed => ?_⟩
  · rw [answer,silent]
    exact firstAnswer_reading path f.disk
  · rw [← Option.ne_none_iff_isSome,Ne,tells_eq_none_iff]
    simp
  · rw [read] at failed ⊢
    split at failed
    · cases failed
    · split at failed
      · cases failed
      · rfl

/-- A reading that fails at a directory is not remembered: the file that takes its place is read. Once it was read, its
    session is answered on after the file is gone, and no other one that comes in its place. -/
theorem disturbed_store_reads :
    let path := ["s.json"]
    let first := Session.guest ⟨"t","s"⟩
    let holding (entry : Entry) : FileTree := ({} : FileTree).insert path entry
    let early := [.get,.disturb (holding (.file (bytes first)))]
    let late := early ++ [.get,.disturb (holding (.file [0xFF]))]
    (run early { path, disk := holding .directory }).1 = [.got (.error ⟨"Is a directory"⟩),.disturbed] ∧
      Reading path (holding (.file (bytes first))) (.ok (some first)) ∧
      (run early { path, disk := holding .directory }).2.read.1 = .ok (some first) ∧
      tells (run late { path, disk := holding .directory }).1 = some (some first) ∧
      (run late { path, disk := holding .directory }).2.read.1 = .ok (some first) := by
  intro path first holding early late
  have failed : (run early { path, disk := holding .directory }).1 = [.got (.error ⟨"Is a directory"⟩),.disturbed] := by
    decide +kernel
  have silent : tells (run early { path, disk := holding .directory }).1 = none := by rw [failed]; rfl
  have answered : (run early { path, disk := holding .directory }).2.read.1 = .ok (some first) := by decide +kernel
  have told : tells (run late { path, disk := holding .directory }).1 = some (some first) := by decide +kernel
  have reading := (reads_stable path (holding .directory) early).2.1 silent
  rw [answered] at reading
  exact ⟨failed,reading,answered,told,(reads_stable path (holding .directory) late).1 _ told⟩

end PhoneSignIn.FileStore
