import PhoneSignIn.Proofs.Session.Stored
import PhoneSignIn.Proofs.Store.FileTree
import PhoneSignIn.Proofs.Text.Utf8
import PhoneSignIn.Store.File

/-!
The store of one file does what the store in memory does. What is done with a store is a list of acts, and a
file store `Mirrors` a store in memory when its file holds the other's session and it remembers nothing else.
Every act keeps this, opening the file again included (`Mirrors.act`); so all acts together are answered alike,
none fails, and the file holds the text of the session last set until it is removed (`refines_memory`). Where a path
is too long or has a NUL character in it, this cannot be (`unfollowed_refused`).
-/
namespace PhoneSignIn

/-! ### Acts on a store -/

/-- What can be done with a store. What is set may need a random number. -/
inductive StoreAct where
  | get
  | set (session : Session) (draw : Nat)
  | clear
  | reopen
deriving DecidableEq, Repr

inductive StoreAnswer where
  | session (active : Except StorageError (Option Session))
  | done (result : Except StorageError Unit)
deriving DecidableEq, Repr

def StoreAnswer.Succeeds : StoreAnswer → Prop
  | .session active => ∃ session, active = .ok session
  | .done result => result = .ok ()

/-- A store that can be opened again, and that takes its random numbers from outside. -/
class OpenStore (σ : Type) extends SessionStore σ where
  /-- Make a number the next random one. -/
  draw : Nat → σ → σ
  /-- Open another store on what this one keeps. -/
  reopen : σ → σ

/-- The store in memory needs no random numbers and is never opened again. -/
instance : OpenStore MemoryStore where
  draw _ := id
  reopen := id

instance : OpenStore FileStore where
  draw n f := { f with serial := n }
  reopen := FileStore.reopen

section
variable {σ : Type} [OpenStore σ]

/-- An act on a store: its answer and the store afterwards. -/
def StoreAct.on : StoreAct → σ → StoreAnswer × σ
  | .get, st => ((SessionStore.read st).map .session id)
  | .set session n, st => ((SessionStore.write session (OpenStore.draw n st)).map .done id)
  | .clear, st => ((SessionStore.clear st).map .done id)
  | .reopen, st => (.done (.ok ()),OpenStore.reopen st)

/-- The answers to acts, one after the other. -/
def answers : List StoreAct → σ → List StoreAnswer
  | [], _ => []
  | act :: acts, st => (act.on st).1 :: answers acts (act.on st).2

/-- Whether every act, with the store before and after it, is as `P` says. -/
def Along (P : StoreAct → σ → σ → Prop) : List StoreAct → σ → Prop
  | [], _ => True
  | act :: acts, st => P act st (act.on st).2 ∧ Along P acts (act.on st).2

end

namespace FileStore

/-- A place for a file: below directories that are there or missing, itself missing or a file with a text, and
    with a name that leaves room for the names of temporary files. -/
structure Placed (disk : FileTree) (path : Path) : Prop where
  formed : disk.WellFormed
  above : ∀ q ∈ FileTree.ancestors path, disk.entry? q = some .directory ∨ disk.entry? q = none
  target : disk.entry? path = none ∨
    ∃ bytes text, disk.entry? path = some (.file bytes) ∧ Text.Utf8.decode? bytes = some text
  room : ∀ n, FileTree.isNameTooLong (temporaryName n (path.getLastD "")) = false

/-- A path that a file can have, and beside which temporary files can have theirs. -/
structure Taken (path : Path) : Prop where
  fits : FileTree.FitsAll path
  beside : ∀ n, FileTree.isPathTooLong (path.dropLast ++ [temporaryName n (path.getLastD "")]) = false

/-- The session that a file holds; none when it is missing, or when it holds no session's text. -/
def stored (disk : FileTree) (path : Path) : Option Session :=
  match disk.read path with
  | .ok bytes => (Text.Utf8.decode? bytes).bind Session.Stored.decode
  | .error _ => none

/-- Whether the temporary file that an act needs is not there yet. -/
def Fresh (path : Path) (disk : FileTree) : StoreAct → Prop
  | .set _ n => disk.entry? (path.dropLast ++ [temporaryName n (path.getLastD "")]) = none
  | _ => True

/-- What an act leaves in the place of the file. -/
def Leaves (path : Path) (disk : FileTree) : StoreAct → Prop
  | .set session _ => disk.read path = .ok (Text.Utf8.encode (Session.Stored.encode (some session)))
  | .clear => disk.find path = .error .notFound
  | _ => True

/-! ### The names of temporary files -/

private theorem padded_size (width n : Nat) : (String.ofList (Text.Hex.padded width n)).utf8ByteSize = width := by
  induction width generalizing n with
  | zero => rfl
  | succ width ih =>
    have octet : ∀ k < 16, (Text.Hex.lower k).utf8Size = 1 := by decide
    rw [Text.Hex.padded,String.ofList_append,String.utf8ByteSize_append,ih]
    simp [octet _ (Nat.mod_lt n (by decide))]

/-- All temporary names beside a file name are equally long. -/
theorem temporaryName_size (n : Nat) (name : String) :
    (temporaryName n name).utf8ByteSize = (stem name).utf8ByteSize + 37 := by
  rw [temporaryName,String.utf8ByteSize_append,String.utf8ByteSize_append,padded_size,Nat.add_assoc]
  rfl

private theorem temporaryName_ne (n : Nat) (name : String) : temporaryName n name ≠ "" := by
  intro empty
  have size := temporaryName_size n name
  rw [empty] at size
  simp at size

/-- A temporary name has the characters of the file name before its extension. -/
private theorem mem_stem {name : String} {c : Char} (member : c ∈ (stem name).toList) : c ∈ name.toList := by
  rw [stem] at member
  split at member
  · rename_i split
    have part : c ∈ name.toList.reverse.dropWhile (· ≠ '.') := by
      rw [split]
      rw [String.toList_ofList,List.mem_reverse] at member
      exact List.mem_cons_of_mem _ member
    exact List.mem_reverse.mp ((List.dropWhile_sublist _).subset part)
  · exact member

private theorem padded_clean (width n : Nat) : '\x00' ∉ Text.Hex.padded width n := by
  induction width generalizing n with
  | zero => exact List.not_mem_nil
  | succ width ih =>
    have digit : ∀ k < 16, Text.Hex.lower k ≠ '\x00' := by decide
    rw [Text.Hex.padded,List.mem_append,List.mem_singleton]
    rintro (nul | nul)
    · exact ih _ nul
    · exact digit _ (Nat.mod_lt n (by decide)) nul.symm

theorem temporaryName_fits {n : Nat} {name : String} (clean : '\x00' ∉ name.toList)
    (short : FileTree.isNameTooLong (temporaryName n name) = false) : FileTree.Fits (temporaryName n name) := by
  refine ⟨temporaryName_ne n name,short,fun nul => ?_⟩
  rw [temporaryName,String.toList_append,String.toList_append,List.mem_append,List.mem_append] at nul
  rcases nul with (stemmed | dotted) | digit
  · exact clean (mem_stem stemmed)
  · revert dotted
    decide
  · rw [String.toList_ofList] at digit
    exact padded_clean 32 n digit

theorem Taken.temporary {d : Path} {name : String} (taken : Taken (d ++ [name])) (n : Nat)
    (short : FileTree.isNameTooLong (temporaryName n name) = false) : FileTree.FitsAll (d ++ [temporaryName n name]) where
  names other member := by
    rcases List.mem_append.mp member with member | member
    · exact taken.fits.above.names other member
    · rw [List.mem_singleton.mp member]
      exact temporaryName_fits taken.fits.lowest.2.2 short
  short := by simpa using taken.beside n

/-! ### A file that keeps a session -/

/-- What stands in the place of a file that keeps a session, or none. -/
inductive Keeps : Option Session → Option Entry → Prop where
  | missing : Keeps none none
  | file {bytes : List UInt8} {text : String} (reads : Text.Utf8.decode? bytes = some text) :
      Keeps (Session.Stored.decode text) (some (.file bytes))

theorem keeps_bytes (session : Session) : Keeps (some session) (some (.file (bytes session))) := by
  have reads : Text.Utf8.decode? (bytes session) = some (Session.Stored.encode (some session)) :=
    Text.Utf8.decode_encode _
  have kept := Keeps.file reads
  rwa [Session.Stored.decode_encode] at kept

theorem Keeps.no_directory {active : Option Session} {entry : Option Entry} (keeps : Keeps active entry) :
    entry ≠ some .directory := by
  cases keeps <;> simp

/-- A file store whose file, `name` in the directory `d`, keeps the session of a store in memory, and which
    remembers nothing else. -/
structure Mirrors (d : Path) (name : String) (f : FileStore) (m : MemoryStore) : Prop where
  path : f.path = d ++ [name]
  formed : f.disk.WellFormed
  way : f.disk.Way d
  fits : FileTree.FitsAll (d ++ [name])
  room : ∀ n, FileTree.FitsAll (d ++ [temporaryName n name])
  keeps : Keeps m.active (f.disk.entry? (d ++ [name]))
  remembers : ∀ active, f.cache = some active → active = m.active

variable {d : Path} {name : String} {f : FileStore} {m : MemoryStore}

/-- The file is read as the session in memory. -/
theorem Mirrors.load (mirrors : Mirrors d name f m) : f.load = .ok m.active := by
  obtain ⟨path,formed,way,fits,_,keeps,_⟩ := mirrors
  rw [FileStore.load,path]
  generalize entry : f.disk.entry? (d ++ [name]) = e at keeps
  generalize m.active = active at keeps
  cases keeps with
  | missing => rw [FileTree.read_missing formed way fits entry]
  | file reads =>
    rw [FileTree.read_way formed way fits entry]
    simp only [reads]

/-- A read answers the session in memory, and remembers it. -/
theorem Mirrors.get (mirrors : Mirrors d name f m) : ∃ f', f.read = (.ok m.active,f') ∧ Mirrors d name f' m := by
  cases remembered : f.cache with
  | some active =>
    have same := mirrors.remembers active remembered
    exact ⟨f,by rw [read,remembered,same],mirrors⟩
  | none =>
    refine ⟨{ f with cache := some m.active },by rw [read,remembered,mirrors.load],?_⟩
    exact { mirrors with remembers := fun active same => (Option.some.inj same).symm }

/-- A session is set through a temporary file that is not there yet; the directories above are made. -/
theorem Mirrors.set (mirrors : Mirrors d name f m)
    (fresh : f.disk.entry? (d ++ [temporaryName f.serial name]) = none) (session : Session) :
    ∃ f', f.write session = (.ok (),f') ∧ Mirrors d name f' ⟨some session⟩ ∧
      f'.disk.read (d ++ [name]) = .ok (bytes session) := by
  obtain ⟨path,formed,way,fits,room,keeps,_⟩ := mirrors
  obtain ⟨above,made,formed',entries⟩ := FileTree.run_makeAncestors formed way fits.above name
  have beside (n : String) : above.entry? (d ++ [n]) = f.disk.entry? (d ++ [n]) := by
    rw [entries,if_neg fun part => absurd part.length_le (by simp)]
  have there : above.entry? d = some .directory := by rw [entries,if_pos (List.prefix_refl d)]
  have way' : above.Way d := fun q part => .inl (by rw [entries,if_pos part])
  obtain ⟨disk,replaced,formed'',entries'⟩ := FileTree.run_replace formed' way' there fits (room f.serial)
    (by rw [beside]; exact keeps.no_directory) (by rw [beside,fresh]; simp) (bytes session)
  have written : disk.entry? (d ++ [name]) = some (.file (bytes session)) := by rw [entries',if_pos rfl]
  have way'' : disk.Way d := way'.unchanged fun q part => by
    rw [entries',if_neg (FileTree.ne_of_part part),if_neg (FileTree.ne_of_part part)]
  refine ⟨{ f with disk, cache := some (some session), serial := f.serial + 1 },?_,
    ⟨path,formed'',way'',fits,room,?_,?_⟩,FileTree.read_way formed'' way'' fits written⟩
  · rw [write,path,made]
    simp only [replacement,temporary,path,List.dropLast_concat,List.getLastD_concat,replaced]
  · rw [written]
    exact keeps_bytes session
  · exact fun active same => (Option.some.inj same).symm

/-- The file is removed; when it is missing, nothing is done. -/
theorem Mirrors.clear (mirrors : Mirrors d name f m) : ∃ f', f.clear = (.ok (),f') ∧ Mirrors d name f' ⟨none⟩ ∧
    f'.disk.find (d ++ [name]) = .error .notFound := by
  obtain ⟨path,formed,way,fits,room,keeps,_⟩ := mirrors
  have forgets : ∀ active, some none = some active → active = (none : Option Session) :=
    fun active same => (Option.some.inj same).symm
  generalize entry : f.disk.entry? (d ++ [name]) = e at keeps
  generalize m.active = active at keeps
  cases keeps with
  | missing =>
    refine ⟨{ f with cache := some none },?_,⟨path,formed,way,fits,room,?_,forgets⟩,?_⟩
    · rw [FileStore.clear,path,FileTree.apply_remove_missing formed way fits entry]
    · exact entry ▸ .missing
    · rw [FileTree.find_way formed way fits,entry]
      rfl
  | file reads =>
    obtain ⟨disk,removed,formed',entries⟩ := FileTree.apply_remove formed way fits entry
    have gone : disk.entry? (d ++ [name]) = none := by rw [entries,if_pos rfl]
    have way' : disk.Way d := way.unchanged fun q part => by rw [entries,if_neg (FileTree.ne_of_part part)]
    refine ⟨{ f with disk, cache := some none },?_,⟨path,formed',way',fits,room,?_,forgets⟩,?_⟩
    · rw [FileStore.clear,path,removed]
    · exact gone ▸ .missing
    · rw [FileTree.find_way formed' way' fits,gone]
      rfl

/-! ### Acts on both stores -/

/-- An act succeeds on both stores with one answer. It leaves the session that was set in the file, and no file
    after the session was cleared. -/
theorem Mirrors.act (mirrors : Mirrors d name f m) (act : StoreAct) (fresh : Fresh (d ++ [name]) f.disk act) :
    (act.on f).1 = (act.on m).1 ∧ (act.on m).1.Succeeds ∧ Mirrors d name (act.on f).2 (act.on m).2 ∧
      Leaves (d ++ [name]) (act.on f).2.disk act := by
  cases act with
  | get =>
    obtain ⟨f',read,mirrors'⟩ := mirrors.get
    simp only [StoreAct.on,SessionStore.read,read]
    exact ⟨rfl,⟨m.active,rfl⟩,mirrors',trivial⟩
  | set session n =>
    simp only [Fresh,List.dropLast_concat,List.getLastD_concat] at fresh
    have drawn : Mirrors d name { f with serial := n } m := { mirrors with }
    obtain ⟨f',written,mirrors',left⟩ := drawn.set fresh session
    simp only [StoreAct.on,OpenStore.draw,SessionStore.write,written]
    exact ⟨rfl,rfl,mirrors',left⟩
  | clear =>
    obtain ⟨f',cleared,mirrors',left⟩ := mirrors.clear
    simp only [StoreAct.on,SessionStore.clear,cleared]
    exact ⟨rfl,rfl,mirrors',left⟩
  | reopen =>
    have reopened : Mirrors d name f.reopen m := { mirrors with remembers := nofun }
    exact ⟨rfl,rfl,reopened,trivial⟩

theorem Mirrors.acts (mirrors : Mirrors d name f m) {acts : List StoreAct}
    (fresh : Along (fun act f _ => Fresh (d ++ [name]) f.disk act) acts f) :
    answers acts f = answers acts m ∧ (∀ answer ∈ answers acts m, answer.Succeeds) ∧
      Along (fun act _ f => Leaves (d ++ [name]) f.disk act) acts f := by
  induction acts generalizing f m with
  | nil => exact ⟨rfl,nofun,trivial⟩
  | cons act acts ih =>
    obtain ⟨fresh,later⟩ := fresh
    obtain ⟨same,succeeds,mirrors',leaves⟩ := mirrors.act act fresh
    obtain ⟨sames,succeed,leave⟩ := ih mirrors' later
    refine ⟨by rw [answers,answers,same,sames],?_,leaves,leave⟩
    intro answer member
    rcases List.mem_cons.mp member with rfl | member
    · exact succeeds
    · exact succeed answer member

/-- In a place for a file whose path is taken, a store that remembers nothing mirrors the stored session. -/
theorem Placed.mirrors {disk : FileTree} {path : Path} (placed : Placed disk path) (taken : Taken path) :
    ∃ d name, path = d ++ [name] ∧ Mirrors d name { path, disk } ⟨stored disk path⟩ := by
  obtain ⟨formed,above,target,room⟩ := placed
  rcases List.eq_nil_or_concat' path with rfl | ⟨d,name,rfl⟩
  · rcases target with root | ⟨_,_,root,_⟩ <;> cases root
  have way : disk.Way d := by
    intro q part
    cases q with
    | nil => exact .inl rfl
    | cons n q => exact above _ (FileTree.mem_ancestors part nofun)
  have room (n : Nat) := taken.temporary n (by simpa using room n)
  refine ⟨d,name,rfl,rfl,formed,way,taken.fits,room,?_,nofun⟩
  simp only [stored]
  rcases target with missing | ⟨bytes,text,file,reads⟩
  · rw [FileTree.read_missing formed way taken.fits missing,missing]
    exact .missing
  · rw [FileTree.read_way formed way taken.fits file,file]
    simp only [reads,Option.bind_some]
    exact .file reads

/-- Whatever is done with a store of one file, the answers are those of a store in memory that holds what the file
    held at first; the file may be opened again at any time. Nothing fails, a session that was set is in the file,
    and the file of a cleared session is gone. -/
theorem refines_memory {disk : FileTree} {path : Path} {acts : List StoreAct} (placed : Placed disk path)
    (taken : Taken path)
    (fresh : Along (fun act f _ => Fresh path f.disk act) acts ({ path, disk } : FileStore)) :
    answers acts ({ path, disk } : FileStore) = answers acts (⟨stored disk path⟩ : MemoryStore) ∧
      (∀ answer ∈ answers acts ({ path, disk } : FileStore), answer.Succeeds) ∧
      Along (fun act _ f => Leaves path f.disk act) acts ({ path, disk } : FileStore) := by
  obtain ⟨d,name,rfl,mirrors⟩ := placed.mirrors taken
  obtain ⟨same,succeed,leave⟩ := mirrors.acts fresh
  exact ⟨same,same ▸ succeed,leave⟩

/-- A path that is not followed, for its length or for a NUL character in it, is refused by every operation; a session
    cannot be set either where that of the temporary file is not followed. -/
theorem unfollowed_refused (f : FileStore) :
    (∀ e, FileTree.refusal? f.path = some e → (f.cache = none → f.read.1 = .error ⟨e.reason⟩) ∧
      f.clear.1 = .error ⟨e.reason⟩) ∧
    ∀ s, (f.write s).1 = .ok () → FileTree.refusal? f.path = none ∧ FileTree.refusal? f.temporary = none := by
  constructor
  · intro e refused
    have unread : f.disk.read f.path = .error e := by rw [FileTree.read,FileTree.find,refused]
    have kind := FileTree.refusal_kind refused
    constructor
    · intro forgotten
      rw [read,forgotten,load,unread]
      rcases kind with rfl | rfl <;> rfl
    · rw [clear,FileTree.Change.apply,unread]
      rcases kind with rfl | rfl <;> rfl
  · intro s written
    rw [write] at written
    split at written
    · cases written
    · split at written
      · rename_i disk _ _ replaced
        rw [replacement,FileTree.run] at replaced
        split at replaced
        · rename_i wrote
          rw [FileTree.run] at replaced
          split at replaced
          · rename_i renamed
            exact ⟨FileTree.followed_of_rename renamed,FileTree.followed_of_read (FileTree.read_written wrote)⟩
          · cases replaced
        · cases replaced
      · cases written

/-- A blank file in a directory: a session is set, read from the file and cleared. -/
theorem home_session_mirrored :
    let path := ["home","session.json"]
    let disk := (({} : FileTree).insert ([] ++ ["home"]) .directory).insert (["home"] ++ ["session.json"]) (.file [0x20])
    let session := Session.guest ⟨"t","s"⟩
    let acts := [.get,.set session 7,.reopen,.get,.clear,.get]
    Placed disk path ∧ Taken path ∧
      Along (fun act f _ => Fresh path f.disk act) acts ({ path, disk } : FileStore) ∧
      answers acts ({ path, disk } : FileStore) = [.session (.ok none),.done (.ok ()),.done (.ok ()),
        .session (.ok (some session)),.done (.ok ()),.session (.ok none)] := by
  intro path disk session acts
  have formed : disk.WellFormed := (FileTree.WellFormed.empty.insert rfl fun _ => rfl).insert rfl nofun
  have placed : Placed disk path := {
    formed
    above := by decide
    target := .inr ⟨[0x20]," ",by decide,by decide⟩
    room n := by
      rw [FileTree.isNameTooLong,temporaryName_size]
      decide }
  have taken : Taken path := {
    fits := ⟨by decide,by decide⟩
    beside n := by
      have octets : FileTree.octets (path.dropLast ++ [temporaryName n "session.json"]) = 50 := by
        rw [FileTree.octets_append,FileTree.octets,temporaryName_size]
        rfl
      exact decide_eq_false (octets ▸ by decide) }
  have fresh : Along (fun act f _ => Fresh path f.disk act) acts ({ path, disk } : FileStore) :=
    ⟨trivial,by change _ = none; decide +kernel,trivial,trivial,trivial,trivial,trivial⟩
  exact ⟨placed,taken,fresh,(refines_memory placed taken fresh).1⟩

/-- Where a directory above is missing whose name is too long, a read answers that there is no session, but none can
    be set. -/
theorem long_directory_refused :
    let path := ["d",String.ofList (List.replicate 300 'a'),"s.json"]
    let disk : FileTree := {}
    let acts := [.get,.set (Session.guest ⟨"t","s"⟩) 7]
    Placed disk path ∧ Along (fun act f _ => Fresh path f.disk act) acts ({ path, disk } : FileStore) ∧
      answers acts ({ path, disk } : FileStore) = [.session (.ok none),.done (.error ⟨"File name too long"⟩)] := by
  intro path disk acts
  have placed : Placed disk path := {
    formed := FileTree.WellFormed.empty
    above := by decide
    target := .inl rfl
    room n := by
      rw [FileTree.isNameTooLong,temporaryName_size]
      decide }
  exact ⟨placed,⟨trivial,by change _ = none; decide +kernel,trivial⟩,by decide +kernel⟩

end FileStore
end PhoneSignIn
