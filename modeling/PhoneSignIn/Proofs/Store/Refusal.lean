import PhoneSignIn.Proofs.Store.Interruption

/-!
What is left of an operation of a file store that fails. All that a failed write can have done to the tree is that it
has `Grown`: directories above the file that were missing are there. The temporary file is gone again, at whichever
step the write has failed (`entry_cleaned`), and so every file has its content, nothing else is remembered, and the
next reading is answered as if nothing had been tried (`refused_unchanged`), but for a name that is too long.
-/
namespace PhoneSignIn
namespace FileTree

variable {t t' t'' : FileTree} {p q temporary : Path} {e : FileError} {b bytes : List UInt8}

/-- Nothing has changed at `q`, or a directory above `p` is made there that was missing. -/
def GrownAt (p : Path) (t t' : FileTree) (q : Path) : Prop :=
  t'.entry? q = t.entry? q ∨ q ∈ ancestors p ∧ t.entry? q = none ∧ t'.entry? q = some .directory

/-- A tree in which directories above `p` are made that were missing, and nothing else has changed. -/
def Grown (p : Path) (t t' : FileTree) : Prop := ∀ q, GrownAt p t t' q

/-- No file is new, and none is changed. -/
theorem Grown.file_iff (grown : Grown p t t') : t'.entry? q = some (.file b) ↔ t.entry? q = some (.file b) := by
  rcases grown q with same | ⟨-,missing,directory⟩
  · rw [same]
  · simp [missing,directory]

theorem Grown.find (grown : Grown p t t') (formed : t.WellFormed) : t'.find p = t.find p ∨
    t.find p = .error .notFound ∧ t'.find p = .error .nameTooLong ∧ t.Overlooks p := by
  have raised : Raised p (p ++ [""]) t t' := fun q _ => grown q
  exact raised.find formed fun part => absurd part.length_le (by simp)

/-- Whether all directories above a path could be made or not, the tree has grown. -/
theorem grown_run {failure : Option FileError} (made : run (makeAncestors p) t = (failure,t')) : Grown p t t' := by
  intro q
  have raised : Raised p (q ++ [""]) t t' := raised_run made
  exact raised q (by simp)

/-- Where a file is read, it can be written. -/
theorem apply_write_of_read (read : t.read p = .ok b) (bytes : List UInt8) :
    ∃ t', Change.apply (.write p bytes) t = .ok t' := by
  rw [FileTree.read] at read
  split at read
  · rename_i found
    exact ⟨_,by rw [Change.apply,place,found]⟩
  · cases read
  · cases read

/-- A file that was written can take its own place. -/
theorem apply_rename_self (wrote : Change.apply (.write p bytes) t = .ok t') :
    ∃ t'', Change.apply (.rename p p) t' = .ok t'' := by
  have read := read_written wrote
  rw [FileTree.read] at read
  split at read
  · rename_i found
    exact ⟨_,by rw [Change.apply,FileTree.read,place,found]⟩
  · cases read
  · cases read

/-- When a temporary file cannot be written, or cannot take the place of the file at `p`, its removal leaves that place
    as it was, and any other one too if nothing had the temporary name. -/
theorem entry_cleaned (named : temporary ≠ []) (unused : q = temporary → q ≠ p → t.entry? q = none)
    (failed : run [.write temporary bytes,.rename temporary p] t = (some e,t')) :
    entry? (run [.remove temporary] t').2 q = t.entry? q := by
  simp only [run] at failed
  cases wrote : Change.apply (.write temporary bytes) t with
  | error _ =>
    -- What cannot be written is no file, so none is removed.
    simp only [wrote,Prod.mk.injEq] at failed
    obtain ⟨-,rfl⟩ := failed
    cases read : t.read temporary with
    | ok _ =>
      obtain ⟨_,written⟩ := apply_write_of_read read bytes
      cases wrote.symm.trans written
    | error e => simp only [run,Change.apply,read]
  | ok written =>
    simp only [wrote] at failed
    cases renamed : Change.apply (.rename temporary p) written with
    | ok _ => simp [renamed] at failed
    | error _ =>
      simp only [renamed,Prod.mk.injEq] at failed
      obtain ⟨-,rfl⟩ := failed
      rw [run,Change.apply,read_written wrote]
      simp only [run]
      rw [apply_write_inv wrote,entry_erase named,entry_insert named]
      split_ifs with here
      · refine (unused here ?_).symm
        rintro rfl
        subst here
        obtain ⟨_,taken⟩ := apply_rename_self wrote
        cases renamed.symm.trans taken
      · rfl

end FileTree

namespace FileStore

variable {f f' : FileStore} {s : Session} {act : StoreAct} {answer : StoreAnswer}

/-- The name of a temporary file is not that of a directory above. -/
theorem temporary_no_ancestor (f : FileStore) : f.temporary ∉ FileTree.ancestors f.path := by
  intro above
  obtain ⟨part,other⟩ := FileTree.prefix_of_ancestor above
  exact temporary_aside other part

/-- A write that fails remembers nothing new, and has made directories at most: in the place of the file and, if nothing
    had the temporary name, everywhere else. -/
theorem write_refused (refused : (f.write s).1 ≠ .ok ()) :
    (f.write s).2.path = f.path ∧ (f.write s).2.cache = f.cache ∧
      ∀ q, (q = f.temporary → q ≠ f.path → f.disk.entry? q = none) →
        FileTree.GrownAt f.path f.disk (f.write s).2.disk q := by
  have named : f.temporary ≠ [] := by simp [temporary]
  rw [write] at refused ⊢
  cases made : FileTree.run (FileTree.makeAncestors f.path) f.disk with
  | mk failure above =>
    have grown : FileTree.Grown f.path f.disk above := FileTree.grown_run made
    simp only [made] at refused
    cases failure with
    | some e => exact ⟨rfl,rfl,fun q _ => grown q⟩
    | none =>
      cases replaced : FileTree.run (f.replacement s) above with
      | mk failure left =>
        cases failure with
        | none => simp [replaced] at refused
        | some e =>
          simp only [replaced]
          refine ⟨trivial,trivial,fun q unused => ?_⟩
          have cleaned := FileTree.entry_cleaned named (q := q) (fun here other => ?_) replaced
          · rw [FileTree.GrownAt,cleaned]
            exact grown q
          · rcases grown q with same | ⟨above,-⟩
            · rw [same,unused here other]
            · exact absurd (here ▸ above) f.temporary_no_ancestor

/-- A write that fails leaves what is in the place of the file. -/
theorem write_refused_entry (refused : (f.write s).1 ≠ .ok ()) :
    (f.write s).2.disk.entry? f.path = f.disk.entry? f.path := by
  obtain ⟨-,-,grown⟩ := write_refused refused
  rcases grown f.path fun _ other => absurd rfl other with same | ⟨above,-⟩
  · exact same
  · exact absurd rfl (FileTree.prefix_of_ancestor above).2

/-- What is remembered, and else what the path leads to, is answered. -/
theorem read_congr (path : f'.path = f.path) (cache : f'.cache = f.cache)
    (find : f.cache = none → f'.disk.find f.path = f.disk.find f.path) : f'.read.1 = f.read.1 := by
  cases remembered : f.cache with
  | some active => rw [read,read,cache,remembered]
  | none =>
    have same : f'.load = f.load := by
      rw [load,load,FileTree.read,FileTree.read,path,find remembered]
    rw [read,read,cache,remembered,same]
    cases f.load <;> rfl

/-- An act that fails leaves the store as it is, but for directories that were made when a session was to be set. -/
theorem refused_inv (fresh : Fresh f.path f.disk act) (done : act.on f = (answer,f')) (refused : ¬answer.Succeeds) :
    f' = f ∨ (∃ s n, act = .set s n) ∧ f'.path = f.path ∧ f'.cache = f.cache ∧
      FileTree.Grown f.path f.disk f'.disk := by
  cases act with
  | get =>
    left
    simp only [StoreAct.on,SessionStore.read,read] at done
    split at done
    · cases done
      exact absurd ⟨_,rfl⟩ refused
    · split at done <;> cases done
      · exact absurd ⟨_,rfl⟩ refused
      · rfl
  | set s n =>
    right
    cases done
    obtain ⟨path,cache,grown⟩ := write_refused (f := { f with serial := n }) refused
    exact ⟨⟨s,n,rfl⟩,path,cache,fun q => grown q fun same _ => same ▸ fresh⟩
  | clear =>
    left
    simp only [StoreAct.on,SessionStore.clear,clear] at done
    split at done <;> cases done
    · exact absurd rfl refused
    · exact absurd rfl refused
    · rfl
  | reopen =>
    cases done
    exact absurd rfl refused

/-- An operation that fails leaves every file with its content, and no other file. If it was to set a session,
    directories above the file may be there that were missing, and nothing else has changed. The store remembers what
    it did before, and is next read as before. Only where such a directory was missing, and a name below it is too long,
    may a store that would have answered that there is no session fail because of that name. -/
theorem refused_unchanged (formed : f.disk.WellFormed) (fresh : Fresh f.path f.disk act)
    (done : act.on f = (answer,f')) (refused : ¬answer.Succeeds) :
    f'.path = f.path ∧ f'.cache = f.cache ∧
      (∀ q b, f'.disk.entry? q = some (.file b) ↔ f.disk.entry? q = some (.file b)) ∧
      (f'.disk = f.disk ∨ (∃ s n, act = .set s n) ∧ FileTree.Grown f.path f.disk f'.disk) ∧
      (f'.read.1 = f.read.1 ∨ (∃ s n, act = .set s n) ∧ f.cache = none ∧ f.read.1 = .ok none ∧
        f'.read.1 = .error ⟨"File name too long"⟩ ∧ f.disk.Overlooks f.path) := by
  rcases refused_inv fresh done refused with rfl | ⟨sets,path,cache,grown⟩
  · exact ⟨rfl,rfl,fun _ _ => .rfl,.inl rfl,.inl rfl⟩
  · refine ⟨path,cache,fun _ _ => grown.file_iff,.inr ⟨sets,grown⟩,?_⟩
    rcases grown.find formed with same | ⟨missing,long,overlooks⟩
    · exact .inl (read_congr path cache fun _ => same)
    · cases remembered : f.cache with
      | some active => exact .inl (read_congr path cache fun forgotten => by simp [remembered] at forgotten)
      | none =>
        refine .inr ⟨sets,rfl,?_,?_,overlooks⟩
        · rw [read,remembered,load,FileTree.read,missing]
        · rw [read,cache,remembered,load,path,FileTree.read,long]
          rfl

/-- A directory that is not empty stands in the place of the file: no session can be set. -/
theorem directory_refused :
    let disk := ((({} : FileTree).insert ([] ++ ["home"]) .directory).insert (["home"] ++ ["session.json"])
      .directory).insert (["home","session.json"] ++ ["occupied"]) (.file [0x78])
    let f : FileStore := { path := ["home","session.json"], disk }
    let act : StoreAct := .set (Session.guest ⟨"t","s"⟩) 7
    f.disk.WellFormed ∧ Fresh f.path f.disk act ∧ (act.on f).1 = .done (.error ⟨"Is a directory"⟩) ∧
      (act.on f).2.cache = none ∧
      ∀ q b, FileTree.entry? (act.on f).2.disk q = some (.file b) ↔ f.disk.entry? q = some (.file b) := by
  intro disk f act
  have formed : f.disk.WellFormed :=
    ((FileTree.WellFormed.empty.insert rfl fun _ => rfl).insert rfl fun _ => rfl).insert rfl fun there =>
      absurd there (by decide)
  have fresh : Fresh f.path f.disk act := by
    change _ = none
    decide +kernel
  have refused : (act.on f).1 = .done (.error ⟨"Is a directory"⟩) := by decide +kernel
  have failed : ¬(act.on f).1.Succeeds := by
    rw [refused]
    exact nofun
  obtain ⟨-,cache,files,-⟩ := refused_unchanged formed fresh (Prod.eta _).symm failed
  exact ⟨formed,fresh,refused,cache,files⟩

/-- Below a directory that was missing, a name that is too long keeps a session from being set; the directory is made,
    and a store that answered that there is no session fails. -/
theorem long_name_refused :
    let f : FileStore := { path := ["d",String.ofList (List.replicate 300 'a'),"s.json"], disk := {} }
    let act : StoreAct := .set (Session.guest ⟨"t","s"⟩) 7
    f.disk.WellFormed ∧ Fresh f.path f.disk act ∧ (act.on f).1 = .done (.error ⟨"File name too long"⟩) ∧
      f.read.1 = .ok none ∧ (act.on f).2.read.1 = .error ⟨"File name too long"⟩ :=
  ⟨FileTree.WellFormed.empty,rfl,by decide +kernel,by decide +kernel,by decide +kernel⟩

end FileStore
end PhoneSignIn
