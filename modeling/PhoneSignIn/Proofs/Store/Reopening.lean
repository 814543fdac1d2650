import PhoneSignIn.Proofs.Store.Interruption

/-!
What becomes of a file between two programs. A write that is done leaves the whole session in the file
(`write_left`), reading leaves the file alone (`read_same`), and so the store that the next program opens on it
answers that session (`Keeping.read`), until it is cleared: then the file is gone (`Keeping.clear`) and no
session is answered any more (`Gone.read`).
-/
namespace PhoneSignIn.FileStore

variable {f f' : FileStore} {path : Path} {disk : FileTree} {s : Session}

/-- A write that is done has left the session in the file. -/
theorem write_left (kept : f.write s = (.ok (),f')) :
    f'.path = f.path ∧ f'.disk.find f.path = .ok (.file (bytes s)) := by
  rw [write] at kept
  cases made : FileTree.run (FileTree.makeAncestors f.path) f.disk with
  | mk failure above =>
    have raised : FileTree.Raised f.path f.temporary f.disk above := FileTree.raised_run made
    cases failure with
    | some e =>
      rw [made] at kept
      cases kept
    | none =>
      simp only [made] at kept
      split at kept
      · rename_i left replaced
        cases kept
        refine ⟨rfl,?_⟩
        -- Both steps were done: the temporary file was written, and took the place of the old one.
        simp only [replacement,FileTree.run] at replaced
        split at replaced
        · rename_i written wrote
          rw [FileTree.apply_write_inv wrote] at replaced
          split at replaced
          · rename_i renamed
            cases replaced
            exact (replaced_of_rename raised renamed).1
          · cases replaced
        · cases replaced
      · cases kept

/-- Two stores have one file when nothing else on the disk differs either. -/
def SameFile (f f' : FileStore) : Prop := f'.path = f.path ∧ f'.disk = f.disk

theorem SameFile.refl (f : FileStore) : SameFile f f := ⟨rfl,rfl⟩
theorem SameFile.trans {f'' : FileStore} (first : SameFile f f') (second : SameFile f' f'') : SameFile f f'' :=
  ⟨second.1.trans first.1,second.2.trans first.2⟩

/-- A store that is read has the file that it had. -/
theorem read_same (f : FileStore) : SameFile f f.read.2 := by
  rw [read]
  split
  · exact .refl f
  · split <;> exact .refl f

/-- The session of a file is the one that its octets were made for. -/
theorem stored_bytes (found : disk.find path = .ok (.file (bytes s))) : stored disk path = some s := by
  have reads : Text.Utf8.decode? (bytes s) = some (Session.Stored.encode (some s)) := Text.Utf8.decode_encode _
  rw [stored,FileTree.read,found]
  simp only [reads,Option.bind_some,Session.Stored.decode_encode]

/-! ### Until the session is cleared -/

/-- A store whose file on a disk has a session, and that remembers nothing else. -/
structure Keeping (path : Path) (disk : FileTree) (s : Session) (f : FileStore) : Prop where
  there : f.path = path
  whole : f.disk = disk
  found : disk.find path = .ok (.file (bytes s))
  remembers : ∀ active ∈ f.cache, active = some s

/-- The session is answered, whether from the file or from memory. -/
theorem Keeping.read (keeping : Keeping path disk s f) :
    f.read.1 = .ok (some s) ∧ Keeping path disk s f.read.2 := by
  obtain ⟨rfl,rfl,found,remembers⟩ := keeping
  cases remembered : f.cache with
  | some active =>
    obtain rfl := remembers active remembered
    rw [FileStore.read,remembered]
    exact ⟨rfl,rfl,rfl,found,remembers⟩
  | none =>
    have loaded : f.load = .ok (some s) := by
      have reads : Text.Utf8.decode? (bytes s) = some (Session.Stored.encode (some s)) := Text.Utf8.decode_encode _
      rw [load,FileTree.read,found]
      simp only [reads,Session.Stored.decode_encode]
    rw [FileStore.read,remembered]
    simp only [loaded]
    exact ⟨trivial,rfl,rfl,found,by simp⟩

/-- A store whose file is gone, and that knows it. -/
structure Gone (path : Path) (f : FileStore) : Prop where
  there : f.path = path
  missing : f.disk.find path = .error .notFound
  remembers : f.cache = some none

/-- A file that has been removed is not found. -/
theorem find_removed {bytes : List UInt8} (found : disk.find path = .ok (.file bytes)) :
    (disk.erase path).find path = .error .notFound := by
  rcases List.eq_nil_or_concat' path with rfl | ⟨d,name,rfl⟩
  · cases found
  · have placed : disk.place (d ++ [name]) = .ok (some (.file bytes)) := by rw [FileTree.place,found]
    obtain ⟨above,short,-⟩ := FileTree.place_inv placed
    have named : d ++ [name] ≠ [] := by simp
    have above' : (disk.erase (d ++ [name])).find d = .ok .directory := by
      refine (FileTree.find_congr fun q part => ?_).trans above
      rw [FileTree.entry_erase named,if_neg (FileTree.ne_of_part part)]
    rw [FileTree.find_in above' (FileTree.followed_of_find found),short,if_neg (by simp),
      FileTree.entry_erase named,if_pos rfl]
    rfl

/-- A session that is there can be cleared. -/
theorem Keeping.clear (keeping : Keeping path disk s f) : f.clear.1 = .ok () ∧ Gone path f.clear.2 := by
  obtain ⟨rfl,rfl,found,-⟩ := keeping
  have removed : FileTree.Change.apply (.remove f.path) f.disk = .ok (f.disk.erase f.path) := by
    simp only [FileTree.Change.apply,FileTree.read,found]
  rw [FileStore.clear,removed]
  exact ⟨rfl,rfl,find_removed found,rfl⟩

theorem Gone.read (gone : Gone path f) : f.read = (.ok none,f) := by
  rw [FileStore.read,gone.remembers]

/-- There is nothing left to be cleared. -/
theorem Gone.clear (gone : Gone path f) : f.clear.1 = .ok () ∧ Gone path f.clear.2 := by
  obtain ⟨rfl,missing,remembers⟩ := gone
  have nothing : FileTree.Change.apply (.remove f.path) f.disk = .error .notFound := by
    simp only [FileTree.Change.apply,FileTree.read,missing]
  rw [FileStore.clear,nothing]
  exact ⟨rfl,rfl,missing,rfl⟩

end PhoneSignIn.FileStore
