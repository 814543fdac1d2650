import Mathlib.Data.List.Forall2
import PhoneSignIn.Proofs.Session.Stored
import PhoneSignIn.Proofs.Secrecy.Alike
import PhoneSignIn.Proofs.Store.FileTree
import PhoneSignIn.Proofs.Text.Utf8
import PhoneSignIn.Store.File

/-!
Stores that differ in secrets. In a `BlindStore` the secrets of sessions decide nothing: stores that are the same but
for secrets answer alike, and go on being so. Such are the store in memory, a store that can be made to fail, and the
store of one file, where every file on the two disks holds the same sessions but for secrets (`FileTree.Alike`): no
step of work on a tree looks into a file (`FileTree.run_alike`).
-/
namespace PhoneSignIn

variable {σ : Type}

/-- A store that no secret decides anything in. -/
class BlindStore (σ : Type) [SessionStore σ] where
  /-- Whether two stores are the same but for secrets. -/
  Alike : σ → σ → Prop
  read {st st' : σ} (alike : Alike st st') :
    ResultsAlike (Option.Rel Session.Alike) (SessionStore.read st).1 (SessionStore.read st').1 ∧
      Alike (SessionStore.read st).2 (SessionStore.read st').2
  write {st st' : σ} {s s' : Session} (sessions : s.Alike s') (alike : Alike st st') :
    (SessionStore.write s st).1 = (SessionStore.write s' st').1 ∧
      Alike (SessionStore.write s st).2 (SessionStore.write s' st').2
  clear {st st' : σ} (alike : Alike st st') : (SessionStore.clear st).1 = (SessionStore.clear st').1 ∧
    Alike (SessionStore.clear st).2 (SessionStore.clear st').2

instance : BlindStore MemoryStore where
  Alike st st' := Option.Rel Session.Alike st.active st'.active
  read alike := ⟨.ok alike,alike⟩
  write sessions _ := ⟨rfl,.some sessions⟩
  clear _ := ⟨rfl,.none⟩

/-- Stores that fail in the same way, above stores that are the same but for secrets. -/
structure FaultyStore.Alike [SessionStore σ] [BlindStore σ] (f f' : FaultyStore σ) : Prop where
  store : BlindStore.Alike f.store f'.store
  readFault : f.readFault = f'.readFault
  writeFault : f.writeFault = f'.writeFault
  clearFault : f.clearFault = f'.clearFault

/-- What is done to the stores beneath decides what stores that fail in the same way answer. -/
theorem FaultyStore.Alike.attempt [SessionStore σ] [BlindStore σ] {α : Type} {f f' : FaultyStore σ} (alike : f.Alike f')
    {R : Except StorageError α → Except StorageError α → Prop} (failed : ∀ e, R (.error e) (.error e))
    {act act' : σ → Except StorageError α × σ}
    (done : R (act f.store).1 (act' f'.store).1 ∧ BlindStore.Alike (act f.store).2 (act' f'.store).2)
    (fault : Option StorageError) : R (attempt fault act f).1 (attempt fault act' f').1 ∧
      (attempt fault act f).2.Alike (attempt fault act' f').2 := by
  cases fault with
  | some e => exact ⟨failed e,alike⟩
  | none => exact ⟨done.1,done.2,alike.readFault,alike.writeFault,alike.clearFault⟩

instance [SessionStore σ] [BlindStore σ] : BlindStore (FaultyStore σ) where
  Alike := FaultyStore.Alike
  read {f f'} alike := by
    simp only [SessionStore.read,← alike.readFault]
    exact alike.attempt (fun e => .error e) (BlindStore.read alike.store) _
  write {f f' s s'} sessions alike := by
    simp only [SessionStore.write,← alike.writeFault]
    exact alike.attempt (fun _ => rfl) (BlindStore.write sessions alike.store) _
  clear {f f'} alike := by
    simp only [SessionStore.clear,← alike.clearFault]
    exact alike.attempt (fun _ => rfl) (BlindStore.clear alike.store) _

/-! ### Trees -/

/-- Octets that hold the same session but for the secret, or none, or are no text both. -/
def ContentsAlike (bytes bytes' : List UInt8) : Prop :=
  Option.Rel (fun text text' => Option.Rel Session.Alike (Session.Stored.decode text) (Session.Stored.decode text'))
    (Text.Utf8.decode? bytes) (Text.Utf8.decode? bytes')

/-- Two directories, or two files with alike contents. -/
inductive Entry.Alike : Entry → Entry → Prop where
  | directory : Alike .directory .directory
  | file {bytes bytes'} (contents : ContentsAlike bytes bytes') : Alike (.file bytes) (.file bytes')

namespace FileTree

/-- Trees that are the same but for secrets in their files. -/
def Alike (t t' : FileTree) : Prop := ∀ p, Option.Rel Entry.Alike (t.entry? p) (t'.entry? p)

variable {t t' : FileTree} {p : Path}

theorem find_alike (alike : t.Alike t') (p : Path) : ResultsAlike Entry.Alike (t.find p) (t'.find p) := by
  have descend (above below : Path) : ResultsAlike Entry.Alike (t.descend above below) (t'.descend above below) := by
    induction below generalizing above with
    | nil =>
      have same := alike above
      revert same
      rw [FileTree.descend,FileTree.descend]
      generalize t.entry? above = e
      generalize t'.entry? above = e'
      rintro (same | _)
      · exact .ok same
      · exact .error _
    | cons name below ih =>
      have same := alike above
      revert same
      rw [FileTree.descend,FileTree.descend]
      generalize t.entry? above = e
      generalize t'.entry? above = e'
      rintro (same | _)
      · cases same with
        | directory =>
          simp only
          split
          · exact .error _
          · exact ih _
        | file => exact .error _
      · exact .error _
  rw [find,find]
  cases refusal? p with
  | some e => exact .error e
  | none => exact descend [] p

theorem place_alike (alike : t.Alike t') (p : Path) :
    ResultsAlike (Option.Rel Entry.Alike) (t.place p) (t'.place p) := by
  have found := find_alike alike p
  have above := find_alike alike p.dropLast
  revert found above
  rw [place,place]
  generalize t.find p = e
  generalize t'.find p = e'
  generalize t.find p.dropLast = d
  generalize t'.find p.dropLast = d'
  rintro (same | e) above
  · exact .ok (.some same)
  · cases e with
    | notFound =>
      simp only
      split
      · exact .error _
      · cases above with
        | ok => exact .ok .none
        | error e => exact .error e
    | _ => exact .error _

theorem read_alike (alike : t.Alike t') (p : Path) : ResultsAlike ContentsAlike (t.read p) (t'.read p) := by
  have found := find_alike alike p
  revert found
  rw [read,read]
  generalize t.find p = e
  generalize t'.find p = e'
  rintro (same | e)
  · cases same with
    | directory => exact .error _
    | file contents => exact .ok contents
  · exact .error e

theorem insert_alike (alike : t.Alike t') (named : p ≠ []) {e e' : Entry} (entries : e.Alike e') :
    (t.insert p e).Alike (t'.insert p e') := by
  intro q
  rw [entry_insert named,entry_insert named]
  split
  · exact .some entries
  · exact alike q

theorem erase_alike (alike : t.Alike t') (named : p ≠ []) : (t.erase p).Alike (t'.erase p) := by
  intro q
  rw [entry_erase named,entry_erase named]
  split
  · exact .none
  · exact alike q

/-! ### Work on trees -/

/-- Steps that write alike contents to the same file, or are the same. -/
inductive Change.Alike : Change → Change → Prop where
  | same (c) : Alike c c
  | write {p bytes bytes'} (contents : ContentsAlike bytes bytes') : Alike (.write p bytes) (.write p bytes')

theorem contentsAlike_refl (bytes : List UInt8) : ContentsAlike bytes bytes := by
  rw [ContentsAlike]
  cases Text.Utf8.decode? bytes with
  | none => exact .none
  | some text => exact .some (optionRel_refl Session.Alike.refl _)

/-- Nothing but a directory is in the place of the root. -/
theorem named_of_place {e : Entry} (placed : t.place p = .ok (some e)) (file : e ≠ .directory) : p ≠ [] := by
  rintro rfl
  exact file (Option.some.inj (Except.ok.inj placed)).symm

theorem named_of_free (placed : t.place p = .ok none) : p ≠ [] := by
  rintro rfl
  cases placed

theorem named_of_read {bytes : List UInt8} (held : t.read p = .ok bytes) : p ≠ [] := by
  rintro rfl
  cases held

theorem makeDirectory_alike (alike : t.Alike t') (p : Path) :
    ResultsAlike Alike (t.makeDirectory p) (t'.makeDirectory p) := by
  have placed := place_alike alike p
  rw [makeDirectory,makeDirectory]
  generalize found : t.place p = r at placed ⊢
  generalize t'.place p = r' at placed ⊢
  cases placed with
  | error e => exact .error e
  | ok same =>
    cases same with
    | none => exact .ok (insert_alike alike (named_of_free found) .directory)
    | some same =>
      cases same with
      | directory => exact .ok alike
      | file => exact .error _

/-- Alike steps on alike trees fail alike, or leave alike trees: no step looks into a file, and none is done in the
    place of the root. -/
theorem apply_alike {c c' : Change} (changes : c.Alike c') (alike : t.Alike t') :
    ResultsAlike Alike (c.apply t) (c'.apply t') := by
  have write {p : Path} {bytes bytes' : List UInt8} (contents : ContentsAlike bytes bytes') :
      ResultsAlike Alike (Change.apply (.write p bytes) t) (Change.apply (.write p bytes') t') := by
    have placed := place_alike alike p
    rw [Change.apply,Change.apply]
    generalize found : t.place p = r at placed ⊢
    generalize t'.place p = r' at placed ⊢
    cases placed with
    | error e => exact .error e
    | ok same =>
      cases same with
      | none => exact .ok (insert_alike alike (named_of_free found) (.file contents))
      | some same =>
        cases same with
        | directory => exact .error _
        | file => exact .ok (insert_alike alike (named_of_place found (by simp)) (.file contents))
  cases changes with
  | write contents => exact write contents
  | same c =>
    cases c with
    | write p bytes => exact write (contentsAlike_refl bytes)
    | makeDirectory p => exact makeDirectory_alike alike p
    | tryDirectory p =>
      have made := makeDirectory_alike alike p
      rw [Change.apply,Change.apply]
      generalize t.makeDirectory p = r at made ⊢
      generalize t'.makeDirectory p = r' at made ⊢
      cases made with
      | ok made => exact .ok made
      | error e => cases e <;> first | exact .ok alike | exact .error _
    | rename source target =>
      have held := read_alike alike source
      have placed := place_alike alike target
      rw [Change.apply,Change.apply]
      generalize there : t.read source = b at held ⊢
      generalize t'.read source = b' at held ⊢
      generalize found : t.place target = r at placed ⊢
      generalize t'.place target = r' at placed ⊢
      cases held with
      | error e => exact .error e
      | ok contents =>
        have moved (named : target ≠ []) :=
          insert_alike (erase_alike alike (named_of_read there)) named (.file contents)
        cases placed with
        | error e => exact .error e
        | ok same =>
          cases same with
          | none => exact .ok (moved (named_of_free found))
          | some same =>
            cases same with
            | directory => exact .error _
            | file => exact .ok (moved (named_of_place found (by simp)))
    | remove p =>
      have held := read_alike alike p
      rw [Change.apply,Change.apply]
      generalize there : t.read p = b at held ⊢
      generalize t'.read p = b' at held ⊢
      cases held with
      | error e => exact .error e
      | ok => exact .ok (erase_alike alike (named_of_read there))

/-- Alike work on alike trees ends alike. -/
theorem run_alike {cs cs' : List Change} (changes : List.Forall₂ Change.Alike cs cs') (alike : t.Alike t') :
    (run cs t).1 = (run cs' t').1 ∧ (run cs t).2.Alike (run cs' t').2 := by
  induction changes generalizing t t' with
  | nil => exact ⟨rfl,alike⟩
  | @cons c c' cs cs' first rest ih =>
    have applied := apply_alike first alike
    revert applied
    rw [run,run]
    generalize c.apply t = r
    generalize c'.apply t' = r'
    rintro (alike | e)
    · exact ih alike
    · exact ⟨rfl,alike⟩

end FileTree

/-! ### The store of one file -/

namespace FileStore

/-- Stores of one file that are the same but for secrets. -/
structure Alike (f f' : FileStore) : Prop where
  path : f.path = f'.path
  disk : f.disk.Alike f'.disk
  cache : Option.Rel (Option.Rel Session.Alike) f.cache f'.cache
  serial : f.serial = f'.serial

variable {f f' : FileStore}

/-- Alike sessions are kept as alike contents. -/
theorem bytes_alike {s s' : Session} (sessions : s.Alike s') : ContentsAlike (bytes s) (bytes s') := by
  rw [ContentsAlike,bytes,bytes,Text.Utf8.decode_encode,Text.Utf8.decode_encode]
  refine .some ?_
  rw [Session.Stored.decode_encode,Session.Stored.decode_encode]
  exact .some sessions

theorem load_alike (alike : f.Alike f') : ResultsAlike (Option.Rel Session.Alike) f.load f'.load := by
  have held := FileTree.read_alike alike.disk f.path
  rw [load,load,← alike.path]
  generalize f.disk.read f.path = r at held ⊢
  generalize f'.disk.read f.path = r' at held ⊢
  cases held with
  | error e => cases e <;> first | exact .ok .none | exact .error _
  | @ok b b' contents =>
    simp only
    rw [ContentsAlike] at contents
    revert contents
    generalize Text.Utf8.decode? b = text
    generalize Text.Utf8.decode? b' = text'
    rintro (same | _)
    · exact .ok same
    · exact .error _

theorem Alike.temporary (alike : f.Alike f') : f.temporary = f'.temporary := by
  rw [FileStore.temporary,FileStore.temporary,alike.path,alike.serial]

theorem Alike.read (alike : f.Alike f') :
    ResultsAlike (Option.Rel Session.Alike) f.read.1 f'.read.1 ∧ f.read.2.Alike f'.read.2 := by
  have cache := alike.cache
  have loaded := load_alike alike
  rw [FileStore.read,FileStore.read]
  generalize kept : f.cache = m at cache ⊢
  generalize kept' : f'.cache = m' at cache ⊢
  cases cache with
  | some same => exact ⟨.ok same,alike⟩
  | none =>
    simp only
    generalize f.load = r at loaded ⊢
    generalize f'.load = r' at loaded ⊢
    cases loaded with
    | ok same => exact ⟨.ok same,alike.path,alike.disk,.some same,alike.serial⟩
    | error e => exact ⟨.error _,alike⟩

theorem Alike.write {s s' : Session} (sessions : s.Alike s') (alike : f.Alike f') :
    (f.write s).1 = (f'.write s').1 ∧ (f.write s).2.Alike (f'.write s').2 := by
  have ancestors : List.Forall₂ FileTree.Change.Alike (FileTree.makeAncestors f.path) (FileTree.makeAncestors f.path) :=
    List.forall₂_same.mpr fun c _ => .same c
  have replacement : List.Forall₂ FileTree.Change.Alike (f.replacement s) (f'.replacement s') := by
    rw [FileStore.replacement,FileStore.replacement,← alike.temporary,← alike.path]
    exact .cons (.write (bytes_alike sessions)) (.cons (.same _) .nil)
  have made := FileTree.run_alike ancestors alike.disk
  rw [FileStore.write,FileStore.write,← alike.temporary,← alike.path,← alike.serial]
  generalize FileTree.run (FileTree.makeAncestors f.path) f.disk = m at made ⊢
  generalize FileTree.run (FileTree.makeAncestors f.path) f'.disk = m' at made ⊢
  obtain ⟨stopped,disk⟩ := m
  obtain ⟨_,disk'⟩ := m'
  obtain ⟨rfl,above⟩ := made
  cases stopped with
  | some e => exact ⟨rfl,rfl,above,alike.cache,rfl⟩
  | none =>
    simp only at above ⊢
    have replaced := FileTree.run_alike replacement above
    generalize FileTree.run (f.replacement s) disk = m at replaced ⊢
    generalize FileTree.run (f'.replacement s') disk' = m' at replaced ⊢
    obtain ⟨stopped,disk⟩ := m
    obtain ⟨_,disk'⟩ := m'
    obtain ⟨rfl,last⟩ := replaced
    cases stopped with
    | none => exact ⟨rfl,rfl,last,.some (.some sessions),rfl⟩
    | some e =>
      have removed := FileTree.run_alike (.cons (.same (.remove f.temporary)) .nil) last
      exact ⟨rfl,rfl,removed.2,alike.cache,rfl⟩

theorem Alike.clear (alike : f.Alike f') : f.clear.1 = f'.clear.1 ∧ f.clear.2.Alike f'.clear.2 := by
  have removed := FileTree.apply_alike (.same (.remove f.path)) alike.disk
  rw [FileStore.clear,FileStore.clear,← alike.path]
  generalize FileTree.Change.apply (.remove f.path) f.disk = r at removed ⊢
  generalize FileTree.Change.apply (.remove f.path) f'.disk = r' at removed ⊢
  cases removed with
  | ok disk => exact ⟨rfl,rfl,disk,.some .none,alike.serial⟩
  | error e =>
    cases e with
    | notFound => exact ⟨rfl,rfl,alike.disk,.some .none,alike.serial⟩
    | _ => exact ⟨rfl,alike⟩

instance : BlindStore FileStore where
  Alike := Alike
  read := Alike.read
  write := Alike.write
  clear := Alike.clear

end FileStore

end PhoneSignIn
