import PhoneSignIn.Proofs.Store.Refinement

/-!
What is left of keeping a session when the process stops on the way. Steps may be `Stopped` before any of them
and within a write, after any part of what is written. Until the temporary file takes the place of the old one,
the tree is only `Raised`: there are new directories above the file, and the temporary file may be there. So the
file is as before or holds the whole new session, and a store opened afterwards answers the one or the other
(`write_atomic`); only a name that is too long, below a directory that was missing, is no longer overlooked.
-/
namespace PhoneSignIn
namespace FileTree

variable {t t' t'' : FileTree} {p q temporary : Path} {e : Entry} {cs cs' : List Change}

/-- The tree that steps leave when they stop: before a step, within a write, or after the last one. -/
inductive Stopped : List Change → FileTree → FileTree → Prop where
  | here {cs : List Change} {t : FileTree} : Stopped cs t t
  | within {p : Path} {bytes : List UInt8} {cs : List Change} {t t' : FileTree} (n : Nat)
      (part : Change.apply (.write p (bytes.take n)) t = .ok t') : Stopped (.write p bytes :: cs) t t'
  | after {c : Change} {cs : List Change} {t t' t'' : FileTree} (done : c.apply t = .ok t')
      (later : Stopped cs t' t'') : Stopped (c :: cs) t t''

/-- Steps that fail have stopped, and so have steps that are done. -/
theorem stopped_run (cs : List Change) (t : FileTree) : Stopped cs t (run cs t).2 := by
  induction cs generalizing t with
  | nil => exact .here
  | cons c cs ih =>
    rw [run]
    cases done : c.apply t with
    | ok t' => exact .after done (ih t')
    | error e => exact .here

theorem Stopped.split (stopped : Stopped (cs ++ cs') t t'') :
    Stopped cs t t'' ∨ ∃ t', run cs t = (none,t') ∧ Stopped cs' t' t'' := by
  induction cs generalizing t with
  | nil => exact .inr ⟨t,rfl,stopped⟩
  | cons c cs ih =>
    cases stopped with
    | here => exact .inl .here
    | within n part => exact .inl (.within n part)
    | after done later =>
      rcases ih later with early | ⟨t',whole,late⟩
      · exact .inl (.after done early)
      · exact .inr ⟨t',by rw [run,done]; exact whole,late⟩

theorem Stopped.early (stopped : Stopped cs t t') : Stopped (cs ++ cs') t t' := by
  induction stopped with
  | here => exact .here
  | within n part => exact .within n part
  | after done _ ih => exact .after done ih

theorem stopped_append (whole : run cs t = (none,t')) (stopped : Stopped cs' t' t'') :
    Stopped (cs ++ cs') t t'' := by
  induction cs generalizing t with
  | nil =>
    obtain ⟨-,rfl⟩ := Prod.mk.inj whole
    exact stopped
  | cons c cs ih =>
    rw [run] at whole
    cases done : c.apply t with
    | ok next =>
      rw [done] at whole
      exact .after done (ih whole)
    | error e =>
      rw [done] at whole
      cases (Prod.mk.inj whole).1

/-! ### New directories above a path -/

/-- A tree with nothing changed but for new directories above `p`, and for what stands at `temporary`. -/
def Raised (p temporary : Path) (t t' : FileTree) : Prop := ∀ q, q ≠ temporary →
  t'.entry? q = t.entry? q ∨ q ∈ ancestors p ∧ t.entry? q = none ∧ t'.entry? q = some .directory

theorem Raised.refl (p temporary : Path) (t : FileTree) : Raised p temporary t t := fun _ _ => .inl rfl

theorem Raised.keeps (raised : Raised p temporary t t') (other : q ≠ temporary) (entry : t.entry? q = some e) :
    t'.entry? q = some e := by
  rcases raised q other with same | ⟨_,missing,_⟩
  · rw [same,entry]
  · rw [missing] at entry
    cases entry

/-- Whatever becomes of the temporary file, nothing else has changed. -/
theorem Raised.trans (raised : Raised p temporary t t')
    (same : ∀ q, q ≠ temporary → t''.entry? q = t'.entry? q) : Raised p temporary t t'' := by
  intro q other
  rw [same q other]
  exact raised q other

/-- A tree is only raised further by a directory above `p`; the root itself is there. -/
theorem Raised.make (raised : Raised p temporary t t') (above : q = [] ∨ q ∈ ancestors p)
    (made : t'.makeDirectory q = .ok t'') : Raised p temporary t t'' := by
  rcases makeDirectory_inv made with rfl | ⟨d,name,rfl,free,rfl⟩
  · exact raised
  · intro r other
    rw [entry_insert (by simp)]
    split_ifs with same
    · subst same
      rcases raised _ other with kept | ⟨_,_,directory⟩
      · exact .inr ⟨above.resolve_left (by simp),kept ▸ free,rfl⟩
      · rw [free] at directory
        cases directory
    · exact raised r other

private theorem raised_of_stopped {qs : List Path} (above : ∀ q ∈ qs, q ∈ ancestors p)
    (raised : Raised p temporary t t') (stopped : Stopped (qs.map .makeDirectory) t' t'') :
    Raised p temporary t t'' := by
  induction qs generalizing t' with
  | nil =>
    cases stopped
    exact raised
  | cons q qs ih =>
    rw [List.map_cons] at stopped
    cases stopped with
    | here => exact raised
    | after done later =>
      exact ih (fun r member => above r (by simp [member])) (raised.make (.inr (above q (by simp))) done) later

theorem dropLast_ancestor (p : Path) : p.dropLast = [] ∨ p.dropLast ∈ ancestors p := by
  rcases List.eq_nil_or_concat' p with rfl | ⟨d,name,rfl⟩
  · exact .inl rfl
  · rw [List.dropLast_concat]
    cases d with
    | nil => exact .inl rfl
    | cons n d => exact .inr (mem_ancestors (List.prefix_refl _) nofun)

theorem raised_ancestors (stopped : Stopped (makeAncestors p) t t') : Raised p temporary t t' := by
  rw [makeAncestors] at stopped
  cases stopped with
  | here => exact .refl p temporary t
  | after tried later =>
    refine raised_of_stopped (fun _ member => member) ?_ later
    rcases apply_tryDirectory_inv tried with rfl | made
    · exact .refl p temporary _
    · exact (Raised.refl p temporary t).make (dropLast_ancestor p) made

/-- Whether all directories above a path could be made or not, nothing else has been done. -/
theorem raised_run {failure : Option FileError} (made : run (makeAncestors p) t = (failure,t')) :
    Raised p temporary t t' := by
  have stopped := stopped_run (makeAncestors p) t
  rw [made] at stopped
  exact raised_ancestors stopped

theorem prefix_of_ancestor (above : q ∈ ancestors p) : q <+: p ∧ q ≠ p := by
  rw [ancestors,List.mem_map] at above
  obtain ⟨n,member,rfl⟩ := above
  rw [List.mem_range'_1] at member
  refine ⟨List.take_prefix n p,fun whole => ?_⟩
  have lengths := congrArg List.length whole
  rw [List.length_take] at lengths
  omega

/-! ### What a path leads to then -/

/-- What is no longer overlooked in `t` once directories are made above `p`: a name that is too long, below a
    directory that is missing. -/
def Overlooks (t : FileTree) (p : Path) : Prop :=
  ∃ q name below, p = q ++ below ∧ q ∈ ancestors p ∧ t.entry? q = none ∧ name ∈ below ∧ isNameTooLong name = true

/-- Below a missing directory nothing is found that was not made on the way. -/
private theorem Raised.descend_missing (raised : Raised p temporary t t') (formed : t.WellFormed)
    (aside : ¬ temporary <+: p) {above below : Path} (split : p = above ++ below) (missing : t.entry? above = none) :
    t'.descend above below = .error .notFound ∨
      t'.descend above below = .error .nameTooLong ∧ ∃ name ∈ below, isNameTooLong name = true := by
  have other : above ≠ temporary := fun same => aside (same ▸ ⟨below,split.symm⟩)
  induction below generalizing above with
  | nil =>
    rw [List.append_nil] at split
    rcases raised above other with same | ⟨made,_,_⟩
    · rw [descend,same,missing]
      exact .inl rfl
    · exact absurd split.symm (prefix_of_ancestor made).2
  | cons name below ih =>
    rcases raised above other with same | ⟨_,_,directory⟩
    · rw [descend,same,missing]
      exact .inl rfl
    · rw [descend,directory]
      simp only
      split_ifs with long
      · exact .inr ⟨rfl,name,by simp,long⟩
      · have further : p = (above ++ [name]) ++ below := by rw [split,List.append_assoc]; rfl
        rcases ih further (formed.missing_below missing [name])
          (fun same => aside (same ▸ ⟨below,further.symm⟩)) with free | ⟨fails,n,member,long⟩
        · exact .inl free
        · exact .inr ⟨fails,n,List.mem_cons_of_mem name member,long⟩

private theorem Raised.descend (raised : Raised p temporary t t') (formed : t.WellFormed)
    (aside : ¬ temporary <+: p) {above below : Path} (split : p = above ++ below) :
    t'.descend above below = t.descend above below ∨
      t.descend above below = .error .notFound ∧ t'.descend above below = .error .nameTooLong ∧ t.Overlooks p := by
  induction below generalizing above with
  | nil =>
    rw [List.append_nil] at split
    rcases raised above (fun same => aside (same ▸ split ▸ List.prefix_refl p)) with same | ⟨made,_,_⟩
    · rw [FileTree.descend,FileTree.descend,same]
      exact .inl rfl
    · exact absurd split.symm (prefix_of_ancestor made).2
  | cons name below ih =>
    rcases raised above (fun same => aside (same ▸ ⟨_,split.symm⟩)) with same | ⟨made,missing,_⟩
    · rw [FileTree.descend,FileTree.descend,same]
      cases entry : t.entry? above with
      | none => exact .inl rfl
      | some e =>
        cases e with
        | file => exact .inl rfl
        | directory =>
          simp only
          split_ifs with long
          · exact .inl rfl
          · exact ih (by rw [split,List.append_assoc]; rfl)
    · have nothing : t.descend above (name :: below) = .error .notFound := by rw [FileTree.descend,missing]
      rcases raised.descend_missing formed aside split missing with free | ⟨fails,n,member,long⟩
      · exact .inl (by rw [free,nothing])
      · exact .inr ⟨nothing,fails,above,n,name :: below,split,made,missing,member,long⟩

/-- New directories above a path do not change what it leads to, unless a name is overlooked before. -/
theorem Raised.find (raised : Raised p temporary t t') (formed : t.WellFormed) (aside : ¬ temporary <+: p) :
    t'.find p = t.find p ∨
      t.find p = .error .notFound ∧ t'.find p = .error .nameTooLong ∧ t.Overlooks p := by
  rw [FileTree.find,FileTree.find]
  cases refusal? p with
  | some e => exact .inl rfl
  | none => exact raised.descend formed aside (List.nil_append p).symm

end FileTree

namespace FileStore

variable {f : FileStore} {path : Path} {disk t t' : FileTree} {s : Session}

/-- The trees that may be left when a session is kept and the process stops: steps have stopped, and the temporary
    file may have been removed because one of them has failed. -/
inductive Interrupted (f : FileStore) (s : Session) : FileTree → Prop where
  | keeping {t : FileTree} (stopped : FileTree.Stopped (f.changes s) f.disk t) : Interrupted f s t
  | removing {t t' : FileTree} (stopped : FileTree.Stopped (f.changes s) f.disk t)
      (removed : FileTree.Change.apply (.remove f.temporary) t = .ok t') : Interrupted f s t'

/-- What a store answers first that is opened on a file. -/
def firstAnswer (path : Path) (disk : FileTree) : Except StorageError (Option Session) :=
  (read { path, disk }).1

theorem firstAnswer_eq : firstAnswer path disk =
    match disk.find path with
    | .ok (.file bytes) =>
      match Text.Utf8.decode? bytes with
      | some text => .ok (Session.Stored.decode text)
      | none => .error (storageError .notText)
    | .ok .directory => .error (storageError .isDirectory)
    | .error .notFound => .ok none
    | .error e => .error (storageError e) := by
  simp only [firstAnswer,read,load,FileTree.read]
  cases disk.find path with
  | error e => cases e <;> rfl
  | ok entry =>
    cases entry with
    | directory => rfl
    | file bytes =>
      simp only
      cases Text.Utf8.decode? bytes <;> rfl

theorem firstAnswer_bytes (found : disk.find path = .ok (.file (bytes s))) : firstAnswer path disk = .ok (some s) := by
  have reads : Text.Utf8.decode? (bytes s) = some (Session.Stored.encode (some s)) := Text.Utf8.decode_encode _
  rw [firstAnswer_eq,found]
  simp only [reads,Session.Stored.decode_encode]

/-- A write that is done, and one that fails, leaves one of the trees that an interruption may leave. -/
theorem interrupted_write (f : FileStore) (s : Session) : f.Interrupted s (f.write s).2.disk := by
  rw [write]
  cases made : FileTree.run (FileTree.makeAncestors f.path) f.disk with
  | mk failure raised =>
    cases failure with
    | some e =>
      have above := FileTree.stopped_run (FileTree.makeAncestors f.path) f.disk
      rw [made] at above
      exact .keeping above.early
    | none =>
      have later := FileTree.stopped_run (f.replacement s) raised
      simp only
      cases replaced : FileTree.run (f.replacement s) raised with
      | mk failure disk =>
        rw [replaced] at later
        have stopped : FileTree.Stopped (f.changes s) f.disk disk := FileTree.stopped_append made later
        cases failure with
        | none => exact .keeping stopped
        | some e =>
          simp only [FileTree.run]
          cases removed : FileTree.Change.apply (.remove f.temporary) disk with
          | ok t => exact .removing stopped removed
          | error e => exact .keeping stopped

/-! ### Before and after the file is replaced -/

theorem temporary_aside (other : f.temporary ≠ f.path) : ¬ f.temporary <+: f.path := by
  intro part
  rcases List.eq_nil_or_concat' f.path with root | ⟨d,name,split⟩
  · rw [root,List.prefix_nil,temporary,root] at part
    cases part
  · refine other (part.eq_of_length ?_)
    rw [temporary,split,List.dropLast_concat,List.length_append,List.length_append]
    rfl

/-- A tree in which the path leads to the whole new session, and that is otherwise only raised. -/
def Replaced (f : FileStore) (s : Session) (t : FileTree) : Prop :=
  t.find f.path = .ok (.file (bytes s)) ∧ ∃ t', FileTree.Raised f.path f.temporary f.disk t' ∧
    ∀ q, q ≠ f.temporary → q ≠ f.path → t.entry? q = t'.entry? q

/-- The whole temporary file, put in the place of the old one. -/
theorem replaced_of_rename (raised : FileTree.Raised f.path f.temporary f.disk t)
    (renamed : FileTree.Change.apply (.rename f.temporary f.path) (t.insert f.temporary (.file (bytes s))) = .ok t') :
    f.Replaced s t' := by
  have named : f.temporary ≠ [] := by simp [temporary]
  rcases List.eq_nil_or_concat' f.path with root | ⟨d,name,split⟩
  · -- the root is a directory, and no file takes its place
    rw [root,FileTree.Change.apply,FileTree.place_root] at renamed
    split at renamed <;> simp_all
  · rw [split] at renamed
    obtain ⟨b,source,there,short,followed,placed⟩ := FileTree.apply_rename_inv renamed
    have whole := FileTree.entry_of_read source
    rw [FileTree.entry_insert named,if_pos rfl] at whole
    have new : t'.entry? (d ++ [name]) = some (.file (bytes s)) := by
      rw [placed,FileTree.entry_insert (by simp),if_pos rfl,whole]
    have same (q : Path) (aside : q ≠ f.temporary) (apart : q ≠ d ++ [name]) : t'.entry? q = t.entry? q := by
      rw [placed,FileTree.entry_insert (by simp),if_neg apart,FileTree.entry_erase named,if_neg aside,
        FileTree.entry_insert named,if_neg aside]
    have above : t'.find d = .ok .directory := by
      refine (FileTree.find_congr fun q part => ?_).trans there
      have aside : q ≠ f.temporary := by
        rw [temporary,split,List.dropLast_concat]
        exact FileTree.ne_of_part part
      rw [same q aside (FileTree.ne_of_part part),FileTree.entry_insert named,if_neg aside]
    refine ⟨?_,t,raised,split ▸ same⟩
    rw [split,FileTree.find_in above followed,short,if_neg (by simp),new]
    rfl

/-- Where steps stop, the tree is raised only or the file is replaced. -/
theorem raised_or_replaced (stopped : FileTree.Stopped (f.changes s) f.disk t) :
    FileTree.Raised f.path f.temporary f.disk t ∨ f.Replaced s t := by
  have beside (t : FileTree) (b : List UInt8) (q : Path) (aside : q ≠ f.temporary) :
      FileTree.entry? (t.insert f.temporary (.file b)) q = t.entry? q := by
    rw [FileTree.entry_insert (by simp [temporary]),if_neg aside]
  rcases stopped.split with early | ⟨above,made,late⟩
  · exact .inl (FileTree.raised_ancestors early)
  · have raised : FileTree.Raised f.path f.temporary f.disk above := FileTree.raised_run made
    cases late with
    | here => exact .inl raised
    | within n part =>
      rw [FileTree.apply_write_inv part]
      exact .inl (raised.trans (beside above _))
    | after wrote last =>
      rw [FileTree.apply_write_inv wrote] at last
      cases last with
      | here => exact .inl (raised.trans (beside above _))
      | after renamed done =>
        cases done
        exact .inr (replaced_of_rename raised renamed)

theorem Interrupted.raised_or_replaced (interrupted : f.Interrupted s t) (other : f.temporary ≠ f.path) :
    FileTree.Raised f.path f.temporary f.disk t ∨ f.Replaced s t := by
  cases interrupted with
  | keeping stopped => exact FileStore.raised_or_replaced stopped
  | @removing left _ stopped removed =>
    have beside (q : Path) (aside : q ≠ f.temporary) : t.entry? q = left.entry? q := by
      rw [FileTree.apply_remove_inv removed,FileTree.entry_erase (by simp [temporary]),if_neg aside]
    rcases FileStore.raised_or_replaced stopped with raised | ⟨found,t',raised,same⟩
    · exact .inl (raised.trans beside)
    · refine .inr ⟨?_,t',raised,fun q aside apart => (beside q aside).trans (same q aside apart)⟩
      rw [← found]
      exact FileTree.find_congr fun q part => beside q fun same => temporary_aside other (same ▸ part)

/-- However keeping a session is interrupted, the file is as before or holds the whole session, whatever else was
    there is unchanged, and the first answer of a store opened afterwards is the one from before or the session. Only
    where a directory above is missing, and a name below it is too long, may a store that answered no session before
    fail because of that name. -/
theorem write_atomic {f : FileStore} (formed : f.disk.WellFormed) (unused : f.disk.entry? f.temporary = none)
    (other : f.temporary ≠ f.path) (s : Session) :
    f.Interrupted s (f.write s).2.disk ∧ ∀ t, f.Interrupted s t →
      (t.entry? f.path = f.disk.entry? f.path ∨ t.entry? f.path = some (.file (bytes s))) ∧
      (∀ q e, q ≠ f.path → f.disk.entry? q = some e → t.entry? q = some e) ∧
      (firstAnswer f.path t = firstAnswer f.path f.disk ∨ firstAnswer f.path t = .ok (some s) ∨
        firstAnswer f.path f.disk = .ok none ∧ firstAnswer f.path t = .error ⟨"File name too long"⟩ ∧
          f.disk.Overlooks f.path) := by
  refine ⟨f.interrupted_write s,fun t interrupted => ?_⟩
  have used {q : Path} {e : Entry} (entry : f.disk.entry? q = some e) : q ≠ f.temporary := by
    rintro rfl
    rw [unused] at entry
    cases entry
  rcases interrupted.raised_or_replaced other with raised | ⟨found,t',raised,same⟩
  · refine ⟨.inl ?_,fun q e _ entry => raised.keeps (used entry) entry,?_⟩
    · rcases raised _ other.symm with same | ⟨above,_⟩
      · exact same
      · exact absurd rfl (FileTree.prefix_of_ancestor above).2
    · rcases raised.find formed (temporary_aside other) with same | ⟨missing,long,overlooks⟩
      · exact .inl (by rw [firstAnswer_eq,firstAnswer_eq,same])
      · exact .inr (.inr ⟨by rw [firstAnswer_eq,missing],by rw [firstAnswer_eq,long]; rfl,overlooks⟩)
  · refine ⟨.inr (FileTree.entry_of_find found),fun q e apart entry => ?_,.inr (.inl (firstAnswer_bytes found))⟩
    rw [same q (used entry) apart]
    exact raised.keeps (used entry) entry

/-- The directory above is made, and half of the temporary file is written. -/
theorem half_session_left :
    let f : FileStore := { path := ["home","session.json"], disk := {}, serial := 7 }
    let s := Session.guest ⟨"t","s"⟩
    let t := (({} : FileTree).insert ["home"] .directory).insert f.temporary (.file ((bytes s).take 9))
    f.disk.WellFormed ∧ f.disk.entry? f.temporary = none ∧ f.temporary ≠ f.path ∧ f.Interrupted s t ∧
      (firstAnswer f.path t = .ok none ∨ firstAnswer f.path t = .ok (some s) ∨ f.disk.Overlooks f.path) := by
  intro f s t
  have formed : f.disk.WellFormed := FileTree.WellFormed.empty
  have other : f.temporary ≠ f.path := by decide +kernel
  let above := ({} : FileTree).insert ["home"] .directory
  have tried : FileTree.Change.apply (.tryDirectory ["home"]) f.disk = .ok above := by decide +kernel
  have made : FileTree.Change.apply (.makeDirectory ["home"]) above = .ok above := by decide +kernel
  have interrupted : f.Interrupted s t := .keeping (.after tried (.after made (.within 9 (by decide +kernel))))
  refine ⟨formed,rfl,other,interrupted,?_⟩
  rcases ((write_atomic formed rfl other s).2 t interrupted).2.2 with same | new | ⟨_,_,overlooks⟩
  · exact .inl (same.trans (by decide +kernel))
  · exact .inr (.inl new)
  · exact .inr (.inr overlooks)

/-- Below a directory that was missing, a name that is too long is no longer overlooked once the directory is made:
    a store that answered that there is no session fails. -/
theorem long_name_uncovered :
    let f : FileStore := { path := ["d",String.ofList (List.replicate 300 'a'),"s.json"], disk := {}, serial := 7 }
    let s := Session.guest ⟨"t","s"⟩
    let t := ({} : FileTree).insert ["d"] .directory
    f.disk.WellFormed ∧ f.disk.entry? f.temporary = none ∧ f.temporary ≠ f.path ∧ f.Interrupted s t ∧
      (f.write s).2.disk = t ∧ firstAnswer f.path f.disk = .ok none ∧
      firstAnswer f.path t = .error ⟨"File name too long"⟩ := by
  intro f s t
  have tried : FileTree.Change.apply (.tryDirectory f.path.dropLast) f.disk = .ok f.disk := by decide +kernel
  have made : FileTree.Change.apply (.makeDirectory ["d"]) f.disk = .ok t := by decide +kernel
  exact ⟨FileTree.WellFormed.empty,rfl,by decide +kernel,.keeping (.after tried (.after made .here)),
    by decide +kernel,by decide +kernel,by decide +kernel⟩

end FileStore
end PhoneSignIn
