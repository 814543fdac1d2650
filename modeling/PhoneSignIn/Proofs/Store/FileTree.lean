import Mathlib.Data.List.Basic
import Mathlib.Data.List.Induction
import PhoneSignIn.Store.FileTree

/-!
What changes do to a tree. A tree is `WellFormed` when all that is in it lies in a directory; there, a `Way`
along which nothing stands that is no directory leads to whatever has its path (`find_way`). So all directories
of a way can be made (`run_makeAncestors`), and a file at its end can be put in place of an old one through a
temporary file (`run_replace`), taken away and read; everything else stays. Conversely, in any tree, a change that
succeeds has done one thing only (`apply_rename_inv` and the like).
-/
namespace PhoneSignIn.FileTree

variable {t t' : FileTree} {p q d : Path} {e : Entry} {name temporary last : String} {bytes : List UInt8}

/-! ### Entries -/

private theorem lookup_filter_self (l : List (Path × Entry)) : (l.filter (·.1 ≠ p)).lookup p = none := by
  rw [List.lookup_eq_none_iff]
  intro entry member
  have other : entry.1 ≠ p := by simpa using (List.mem_filter.mp member).2
  exact bne_iff_ne.mpr other.symm

private theorem lookup_filter_other (l : List (Path × Entry)) (other : q ≠ p) :
    (l.filter (·.1 ≠ p)).lookup q = l.lookup q := by
  induction l with
  | nil => rfl
  | cons entry l ih =>
    obtain ⟨r,e⟩ := entry
    rw [List.filter_cons,List.lookup_cons]
    split_ifs with kept
    · rw [List.lookup_cons,ih]
    · have skipped : r = p := by simpa using kept
      rw [skipped,beq_false_of_ne other,ih]

@[simp] theorem entry_root : t.entry? [] = some .directory := rfl

theorem entry_erase (named : p ≠ []) : entry? (t.erase p) q = if q = p then none else t.entry? q := by
  cases q with
  | nil => simp [named.symm]
  | cons name q =>
    simp only [ entry?,erase]
    split_ifs with same
    · rw [same]
      exact lookup_filter_self t.entries
    · exact lookup_filter_other t.entries same

theorem entry_insert (named : p ≠ []) : entry? (t.insert p e) q = if q = p then some e else t.entry? q := by
  cases q with
  | nil => simp [named.symm]
  | cons name q =>
    simp only [ entry?,insert,List.lookup_cons]
    split_ifs with same
    · simp [same]
    · rw [beq_false_of_ne same]
      exact lookup_filter_other t.entries same

/-! ### Well-formed trees -/

/-- Everything in the tree lies in a directory. -/
def WellFormed (t : FileTree) : Prop := ∀ p e, t.entry? p = some e → t.entry? p.dropLast = some .directory

theorem WellFormed.empty : WellFormed {} := by
  intro p e entry
  cases p with
  | nil => rfl
  | cons name p => cases entry

/-- Below a path that leads nowhere there is nothing. -/
theorem WellFormed.missing_below (formed : t.WellFormed) (missing : t.entry? p = none) (below : Path) :
    t.entry? (p ++ below) = none := by
  induction below using List.reverseRecOn with
  | nil => simpa using missing
  | append_singleton below name ih =>
    cases entry : t.entry? (p ++ (below ++ [name])) with
    | none => rfl
    | some e =>
      have parent := formed _ _ entry
      rw [← List.append_assoc,List.dropLast_concat,ih] at parent
      cases parent

/-- A new entry in a directory keeps a tree well formed, unless it stands in a directory's place. -/
theorem WellFormed.insert (formed : t.WellFormed) (there : t.entry? d = some .directory)
    (free : t.entry? (d ++ [name]) = some .directory → e = .directory) : (t.insert (d ++ [name]) e).WellFormed := by
  have named : d ++ [name] ≠ [] := by simp
  have parent : d ≠ d ++ [name] := by simp
  intro q e' entry
  rw [entry_insert named] at entry ⊢
  by_cases same : q = d ++ [name]
  · rw [same,List.dropLast_concat,if_neg parent]
    exact there
  · rw [if_neg same] at entry
    have above := formed q e' entry
    split_ifs with placed
    · rw [free (placed ▸ above)]
    · exact above

/-- A tree stays well formed without a file. -/
theorem WellFormed.erase (formed : t.WellFormed) (named : p ≠ []) (file : t.entry? p ≠ some .directory) :
    (t.erase p).WellFormed := by
  intro q e entry
  rw [entry_erase named] at entry ⊢
  split_ifs at entry
  have above := formed q e entry
  have other : q.dropLast ≠ p := fun same => file (same ▸ above)
  rw [if_neg other]
  exact above

/-! ### Paths that are followed -/

private theorem nul_of_octet {c : Char} (octet : 0 ∈ String.utf8EncodeChar c) : c = '\x00' := by
  have zero (n : Nat) : (0 : UInt8) = UInt8.ofNat n ↔ n % 256 = 0 := by
    rw [← UInt8.toNat_inj,UInt8.toNat_ofNat',UInt8.toNat_zero,eq_comm]
  simp only [String.utf8EncodeChar] at octet
  split_ifs at octet with short
  · rw [List.mem_singleton,zero] at octet
    exact Char.toNat_inj.mp (show c.val.toNat = 0 by omega)
  -- the octets of all other characters are 128 and above
  all_goals
    simp only [List.mem_cons,List.not_mem_nil,or_false,zero] at octet
    omega

theorem hasNul_iff (name : String) : hasNul name = true ↔ '\x00' ∈ name.toList := by
  rw [hasNul,← String.utf8Encode_toList,List.utf8Encode,List.toList_data_toByteArray,List.contains_iff_mem,
    List.mem_flatMap]
  constructor
  · rintro ⟨c,member,octet⟩
    exact nul_of_octet octet ▸ member
  · intro member
    exact ⟨'\x00',member,by decide⟩

theorem octets_append (p q : Path) : octets (p ++ q) = octets p + octets q := by
  induction p with
  | nil => rw [List.nil_append,octets,Nat.zero_add]
  | cons name p ih => rw [List.cons_append,octets,octets,ih,← Nat.add_assoc]

theorem refusal_kind {e : FileError} (refused : refusal? p = some e) : e = .nulCharacter ∨ e = .nameTooLong := by
  rw [refusal?] at refused
  split_ifs at refused
  · exact .inl (Option.some.inj refused).symm
  · exact .inr (Option.some.inj refused).symm

/-- A path is followed when a longer one is. -/
theorem followed_part (part : q <+: p) (followed : refusal? p = none) : refusal? q = none := by
  obtain ⟨rest,rfl⟩ := part
  simp only [refusal?,List.any_append,isPathTooLong,octets_append] at followed ⊢
  split_ifs at followed with nul long
  rw [if_neg fun here => nul (by rw [here,Bool.true_or])]
  simp only [decide_eq_true_eq] at long ⊢
  rw [if_neg (by omega)]

/-! ### What a path leads to -/

/-- Where a path leads depends only on what stands along it. -/
theorem descend_congr {above below : Path} (same : ∀ q, q <+: below → t'.entry? (above ++ q) = t.entry? (above ++ q)) :
    t'.descend above below = t.descend above below := by
  induction below generalizing above with
  | nil =>
    have here := same [] List.nil_prefix
    rw [List.append_nil] at here
    rw [descend,descend,here]
  | cons name below ih =>
    have here := same [] List.nil_prefix
    rw [List.append_nil] at here
    have further : t'.descend (above ++ [name]) below = t.descend (above ++ [name]) below := by
      refine ih fun q part => ?_
      rw [List.append_assoc]
      exact same (name :: q) ((List.prefix_cons_inj name).mpr part)
    rw [descend,descend,here,further]

theorem find_congr (same : ∀ q, q <+: p → t'.entry? q = t.entry? q) : t'.find p = t.find p := by
  have whole : t'.descend [] p = t.descend [] p := descend_congr same
  rw [find,find,whole]

/-- A path is gone down part by part. -/
theorem descend_append (above below rest : Path) : t.descend above (below ++ rest) =
    match t.descend above below with
    | .ok _ => t.descend (above ++ below) rest
    | .error e => .error e := by
  induction below generalizing above with
  | nil =>
    rw [List.nil_append,List.append_nil,descend]
    cases here : t.entry? above with
    | some e => rfl
    | none => cases rest <;> simp [descend,here]
  | cons name below ih =>
    rw [List.cons_append,descend,descend]
    cases t.entry? above with
    | none => rfl
    | some e =>
      cases e with
      | file => rfl
      | directory =>
        simp only
        split_ifs
        · rfl
        · rw [ih,List.append_assoc]
          rfl

theorem followed_of_find (found : t.find p = .ok e) : refusal? p = none := by
  rw [find] at found
  split at found
  · cases found
  · assumption

theorem find_append (p rest : Path) (followed : refusal? (p ++ rest) = none) : t.find (p ++ rest) =
    match t.find p with
    | .ok _ => t.descend p rest
    | .error e => .error e := by
  rw [find,find,followed,followed_part (List.prefix_append p rest) followed]
  exact descend_append [] p rest

/-- A path leads to what has it. -/
theorem entry_of_find (found : t.find p = .ok e) : t.entry? p = some e := by
  have whole := find_append (t := t) p [] (by simpa using followed_of_find found)
  rw [List.append_nil,found] at whole
  simp only [descend] at whole
  cases entry : t.entry? p with
  | none => simp [entry] at whole
  | some e' => simpa [entry] using whole.symm

theorem followed_of_read (read : t.read p = .ok bytes) : refusal? p = none := by
  rw [FileTree.read] at read
  split at read
  · exact followed_of_find ‹_›
  · cases read
  · cases read

/-- What is read is the file that has the path. -/
theorem entry_of_read (read : t.read p = .ok bytes) : t.entry? p = some (.file bytes) := by
  rw [FileTree.read] at read
  split at read
  · rename_i found
    rw [entry_of_find found,Except.ok.inj read]
  · cases read
  · cases read

/-- In a directory that a path leads to there is what has the longer path, unless the name is too long. -/
theorem find_in (there : t.find d = .ok .directory) (followed : refusal? (d ++ [name]) = none) :
    t.find (d ++ [name]) =
      if isNameTooLong name then .error .nameTooLong
      else (t.entry? (d ++ [name])).elim (.error .notFound) .ok := by
  rw [find_append d [name] followed,there]
  simp only [descend,entry_of_find there]
  split_ifs
  · rfl
  · cases t.entry? (d ++ [name]) <;> rfl

@[simp] theorem place_root : t.place [] = .ok (some .directory) := rfl

/-- A place has a path that is followed. -/
theorem followed_of_place {entry : Option Entry} (placed : t.place p = .ok entry) : refusal? p = none := by
  rw [place,find] at placed
  cases refused : refusal? p with
  | none => rfl
  | some e => rcases refusal_kind refused with rfl | rfl <;> simp [refused] at placed

/-- A place is in a directory, and its name is not too long. -/
theorem place_inv {entry : Option Entry} (placed : t.place (d ++ [name]) = .ok entry) :
    t.find d = .ok .directory ∧ isNameTooLong name = false ∧ t.entry? (d ++ [name]) = entry := by
  have followed := followed_of_place placed
  rw [place,List.getLastD_concat,List.dropLast_concat] at placed
  have whole := find_append (t := t) d [name] followed
  cases found : t.find d with
  | error e =>
    rw [found] at whole
    rw [whole] at placed
    cases e <;> simp [found] at placed
  | ok above =>
    cases above with
    | file =>
      rw [found] at whole
      simp only [descend,entry_of_find found] at whole
      simp [whole] at placed
    | directory =>
      rw [find_in found followed] at placed
      by_cases long : isNameTooLong name = true
      · rw [if_pos long] at placed
        cases placed
      · rw [if_neg long] at placed
        refine ⟨rfl,by simpa using long,?_⟩
        cases here : t.entry? (d ++ [name]) with
        | some e =>
          rw [here] at placed
          exact Except.ok.inj placed
        | none =>
          simp only [here,Option.elim_none,found] at placed
          split_ifs at placed
          exact Except.ok.inj placed

/-! ### Ways -/

/-- A name that a file or directory can have. -/
def Fits (name : String) : Prop := name ≠ "" ∧ isNameTooLong name = false ∧ '\x00' ∉ name.toList

instance (name : String) : Decidable (Fits name) := inferInstanceAs (Decidable (_ ∧ _))

/-- A path that a file or directory can have. -/
structure FitsAll (p : Path) : Prop where
  names : ∀ name ∈ p, Fits name
  short : isPathTooLong p = false

theorem FitsAll.followed (fits : FitsAll p) : refusal? p = none := by
  have clean : p.any hasNul = false := by
    rw [List.any_eq_false]
    intro name member
    rw [hasNul_iff]
    exact (fits.names name member).2.2
  rw [refusal?,clean,fits.short,if_neg Bool.false_ne_true,if_neg Bool.false_ne_true]

theorem FitsAll.part (fits : FitsAll p) (part : q <+: p) : FitsAll q where
  names name member := fits.names name (part.subset member)
  short := by
    have followed := followed_part part fits.followed
    rw [refusal?] at followed
    split_ifs at followed with _ long
    simpa using long

theorem FitsAll.above (fits : FitsAll (d ++ [name])) : FitsAll d := fits.part ⟨[name],rfl⟩

theorem FitsAll.lowest (fits : FitsAll (d ++ [name])) : Fits name := fits.names name (by simp)

/-- A path along which there are directories or nothing. -/
def Way (t : FileTree) (d : Path) : Prop := ∀ q, q <+: d → t.entry? q = some .directory ∨ t.entry? q = none

theorem Way.part (way : t.Way d) (part : q <+: d) : t.Way q := fun r above => way r (above.trans part)

/-- A way stays one as long as nothing on it changes. -/
theorem Way.unchanged (way : t.Way d) (same : ∀ q, q <+: d → t'.entry? q = t.entry? q) : t'.Way d := by
  intro q part
  rw [same q part]
  exact way q part

private theorem descend_eq (formed : t.WellFormed) {above below : Path} (fits : ∀ name ∈ below, Fits name)
    (free : ∀ q name rest, below = q ++ name :: rest →
      t.entry? (above ++ q) = some .directory ∨ t.entry? (above ++ q) = none) :
    t.descend above below = (t.entry? (above ++ below)).elim (.error .notFound) .ok := by
  induction below generalizing above with
  | nil =>
    rw [descend,List.append_nil]
    cases t.entry? above <;> rfl
  | cons name below ih =>
    have here := free [] name below rfl
    rw [List.append_nil] at here
    rw [descend]
    rcases here with directory | missing
    · have short : isNameTooLong name = false := (fits name (by simp)).2.1
      rw [directory]
      simp only [short,Bool.false_eq_true,if_false]
      rw [ih (fun n member => fits n (by simp [member]))
        (fun q n rest split => by simpa using free (name :: q) n rest (by simp [split])),List.append_assoc]
      rfl
    · rw [missing,formed.missing_below missing]
      rfl

/-- A way leads to what has its path. -/
theorem find_way (formed : t.WellFormed) (way : t.Way d) (fits : FitsAll (d ++ [name])) :
    t.find (d ++ [name]) = (t.entry? (d ++ [name])).elim (.error .notFound) .ok := by
  rw [find,fits.followed]
  simp only
  rw [descend_eq formed fits.names,List.nil_append]
  intro q n rest split
  have shorter : q.length ≤ d.length := by
    have lengths := congrArg List.length split
    simp only [List.length_append,List.length_cons,List.length_nil] at lengths
    omega
  rw [List.nil_append]
  exact way q (List.prefix_of_prefix_length_le ⟨n :: rest,split.symm⟩ ⟨[name],rfl⟩ shorter)

theorem find_directory (formed : t.WellFormed) (way : t.Way d) (fits : FitsAll d)
    (there : t.entry? d = some .directory) : t.find d = .ok .directory := by
  induction d using List.reverseRecOn with
  | nil => rfl
  | append_singleton d name _ =>
    rw [find_way formed (way.part ⟨[name],rfl⟩) fits,there]
    rfl

/-- In the directory at the end of a way there is a place for every path that fits. -/
theorem place_way (formed : t.WellFormed) (way : t.Way d) (there : t.entry? d = some .directory)
    (fits : FitsAll (d ++ [name])) : t.place (d ++ [name]) = .ok (t.entry? (d ++ [name])) := by
  rw [place,find_way formed way fits]
  cases t.entry? (d ++ [name]) with
  | some e => rfl
  | none =>
    simp only [Option.elim_none,List.getLastD_concat,List.dropLast_concat,find_directory formed way fits.above there]
    rw [if_neg fits.lowest.1]

theorem read_way (formed : t.WellFormed) (way : t.Way d) (fits : FitsAll (d ++ [name]))
    (file : t.entry? (d ++ [name]) = some (.file bytes)) : t.read (d ++ [name]) = .ok bytes := by
  rw [read,find_way formed way fits,file]
  rfl

theorem read_missing (formed : t.WellFormed) (way : t.Way d) (fits : FitsAll (d ++ [name]))
    (missing : t.entry? (d ++ [name]) = none) : t.read (d ++ [name]) = .error .notFound := by
  rw [read,find_way formed way fits,missing]
  rfl

/-! ### Directories -/

theorem run_append (cs cs' : List Change) : run (cs ++ cs') t =
    match run cs t with
    | (none,t) => run cs' t
    | (some e,t) => (some e,t) := by
  induction cs generalizing t with
  | nil => rfl
  | cons c cs ih =>
    rw [List.cons_append,run,run]
    cases c.apply t with
    | ok t => exact ih
    | error e => rfl

theorem ancestors_concat (d : Path) (name last : String) :
    ancestors (d ++ [name] ++ [last]) = ancestors (d ++ [name]) ++ [d ++ [name]] := by
  have shorter (n : Nat) (member : n ∈ List.range' 1 (d.length + 1)) :
      (d ++ [name] ++ [last]).take n = (d ++ [name]).take n := by
    rw [List.mem_range'_1] at member
    exact List.take_append_of_le_length (by rw [List.length_append,List.length_singleton]; omega)
  rw [ancestors,ancestors]
  simp only [List.length_append,List.length_singleton,Nat.add_sub_cancel]
  rw [List.map_congr_left shorter,List.range'_1_concat]
  have whole : (d ++ [name]).take (1 + d.length) = d ++ [name] := List.take_of_length_le (by simp [Nat.add_comm])
  simp only [List.map_append,List.map_cons,List.map_nil,whole]

/-- What is between the root and a place in a directory: the directory, and what is on the way to it. -/
theorem mem_ancestors (part : q <+: d) (below : q ≠ []) : q ∈ ancestors (d ++ [last]) := by
  rw [ancestors,List.mem_map]
  refine ⟨q.length,List.mem_range'_1.mpr ⟨List.length_pos_iff.mpr below,?_⟩,?_⟩
  · rw [List.length_append,List.length_singleton,Nat.add_sub_cancel]
    have shorter := part.length_le
    omega
  · rw [List.take_append_of_le_length part.length_le]
    exact (List.prefix_iff_eq_take.mp part).symm

/-- A directory on a way can be made where the way so far leads to one. -/
theorem apply_makeDirectory (formed : t.WellFormed) (way : t.Way (d ++ [name])) (fits : FitsAll (d ++ [name]))
    (there : t.entry? d = some .directory) : ∃ t', t.makeDirectory (d ++ [name]) = .ok t' ∧
      t'.WellFormed ∧ ∀ q, t'.entry? q = if q = d ++ [name] then some .directory else t.entry? q := by
  have placed := place_way formed (way.part ⟨[name],rfl⟩) there fits
  rcases way _ (List.prefix_refl _) with directory | missing
  · refine ⟨t,by rw [makeDirectory,placed,directory],formed,fun q => ?_⟩
    split_ifs with same
    · rw [same,directory]
    · rfl
  · exact ⟨t.insert (d ++ [name]) .directory,by rw [makeDirectory,placed,missing],formed.insert there fun _ => rfl,
      fun q => entry_insert (by simp)⟩

/-- The directory at the end of a way is made when the one above it is there, and otherwise nothing is. -/
theorem apply_tryDirectory (formed : t.WellFormed) (way : t.Way d) (fits : FitsAll d) :
    ∃ t', Change.apply (.tryDirectory d) t = .ok t' ∧ t'.WellFormed ∧ t'.Way d ∧
      ∀ q, q ≠ d → t'.entry? q = t.entry? q := by
  rcases List.eq_nil_or_concat' d with rfl | ⟨d,name,rfl⟩
  · exact ⟨t,rfl,formed,way,fun _ _ => rfl⟩
  · rcases way d ⟨[name],rfl⟩ with there | missing
    · obtain ⟨t',made,formed',entries⟩ := apply_makeDirectory formed way fits there
      refine ⟨t',by rw [Change.apply,made],formed',fun q part => ?_,fun q other => by rw [entries,if_neg other]⟩
      rw [entries]
      split_ifs
      · exact .inl rfl
      · exact way q part
    · have above : t.find d = .error .notFound := by
        rcases List.eq_nil_or_concat' d with rfl | ⟨d,last,rfl⟩
        · cases missing
        · rw [find_way formed ((way.part ⟨[name],rfl⟩).part ⟨[last],rfl⟩) fits.above,missing]
          rfl
      have nowhere : t.place (d ++ [name]) = .error .notFound := by
        rw [place,find_way formed (way.part ⟨[name],rfl⟩) fits,formed.missing_below missing]
        simp only [Option.elim_none,List.getLastD_concat,List.dropLast_concat,above]
        split_ifs <;> rfl
      exact ⟨t,by rw [Change.apply,makeDirectory,nowhere],formed,way,fun _ _ => rfl⟩

/-- All directories of a way can be made one after the other, and nothing else changes. -/
theorem run_directories (formed : t.WellFormed) (way : t.Way d) (fits : FitsAll d) (last : String) :
    ∃ t', run ((ancestors (d ++ [last])).map .makeDirectory) t = (none,t') ∧ t'.WellFormed ∧
      ∀ q, t'.entry? q = if q <+: d then some .directory else t.entry? q := by
  induction d using List.reverseRecOn generalizing last with
  | nil =>
    refine ⟨t,rfl,formed,fun q => ?_⟩
    split_ifs with root
    · rw [List.prefix_nil.mp root,entry_root]
    · rfl
  | append_singleton d name ih =>
    obtain ⟨above,made,formed',entries⟩ := ih (way.part ⟨[name],rfl⟩) fits.above name
    have way' : above.Way (d ++ [name]) := by
      intro q part
      rw [entries]
      split_ifs
      · exact .inl rfl
      · exact way q part
    have there : above.entry? d = some .directory := by rw [entries,if_pos (List.prefix_refl d)]
    obtain ⟨t',applied,formed'',entries'⟩ := apply_makeDirectory formed' way' fits there
    refine ⟨t',?_,formed'',fun q => ?_⟩
    · rw [ancestors_concat,List.map_append,run_append,made]
      simp [run,Change.apply,applied]
    · simp only [entries',entries,List.prefix_concat_iff]
      split_ifs <;> simp_all

/-- All directories of a way can be made, and nothing else changes. -/
theorem run_makeAncestors (formed : t.WellFormed) (way : t.Way d) (fits : FitsAll d) (last : String) :
    ∃ t', run (makeAncestors (d ++ [last])) t = (none,t') ∧ t'.WellFormed ∧
      ∀ q, t'.entry? q = if q <+: d then some .directory else t.entry? q := by
  obtain ⟨tried,applied,formed',way',same⟩ := apply_tryDirectory formed way fits
  obtain ⟨t',made,formed'',entries⟩ := run_directories formed' way' fits last
  refine ⟨t',by rw [makeAncestors,List.dropLast_concat,run,applied]; exact made,formed'',fun q => ?_⟩
  rw [entries]
  split_ifs with part
  · rfl
  · exact same q fun here => part (here ▸ List.prefix_refl q)

/-! ### Files -/

private theorem named : d ++ [name] ≠ [] := by simp

/-- What is on the way to a directory is not in it. -/
theorem ne_of_part (part : q <+: d) : q ≠ d ++ [name] := by
  rintro rfl
  exact absurd part.length_le (by simp)

private theorem missing_or_file (file : t.entry? p ≠ some .directory) :
    t.entry? p = none ∨ ∃ bytes, t.entry? p = some (.file bytes) := by
  cases entry : t.entry? p with
  | none => exact .inl rfl
  | some e =>
    cases e with
    | directory => exact absurd entry file
    | file bytes => exact .inr ⟨bytes,rfl⟩

/-- A file in a directory is given octets, or made with them. -/
theorem apply_write (formed : t.WellFormed) (way : t.Way d) (there : t.entry? d = some .directory)
    (fits : FitsAll (d ++ [name])) (file : t.entry? (d ++ [name]) ≠ some .directory) (bytes : List UInt8) :
    ∃ t', Change.apply (.write (d ++ [name]) bytes) t = .ok t' ∧ t'.WellFormed ∧
      ∀ q, t'.entry? q = if q = d ++ [name] then some (.file bytes) else t.entry? q := by
  refine ⟨t.insert (d ++ [name]) (.file bytes),?_,formed.insert there fun directory => absurd directory file,
    fun q => entry_insert named⟩
  rw [Change.apply,place_way formed way there fits]
  rcases missing_or_file file with missing | ⟨_,old⟩
  · rw [missing]
  · rw [old]

/-- A file takes the place of another one, or a free one, in the same directory. -/
theorem apply_rename (formed : t.WellFormed) (way : t.Way d) (there : t.entry? d = some .directory)
    (fits : FitsAll (d ++ [name])) (fits' : FitsAll (d ++ [temporary]))
    (source : t.entry? (d ++ [temporary]) = some (.file bytes)) (file : t.entry? (d ++ [name]) ≠ some .directory) :
    ∃ t', Change.apply (.rename (d ++ [temporary]) (d ++ [name])) t = .ok t' ∧ t'.WellFormed ∧ ∀ q, t'.entry? q =
      if q = d ++ [name] then some (.file bytes) else if q = d ++ [temporary] then none else t.entry? q := by
  have formed' : (t.erase (d ++ [temporary])).WellFormed := formed.erase named (by simp [source])
  have there' : entry? (t.erase (d ++ [temporary])) d = some .directory := by
    rw [entry_erase named,if_neg (ne_of_part (List.prefix_refl d)),there]
  refine ⟨(t.erase (d ++ [temporary])).insert (d ++ [name]) (.file bytes),?_,
    formed'.insert there' fun directory => ?_,fun q => ?_⟩
  · rw [Change.apply,read_way formed way fits' source,place_way formed way there fits]
    rcases missing_or_file file with missing | ⟨_,old⟩
    · rw [missing]
    · rw [old]
  · rw [entry_erase named] at directory
    split_ifs at directory
    exact absurd directory file
  · rw [entry_insert named,entry_erase named]

/-- Through a temporary file, octets get into the place of a file that may be there; nothing else changes, and
    the temporary file is gone. -/
theorem run_replace (formed : t.WellFormed) (way : t.Way d) (there : t.entry? d = some .directory)
    (fits : FitsAll (d ++ [name])) (fits' : FitsAll (d ++ [temporary]))
    (file : t.entry? (d ++ [name]) ≠ some .directory) (file' : t.entry? (d ++ [temporary]) ≠ some .directory)
    (bytes : List UInt8) :
    ∃ t', run [.write (d ++ [temporary]) bytes,.rename (d ++ [temporary]) (d ++ [name])] t = (none,t') ∧
      t'.WellFormed ∧ ∀ q, t'.entry? q =
        if q = d ++ [name] then some (.file bytes) else if q = d ++ [temporary] then none else t.entry? q := by
  obtain ⟨written,wrote,formed',entries⟩ := apply_write formed way there fits' file' bytes
  have same (q : Path) (part : q <+: d) : written.entry? q = t.entry? q := by
    rw [entries,if_neg (ne_of_part part)]
  have there' : written.entry? d = some .directory := (same d (List.prefix_refl d)).trans there
  have file_written : written.entry? (d ++ [name]) ≠ some .directory := by
    rw [entries]
    split_ifs
    · simp
    · exact file
  obtain ⟨t',renamed,formed'',entries'⟩ := apply_rename formed' (way.unchanged same) there' fits fits'
    (by rw [entries,if_pos rfl]) file_written
  refine ⟨t',?_,formed'',fun q => ?_⟩
  · rw [run,wrote]
    simp only [run,renamed]
  · rw [entries',entries]
    split_ifs <;> rfl

/-- A file at the end of a way can be removed, and nothing else changes. -/
theorem apply_remove (formed : t.WellFormed) (way : t.Way d) (fits : FitsAll (d ++ [name]))
    (file : t.entry? (d ++ [name]) = some (.file bytes)) : ∃ t', Change.apply (.remove (d ++ [name])) t = .ok t' ∧
      t'.WellFormed ∧ ∀ q, t'.entry? q = if q = d ++ [name] then none else t.entry? q := by
  refine ⟨t.erase (d ++ [name]),?_,formed.erase named (by simp [file]),fun q => entry_erase named⟩
  rw [Change.apply,read_way formed way fits file]

theorem apply_remove_missing (formed : t.WellFormed) (way : t.Way d) (fits : FitsAll (d ++ [name]))
    (missing : t.entry? (d ++ [name]) = none) : Change.apply (.remove (d ++ [name])) t = .error .notFound := by
  rw [Change.apply,read_missing formed way fits missing]

/-! ### What a change that succeeds has done -/

theorem makeDirectory_inv (made : t.makeDirectory p = .ok t') : t' = t ∨
    ∃ d name, p = d ++ [name] ∧ t.entry? p = none ∧ t' = t.insert p .directory := by
  rcases List.eq_nil_or_concat' p with rfl | ⟨d,name,rfl⟩
  · exact .inl (Except.ok.inj made).symm
  · rw [makeDirectory] at made
    split at made
    · rename_i placed
      exact .inr ⟨d,name,rfl,(place_inv placed).2.2,(Except.ok.inj made).symm⟩
    · exact .inl (Except.ok.inj made).symm
    · cases made
    · cases made

/-- A directory that was tried has been made, or nothing has. -/
theorem apply_tryDirectory_inv (tried : Change.apply (.tryDirectory p) t = .ok t') :
    t' = t ∨ t.makeDirectory p = .ok t' := by
  rw [Change.apply] at tried
  split at tried
  · exact .inl (Except.ok.inj tried).symm
  · exact .inr tried

theorem apply_write_inv (wrote : Change.apply (.write p bytes) t = .ok t') : t' = t.insert p (.file bytes) := by
  rw [Change.apply] at wrote
  split at wrote
  · cases wrote
  · exact (Except.ok.inj wrote).symm
  · cases wrote

/-- What has been written is read. -/
theorem read_written (wrote : Change.apply (.write p bytes) t = .ok t') : t'.read p = .ok bytes := by
  rcases List.eq_nil_or_concat' p with rfl | ⟨d,name,rfl⟩
  · cases wrote
  · have written := apply_write_inv wrote
    rw [Change.apply] at wrote
    cases placed : t.place (d ++ [name]) with
    | error e => simp [placed] at wrote
    | ok old =>
      obtain ⟨there,short,-⟩ := place_inv placed
      have above : t'.find d = .ok .directory := by
        refine (find_congr fun q part => ?_).trans there
        rw [written,entry_insert named,if_neg (ne_of_part part)]
      rw [read,find_in above (followed_of_place placed),short,if_neg (by simp),written,entry_insert named,if_pos rfl]
      rfl

theorem followed_of_rename (renamed : Change.apply (.rename p q) t = .ok t') : refusal? q = none := by
  rw [Change.apply] at renamed
  split at renamed
  · cases renamed
  · rename_i placed
    exact followed_of_place placed
  · cases renamed
  · cases renamed

theorem apply_rename_inv (renamed : Change.apply (.rename p (d ++ [name])) t = .ok t') : ∃ bytes,
    t.read p = .ok bytes ∧ t.find d = .ok .directory ∧ isNameTooLong name = false ∧ refusal? (d ++ [name]) = none ∧
      t' = (t.erase p).insert (d ++ [name]) (.file bytes) := by
  have followed := followed_of_rename renamed
  rw [Change.apply] at renamed
  split at renamed
  · cases renamed
  · rename_i bytes entry _ source placed
    obtain ⟨there,short,-⟩ := place_inv placed
    exact ⟨bytes,source,there,short,followed,(Except.ok.inj renamed).symm⟩
  · cases renamed
  · cases renamed

theorem apply_remove_inv (removed : Change.apply (.remove p) t = .ok t') : t' = t.erase p := by
  rw [Change.apply] at removed
  split at removed
  · exact (Except.ok.inj removed).symm
  · cases removed

end PhoneSignIn.FileTree
