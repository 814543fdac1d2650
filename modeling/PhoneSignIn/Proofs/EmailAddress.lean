import Mathlib.Computability.Language
import PhoneSignIn.EmailAddress

/-!
What counts as an email address. The check takes a text apart at its at sign and at the points of the host; it
accepts the words of one pattern, which is matched without regard to case (`pattern`), and these are the addresses
of a plain grammar (`IsAddress`) in which the long s and the Kelvin sign are letters too, because they are case
variants of s and k (`isValid_exact`). So exactly the addresses with one of these two characters are accepted
although the alphabet of the grammar does not have them.
-/
namespace PhoneSignIn.EmailAddress
open scoped Computability

/-! ### The grammar -/

/-- A label of a host: letters, digits and hyphens, at first a letter or a digit. -/
structure IsLabel (letterOrDigit : Char → Bool) (longest : Nat) (label : List Char) : Prop where
  length : 1 ≤ label.length ∧ label.length ≤ longest
  chars : ∀ c ∈ label, letterOrDigit c ∨ c = '-'
  begins : ∀ c ∈ label.head?, letterOrDigit c

/-- The characters of a local part that are neither letters nor digits. -/
def marks : List Char := ['+','.','_','%','-']

/-- A local part, an at sign, a label and one or more labels with a point before each; nothing before or after. -/
def IsAddress (letterOrDigit : Char → Bool) (cs : List Char) : Prop :=
  ∃ user first rest, cs = user ++ '@' :: (first ++ rest.flatMap ('.' :: ·)) ∧
    (1 ≤ user.length ∧ user.length ≤ 256 ∧ ∀ c ∈ user, letterOrDigit c ∨ c ∈ marks) ∧
    IsLabel letterOrDigit 65 first ∧ rest ≠ [] ∧ ∀ label ∈ rest, IsLabel letterOrDigit 26 label

section
variable {letterOrDigit letterOrDigit' : Char → Bool}

theorem IsLabel.widen {longest : Nat} {label : List Char} (l : IsLabel letterOrDigit longest label)
    (wider : ∀ c ∈ label, letterOrDigit c = true → letterOrDigit' c = true) : IsLabel letterOrDigit' longest label where
  length := l.length
  chars c member := (l.chars c member).imp_left (wider c member)
  begins c first := wider c (List.mem_of_mem_head? first) (l.begins c first)

/-- An address stays one where its own characters still count. -/
theorem IsAddress.widen {cs : List Char} (address : IsAddress letterOrDigit cs)
    (wider : ∀ c ∈ cs, letterOrDigit c = true → letterOrDigit' c = true) : IsAddress letterOrDigit' cs := by
  obtain ⟨user,first,rest,rfl,⟨least,most,chars⟩,label,several,labels⟩ := address
  simp only [List.forall_mem_append,List.forall_mem_cons,List.forall_mem_flatMap] at wider
  obtain ⟨inUser,-,inFirst,inRest⟩ := wider
  exact ⟨user,first,rest,rfl,⟨least,most,fun c member => (chars c member).imp_left (inUser c member)⟩,
    label.widen inFirst,several,fun l member => (labels l member).widen (inRest l member).2⟩

/-- What an address is made of. -/
theorem IsAddress.chars {cs : List Char} (address : IsAddress letterOrDigit cs) :
    ∀ c ∈ cs, letterOrDigit c = true ∨ c ∈ '@' :: marks := by
  obtain ⟨user,first,rest,rfl,⟨-,-,chars⟩,label,-,labels⟩ := address
  have ofLabel {longest : Nat} {label : List Char} (l : IsLabel letterOrDigit longest label) :
      ∀ c ∈ label, letterOrDigit c = true ∨ c ∈ '@' :: marks := by
    intro c member
    refine (l.chars c member).imp_right ?_
    rintro rfl
    decide
  simp only [List.forall_mem_append,List.forall_mem_cons,List.forall_mem_flatMap]
  exact ⟨fun c member => (chars c member).imp_right (List.mem_cons_of_mem _),.inr (by decide),ofLabel label,
    fun l member => ⟨.inr (by decide),ofLabel (labels l member)⟩⟩

end

/-! ### Taking a text apart -/

theorem intercalate_cons (first : List Char) (rest : List (List Char)) :
    ['.'].intercalate (first :: rest) = first ++ rest.flatMap ('.' :: ·) := by
  induction rest generalizing first with
  | nil => simp
  | cons second rest ih => rw [List.intercalate_cons_cons,ih]; simp

theorem isLabel_iff {longest : Nat} {label : List Char} :
    isLabel longest label = true ↔ IsLabel isLetterOrDigit longest label := by
  cases label with
  | nil => simpa [isLabel] using fun l : IsLabel isLetterOrDigit longest [] => absurd l.length.1 (by decide)
  | cons c r =>
    simp only [isLabel,Bool.and_eq_true,List.all_eq_true,Bool.or_eq_true,beq_iff_eq,decide_eq_true_eq]
    constructor
    · rintro ⟨⟨begins,chars⟩,most⟩
      exact ⟨⟨by simp,most⟩,List.forall_mem_cons.mpr ⟨.inl begins,chars⟩,by simpa using begins⟩
    · intro l
      exact ⟨⟨l.begins c rfl,(List.forall_mem_cons.mp l.chars).2⟩,l.length.2⟩

theorem isLocalPart_iff {user : List Char} : isLocalPart user = true ↔
    1 ≤ user.length ∧ user.length ≤ 256 ∧ ∀ c ∈ user, isLetterOrDigit c ∨ c ∈ marks := by
  have same : "+._%-".toList = marks := by decide
  simp [isLocalPart,same,and_assoc]

/-- Neither mark that a text is taken apart at belongs to a label. -/
theorem IsLabel.apart {longest : Nat} {label : List Char} (l : IsLabel isLetterOrDigit longest label) :
    '@' ∉ label ∧ '.' ∉ label :=
  ⟨fun member => absurd (l.chars _ member) (by decide),fun member => absurd (l.chars _ member) (by decide)⟩

theorem isHost_iff {host : List Char} : isHost host = true ↔ ∃ first rest,
    host = first ++ rest.flatMap ('.' :: ·) ∧ IsLabel isLetterOrDigit 65 first ∧ rest ≠ [] ∧
      ∀ label ∈ rest, IsLabel isLetterOrDigit 26 label := by
  constructor
  · intro valid
    have whole : ['.'].intercalate (host.splitOn '.') = host := List.intercalate_splitOn '.'
    rw [isHost] at valid
    split at valid
    · rename_i first rest split
      rw [split,intercalate_cons] at whole
      simp only [Bool.and_eq_true,List.all_eq_true,isLabel_iff] at valid
      obtain ⟨⟨label,several⟩,labels⟩ := valid
      exact ⟨first,rest,whole.symm,label,by simpa using several,labels⟩
    · cases valid
  · rintro ⟨first,rest,rfl,label,several,labels⟩
    have split : (first ++ rest.flatMap ('.' :: ·)).splitOn '.' = first :: rest := by
      rw [← intercalate_cons]
      refine List.splitOn_intercalate '.' ?_ (List.cons_ne_nil _ _)
      exact List.forall_mem_cons.mpr ⟨label.apart.2,fun l member => (labels l member).apart.2⟩
    rw [isHost,split]
    simpa [isLabel_iff,label,several] using labels

/-- The check accepts the addresses whose letters are those of `isLetter`. -/
theorem isValid_iff {s : String} : isValid s = true ↔ IsAddress isLetterOrDigit s.toList := by
  constructor
  · intro valid
    have whole : ['@'].intercalate (s.toList.splitOn '@') = s.toList := List.intercalate_splitOn '@'
    rw [isValid] at valid
    split at valid
    · rename_i user host split
      rw [split] at whole
      obtain ⟨ofUser,ofHost⟩ := Bool.and_eq_true_iff.mp valid
      obtain ⟨first,rest,rfl,labels⟩ := isHost_iff.mp ofHost
      exact ⟨user,first,rest,by simpa using whole.symm,isLocalPart_iff.mp ofUser,labels⟩
    · cases valid
  · rintro ⟨user,first,rest,text,ofUser,label,several,labels⟩
    have inUser : '@' ∉ user := fun member => absurd (ofUser.2.2 _ member) (by decide)
    have inHost : '@' ∉ first ++ rest.flatMap ('.' :: ·) := by
      simp only [List.mem_append,List.mem_flatMap,List.mem_cons,not_or,not_exists,not_and]
      exact ⟨label.apart.1,fun l member => ⟨by decide,(labels l member).apart.1⟩⟩
    have split : s.toList.splitOn '@' = [user,first ++ rest.flatMap ('.' :: ·)] := by
      rw [text,List.splitOn_append_cons_self_of_not_mem inUser,List.splitOn_eq_singleton inHost]
    rw [isValid,split]
    exact Bool.and_eq_true_iff.mpr ⟨isLocalPart_iff.mpr ofUser,isHost_iff.mpr ⟨first,rest,rfl,label,several,labels⟩⟩

/-! ### The pattern -/

/-- The characters that match a character where case does not matter: of the capital letters K and S also the Kelvin
    sign and the long s, which have the same small letters. -/
def variants (c : Char) : List Char :=
  [c,c.toLower] ++ if c = 'K' then ['\u212A'] else if c = 'S' then ['\u017F'] else []

/-- Whether a character matches a class where case does not matter. -/
def AnyCase (p : Char → Bool) (c : Char) : Prop := ∃ d, p d = true ∧ c ∈ variants d

/-- The words of one character that matches a class. -/
def one (p : Char → Bool) : Language Char := {w | ∃ c, w = [c] ∧ AnyCase p c}

/-- A language `least` to `most` times in a row. -/
def times (least most : Nat) (l : Language Char) : Language Char := {w | ∃ n, least ≤ n ∧ n ≤ most ∧ w ∈ l ^ n}

/-- A capital letter or a digit. -/
def alphanumeric (c : Char) : Bool := c.isUpper || c.isDigit

/-- A letter or digit, then at most so many letters, digits and hyphens. -/
def labelPattern (more : Nat) : Language Char :=
  one alphanumeric * times 0 more (one fun c => alphanumeric c || c == '-')

/-- A point and a label. -/
def furtherPattern : Language Char := one (· == '.') * labelPattern 25

/-- The pattern `[A-Z0-9+._%-]{1,256}@[A-Z0-9][A-Z0-9-]{0,64}(\.[A-Z0-9][A-Z0-9-]{0,25})+` without regard to case. -/
def pattern : Language Char :=
  times 1 256 (one fun c => alphanumeric c || marks.contains c) * (one (· == '@') *
    (labelPattern 64 * (furtherPattern * furtherPattern∗)))

/-! #### Classes -/

/-- What is checked of all characters of the first 128 holds of each. -/
theorem of_small {P : Char → Prop} (all : ∀ n < 128, P (Char.ofNat n)) {c : Char} (small : c.toNat < 128) : P c := by
  have here := all c.toNat small
  rwa [Char.ofNat_toNat] at here

theorem small_of_alphanum {c : Char} (alphanum : (c.isAlpha || c.isDigit) = true) : c.toNat < 128 := by
  have ranges : (decide ('A'.val ≤ c.val ∧ c.val ≤ 'Z'.val) || (decide ('a'.val ≤ c.val) && decide (c.val ≤ 'z'.val)) ||
      (decide ('0'.val ≤ c.val) && decide (c.val ≤ '9'.val))) = true := alphanum
  simp only [Bool.or_eq_true,Bool.and_eq_true,decide_eq_true_eq,UInt32.le_iff_toNat_le] at ranges
  simp at ranges
  omega

/-- The letters and digits are what matches capital letters and digits. -/
theorem anyCase_alphanumeric (c : Char) : AnyCase alphanumeric c ↔ isLetterOrDigit c = true := by
  constructor
  · rintro ⟨d,capital,variant⟩
    have small : d.toNat < 128 := small_of_alphanum (by
      change (d.isUpper || d.isLower || d.isDigit) = true
      simp only [alphanumeric,Bool.or_eq_true] at capital ⊢
      tauto)
    have letters := of_small (P := fun d => alphanumeric d = true → (variants d).all isLetterOrDigit = true)
      (by decide +kernel) small capital
    exact List.all_eq_true.mp letters c variant
  · intro letter
    by_cases long : c = '\u017F'
    · exact ⟨'S',rfl,by subst long; decide⟩
    · by_cases kelvin : c = '\u212A'
      · exact ⟨'K',rfl,by subst kelvin; decide⟩
      · have small : c.toNat < 128 := small_of_alphanum (by
          simpa [isLetterOrDigit,isLetter,long,kelvin] using letter)
        exact of_small (P := fun c => isLetterOrDigit c = true → AnyCase alphanumeric c)
          (fun n bound letter => ⟨(Char.ofNat n).toUpper,by revert n; decide +kernel⟩) small letter

theorem anyCase_or {p q : Char → Bool} {c : Char} : AnyCase (fun d => p d || q d) c ↔ AnyCase p c ∨ AnyCase q c := by
  simp only [AnyCase,Bool.or_eq_true,or_and_right,exists_or]

/-- A sign is matched by itself only. -/
theorem anyCase_sign {sign : Char} (noLetter : variants sign = [sign,sign]) {c : Char} :
    AnyCase (· == sign) c ↔ c = sign := by
  simp [AnyCase,noLetter]

theorem anyCase_hyphen {c : Char} : AnyCase (· == '-') c ↔ c = '-' := anyCase_sign rfl

theorem anyCase_marks {c : Char} : AnyCase (marks.contains ·) c ↔ c ∈ marks := by
  have noLetters : marks.all (fun d => variants d == [d,d]) = true := by decide
  have noLetter : ∀ d ∈ marks, variants d = [d,d] := by simpa only [List.all_eq_true,beq_iff_eq] using noLetters
  simp only [AnyCase,List.contains_iff_mem]
  constructor
  · rintro ⟨d,member,variant⟩
    rw [noLetter d member] at variant
    simp only [List.mem_cons,List.not_mem_nil,or_false,or_self] at variant
    exact variant ▸ member
  · intro member
    exact ⟨c,member,by rw [noLetter c member]; exact List.mem_cons_self⟩

/-! #### Words -/

theorem mem_one_pow {p : Char → Bool} {n : Nat} {w : List Char} :
    w ∈ one p ^ n ↔ w.length = n ∧ ∀ c ∈ w, AnyCase p c := by
  induction n generalizing w with
  | zero => simp +contextual [Language.mem_one,List.length_eq_zero_iff]
  | succ n ih =>
    rw [pow_succ',Language.mem_mul]
    constructor
    · rintro ⟨_,⟨c,rfl,first⟩,r,later,rfl⟩
      obtain ⟨length,all⟩ := ih.mp later
      exact ⟨by simp [length],List.forall_mem_cons.mpr ⟨first,all⟩⟩
    · rintro ⟨length,all⟩
      cases w with
      | nil => cases length
      | cons c r =>
        obtain ⟨first,later⟩ := List.forall_mem_cons.mp all
        exact ⟨[c],⟨c,rfl,first⟩,r,ih.mpr ⟨Nat.succ.inj length,later⟩,rfl⟩

theorem mem_times_one {least most : Nat} {p : Char → Bool} {w : List Char} :
    w ∈ times least most (one p) ↔ least ≤ w.length ∧ w.length ≤ most ∧ ∀ c ∈ w, AnyCase p c := by
  constructor
  · rintro ⟨n,low,high,word⟩
    obtain ⟨rfl,all⟩ := mem_one_pow.mp word
    exact ⟨low,high,all⟩
  · rintro ⟨low,high,all⟩
    exact ⟨_,low,high,mem_one_pow.mpr ⟨rfl,all⟩⟩

theorem mem_labelPattern {more : Nat} {w : List Char} :
    w ∈ labelPattern more ↔ IsLabel isLetterOrDigit (more + 1) w := by
  rw [labelPattern,Language.mem_mul]
  constructor
  · rintro ⟨_,⟨c,rfl,first⟩,r,later,rfl⟩
    rw [anyCase_alphanumeric] at first
    simp only [mem_times_one,anyCase_or,anyCase_alphanumeric,anyCase_hyphen] at later
    exact ⟨⟨by simp,by simpa using later.2.1⟩,List.forall_mem_cons.mpr ⟨.inl first,later.2.2⟩,by simpa using first⟩
  · intro label
    cases w with
    | nil => exact absurd label.length.1 (by decide)
    | cons c r =>
      refine ⟨[c],⟨c,rfl,(anyCase_alphanumeric c).mpr (label.begins c rfl)⟩,r,?_,rfl⟩
      simp only [mem_times_one,anyCase_or,anyCase_alphanumeric,anyCase_hyphen]
      exact ⟨Nat.zero_le _,Nat.le_of_succ_le_succ label.length.2,(List.forall_mem_cons.mp label.chars).2⟩

theorem mem_sign_mul {sign : Char} (noLetter : variants sign = [sign,sign]) {l : Language Char} {w : List Char} :
    w ∈ one (· == sign) * l ↔ ∃ r ∈ l, w = sign :: r := by
  rw [Language.mem_mul]
  constructor
  · rintro ⟨_,⟨c,rfl,first⟩,r,later,rfl⟩
    exact ⟨r,later,congrArg (· :: r) ((anyCase_sign noLetter).mp first)⟩
  · rintro ⟨r,later,rfl⟩
    exact ⟨[sign],⟨sign,rfl,(anyCase_sign noLetter).mpr rfl⟩,r,later,rfl⟩

/-- Further labels, with a point before each. -/
theorem mem_further {w : List Char} :
    w ∈ furtherPattern ↔ ∃ label, w = '.' :: label ∧ IsLabel isLetterOrDigit 26 label := by
  rw [furtherPattern,mem_sign_mul rfl]
  simp only [mem_labelPattern,and_comm]

theorem mem_further_star {w : List Char} : w ∈ furtherPattern∗ ↔
    ∃ rest : List (List Char), w = rest.flatMap ('.' :: ·) ∧ ∀ label ∈ rest, IsLabel isLetterOrDigit 26 label := by
  rw [Language.mem_kstar]
  constructor
  · rintro ⟨words,rfl,all⟩
    induction words with
    | nil => exact ⟨[],rfl,by simp⟩
    | cons word words ih =>
      obtain ⟨first,later⟩ := List.forall_mem_cons.mp all
      obtain ⟨label,rfl,isLabel⟩ := mem_further.mp first
      obtain ⟨rest,same,labels⟩ := ih later
      exact ⟨label :: rest,by rw [List.flatten_cons,same,List.flatMap_cons],List.forall_mem_cons.mpr ⟨isLabel,labels⟩⟩
  · rintro ⟨rest,rfl,labels⟩
    refine ⟨rest.map ('.' :: ·),List.flatMap_def,?_⟩
    exact List.forall_mem_map.mpr fun label member => mem_further.mpr ⟨label,rfl,labels label member⟩

/-- The words of the pattern are the addresses whose letters are those of `isLetter`. -/
theorem mem_pattern {w : List Char} : w ∈ pattern ↔ IsAddress isLetterOrDigit w := by
  have inUser (c : Char) : AnyCase (fun d => alphanumeric d || marks.contains d) c ↔
      isLetterOrDigit c = true ∨ c ∈ marks := by
    rw [anyCase_or,anyCase_alphanumeric,anyCase_marks]
  rw [pattern,Language.mem_mul]
  constructor
  · rintro ⟨user,ofUser,_,word,rfl⟩
    obtain ⟨_,host,rfl⟩ := (mem_sign_mul rfl).mp word
    obtain ⟨first,label,_,further,rfl⟩ := Language.mem_mul.mp host
    obtain ⟨_,second,_,later,rfl⟩ := Language.mem_mul.mp further
    obtain ⟨next,rfl,isLabel⟩ := mem_further.mp second
    obtain ⟨rest,rfl,labels⟩ := mem_further_star.mp later
    rw [mem_times_one] at ofUser
    simp only [inUser] at ofUser
    exact ⟨user,first,next :: rest,rfl,ofUser,mem_labelPattern.mp label,List.cons_ne_nil _ _,
      List.forall_mem_cons.mpr ⟨isLabel,labels⟩⟩
  · rintro ⟨user,first,rest,rfl,ofUser,label,several,labels⟩
    obtain ⟨next,rest,rfl⟩ := List.exists_cons_of_ne_nil several
    obtain ⟨isLabel,labels⟩ := List.forall_mem_cons.mp labels
    refine ⟨user,?_,_,(mem_sign_mul rfl).mpr ⟨_,?_,rfl⟩,rfl⟩
    · rw [mem_times_one]
      simpa only [inUser] using ofUser
    · refine Language.append_mem_mul (mem_labelPattern.mpr label) ?_
      exact Language.append_mem_mul (mem_further.mpr ⟨next,rfl,isLabel⟩) (mem_further_star.mpr ⟨rest,rfl,labels⟩)

/-! ### Which texts are addresses -/

/-- The check accepts the words of the pattern, which are the addresses with the long s and the Kelvin sign among
    their letters. It agrees with the grammar that has English letters only on every text but those that are
    accepted with one of these two characters in them. -/
theorem isValid_exact (s : String) :
    (isValid s = true ↔ s.toList ∈ pattern) ∧
      (isValid s = true ↔ IsAddress (fun c => c.isAlphanum || c == '\u017F' || c == '\u212A') s.toList) ∧
      ((isValid s = true ↔ IsAddress Char.isAlphanum s.toList) ↔
        (isValid s = true → '\u017F' ∉ s.toList ∧ '\u212A' ∉ s.toList)) := by
  have letters : isLetterOrDigit = fun c => c.isAlphanum || c == '\u017F' || c == '\u212A' := by
    funext c
    simp only [isLetterOrDigit,isLetter,Char.isAlphanum]
    ac_rfl
  refine ⟨isValid_iff.trans mem_pattern.symm,letters ▸ isValid_iff,?_⟩
  constructor
  · intro agrees valid
    have chars := (agrees.mp valid).chars
    exact ⟨fun member => absurd (chars _ member) (by decide),fun member => absurd (chars _ member) (by decide)⟩
  · intro plain
    constructor
    · intro valid
      obtain ⟨noLong,noKelvin⟩ := plain valid
      refine (isValid_iff.mp valid).widen fun c member letter => ?_
      have short : c ≠ '\u017F' := fun same => noLong (same ▸ member)
      have other : c ≠ '\u212A' := fun same => noKelvin (same ▸ member)
      simpa [letters,short,other] using letter
    · intro address
      exact isValid_iff.mpr (address.widen fun c _ letter => by simp [letters,letter])

/-- The Kelvin sign is taken for a letter. -/
theorem kelvin_accepted : isValid "\u212A@b.c" = true ∧ ¬ IsAddress Char.isAlphanum "\u212A@b.c".toList := by
  refine ⟨by decide +kernel,fun address => ?_⟩
  have kelvin : '\u212A' ∈ "\u212A@b.c".toList := by decide
  exact absurd (address.chars _ kelvin) (by decide)

end PhoneSignIn.EmailAddress
