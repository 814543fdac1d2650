import Mathlib.Data.List.Forall2
import Mathlib.Tactic.SplitIfs
import PhoneSignIn.Json.Record

/-!
What the fields of a record are. The field with a key is the one member that has the key, or none
(`IsMember`); the fields of an object are found by their keys and those of an array by their places
(`Value.HasFields`), and these are the fields that are read (`Value.fields_iff`).
-/
namespace PhoneSignIn.Json

variable {α β : Type} {key : String} {keys : List String} {members : List (Literal × Value)}

/-- The only member with a key, or none when no member has it. -/
def IsMember (key : String) (members : List (Literal × Value)) : Option Value → Prop
  | none => ∀ m ∈ members, m.1 ≠ some key
  | some v => ∃ before after, members = before ++ (some key,v) :: after ∧ ∀ m ∈ before ++ after, m.1 ≠ some key

/-- A row of fields: members of an object whose keys are texts, or the items of an array, which may stop early. -/
inductive Value.HasFields (keys : List String) : Value → List (Option Value) → Prop
  | object {members row} (named : ∀ m ∈ members, m.1 ≠ none)
    (each : List.Forall₂ (fun key field => IsMember key members field) keys row) : HasFields keys (.object members) row
  | array {items : List Value} {absent : Nat} (all : items.length + absent = keys.length) :
    HasFields keys (.array items) (items.map some ++ List.replicate absent none)

/-- Two things are found in a list when each is found in its place. -/
theorem mapM_iff {f : α → Option β} {l : List α} {r : List β} :
    l.mapM f = some r ↔ List.Forall₂ (fun a b => f a = some b) l r := by
  induction l generalizing r with
  | nil => simp [eq_comm]
  | cons a l ih =>
    rw [List.mapM_cons]
    constructor
    · intro found
      obtain ⟨b,first,found⟩ := Option.bind_eq_some_iff.mp found
      obtain ⟨bs,later,same⟩ := Option.bind_eq_some_iff.mp found
      cases same
      exact .cons first (ih.mp later)
    · rintro (_ | ⟨first,later⟩)
      simp [first,ih.mpr later]

/-- A member that is read is the only one with its key. -/
theorem member_iff {field : Option Value} : member? key members = some field ↔ IsMember key members field := by
  rw [member?]
  constructor
  · intro found
    split at found
    · next none_left =>
      cases found
      intro m member same
      exact absurd (beq_iff_eq.mpr same) (List.filter_eq_nil_iff.mp none_left m member)
    · next m one_left =>
      cases found
      obtain ⟨before,after,rfl,others,named,rest⟩ := List.filter_eq_cons_iff.mp one_left
      obtain ⟨k,v⟩ := m
      obtain rfl : k = some key := beq_iff_eq.mp named
      refine ⟨before,after,rfl,fun m member same => ?_⟩
      rcases List.mem_append.mp member with early | late
      · exact others m early (beq_iff_eq.mpr same)
      · exact List.filter_eq_nil_iff.mp rest m late (beq_iff_eq.mpr same)
    · cases found
  · have others {l : List (Literal × Value)} (other : ∀ m ∈ l, m.1 ≠ some key) : l.filter (·.1 == some key) = [] :=
      List.filter_eq_nil_iff.mpr fun m member => mt beq_iff_eq.mp (other m member)
    cases field with
    | none =>
      intro other
      rw [others other]
    | some v =>
      rintro ⟨before,after,rfl,other⟩
      rw [List.filter_append,others fun m member => other m (List.mem_append_left _ member),
        List.filter_cons_of_pos (by simp),others fun m member => other m (List.mem_append_right _ member)]
      rfl

/-- The order of members does not matter. -/
theorem member_perm {members' : List (Literal × Value)} (same : members.Perm members') :
    member? key members = member? key members' := by
  have found := same.filter (·.1 == some key)
  rw [member?,member?]
  generalize members.filter (·.1 == some key) = l at found ⊢
  generalize members'.filter (·.1 == some key) = l' at found ⊢
  rcases l with _ | ⟨m,_ | ⟨m',l⟩⟩
  · rw [List.nil_perm.mp found]
  · rw [List.singleton_perm.mp found]
  · have lengths := found.length_eq
    rcases l' with _ | ⟨m,_ | ⟨m',l'⟩⟩
    · cases lengths
    · cases lengths
    · rfl

/-- A member with another key does not matter. -/
theorem member_skip {before after : List (Literal × Value)} {k : Literal} {v : Value} (other : k ≠ some key) :
    member? key (before ++ (k,v) :: after) = member? key (before ++ after) := by
  rw [member?,member?,List.filter_append,List.filter_append,List.filter_cons_of_neg (by simpa using other)]

/-- The value of a member with a key is found when no other member has the key. -/
theorem member_at {before after : List (Literal × Value)} {v : Value} {field : Option Value} :
    member? key (before ++ (some key,v) :: after) = some field ↔
      field = some v ∧ member? key (before ++ after) = some none := by
  rw [member_perm List.perm_middle,member?,member?,List.filter_cons_of_pos (by simp)]
  cases (before ++ after).filter (·.1 == some key) with
  | nil => simp [eq_comm]
  | cons m l => cases l <;> simp

/-- The fields that are read are those that are there. -/
theorem Value.fields_iff {v : Value} {row : List (Option Value)} : v.fields? keys = some row ↔ v.HasFields keys row := by
  constructor
  · intro found
    rw [fields?.eq_def] at found
    split at found
    · split_ifs at found with texts
      refine .object (fun m member => ?_) ((mapM_iff.mp found).imp fun _ _ => member_iff.mp)
      exact Option.isSome_iff_ne_none.mp (List.all_eq_true.mp texts m member)
    · split_ifs at found with short
      cases found
      exact .array (by omega)
    · cases found
  · rintro (@⟨members,row,named,each⟩ | @⟨items,absent,all⟩)
    · have texts : members.all (·.1.isSome) = true :=
        List.all_eq_true.mpr fun m member => Option.isSome_iff_ne_none.mpr (named m member)
      rw [fields?,if_pos texts]
      exact mapM_iff.mpr (each.imp fun _ _ => member_iff.mpr)
    · have left : keys.length - items.length = absent := by omega
      rw [fields?,if_pos (by omega),left]

end PhoneSignIn.Json
