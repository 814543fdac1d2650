import Mathlib.Data.List.TakeWhile
import PhoneSignIn.Http.Message

/-!
What a response says in its headers. The first header with a name counts, in whatever case the name is written, and its
value is what is left without the blanks at both ends (`Says`, `Trims`). A header is read so and not otherwise
(`header_iff`).
-/
namespace PhoneSignIn

namespace Text

variable {α : Type} {p : α → Bool} {l v before : List α}

/-- Members of property `p` go until one comes that has it not. -/
theorem dropWhile_front (blank : ∀ a ∈ before, p a) (first : ∀ a ∈ l.head?, p a = false) :
    (before ++ l).dropWhile p = l := by
  rw [List.dropWhile_append_of_pos blank]
  cases l with
  | nil => rfl
  | cons a l => exact List.dropWhile_cons_of_neg (by simp [first a rfl])

/-- The first member that is left by `dropWhile` is none of property `p`. -/
theorem head_dropWhile (l : List α) : ∀ a ∈ (l.dropWhile p).head?, p a = false := by
  intro a first
  have stopped := List.head?_dropWhile_not p l
  rw [Option.mem_def.mp first] at stopped
  exact stopped

/-- A list is left when it is stripped if and only if it is a part with nothing but members of property `p` on both
    sides and with none at its own ends. -/
theorem strip_iff : strip p l = v ↔ ∃ before after, l = before ++ v ++ after ∧ (∀ a ∈ before, p a) ∧
    (∀ a ∈ after, p a) ∧ (∀ a ∈ v.head?, p a = false) ∧ ∀ a ∈ v.getLast?, p a = false := by
  constructor
  · rintro rfl
    let rest := l.dropWhile p
    have split : rest = strip p l ++ (rest.reverse.takeWhile p).reverse := by
      rw [strip,← List.reverse_append,List.takeWhile_append_dropWhile,List.reverse_reverse]
    refine ⟨l.takeWhile p,(rest.reverse.takeWhile p).reverse,?_,fun a => List.mem_takeWhile_imp,?_,?_,?_⟩
    · rw [List.append_assoc,← split,List.takeWhile_append_dropWhile]
    · intro a member
      exact List.mem_takeWhile_imp (List.mem_reverse.mp member)
    · intro a first
      refine head_dropWhile l a ?_
      change a ∈ rest.head?
      rw [split,List.head?_append,Option.mem_def.mp first]
      rfl
    · intro a last
      rw [strip,List.getLast?_reverse] at last
      exact head_dropWhile _ a last
  · rintro ⟨before,after,rfl,blank,ends,first,last⟩
    cases v with
    | nil =>
      have gone : (before ++ [] ++ after).dropWhile p = [] :=
        List.dropWhile_eq_nil_iff.mpr (by simpa [or_imp,forall_and] using ⟨blank,ends⟩)
      rw [strip,gone]
      rfl
    | cons a v =>
      have front : (before ++ a :: v ++ after).dropWhile p = a :: v ++ after := by
        rw [List.append_assoc]
        exact dropWhile_front blank first
      have back : (after.reverse ++ (a :: v).reverse).dropWhile p = (a :: v).reverse :=
        dropWhile_front (fun b member => ends b (List.mem_reverse.mp member)) (by rwa [List.head?_reverse])
      rw [strip,front,List.reverse_append,back,List.reverse_reverse]

end Text

namespace Http
open Text

/-- The blanks that may stand around the value of a header. -/
def IsSpace (c : Char) : Prop := c = ' ' ∨ c = '\t'

/-- A text is another without the blanks at both ends. -/
def Trims (raw v : String) : Prop :=
  ∃ before after, raw.toList = before ++ v.toList ++ after ∧ (∀ c ∈ before, IsSpace c) ∧ (∀ c ∈ after, IsSpace c) ∧
    (∀ c ∈ v.toList.head?, ¬IsSpace c) ∧ ∀ c ∈ v.toList.getLast?, ¬IsSpace c

/-- Two names of headers are the same but for the case of their letters. -/
def SameName (n name : String) : Prop := n.toList.map Char.toLower = name.toList.map Char.toLower

/-- What the first of these headers says that has a name. -/
inductive Says (name v : String) : List (String × String) → Prop where
  | here {n raw headers} (named : SameName n name) (trims : Trims raw v) : Says name v ((n,raw) :: headers)
  | later {n raw headers} (other : ¬SameName n name) (told : Says name v headers) : Says name v ((n,raw) :: headers)

theorem trims_iff {raw v : String} :
    String.ofList (strip (fun c => c == ' ' || c == '\t') raw.toList) = v ↔ Trims raw v := by
  have read : String.ofList (strip (fun c => c == ' ' || c == '\t') raw.toList) = v ↔
      strip (fun c => c == ' ' || c == '\t') raw.toList = v.toList := by
    rw [← String.toList_inj,String.toList_ofList]
  rw [read,strip_iff,Trims]
  simp [IsSpace]

/-- A header is read as the first that has the name says. -/
theorem header_iff {r : Response} {name v : String} : r.header? name = some v ↔ Says name v r.headers := by
  obtain ⟨status,headers,body,text⟩ := r
  induction headers with
  | nil => exact ⟨nofun,nofun⟩
  | cons header headers ih =>
    obtain ⟨n,raw⟩ := header
    by_cases named : SameName n name
    · have found : Response.header? ⟨status,(n,raw) :: headers,body,text⟩ name =
          some (String.ofList (strip (fun c => c == ' ' || c == '\t') raw.toList)) := by
        rw [Response.header?,List.find?_cons_of_pos (by simpa [SameName] using named)]
        rfl
      rw [found,Option.some_inj,trims_iff]
      constructor
      · exact .here named
      · rintro (⟨-,trims⟩ | ⟨other,-⟩)
        · exact trims
        · exact absurd named other
    · have passed : Response.header? ⟨status,(n,raw) :: headers,body,text⟩ name =
          Response.header? ⟨status,headers,body,text⟩ name := by
        rw [Response.header?,List.find?_cons_of_neg (by simpa [SameName] using named)]
        rfl
      rw [passed,ih]
      constructor
      · exact .later named
      · rintro (⟨same,-⟩ | ⟨-,told⟩)
        · exact absurd same named
        · exact told

end Http

end PhoneSignIn
