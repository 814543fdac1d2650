import PhoneSignIn.Json.Record
import PhoneSignIn.Proofs.Json.Reader

/-!
Forms that are read back. A `LawfulForm` reads the value that it writes, and writes whole numbers only; so
what is written is read back from its text (`read_write`). A record with different keys gives each field
the value that was written for it (`Value.fields_record`), and a form that never writes `null` is still
lawful when the thing may be missing.
-/
namespace PhoneSignIn.Json

/-- A form that reads what it writes. -/
class LawfulForm (α : Type) [Form α] : Prop where
  ofJson_toJson (a : α) : ofJson? (toJson a) = some a
  toJson_whole (a : α) : (toJson a).Whole

export LawfulForm (ofJson_toJson toJson_whole)

/-- A form that writes something for everything. -/
class PresentForm (α : Type) [Form α] : Prop where
  toJson_ne_null (a : α) : toJson a ≠ .null

variable {α : Type} [Form α]

/-- What is written is read back. -/
theorem read_write [LawfulForm α] (a : α) : read? (write a) = some a := by
  rw [read?,write,Value.parse_render (toJson_whole a)]
  exact ofJson_toJson a

/-- White space around a text does not change what it stands for. -/
theorem read_surrounded {before text after : String} {a : α} (read : read? text = some a)
    (blank : before.toList.all isSpace = true) (blank' : after.toList.all isSpace = true) :
    read? (before ++ text ++ after) = some a := by
  obtain ⟨v,parsed,formed⟩ := Option.bind_eq_some_iff.mp read
  rw [read?,Value.parse_surrounded parsed blank blank']
  exact formed

/-! ### Records -/

@[simp] theorem required_toJson [LawfulForm α] (a : α) : required (some (toJson a)) = some a := ofJson_toJson a
@[simp] theorem orElse_toJson [LawfulForm α] (default a : α) : orElse default (some (toJson a)) = some a :=
  ofJson_toJson a

/-- A field whose key no other field has is found. -/
theorem member_record {fields : List (String × Value)} (different : (fields.map Prod.fst).Nodup) {key : String} {v : Value}
    (member : (key,v) ∈ fields) : member? key (fields.map fun (k,v) => (some k,v)) = some (some v) := by
  have one : (fields.map fun (k,v) => ((some k,v) : Literal × Value)).filter (·.1 == some key) = [(some key,v)] := by
    induction fields with
    | nil => cases member
    | cons first rest ih =>
      obtain ⟨k,w⟩ := first
      rw [List.map_cons,List.nodup_cons] at different
      obtain ⟨new,different⟩ := different
      rcases List.mem_cons.mp member with same | later
      · cases same
        have noOther : (rest.map fun (k,v) => ((some k,v) : Literal × Value)).filter (·.1 == some key) = [] := by
          rw [List.filter_eq_nil_iff]
          intro m there
          obtain ⟨⟨k',w'⟩,found,rfl⟩ := List.mem_map.mp there
          have other : k' ≠ key := by
            rintro rfl
            exact new (List.mem_map.mpr ⟨_,found,rfl⟩)
          simpa using other
        simp [noOther]
      · have other : k ≠ key := by
          rintro rfl
          exact new (List.mem_map.mpr ⟨_,later,rfl⟩)
        simpa [other] using ih different later
  rw [member?,one]

/-- A record is read field by field. -/
theorem Value.fields_record {fields : List (String × Value)} {keys : List String} (named : fields.map Prod.fst = keys)
    (different : keys.Nodup) : (Value.record fields).fields? keys = some (fields.map fun (_,v) => some v) := by
  subst named
  have each : ∀ some' ⊆ fields, (some'.map Prod.fst).mapM (member? · (fields.map fun (k,v) => (some k,v))) =
      some (some'.map fun (_,v) => some v) := by
    intro part sub
    induction part with
    | nil => rfl
    | cons first rest ih =>
      obtain ⟨k,v⟩ := first
      have found := member_record different (sub List.mem_cons_self)
      have later := ih fun m there => sub (List.mem_cons_of_mem _ there)
      simp [found,later]
  rw [Value.record,Value.fields?,if_pos (by simp)]
  exact each fields (List.Subset.refl _)

theorem moreMemberTokens_whole {members : List (Literal × Value)} (whole : ∀ m ∈ members, m.2.Whole) :
    ∀ t ∈ moreMemberTokens members, t.Whole := by
  induction members with
  | nil => simp [moreMemberTokens]
  | cons member members ih =>
    obtain ⟨k,v⟩ := member
    obtain ⟨here,later⟩ := List.forall_mem_cons.mp whole
    intro t there
    simp only [moreMemberTokens,List.mem_cons,List.mem_append] at there
    rcases there with rfl | rfl | rfl | inValue | after
    · trivial
    · trivial
    · trivial
    · exact here t inValue
    · exact ih later t after

/-- An object has whole numbers when its members have. -/
theorem Value.object_whole {members : List (Literal × Value)} (whole : ∀ m ∈ members, m.2.Whole) :
    (Value.object members).Whole := by
  intro t there
  simp only [tokens,List.mem_cons,List.mem_append,List.not_mem_nil,or_false] at there
  rcases there with rfl | inside | rfl
  · trivial
  · cases members with
    | nil => cases inside
    | cons member members =>
      obtain ⟨k,v⟩ := member
      obtain ⟨here,later⟩ := List.forall_mem_cons.mp whole
      simp only [memberTokens,List.mem_cons,List.mem_append] at inside
      rcases inside with rfl | rfl | inValue | after
      · trivial
      · trivial
      · exact here t inValue
      · exact moreMemberTokens_whole later t after
  · trivial

theorem Value.record_whole {fields : List (String × Value)} (whole : ∀ f ∈ fields, f.2.Whole) :
    (Value.record fields).Whole := by
  refine object_whole ?_
  intro m there
  obtain ⟨f,member,rfl⟩ := List.mem_map.mp there
  exact whole f member

/-! ### Simple forms -/

instance : LawfulForm Bool where
  ofJson_toJson _ := rfl
  toJson_whole b := by simp [toJson,Value.Whole,Value.tokens,Token.Whole]

instance : LawfulForm String where
  ofJson_toJson _ := rfl
  toJson_whole s := by simp [toJson,Value.text,Value.Whole,Value.tokens,Token.Whole]

/-- A whole number is read back as itself. -/
theorem Value.int_read (z : Int) : ∃ n : Numeral, Value.int z = .number n ∧ n.int? = some z := by
  refine ⟨_,rfl,?_⟩
  rw [Numeral.int?,if_neg (by simp; omega)]
  by_cases negative : z < 0
  · have size : -(z.natAbs : Int) = z := by omega
    simpa only [negative,decide_true,if_true,Option.some.injEq] using size
  · have size : (z.natAbs : Int) = z := by omega
    simpa only [negative,decide_false,Bool.false_eq_true,if_false,Option.some.injEq] using size

instance : LawfulForm Int64 where
  ofJson_toJson n := by
    obtain ⟨numeral,written,read⟩ := Value.int_read n.toInt
    have within : decide (Int64.minValue.toInt ≤ n.toInt ∧ n.toInt ≤ Int64.maxValue.toInt) = true :=
      decide_eq_true ⟨n.minValue_le_toInt,n.toInt_le⟩
    simp only [toJson,ofJson?,written,Value.intWithin?,read]
    rw [Option.filter_some,if_pos within]
    exact congrArg some (Int64.ofInt_toInt n)
  toJson_whole n := by simp [toJson,Value.int,Value.Whole,Value.tokens,Token.Whole]

/-- What is there is read as it would be if it could not be missing. -/
theorem ofJson_present {v : Value} (present : v ≠ .null) :
    (ofJson? v : Option (Option α)) = (ofJson? v : Option α).map some := by
  cases v with
  | null => exact absurd rfl present
  | _ => rfl

instance [LawfulForm α] [PresentForm α] : LawfulForm (Option α) where
  ofJson_toJson a := by
    cases a with
    | none => rfl
    | some a =>
      change ofJson? (toJson a) = some (some a)
      rw [ofJson_present (PresentForm.toJson_ne_null a),ofJson_toJson]
      rfl
  toJson_whole a := by
    cases a with
    | none => simp [toJson,Value.ofOption,Value.Whole,Value.tokens,Token.Whole]
    | some a => exact toJson_whole a

end PhoneSignIn.Json
