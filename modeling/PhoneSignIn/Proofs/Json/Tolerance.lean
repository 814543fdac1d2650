import Mathlib.Data.List.Nodup
import Mathlib.Logic.Relation
import PhoneSignIn.Proofs.Json.Fields
import PhoneSignIn.Proofs.Json.Record

/-!
What may change in a text that is still read as the same. A shape tells which parts of a value are records and
which of their fields stand for a default (`Shape`). The members of a record may come in another order, members
with other keys may be there, and a field may be left out in place of its default (`Shape.Edit`); a form of that
shape is read as before (`Shape.Fits`). Between tokens white space may stand (`Respaced`). A form tolerates all of
this in its texts when it fits its shape (`Shape.Fits.tolerates`).
-/
namespace PhoneSignIn.Json

variable {α β : Type}

/-! ### Answers that are kept -/

/-- What is answered first is answered then, too. -/
def Keeps (o o' : Option α) : Prop := ∀ a, o = some a → o' = some a

namespace Keeps

theorem refl (o : Option α) : Keeps o o := fun _ answered => answered

theorem bind {o o' : Option α} {f f' : α → Option β} (first : Keeps o o') (next : ∀ a, Keeps (f a) (f' a)) :
    Keeps (o >>= f) (o' >>= f') := by
  intro b answered
  obtain ⟨a,found,answered⟩ := Option.bind_eq_some_iff.mp answered
  exact Option.bind_eq_some_iff.mpr ⟨a,first a found,next a b answered⟩

theorem map {o o' : Option α} (f : α → β) (kept : Keeps o o') : Keeps (o.map f) (o'.map f) := by
  intro b answered
  obtain ⟨a,found,rfl⟩ := Option.map_eq_some_iff.mp answered
  rw [kept a found,Option.map_some]

end Keeps

/-! ### Shapes -/

/-- Which parts of a value are records. A field of a record has a key, what stands for the field where it is left out,
    if it may be, and a shape of its own. -/
inductive Shape where
  /-- A value without records. -/
  | plain
  | record (fields : List (String × Option Value × Shape))
  | optional (s : Shape)
  | list (s : Shape)

namespace Shape

/-- The keys of a record's fields. -/
def keys (fields : List (String × Option Value × Shape)) : List String := fields.map Prod.fst

/-- A change of a value that leaves what it stands for as it is. -/
inductive Edit : Shape → Value → Value → Prop
  /-- The members of a record come in another order. -/
  | permute {fields members members'} (same : List.Perm members members') :
    Edit (.record fields) (.object members) (.object members')
  /-- A record has one more member, of no field. -/
  | insert {fields before after key v} (unknown : key ∉ keys fields) :
    Edit (.record fields) (.object (before ++ after)) (.object (before ++ (some key,v) :: after))
  /-- A field is left out in place of its default. -/
  | leaveOut {fields before after key default shape} (field : (key,some default,shape) ∈ fields) :
    Edit (.record fields) (.object (before ++ (some key,default) :: after)) (.object (before ++ after))
  /-- A field of a record is changed. -/
  | inside {fields before after key default shape v v'} (field : (key,default,shape) ∈ fields)
    (edit : Edit shape v v') :
    Edit (.record fields) (.object (before ++ (some key,v) :: after)) (.object (before ++ (some key,v') :: after))
  /-- A field of a record without keys is changed. -/
  | item {earlier key default shape later before after v v'} (place : List.length earlier = List.length before)
    (edit : Edit shape v v') :
    Edit (.record (earlier ++ (key,default,shape) :: later)) (.array (before ++ v :: after))
      (.array (before ++ v' :: after))
  | present {s v v'} (edit : Edit s v v') : Edit (.optional s) v v'
  | element {s before after v v'} (edit : Edit s v v') :
    Edit (.list s) (.array (before ++ v :: after)) (.array (before ++ v' :: after))

/-- The forms of a type are read as before when a value of this shape is changed. -/
def Fits (s : Shape) (α : Type) [Form α] : Prop := ∀ v v', s.Edit v v' → Keeps (ofJson? v) (ofJson? v' : Option α)

/-- What a change of a record can be for one of its fields. -/
inductive FieldEdit : String × Option Value × Shape → Option Value → Option Value → Prop
  | same {f} (o) : FieldEdit f o o
  | inside {key default shape v v'} (edit : Edit shape v v') : FieldEdit (key,default,shape) (some v) (some v')
  | omitted {key default shape} : FieldEdit (key,some default,shape) (some default) none

/-- What a change of a record can be for its fields. -/
inductive RowEdit : List (String × Option Value × Shape) → List (Option Value) → List (Option Value) → Prop
  | nil : RowEdit [] [] []
  | cons {f fields o o' row row'} (first : FieldEdit f o o') (rest : RowEdit fields row row') :
    RowEdit (f :: fields) (o :: row) (o' :: row')

variable {fields : List (String × Option Value × Shape)} {row : List (Option Value)} {v v' : Value}

theorem RowEdit.refl (all : fields.length = row.length) : RowEdit fields row row := by
  induction fields generalizing row with
  | nil =>
    obtain rfl := List.eq_nil_of_length_eq_zero all.symm
    exact .nil
  | cons f fields ih =>
    cases row with
    | nil => cases all
    | cons o row => exact .cons (.same o) (ih (Nat.succ.inj all))

/-- When the members of an object are found as before, but for what may change, so are the fields. -/
theorem rows_edit {members : List (Literal × Value)} (members' : List (Literal × Value))
    (each : ∀ f ∈ fields, ∀ o, member? f.1 members = some o → ∃ o', member? f.1 members' = some o' ∧ FieldEdit f o o')
    (found : (keys fields).mapM (member? · members) = some row) :
    ∃ row', (keys fields).mapM (member? · members') = some row' ∧ RowEdit fields row row' := by
  induction fields generalizing row with
  | nil =>
    cases found
    exact ⟨[],rfl,.nil⟩
  | cons f fields ih =>
    rw [keys,List.map_cons,List.mapM_cons] at found
    obtain ⟨o,first,found⟩ := Option.bind_eq_some_iff.mp found
    obtain ⟨row,rest,same⟩ := Option.bind_eq_some_iff.mp found
    cases same
    obtain ⟨o',first',edit⟩ := each f List.mem_cons_self o first
    obtain ⟨row',rest',edits⟩ := ih (fun f member => each f (List.mem_cons_of_mem _ member)) rest
    refine ⟨o' :: row',?_,.cons edit edits⟩
    rw [keys] at rest'
    simp [keys,first',rest']

/-- The items of an array are the fields as before, but for the one that changes. -/
theorem items_edit {earlier later : List (String × Option Value × Shape)} {key : String} {default : Option Value}
    {shape : Shape} {before after : List Value} {absent : Nat} (place : earlier.length = before.length)
    (left : later.length = after.length + absent) (edit : shape.Edit v v') :
    RowEdit (earlier ++ (key,default,shape) :: later)
      ((before ++ v :: after).map some ++ List.replicate absent none)
      ((before ++ v' :: after).map some ++ List.replicate absent none) := by
  induction earlier generalizing before with
  | nil =>
    obtain rfl := List.eq_nil_of_length_eq_zero place.symm
    exact .cons (.inside edit) (.refl (by simpa using left))
  | cons f earlier ih =>
    cases before with
    | nil => cases place
    | cons w before => exact .cons (.same _) (ih (Nat.succ.inj place))

/-- The row of fields of an object is found when its keys are texts. -/
theorem fields_object {keys : List String} {members : List (Literal × Value)} :
    (Value.object members).fields? keys = some row ↔
      (∀ m ∈ members, m.1.isSome = true) ∧ keys.mapM (member? · members) = some row := by
  rw [Value.fields?]
  split_ifs with texts
  · exact ⟨fun found => ⟨List.all_eq_true.mp texts,found⟩,And.right⟩
  · exact ⟨False.elim,fun found => absurd (List.all_eq_true.mpr found.1) texts⟩

/-- A member whose key is a text makes no difference to whether all keys are. -/
theorem texts_at {before after : List (Literal × Value)} {key : String} :
    (∀ m ∈ before ++ (some key,v) :: after, m.1.isSome = true) ↔ ∀ m ∈ before ++ after, m.1.isSome = true := by
  simp [or_imp,forall_and]

/-- After a change of a record its fields are as before, but for what may change. -/
theorem fields_edit (distinct : (keys fields).Nodup) (edit : (record fields).Edit v v')
    (found : v.fields? (keys fields) = some row) :
    ∃ row', v'.fields? (keys fields) = some row' ∧ RowEdit fields row row' := by
  have one_field {f g} (member : f ∈ fields) (member' : g ∈ fields) (same : f.1 = g.1) : f = g :=
    List.inj_on_of_nodup_map distinct member member' same
  cases edit with
  | permute same =>
    obtain ⟨texts,each⟩ := fields_object.mp found
    obtain ⟨row',found',edits⟩ := rows_edit _ (fun f _ o first => ⟨o,member_perm same ▸ first,.same o⟩) each
    exact ⟨row',fields_object.mpr ⟨fun m member => texts m (same.mem_iff.mpr member),found'⟩,edits⟩
  | @insert _ before after key w unknown =>
    obtain ⟨texts,each⟩ := fields_object.mp found
    obtain ⟨row',found',edits⟩ := rows_edit (before ++ (some key,w) :: after) (fun f member o first => by
      have other : some key ≠ some f.1 := fun same => unknown (Option.some.inj same ▸ List.mem_map_of_mem member)
      exact ⟨o,(member_skip other).trans first,.same o⟩) each
    exact ⟨row',fields_object.mpr ⟨texts_at.mpr texts,found'⟩,edits⟩
  | @leaveOut _ before after key default shape field =>
    obtain ⟨texts,each⟩ := fields_object.mp found
    obtain ⟨row',found',edits⟩ := rows_edit (before ++ after) (fun f member o first => by
      by_cases same : f.1 = key
      · obtain rfl := one_field member field same
        obtain ⟨rfl,none_left⟩ := member_at.mp first
        exact ⟨none,none_left,.omitted⟩
      · have other : some key ≠ some f.1 := fun there => same (Option.some.inj there).symm
        exact ⟨o,(member_skip other).symm.trans first,.same o⟩) each
    exact ⟨row',fields_object.mpr ⟨texts_at.mp texts,found'⟩,edits⟩
  | @inside _ before after key default shape w w' field edit =>
    obtain ⟨texts,each⟩ := fields_object.mp found
    obtain ⟨row',found',edits⟩ := rows_edit (before ++ (some key,w') :: after) (fun f member o first => by
      by_cases same : f.1 = key
      · obtain rfl := one_field member field same
        obtain ⟨rfl,none_left⟩ := member_at.mp first
        exact ⟨some w',member_at.mpr ⟨rfl,none_left⟩,.inside edit⟩
      · have other : some key ≠ some f.1 := fun there => same (Option.some.inj there).symm
        exact ⟨o,(member_skip other).trans ((member_skip other).symm.trans first),.same o⟩) each
    exact ⟨row',fields_object.mpr ⟨texts_at.mpr (texts_at.mp texts),found'⟩,edits⟩
  | @item earlier key default shape later before after w w' place edit =>
    rw [Value.fields?] at found ⊢
    split_ifs at found with short
    cases found
    have size : (before ++ w' :: after).length = (before ++ w :: after).length := by
      rw [List.length_append,List.length_append,List.length_cons,List.length_cons]
    have all : later.length = after.length + ((keys (earlier ++ (key,default,shape) :: later)).length -
        (before ++ w :: after).length) := by
      simp only [keys,List.length_map,List.length_append,List.length_cons] at short ⊢
      omega
    rw [size,if_pos short]
    exact ⟨_,rfl,items_edit place all edit⟩

/-! ### Forms that fit -/

section
variable [Form α] {s : Shape} {key : String} {o o' : Option Value}

/-- A value without records cannot be changed. -/
theorem plain_fits : plain.Fits α := nofun

/-- A record is read as before when its fields are. -/
theorem record_fits {read : List (Option Value) → Option α} (distinct : (keys fields).Nodup)
    (form : ∀ v, ofJson? v = v.fields? (keys fields) >>= read)
    (reads : ∀ row row', RowEdit fields row row' → Keeps (read row) (read row')) : (record fields).Fits α := by
  intro v v' edit a answered
  rw [form] at answered ⊢
  obtain ⟨row,found,answered⟩ := Option.bind_eq_some_iff.mp answered
  obtain ⟨row',found',edits⟩ := fields_edit distinct edit found
  exact Option.bind_eq_some_iff.mpr ⟨row',found',reads row row' edits a answered⟩

theorem FieldEdit.required (edit : FieldEdit (key,none,s) o o') (fits : s.Fits α) :
    Keeps (Json.required o) (Json.required o' : Option α) := by
  cases edit with
  | same => exact .refl _
  | inside edit => exact fits _ _ edit

theorem FieldEdit.orElse {default : α} {written : Value} (edit : FieldEdit (key,some written,s) o o')
    (stands : ofJson? written = some default) (fits : s.Fits α) :
    Keeps (Json.orElse default o) (Json.orElse default o') := by
  cases edit with
  | same => exact .refl _
  | inside edit => exact fits _ _ edit
  | omitted =>
    intro a answered
    exact stands.symm.trans answered

/-- What is changed is there, and is there afterwards. -/
theorem Edit.present_after (edit : s.Edit v v') : v ≠ .null ∧ v' ≠ .null := by
  induction edit with
  | present _ ih => exact ih
  | _ => exact ⟨Value.noConfusion,Value.noConfusion⟩

theorem optional_fits (fits : s.Fits α) : s.optional.Fits (Option α) := by
  intro v v' edit
  cases edit with
  | present edit =>
    obtain ⟨there,there'⟩ := edit.present_after
    rw [ofJson_present there,ofJson_present there']
    exact (fits v v' edit).map some

theorem list_fits (fits : s.Fits α) : s.list.Fits (List α) := by
  intro v v' edit
  cases edit with
  | @element _ before after w w' edit =>
    have parts (w : Value) : (ofJson? (.array (before ++ w :: after)) : Option (List α)) =
        before.mapM ofJson? >>= fun early => ofJson? w >>= fun a => after.mapM ofJson? >>= fun late =>
          some (early ++ a :: late) := by
      simp [ofJson?,List.mapM_append,List.mapM_cons,Option.bind_assoc]
    rw [parts,parts]
    exact .bind (.refl _) fun early => .bind (fits w w' edit) fun a => .refl _

end

end Shape

/-! ### Texts -/

/-- A text whose tokens are those of a value, in whatever layout. -/
def Writes (text : String) (v : Value) : Prop := tokens? text.toList = some v.tokens

theorem Writes.parse {text : String} {v : Value} (writes : Writes text v) : Value.parse? text = some v := by
  rw [Value.parse?,show tokens? text.toList = some v.tokens from writes]
  exact v.ofTokens_tokens

/-- The compact text of a value whose numbers are whole. -/
theorem writes_render {v : Value} (whole : v.Whole) : Writes v.render v := by
  rw [Writes,Value.render,String.toList_ofList]
  exact tokens_text whole v.tokens_chain

/-- A text with white space put between two of its tokens, at its start or at its end. -/
def Respaced (text text' : String) : Prop :=
  ∃ before blanks after ts ts', text.toList = before ++ after ∧ text'.toList = before ++ (blanks ++ after) ∧
    blanks.all isSpace = true ∧ tokens? before = some ts ∧ tokens? after = some ts' ∧
    tokens? (before ++ after) = some (ts ++ ts')

theorem Respaced.tokens {text text' : String} (respaced : Respaced text text') :
    tokens? text'.toList = tokens? text.toList := by
  obtain ⟨before,blanks,after,ts,ts',same,same',blank,early,late,all⟩ := respaced
  rw [same,same',all]
  cases blanks with
  | nil => exact all
  | cons c blanks =>
    rw [List.all_cons,Bool.and_eq_true] at blank
    have rest : tokens? (blanks ++ (after ++ [])) = some ts' := tokens_surrounded late blank.2 rfl
    rw [List.append_nil] at rest
    rw [List.cons_append,tokens_space early blank.1,rest,Option.map_some]

/-- White space that JSON knows is blank. -/
theorem isBlank_of_isSpace {c : Char} (space : isSpace c = true) : Text.isBlank c = true := by
  simp only [isSpace,Bool.or_eq_true,beq_iff_eq] at space
  rcases space with ((rfl | rfl) | rfl) | rfl <;> rfl

/-- A text is blank or not, whatever white space is put into it. -/
theorem Respaced.blank {text text' : String} (respaced : Respaced text text') :
    Text.isBlankText text' = Text.isBlankText text := by
  obtain ⟨before,blanks,after,-,-,same,same',blank,-⟩ := respaced
  have all : blanks.all Text.isBlank = true :=
    List.all_eq_true.mpr fun c member => isBlank_of_isSpace (List.all_eq_true.mp blank c member)
  rw [Text.isBlankText,Text.isBlankText,same,same',List.all_append,List.all_append,List.all_append,all,Bool.true_and]

/-- A form that is read as before after any row of changes of its value, in whatever layout, and after any white space
    between the tokens of its text. -/
structure Tolerates (α : Type) [Form α] (s : Shape) : Prop where
  edited {t t' : String} {v v' : Value} {a : α} (parsed : Value.parse? t = some v)
    (edits : Relation.ReflTransGen s.Edit v v') (writes : Writes t' v') (answered : read? t = some a) : read? t' = some a
  respaced {t t' : String} (respaced : Respaced t t') : (read? t' : Option α) = read? t

/-- Any form is read as before, or not read as before, when white space is put between the tokens of its text. -/
theorem Respaced.read [Form α] {text text' : String} (respaced : Respaced text text') :
    (read? text' : Option α) = read? text := by
  rw [read?,read?,Value.parse?,Value.parse?,respaced.tokens]

/-- A form that fits its shape tolerates what the shape allows for. -/
theorem Shape.Fits.tolerates [Form α] {s : Shape} (fits : s.Fits α) : Tolerates α s where
  edited {t t' v v' a} parsed edits writes answered := by
    have kept : Keeps (ofJson? v : Option α) (ofJson? v') := by
      clear writes
      induction edits with
      | refl => exact .refl _
      | tail _ edit ih => exact fun a answered => fits _ _ edit a (ih a answered)
    rw [read?,parsed] at answered
    rw [read?,writes.parse]
    exact kept a answered
  respaced := Respaced.read

end PhoneSignIn.Json
