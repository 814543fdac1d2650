import PhoneSignIn.Proofs.Json.Fields
import PhoneSignIn.Proofs.Session.Stored

/-!
Stored texts and their one form. What a text says of a session is described by the text's value alone: the fields
of its records in whatever order and layout (`IsRecord`). A text is decoded as what it says, but of a guest only
the credentials count (`decode_iff`). So decoding normalizes: what is decoded is encoded as a text that is decoded
as the same session and encoded as the same text again (`decoding_normalizes`).
-/
namespace PhoneSignIn.Json

/-! ### What fields mean -/

/-- The forms that are read are described by a relation. -/
def ReadsAs (α : Type) [Form α] (means : Value → α → Prop) : Prop := ∀ v a, ofJson? v = some a ↔ means v a

/-- A field that stands for `default` when it is absent. -/
def OrDefault {α : Type} (default : α) (means : Value → α → Prop) : Option Value → α → Prop
  | none, a => a = default
  | some v, a => means v a

/-- Something that may be `null`. -/
def OrNull {α : Type} (means : Value → α → Prop) (v : Value) : Option α → Prop
  | none => v = .null
  | some a => v ≠ .null ∧ means v a

/-- A whole number, written without a fraction and an exponent; zero has no sign. -/
def IsWhole (v : Value) (z : Int) : Prop :=
  ∃ n : Numeral, v = .number n ∧ n.rest = "" ∧ ¬ (n.negative = true ∧ n.whole = 0) ∧
    z = if n.negative then -(n.whole : Int) else n.whole

section
variable {α : Type} [Form α] {means : Value → α → Prop}

theorem required_iff (reads : ReadsAs α means) {field : Option Value} {a : α} :
    required field = some a ↔ ∃ v, field = some v ∧ means v a := by
  cases field with
  | none => simp [required]
  | some v => simpa [required] using reads v a

theorem orElse_iff (reads : ReadsAs α means) {default : α} {field : Option Value} {a : α} :
    orElse default field = some a ↔ OrDefault default means field a := by
  cases field with
  | none => simp [orElse,OrDefault,eq_comm]
  | some v => exact reads v a

theorem option_reads (reads : ReadsAs α means) : ReadsAs (Option α) (OrNull means) := by
  intro v a
  by_cases null : v = .null
  · subst null
    cases a with
    | none => simp [ofJson?,OrNull]
    | some a => simp [ofJson?,OrNull]
  · rw [ofJson_present null]
    cases a with
    | none => simp [OrNull,null]
    | some a => simp [OrNull,null,reads v a]

theorem text_reads : ReadsAs String fun v s => v = .text s := by
  intro v s
  cases v <;> simp [ofJson?,Value.text]

theorem bool_reads : ReadsAs Bool fun v b => v = .bool b := by
  intro v b
  cases v <;> simp [ofJson?]

theorem whole_iff {v : Value} {z least greatest : Int} :
    v.intWithin? least greatest = some z ↔ IsWhole v z ∧ least ≤ z ∧ z ≤ greatest := by
  cases v with
  | number n =>
    simp only [Value.intWithin?,Option.filter_eq_some_iff,decide_eq_true_eq,IsWhole,Value.number.injEq,Numeral.int?]
    refine and_congr_left fun _ => ?_
    split_ifs with refused negative <;> grind
  | _ => simp [Value.intWithin?,IsWhole]

theorem int64_reads : ReadsAs Int64 fun v n => IsWhole v n.toInt := by
  intro v n
  simp only [ofJson?,Option.map_eq_some_iff,whole_iff]
  constructor
  · rintro ⟨z,⟨whole,least,greatest⟩,rfl⟩
    rwa [Int64.toInt_ofInt_of_le least (Int.lt_add_one_of_le greatest)]
  · intro whole
    exact ⟨n.toInt,⟨whole,n.minValue_le_toInt,n.toInt_le⟩,n.ofInt_toInt⟩

end

end PhoneSignIn.Json

namespace PhoneSignIn.Session.Stored
open Json

/-! ### What a text says -/

/-- A value of the form of credentials. -/
def IsToken (v : Value) (t : AuthToken) : Prop :=
  v.HasFields ["token","secret"] [some (.text t.token),some (.text t.secret)]

/-- A value of the form of an email; an address is not verified unless that is told. -/
def IsEmail (v : Value) (e : Email) : Prop :=
  ∃ verified, v.HasFields ["address","is_verified"] [some (.text e.address),verified] ∧
    OrDefault false (fun v b => v = .bool b) verified e.isVerified

/-- A value of the form of a session. Phone number and email may be missing, and the email may be `null`. -/
def IsRecord (v : Value) (r : SessionRecord) : Prop :=
  ∃ authToken id phoneNumber email,
    v.HasFields ["auth_token","id","phone_number","email"] [some authToken,some id,phoneNumber,email] ∧
    IsToken authToken r.authToken ∧ IsWhole id r.id.toInt ∧
    OrDefault guestPhoneNumber (fun v s => v = .text s) phoneNumber r.phoneNumber ∧
    OrDefault none (OrNull IsEmail) email r.email

/-- A text that is one value of the form of a session. -/
def Holds (text : String) (r : SessionRecord) : Prop := ∃ v, Value.parse? text = some v ∧ IsRecord v r

theorem token_reads : ReadsAs AuthToken IsToken := by
  intro v t
  constructor
  · intro read
    obtain ⟨row,found,read⟩ := Option.bind_eq_some_iff.mp read
    split at read
    · obtain ⟨token,token_read,read⟩ := Option.bind_eq_some_iff.mp read
      obtain ⟨secret,secret_read,same⟩ := Option.bind_eq_some_iff.mp read
      obtain ⟨v₁,rfl,rfl⟩ := (required_iff text_reads).mp token_read
      obtain ⟨v₂,rfl,rfl⟩ := (required_iff text_reads).mp secret_read
      cases same
      exact Value.fields_iff.mp found
    · cases read
  · intro token
    simp [ofJson?,Value.fields_iff.mpr token,(required_iff text_reads).mpr ⟨_,rfl,rfl⟩]

theorem email_reads : ReadsAs Email IsEmail := by
  intro v e
  constructor
  · intro read
    obtain ⟨row,found,read⟩ := Option.bind_eq_some_iff.mp read
    split at read
    · obtain ⟨address,address_read,read⟩ := Option.bind_eq_some_iff.mp read
      obtain ⟨verified,verified_read,same⟩ := Option.bind_eq_some_iff.mp read
      obtain ⟨v₁,rfl,rfl⟩ := (required_iff text_reads).mp address_read
      cases same
      exact ⟨_,Value.fields_iff.mp found,(orElse_iff bool_reads).mp verified_read⟩
    · cases read
  · rintro ⟨verified,fields,told⟩
    simp [ofJson?,Value.fields_iff.mpr fields,(required_iff text_reads).mpr ⟨_,rfl,rfl⟩,(orElse_iff bool_reads).mpr told]

theorem record_reads : ReadsAs SessionRecord IsRecord := by
  intro v r
  constructor
  · intro read
    obtain ⟨row,found,read⟩ := Option.bind_eq_some_iff.mp read
    split at read
    · obtain ⟨authToken,token_read,read⟩ := Option.bind_eq_some_iff.mp read
      obtain ⟨id,id_read,read⟩ := Option.bind_eq_some_iff.mp read
      obtain ⟨phoneNumber,number_read,read⟩ := Option.bind_eq_some_iff.mp read
      obtain ⟨email,email_read,same⟩ := Option.bind_eq_some_iff.mp read
      obtain ⟨v₁,rfl,token⟩ := (required_iff token_reads).mp token_read
      obtain ⟨v₂,rfl,whole⟩ := (required_iff int64_reads).mp id_read
      cases same
      exact ⟨v₁,v₂,_,_,Value.fields_iff.mp found,token,whole,(orElse_iff text_reads).mp number_read,
        (orElse_iff (option_reads email_reads)).mp email_read⟩
    · cases read
  · rintro ⟨authToken,id,phoneNumber,email,fields,token,whole,number,address⟩
    simp [ofJson?,Value.fields_iff.mpr fields,(required_iff token_reads).mpr ⟨_,rfl,token⟩,
      (required_iff int64_reads).mpr ⟨_,rfl,whole⟩,(orElse_iff text_reads).mpr number,
      (orElse_iff (option_reads email_reads)).mpr address]

/-- What is read of a text is what it holds. -/
theorem read_iff {text : String} {r : SessionRecord} : read? text = some r ↔ Holds text r := by
  rw [read?,Holds]
  exact Option.bind_eq_some_iff.trans (exists_congr fun v => and_congr_right fun _ => record_reads v r)

/-! ### What is decoded -/

/-- A session that a record of a text stands for: of a guest only the credentials are kept. -/
structure Normalizes (s : Session) (r : SessionRecord) : Prop where
  authToken : s.authToken = r.authToken
  id : s.id = r.id
  guest : r.id = guestId → s.phoneNumber = guestPhoneNumber ∧ s.email = none
  user : r.id ≠ guestId → s.phoneNumber = r.phoneNumber ∧ s.email = r.email

/-- There is one session that a record stands for. -/
theorem normalizes_iff {s : Session} {r : SessionRecord} : Normalizes s r ↔ ofRecord r = s := by
  constructor
  · intro normal
    have same : (ofRecord r).toSessionRecord = s.toSessionRecord := by
      obtain ⟨⟨authToken,id,phoneNumber,email⟩,blank⟩ := s
      obtain ⟨rfl,rfl,guest,user⟩ := normal
      by_cases isGuest : r.id = guestId
      · obtain ⟨rfl,rfl⟩ := guest isGuest
        rw [ofRecord,dif_pos isGuest]
        exact congrArg (fun id => (⟨r.authToken,id,guestPhoneNumber,none⟩ : SessionRecord)) isGuest.symm
      · obtain ⟨rfl,rfl⟩ := user isGuest
        exact ofRecord_of_ne isGuest
    rw [← ofRecord_toSessionRecord s,← same,ofRecord_toSessionRecord]
  · rintro rfl
    by_cases isGuest : r.id = guestId
    · rw [ofRecord,dif_pos isGuest]
      exact ⟨rfl,isGuest.symm,fun _ => ⟨rfl,rfl⟩,fun user => absurd isGuest user⟩
    · rw [ofRecord,dif_neg isGuest]
      exact ⟨rfl,rfl,fun guest => absurd guest isGuest,fun _ => ⟨rfl,rfl⟩⟩

/-- A text is decoded as the session that it holds, if it holds one. -/
theorem decode_iff {text : String} {s : Session} : decode text = some s ↔ ∃ r, Holds text r ∧ Normalizes s r := by
  rw [decode_eq,Option.map_eq_some_iff]
  exact exists_congr fun r => and_congr read_iff normalizes_iff.symm

/-- Encoding what was decoded and decoding it again changes nothing. -/
theorem decode_settled (text : String) : decode (encode (decode text)) = decode text := by
  cases decode text with
  | none => rfl
  | some s => exact decode_encode s

/-- Any text is decoded as no session, or as the session that it holds: with the credentials and the id in the text, and
    for a user with the phone number and the email in the text, but for a guest with an empty phone number and no email.
    Encoding that and decoding it again gives the same session, and so the same text. -/
theorem decoding_normalizes (text : String) :
    (∀ s, decode text = some s ↔ ∃ r, Holds text r ∧ Normalizes s r) ∧
      decode (encode (decode text)) = decode text ∧
      encode (decode (encode (decode text))) = encode (decode text) :=
  ⟨fun _ => decode_iff,decode_settled text,congrArg encode (decode_settled text)⟩

end PhoneSignIn.Session.Stored
