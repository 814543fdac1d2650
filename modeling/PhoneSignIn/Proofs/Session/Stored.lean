import PhoneSignIn.Proofs.Json.Record
import PhoneSignIn.Session.Stored

/-!
Stored sessions are read back. The forms of credentials, addresses and records are lawful, and the record
of a session is the record of that session only; so decoding what was encoded gives the session back, with
all that it has (`decode_encode`), and different sessions are stored as different texts
(`stored_round_trip`).
-/
namespace PhoneSignIn
open Json

/-! ### The forms of a session's parts -/

instance : LawfulForm AuthToken where
  ofJson_toJson t := by
    have fields : (toJson t).fields? ["token","secret"] = some [some (toJson t.token),some (toJson t.secret)] :=
      Value.fields_record rfl (by decide)
    simp [ofJson?,fields]
  toJson_whole t := Value.record_whole (by simp [toJson_whole])

instance : LawfulForm Email where
  ofJson_toJson e := by
    have fields : (toJson e).fields? ["address","is_verified"] =
        some [some (toJson e.address),some (toJson e.isVerified)] := Value.fields_record rfl (by decide)
    simp [ofJson?,fields]
  toJson_whole e := Value.record_whole (by simp [toJson_whole])

instance : PresentForm Email where
  toJson_ne_null _ := Value.noConfusion

instance : LawfulForm SessionRecord where
  ofJson_toJson r := by
    have fields : (toJson r).fields? ["auth_token","id","phone_number","email"] =
        some [some (toJson r.authToken),some (toJson r.id),some (toJson r.phoneNumber),some (toJson r.email)] :=
      Value.fields_record rfl (by decide)
    simp [ofJson?,fields]
  toJson_whole r := Value.record_whole (by simp [toJson_whole])

/-! ### Sessions -/

namespace Session.Stored

/-- The text of a session is not blank: it begins with a brace. -/
theorem encode_not_blank (s : Session) : Text.isBlankText (encode (some s)) = false := by
  have braced : (encode (some s)).toList.head? = some '\x7b' := by
    simp only [encode,write,Value.render,String.toList_ofList]
    rfl
  obtain ⟨rest,written⟩ := List.head?_eq_some_iff.mp braced
  rw [Text.isBlankText,written,List.all_cons]
  rfl

/-- A stored session is read back with all that it has. -/
theorem decode_encode (s : Session) : decode (encode (some s)) = some s := by
  have read : read? (encode (some s)) = some s.toSessionRecord := read_write s.toSessionRecord
  rw [decode,encode_not_blank,read]
  exact congrArg some (ofRecord_toSessionRecord s)

/-- What a text holds is what it is read as; a blank text is read as nothing anyway. -/
theorem decode_eq (text : String) : decode text = (read? text).map ofRecord := by
  rw [decode]
  split_ifs with blank
  · rw [read?,Value.parse_blank blank]
    rfl
  · rfl

end Session.Stored

/-- A session that is stored is read back: the address and whether it is verified included, whatever the texts
    are. So different sessions are stored as different texts, none of which is blank. -/
theorem stored_round_trip : (∀ s : Session, Session.Stored.decode (Session.Stored.encode (some s)) = some s) ∧
    Function.Injective (fun s : Session => Session.Stored.encode (some s)) ∧
    ∀ s : Session, Text.isBlankText (Session.Stored.encode (some s)) = false := by
  refine ⟨Session.Stored.decode_encode,?_,Session.Stored.encode_not_blank⟩
  intro s s' same
  have read := congrArg Session.Stored.decode same
  simp only [Session.Stored.decode_encode] at read
  exact Option.some.inj read

end PhoneSignIn
