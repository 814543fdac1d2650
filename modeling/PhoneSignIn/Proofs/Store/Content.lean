import PhoneSignIn.Proofs.Flow.Turn
import PhoneSignIn.Proofs.Session.Stored
import PhoneSignIn.Proofs.Text.Utf8
import PhoneSignIn.Store.File

/-!
What a store that has just been opened makes of its file. A file with the text of a session, white space around it or
not, is read as that session, and a file with any other text as none (`read_text`). A file whose octets are no text is
not taken for an empty one: the store fails, and so does whoever begins a sign-in with it (`content_decides`).
-/
namespace PhoneSignIn.FileStore
open PhoneSignIn.Flow Text

variable {f : FileStore} {bytes : List UInt8} {s : Session} {text : String}

/-- The octets of a text. -/
def IsText (bytes : List UInt8) : Prop := ∃ text, bytes = Utf8.encode text

/-- The octets of a session's text, which may have white space around it. What the text says of a guest, the credentials
    apart, does not count. -/
def IsTextOf (bytes : List UInt8) (s : Session) : Prop :=
  ∃ (before text after : String) (record : SessionRecord), bytes = Utf8.encode (before ++ text ++ after) ∧
    before.toList.all Json.isSpace = true ∧ after.toList.all Json.isSpace = true ∧
    Json.read? text = some record ∧ s = .ofRecord record

/-- A text holds a session if and only if it is that session's text. -/
theorem isTextOf_iff : IsTextOf (Utf8.encode text) s ↔ Session.Stored.decode text = some s := by
  rw [Session.Stored.decode_eq]
  constructor
  · rintro ⟨before,core,after,record,same,blank,blank',read,rfl⟩
    have whole : text = before ++ core ++ after :=
      Option.some.inj ((Utf8.decode_encode text).symm.trans (Utf8.decode_eq_some_iff.mpr same))
    rw [whole,Json.read_surrounded read blank blank']
    rfl
  · intro held
    obtain ⟨record,read,rfl⟩ := Option.map_eq_some_iff.mp held
    exact ⟨"",text,"",record,by simp,rfl,rfl,read,rfl⟩

/-! ### The first reading -/

section
variable (opened : f.cache = none)
include opened

/-- A file with a text is read as what the text holds. -/
theorem read_text (there : f.disk.find f.path = .ok (.file (Utf8.encode text))) :
    f.read.1 = .ok (Session.Stored.decode text) := by
  rw [read,opened,load,FileTree.read,there]
  simp only [Utf8.decode_encode]

/-- A file with octets of no text is not read. -/
theorem read_no_text (there : f.disk.find f.path = .ok (.file bytes)) (noText : ¬IsText bytes) :
    f.read.1 = .error (storageError .notText) := by
  have refused : Utf8.decode? bytes = none :=
    Option.eq_none_iff_forall_ne_some.mpr fun text read => noText ⟨text,Utf8.decode_eq_some_iff.mp read⟩
  rw [read,opened,load,FileTree.read,there]
  simp only [refused]

/-- What the octets of a file say decides what a store answers first that is opened on it, and how a sign-in begins
    with that store: it answers the session whose text they are, none when they are another text, and fails when
    they are no text. -/
theorem content_decides (there : f.disk.find f.path = .ok (.file bytes)) :
    (∀ s, f.read.1 = .ok (some s) ↔ IsTextOf bytes s) ∧
    (f.read.1 = .ok none ↔ IsText bytes ∧ ∀ s, ¬IsTextOf bytes s) ∧
    (∀ e, f.read.1 = .error e ↔ ¬IsText bytes ∧ e = ⟨"stream did not contain valid UTF-8"⟩) ∧
    ∀ (γ : Type) (w : World γ FileStore) (config : SignInRequest), w.store = f →
      (∀ s, ((startSignIn config).run w).1 = .ok (.signedIn s) ↔ IsTextOf bytes s ∧ s.isGuest = false) ∧
      ∀ e, ((startSignIn config).run w).1 = .error e ↔
        ¬IsText bytes ∧ e = .storage ⟨"stream did not contain valid UTF-8"⟩ := by
  have reads : (∀ s, f.read.1 = .ok (some s) ↔ IsTextOf bytes s) ∧
      (f.read.1 = .ok none ↔ IsText bytes ∧ ∀ s, ¬IsTextOf bytes s) ∧
      ∀ e, f.read.1 = .error e ↔ ¬IsText bytes ∧ e = storageError .notText := by
    by_cases isText : IsText bytes
    · obtain ⟨text,rfl⟩ := isText
      have isText : IsText (Utf8.encode text) := ⟨text,rfl⟩
      simp only [read_text opened there,isTextOf_iff,isText,Except.ok.injEq,reduceCtorEq,not_true,false_and,true_and,
        implies_true,iff_self,and_true]
      exact Option.eq_none_iff_forall_ne_some
    · have none_of (s : Session) : ¬IsTextOf bytes s := fun ⟨_,_,_,_,same,_⟩ => isText ⟨_,same⟩
      simp [read_no_text opened there isText,isText,none_of,eq_comm]
  refine ⟨reads.1,reads.2.1,reads.2.2,?_⟩
  rintro γ w config rfl
  have begins := startSignIn_begins config w
  refine ⟨fun s => ?_,fun e => ?_⟩
  · rw [begins.signedIn_iff]
    exact and_congr_left fun _ => reads.1 s
  · rw [begins.error_iff]
    constructor
    · rintro ⟨e,failed,rfl⟩
      obtain ⟨noText,rfl⟩ := (reads.2.2 e).mp failed
      exact ⟨noText,rfl⟩
    · rintro ⟨noText,rfl⟩
      exact ⟨_,(reads.2.2 _).mpr ⟨noText,rfl⟩,rfl⟩

end

/-- A guest's session with a number, between blank lines, is read as the guest's. -/
theorem guest_text_read :
    let text := "\x7b\"auth_token\":\x7b\"token\":\"t\",\"secret\":\"s\"\x7d,\"id\":0,\"phone_number\":\"+15\"\x7d"
    let bytes := Utf8.encode ("\n" ++ text ++ " \n")
    let f : FileStore := { path := ["s.json"], disk := ({} : FileTree).insert ["s.json"] (.file bytes) }
    f.cache = none ∧ f.disk.find f.path = .ok (.file bytes) ∧ f.read.1 = .ok (some (Session.guest ⟨"t","s"⟩)) := by
  intro text bytes f
  have there : f.disk.find f.path = .ok (.file bytes) := rfl
  have read : Json.read? text = some (⟨⟨"t","s"⟩,0,"+15",none⟩ : SessionRecord) := by decide +kernel
  exact ⟨rfl,there,((content_decides rfl there).1 _).mpr ⟨"\n",text," \n",_,rfl,rfl,rfl,read,rfl⟩⟩

/-- An octet that starts no character makes a store fail, and keeps a sign-in from beginning. -/
theorem stray_octet_refused :
    let f : FileStore := { path := ["s.json"], disk := ({} : FileTree).insert ["s.json"] (.file [0xFF]) }
    let w : World Unit FileStore := { gateway := (), store := f, host := some 1 }
    f.cache = none ∧ f.disk.find f.path = .ok (.file [0xFF]) ∧
      f.read.1 = .error ⟨"stream did not contain valid UTF-8"⟩ ∧
      ((startSignIn ⟨1,"",false⟩).run w).1 = .error (.storage ⟨"stream did not contain valid UTF-8"⟩) :=
  ⟨rfl,rfl,rfl,rfl⟩

end PhoneSignIn.FileStore
