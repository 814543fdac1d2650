import PhoneSignIn.Store.File

/-!
What a store is relied on for. A store `Holds` what it answers without changing; a `LawfulStore` holds
what it last read, wrote or forgot, and goes on holding it when an operation fails. The store in memory
and the store of one file are lawful.
-/
namespace PhoneSignIn

variable {σ : Type}

/-- Whether a store answers with this session, or with none, and stays as it is. -/
def Holds [SessionStore σ] (st : σ) (active : Option Session) : Prop :=
  SessionStore.read st = (.ok active,st)

/-- A store holds one answer only. -/
theorem Holds.unique [SessionStore σ] {st : σ} {a b : Option Session} (first : Holds st a) (second : Holds st b) :
    a = b := by
  have same := first.symm.trans second
  exact Except.ok.inj (Prod.mk.inj same).1

/-- A store that is read goes on holding what it held. -/
theorem Holds.read [SessionStore σ] {st st' : σ} {active : Option Session} (held : Holds st active)
    {answer : Except StorageError (Option Session)} (read : SessionStore.read st = (answer,st')) :
    Holds st' active := by
  have same : st' = st := congrArg Prod.snd (read.symm.trans held)
  rw [same]
  exact held

/-- A store that holds what it last read, wrote or forgot. -/
class LawfulStore (σ : Type) [SessionStore σ] : Prop where
  holds_read {st st' : σ} {active : Option Session} (answer : SessionStore.read st = (.ok active,st')) :
    Holds st' active
  holds_written {st st' : σ} {session : Session} (kept : SessionStore.write session st = (.ok (),st')) :
    Holds st' (some session)
  holds_refused {st st' : σ} {session : Session} {e : StorageError} {active : Option Session} (held : Holds st active)
    (refused : SessionStore.write session st = (.error e,st')) : Holds st' active
  holds_cleared {st st' : σ} (cleared : SessionStore.clear st = (.ok (),st')) : Holds st' none
  holds_uncleared {st st' : σ} {e : StorageError} {active : Option Session} (held : Holds st active)
    (refused : SessionStore.clear st = (.error e,st')) : Holds st' active

/-- The store in memory holds the session that is in it. -/
theorem MemoryStore.holds_iff {st : MemoryStore} {active : Option Session} : Holds st active ↔ st.active = active := by
  constructor
  · intro held
    exact Except.ok.inj (congrArg Prod.fst held)
  · rintro rfl
    rfl

instance : LawfulStore MemoryStore where
  holds_read answer := by
    cases answer
    rfl
  holds_written kept := by
    cases kept
    rfl
  holds_refused _ refused := by cases refused
  holds_cleared cleared := by
    cases cleared
    rfl
  holds_uncleared _ refused := by cases refused

namespace FileStore

/-- The store of one file holds what it remembers. -/
theorem holds_iff {f : FileStore} {active : Option Session} : Holds f active ↔ f.cache = some active := by
  simp only [Holds,SessionStore.read,read]
  cases remembered : f.cache with
  | some session => simp
  | none =>
    simp only [reduceCtorEq,iff_false]
    intro answer
    split at answer
    · have forgets := congrArg FileStore.cache (Prod.mk.inj answer).2
      simp [remembered] at forgets
    · cases (Prod.mk.inj answer).1

/-- What a read, a write or a removal leaves in memory is what it answered, wrote or forgot; one that
    fails leaves it alone. -/
instance : LawfulStore FileStore where
  holds_read {f f' active} answer := by
    rw [holds_iff]
    simp only [SessionStore.read,read] at answer
    cases remembered : f.cache with
    | some session =>
      rw [remembered] at answer
      cases answer
      exact remembered
    | none =>
      rw [remembered] at answer
      cases loaded : f.load with
      | ok session =>
        simp only [loaded] at answer
        cases answer
        rfl
      | error e =>
        simp only [loaded] at answer
        cases answer
  holds_written {f f' session} kept := by
    rw [holds_iff]
    simp only [SessionStore.write,write] at kept
    split at kept
    · cases kept
    · split at kept
      · cases kept
        rfl
      · cases kept
  holds_refused {f f' session e active} held refused := by
    rw [holds_iff] at held ⊢
    simp only [SessionStore.write,write] at refused
    split at refused
    · cases refused
      exact held
    · split at refused
      · cases refused
      · cases refused
        exact held
  holds_cleared {f f'} cleared := by
    rw [holds_iff]
    simp only [SessionStore.clear,clear] at cleared
    split at cleared
    · cases cleared
      rfl
    · cases cleared
      rfl
    · cases cleared
  holds_uncleared {f f' e active} held refused := by
    rw [holds_iff] at held ⊢
    simp only [SessionStore.clear,clear] at refused
    split at refused
    · cases refused
    · cases refused
    · cases refused
      exact held

end FileStore

end PhoneSignIn
