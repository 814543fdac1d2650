import PhoneSignIn.Proofs.Store.Lawful
import PhoneSignIn.Proofs.Store.Refusal
import PhoneSignIn.Proofs.Store.Reopening

/-!
What a store keeps. A `KeepingStore` has a content, whether it can be read now or not: a write that is done leaves the
content that keeps its session, and one that fails leaves the content as it was. The store in memory keeps its session;
the store of one file keeps what it remembers and what is in the place of its file; a store that can be made to fail
keeps what the store beneath keeps.
-/
namespace PhoneSignIn

variable {σ : Type}

class KeepingStore (σ : Type) [SessionStore σ] where
  Content : Type
  content : σ → Content
  /-- The content that keeps this session. -/
  keeping : Session → Content
  content_written {st st' : σ} {session : Session} (kept : SessionStore.write session st = (.ok (),st')) :
    content st' = keeping session
  content_refused {st st' : σ} {session : Session} {e : StorageError}
    (refused : SessionStore.write session st = (.error e,st')) : content st' = content st
  answer_keeping {st st' : σ} {session : Session} {active : Option Session} (kept : content st = keeping session)
    (answer : SessionStore.read st = (.ok active,st')) : active = some session

instance : KeepingStore MemoryStore where
  Content := Option Session
  content := MemoryStore.active
  keeping := some
  content_written kept := by
    cases kept
    rfl
  content_refused refused := by cases refused
  answer_keeping kept answer := by
    cases answer
    exact kept

/-- A fault has no effect, so what is kept is what the store beneath keeps. -/
instance [SessionStore σ] [KeepingStore σ] : KeepingStore (FaultyStore σ) where
  Content := KeepingStore.Content σ
  content f := KeepingStore.content f.store
  keeping := KeepingStore.keeping
  content_written {f f' session} kept := by
    simp only [SessionStore.write,FaultyStore.attempt] at kept
    split at kept
    · cases kept
    · obtain ⟨done,rfl⟩ := Prod.mk.inj kept
      exact KeepingStore.content_written (Prod.ext done rfl)
  content_refused {f f' session e} refused := by
    simp only [SessionStore.write,FaultyStore.attempt] at refused
    split at refused
    · cases refused
      rfl
    · obtain ⟨failed,rfl⟩ := Prod.mk.inj refused
      exact KeepingStore.content_refused (Prod.ext failed rfl)
  answer_keeping {f f' session active} kept answer := by
    simp only [SessionStore.read,FaultyStore.attempt] at answer
    split at answer
    · cases answer
    · obtain ⟨answered,rfl⟩ := Prod.mk.inj answer
      exact KeepingStore.answer_keeping kept (Prod.ext answered rfl)

/-- What the store remembers, and what is in the place of its file. -/
instance : KeepingStore FileStore where
  Content := Option (Option Session) × Option Entry
  content f := (f.cache,f.disk.entry? f.path)
  keeping session := (some (some session),some (.file (FileStore.bytes session)))
  content_written {f f' session} kept := by
    obtain ⟨path,found⟩ := FileStore.write_left kept
    have remembers := FileStore.holds_iff.mp (LawfulStore.holds_written kept)
    rw [remembers,path,FileTree.entry_of_find found]
  content_refused {f f' session e} refused := by
    have failed : (f.write session).1 ≠ .ok () := by
      rw [show f.write session = _ from refused]
      exact nofun
    obtain ⟨path,cache,-⟩ := FileStore.write_refused failed
    have entry := FileStore.write_refused_entry failed
    rw [show f.write session = _ from refused] at path cache entry
    rw [path,cache,entry]
  answer_keeping {f f' session active} kept answer := by
    have remembers : f.cache = some (some session) := congrArg Prod.fst kept
    have held : Holds f (some session) := FileStore.holds_iff.mpr remembers
    cases answer.symm.trans held
    rfl

end PhoneSignIn
