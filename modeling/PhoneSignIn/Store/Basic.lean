import PhoneSignIn.Gateway.Error

/-!
Where the active session is kept. A store answers every operation with a result and with itself afterwards; one that
keeps the session in memory never fails, and any store can be made to fail at will.
-/
namespace PhoneSignIn

class SessionStore (σ : Type) where
  read : σ → Except StorageError (Option Session) × σ
  write : Session → σ → Except StorageError Unit × σ
  clear : σ → Except StorageError Unit × σ

structure MemoryStore where
  active : Option Session := none
deriving DecidableEq, Repr, Inhabited

instance : SessionStore MemoryStore where
  read m := (.ok m.active,m)
  write s _ := (.ok (),⟨some s⟩)
  clear _ := (.ok (),⟨none⟩)

/-- A store of which some operations fail, without effect. -/
structure FaultyStore (σ : Type) where
  store : σ
  readFault : Option StorageError := none
  writeFault : Option StorageError := none
  clearFault : Option StorageError := none

namespace FaultyStore

def attempt (fault : Option StorageError) (act : σ → Except StorageError α × σ) (f : FaultyStore σ) :
    Except StorageError α × FaultyStore σ :=
  match fault with
  | some e => (.error e,f)
  | none =>
    let (result,store) := act f.store
    (result,{ f with store })

instance [SessionStore σ] : SessionStore (FaultyStore σ) where
  read f := attempt f.readFault SessionStore.read f
  write s f := attempt f.writeFault (SessionStore.write s) f
  clear f := attempt f.clearFault SessionStore.clear f

end FaultyStore

end PhoneSignIn
