import PhoneSignIn.Gateway.Call
import PhoneSignIn.Journal
import PhoneSignIn.Settings
import PhoneSignIn.Store.Basic

/-!
What the flow acts on: the gateway, the store of the active session, the hosts that wait for an outcome, and the history
of all that has happened. An `Operation` is a step from one world to the next; calls, store operations, journal events
and deliveries are appended to the history in the order in which they happen.
-/
namespace PhoneSignIn.Flow

abbrev HostId := Nat

abbrev ReceiverId := Nat

/-- A host's wish to be told; the host can be gone, and the wish can be withdrawn. -/
structure Callback where
  host : HostId
  withdrawn : Bool := false
deriving DecidableEq, Repr, Inhabited

structure Receiver where
  callback : Callback
  delivered : Bool := false
deriving DecidableEq, Repr, Inhabited

inductive Delivery where
  | success (host : HostId) (session : Session) (phoneNumber : String)
  | failure (host : HostId) (message : String)
  | changed (session : Session)
deriving DecidableEq, Repr

inductive Occurrence where
  | asked (call : Call) (answer : Except CallError call.Answer)
  | read (result : Except StorageError (Option Session))
  | wrote (session : Session) (result : Except StorageError Unit)
  | cleared (result : Except StorageError Unit)
  | recorded (event : Journal.Event)
  | delivered (delivery : Delivery)

structure World (γ σ : Type) where
  gateway : γ
  store : σ
  settings : Settings := {}
  host : Option HostId := none
  /-- Earlier hosts that are still there. -/
  others : List HostId := []
  receivers : List Receiver := []
  history : List Occurrence := []

abbrev Operation (γ σ : Type) := StateM (World γ σ)

variable {γ σ : Type}

def log (o : Occurrence) : Operation γ σ Unit := modify fun w => { w with history := w.history ++ [o] }

def record (component : Journal.Component) (action : Journal.Action) : Operation γ σ Unit :=
  log (.recorded { component, action })

def ask [Gateway γ] (call : Call) : Operation γ σ (Except CallError call.Answer) := do
  let w ← get
  let (answer,gateway) := Gateway.ask call w.gateway
  set { w with gateway }
  log (.asked call answer)
  return answer

def readSession [SessionStore σ] : Operation γ σ (Except StorageError (Option Session)) := do
  let w ← get
  let (result,store) := SessionStore.read w.store
  set { w with store }
  log (.read result)
  return result

def writeSession [SessionStore σ] (session : Session) : Operation γ σ (Except StorageError Unit) := do
  let w ← get
  let (result,store) := SessionStore.write session w.store
  set { w with store }
  log (.wrote session result)
  return result

def clearSession [SessionStore σ] : Operation γ σ (Except StorageError Unit) := do
  let w ← get
  let (result,store) := SessionStore.clear w.store
  set { w with store }
  log (.cleared result)
  return result

end PhoneSignIn.Flow
