import PhoneSignIn.Flow.OpenStep

/-!
The host's side of the flow: what a host asks for, how a sign-in begins, the screen after a step has given up, and the
active session.
-/
namespace PhoneSignIn.Flow

variable {γ σ : Type}

/-! ## Starting -/

structure SignInDraft where
  host : Option HostId := none
  phoneNumber : Option String := none
  wantsEmail : Bool := false
deriving DecidableEq, Repr, Inhabited

structure SignInRequest where
  host : HostId
  phoneNumber : String
  wantsEmail : Bool
deriving DecidableEq, Repr, Inhabited

def SignInDraft.complete (r : SignInDraft) : Except SetupError SignInRequest :=
  match r.host with
  | none => .error .noHost
  | some host => .ok { host, phoneNumber := r.phoneNumber.getD "", wantsEmail := r.wantsEmail }

inductive Beginning where
  /-- A user is signed in already, and the host has been told. -/
  | signedIn (session : Session)
  | launch (h : Handoff)
deriving DecidableEq, Repr

def startSignIn [SessionStore σ] (config : SignInRequest) : Operation γ σ (Except OpeningError Beginning) := do
  record .auth .impression
  let callback : Callback := { host := config.host }
  match ← readSession with
  | .error e => return .error (.storage e)
  | .ok active =>
    match active.filter (!·.isGuest) with
    | some session =>
      callback.tellSuccess session session.phoneNumber
      return .ok (.signedIn session)
    | none =>
      let receiver ← newReceiver callback
      return .ok (.launch
        { receiver, phoneNumber := config.phoneNumber, wantsEmail := config.wantsEmail })

/-! ## After a step has given up -/

structure FailureScreen where
  failure : FailureHandoff
deriving DecidableEq, Repr, Inhabited

namespace FailureScreen

def resume (_ : FailureScreen) : Operation γ σ Unit := record .failure .impression

def dismiss [SessionStore σ] (s : FailureScreen) : Operation γ σ Unit := do
  record .failure (.click .dismiss)
  reportFailure s.failure.receiver s.failure.reason

/-- The user tries another number, in the same sign-in. -/
def restart (s : FailureScreen) : Operation γ σ Handoff := do
  record .failure (.click .retry)
  return { receiver := s.failure.receiver }

end FailureScreen

/-! ## The active session -/

/-- Fetch the account of a user's session and make its session the active one. When that fails nothing changes and
    nobody is told. -/
def refreshSession [Gateway γ] [SessionStore σ] (session : Session) : Operation γ σ (Option Session) := do
  if session.isGuest then return none
  match ← ask (.verifyAccount session) with
  | .error _ => return none
  | .ok account =>
    let refreshed := Session.ofAccount account
    match ← writeSession refreshed with
    | .error _ => return none
    | .ok () =>
      log (.delivered (.changed refreshed))
      return some refreshed

def signOut [SessionStore σ] : Operation γ σ (Except StorageError Unit) := clearSession

end PhoneSignIn.Flow
