import PhoneSignIn.EmailAddress
import PhoneSignIn.Flow.StepState
import PhoneSignIn.Text.Blank

/-!
The email step: the user, who has a session by now, enters an email address for the account.
-/
namespace PhoneSignIn.Flow

variable {γ σ : Type}

structure EmailStep where
  core : StepState
  phoneNumber : String
deriving DecidableEq, Repr, Inhabited

namespace EmailStep

def ofHandoff (settings : Settings) (h : Handoff) : Except OpeningError EmailStep := do
  let receiver ← Handoff.demand .email .receiver h.receiver
  let phoneNumber ← Handoff.demand .email .phoneNumber h.phoneNumber
  return { core := .new settings .email receiver, phoneNumber }

/-- Add an address to the account of the active session. Without a user's session the step gives up. -/
def attach [Gateway γ] [SessionStore σ] (s : EmailStep) (core : StepState) (email : String) :
    Operation γ σ (Move × StepState) := do
  match ← readSession with
  | .error e => core.report (.ofStorage e)
  | .ok none => core.report (.fatal "")
  | .ok (some session) =>
    if session.isGuest then core.report (.fatal "")
    else
      match ← ask (.submitEmail session email) with
      | .error e => core.report e
      | .ok _ =>
        core.record .success
        core.signIn session s.phoneNumber

def submit [Gateway γ] [SessionStore σ] (s : EmailStep) (input : String) :
    Operation γ σ (Move × EmailStep) := do
  if s.core.isClosed then return (.stay,s)
  let email := Text.trim input
  if !EmailAddress.isValid email then return (.stay,{ s with core := s.core.showError invalidEmailMessage })
  s.core.recordAttempt
  let (t,core) ← s.attach s.core.showWorking email
  return (t,{ s with core })

end EmailStep

end PhoneSignIn.Flow
