import PhoneSignIn.Flow.Step.Code
import PhoneSignIn.Flow.Step.Email
import PhoneSignIn.Flow.Step.Phone

/-!
An open step of any kind, and what the user can do on it.
-/
namespace PhoneSignIn.Flow

variable {γ σ : Type}

inductive OpenStep where
  | phone (s : PhoneStep)
  | loginCode (s : LoginCodeStep)
  | confirmationCode (s : ConfirmationCodeStep)
  | pinCode (s : PinCodeStep)
  | email (s : EmailStep)
deriving DecidableEq, Repr, Inhabited

namespace OpenStep

def core : OpenStep → StepState
  | phone s => s.core
  | loginCode s => s.core
  | confirmationCode s => s.core
  | pinCode s => s.core
  | email s => s.core

def setCore (core : StepState) : OpenStep → OpenStep
  | phone s => phone { s with core }
  | loginCode s => loginCode { s with core }
  | confirmationCode s => confirmationCode { s with core }
  | pinCode s => pinCode { s with core }
  | email s => email { s with core }

def step : OpenStep → Step
  | phone _ => .phoneNumber
  | loginCode _ => .loginCode
  | confirmationCode _ => .confirmationCode
  | pinCode _ => .pinCode
  | email _ => .email

def termsUri? : OpenStep → Option String
  | phone _ | email _ => some "https://fabric.io/terms/digits"
  | loginCode _ | confirmationCode _ => some "https://twitter.com/tos"
  | pinCode _ => none

/-- The step of a kind that opens from a handoff; the failure screen opens from none. -/
def ofHandoff (settings : Settings) (step : Step) (h : Handoff) : Except OpeningError OpenStep :=
  match step with
  | .phoneNumber => phone <$> PhoneStep.ofHandoff settings h
  | .loginCode => loginCode <$> LoginCodeStep.ofHandoff settings h
  | .confirmationCode => confirmationCode <$> ConfirmationCodeStep.ofHandoff settings h
  | .pinCode => pinCode <$> PinCodeStep.ofHandoff settings h
  | .email => email <$> EmailStep.ofHandoff settings h
  | .failure => do
    let _ ← Handoff.demand .failure .receiver h.receiver
    throw (.missing .fallbackReason .failure)

def openFrom (settings : Settings) (step : Step) (h : Handoff) : Except OpeningError OpenStep := do
  h.check step
  ofHandoff settings step h

def submit [Gateway γ] [SessionStore σ] (s : OpenStep) (input : String) : Operation γ σ (Move × OpenStep) :=
  match s with
  | phone s => Prod.map id phone <$> s.submit input
  | loginCode s => Prod.map id loginCode <$> s.submit input
  | confirmationCode s => Prod.map id confirmationCode <$> s.submit input
  | pinCode s => Prod.map id pinCode <$> s.submit input
  | email s => Prod.map id email <$> s.submit input

/-- The user asks for the code again; only the code steps have such an action. -/
def resend (s : OpenStep) : Operation γ σ (Option Move × OpenStep) :=
  match s with
  | loginCode s => Prod.map some loginCode <$> s.resend
  | confirmationCode s => Prod.map some confirmationCode <$> s.resend
  | s => return (none,s)

def clearError (s : OpenStep) : OpenStep := s.setCore s.core.clearError

def edited : OpenStep → OpenStep
  | phone s => phone s.edited
  | s => s.clearError

def resume (s : OpenStep) : Operation γ σ Unit := s.core.record .impression

def errorCount (s : OpenStep) : UInt64 := s.core.budget.count

end OpenStep

end PhoneSignIn.Flow
