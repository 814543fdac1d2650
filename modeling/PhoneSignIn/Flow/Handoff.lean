import PhoneSignIn.Flow.Display
import PhoneSignIn.Flow.World

/-!
What one step hands to the next. A step needs some fields of the handoff (`Handoff.check`); what a step's action leads
to is a `Move`.
-/
namespace PhoneSignIn.Flow

structure Handoff where
  receiver : Option ReceiverId := none
  phoneNumber : Option String := none
  requestId : Option String := none
  userId : Option Int64 := none
  features : Option Features := none
  wantsEmail : Bool := false
  resend : Bool := false
  voiceEnabled : Bool := false
deriving DecidableEq, Repr, Inhabited

inductive Field where
  | receiver
  | phoneNumber
  | requestId
  | userId
  | fallbackReason
deriving DecidableEq, Repr

def Field.label : Field → String
  | .receiver => "receiver"
  | .phoneNumber => "phone number"
  | .requestId => "request id"
  | .userId => "user id"
  | .fallbackReason => "fallback reason"

inductive OpeningError where
  | missing (field : Field) (step : Step)
  | storage (e : StorageError)
deriving DecidableEq, Repr

def OpeningError.message : OpeningError → String
  | .missing field step => "Invalid bundle for " ++ step.name ++ ": missing " ++ field.label
  | .storage e => "Session error: " ++ e.message

namespace Handoff

def demand (step : Step) (field : Field) : Option α → Except OpeningError α
  | some a => .ok a
  | none => .error (.missing field step)

def demandLogin (h : Handoff) (step : Step) : Except OpeningError (String × Int64) := do
  return (← demand step .requestId h.requestId,← demand step .userId h.userId)

/-- Whether a step can open from the handoff. The failure screen never does: it needs a reason. -/
def check (h : Handoff) (step : Step) : Except OpeningError Unit := do
  let _ ← demand step .receiver h.receiver
  match step with
  | .phoneNumber => return ()
  | .loginCode | .pinCode =>
    let _ ← demand step .phoneNumber h.phoneNumber
    let _ ← h.demandLogin step
  | .confirmationCode | .email =>
    let _ ← demand step .phoneNumber h.phoneNumber
  | .failure => throw (.missing .fallbackReason step)

end Handoff

structure FailureHandoff where
  receiver : ReceiverId
  reason : CallError
deriving DecidableEq, Repr, Inhabited

inductive Move where
  | stay
  | next (step : Step) (handoff : Handoff)
  | signedIn
  | gaveUp (failure : FailureHandoff)
deriving DecidableEq, Repr

end PhoneSignIn.Flow
