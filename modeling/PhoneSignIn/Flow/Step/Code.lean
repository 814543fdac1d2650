import PhoneSignIn.Flow.StepState
import PhoneSignIn.Text.Blank

/-!
The steps that check a secret of the user: the code of a login, the code of a registration, and the pin that some
accounts ask for after the code. Each signs the user in or asks for an email address; from a code the user can also go
back and have it sent again.
-/
namespace PhoneSignIn.Flow

variable {γ σ : Type}

def StepState.showTerms (c : StepState) (features : Option Features) : StepState :=
  if features.any (·.termsChanged) then { c with view.terms := .updated } else c

/-- What to do with what the user entered: nothing when it is blank or the step is closed, else `check` it, after the
    step shows that it is at work. -/
def StepState.submitText (c : StepState) (input : String)
    (check : StepState → String → Operation γ σ (Move × StepState)) : Operation γ σ (Move × StepState) := do
  let text := Text.trim input
  if text = "" || c.isClosed then return (.stay,c)
  c.recordAttempt
  check c.showWorking text

def StepState.handoffBack (c : StepState) (phoneNumber : String) (wantsEmail voiceEnabled : Bool) : Handoff :=
  { receiver := c.receiver, phoneNumber, wantsEmail, resend := true, voiceEnabled }

/-! ## The code of a login -/

structure LoginCodeStep where
  core : StepState
  requestId : String
  userId : Int64
  phoneNumber : String
  wantsEmail : Bool
  features : Option Features
deriving DecidableEq, Repr, Inhabited

namespace LoginCodeStep

def ofHandoff (settings : Settings) (h : Handoff) : Except OpeningError LoginCodeStep := do
  let receiver ← Handoff.demand .loginCode .receiver h.receiver
  let phoneNumber ← Handoff.demand .loginCode .phoneNumber h.phoneNumber
  let (requestId,userId) ← h.demandLogin .loginCode
  return { core := (StepState.new settings .loginCode receiver).showTerms h.features, requestId, userId, phoneNumber,
           wantsEmail := h.wantsEmail, features := h.features }

def check [Gateway γ] [SessionStore σ] (s : LoginCodeStep) (core : StepState) (code : String) :
    Operation γ σ (Move × StepState) := do
  match ← ask (.verifyCode s.requestId s.userId code) with
  | .error e => core.report e
  | .ok credentials =>
    core.record .success
    if credentials.isEmpty then
      return core.handOver .pinCode
        { receiver := core.receiver, phoneNumber := s.phoneNumber, requestId := s.requestId, userId := s.userId,
          wantsEmail := s.wantsEmail }
    let session := Session.ofCredentials credentials s.phoneNumber
    if s.wantsEmail then core.signInOrRequestEmail session s.phoneNumber
    else core.signIn session s.phoneNumber

def submit [Gateway γ] [SessionStore σ] (s : LoginCodeStep) (input : String) :
    Operation γ σ (Move × LoginCodeStep) := do
  let (t,core) ← s.core.submitText input s.check
  return (t,{ s with core })

def resend (s : LoginCodeStep) : Operation γ σ (Move × LoginCodeStep) := do
  let (t,core) ← s.core.goBack
    (s.core.handoffBack s.phoneNumber s.wantsEmail (s.features.any (·.voiceEnabled)))
  return (t,{ s with core })

end LoginCodeStep

/-! ## The code of a registration -/

structure ConfirmationCodeStep where
  core : StepState
  phoneNumber : String
  wantsEmail : Bool
  voiceEnabled : Bool
deriving DecidableEq, Repr, Inhabited

namespace ConfirmationCodeStep

def ofHandoff (settings : Settings) (h : Handoff) : Except OpeningError ConfirmationCodeStep := do
  let receiver ← Handoff.demand .confirmationCode .receiver h.receiver
  let phoneNumber ← Handoff.demand .confirmationCode .phoneNumber h.phoneNumber
  return { core := (StepState.new settings .confirmationCode receiver).showTerms h.features, phoneNumber,
           wantsEmail := h.wantsEmail, voiceEnabled := h.features.any (·.voiceEnabled) }

def check [Gateway γ] [SessionStore σ] (s : ConfirmationCodeStep) (core : StepState) (code : String) :
    Operation γ σ (Move × StepState) := do
  match ← ask (.createAccount code s.phoneNumber) with
  | .error e => core.report e
  | .ok credentials =>
    core.record .success
    let session := Session.ofCredentials credentials s.phoneNumber
    if s.wantsEmail then core.requestEmail session s.phoneNumber
    else core.signIn session s.phoneNumber

def submit [Gateway γ] [SessionStore σ] (s : ConfirmationCodeStep) (input : String) :
    Operation γ σ (Move × ConfirmationCodeStep) := do
  let (t,core) ← s.core.submitText input s.check
  return (t,{ s with core })

def resend (s : ConfirmationCodeStep) : Operation γ σ (Move × ConfirmationCodeStep) := do
  let (t,core) ← s.core.goBack (s.core.handoffBack s.phoneNumber s.wantsEmail s.voiceEnabled)
  return (t,{ s with core })

end ConfirmationCodeStep

/-! ## The pin -/

structure PinCodeStep where
  core : StepState
  requestId : String
  userId : Int64
  phoneNumber : String
  wantsEmail : Bool
deriving DecidableEq, Repr, Inhabited

namespace PinCodeStep

def ofHandoff (settings : Settings) (h : Handoff) : Except OpeningError PinCodeStep := do
  let receiver ← Handoff.demand .pinCode .receiver h.receiver
  let phoneNumber ← Handoff.demand .pinCode .phoneNumber h.phoneNumber
  let (requestId,userId) ← h.demandLogin .pinCode
  return { core := .new settings .pinCode receiver, requestId, userId, phoneNumber, wantsEmail := h.wantsEmail }

def check [Gateway γ] [SessionStore σ] (s : PinCodeStep) (core : StepState) (pin : String) :
    Operation γ σ (Move × StepState) := do
  match ← ask (.verifyPin s.requestId s.userId pin) with
  | .error e => core.report e
  | .ok credentials =>
    core.record .success
    let session := Session.ofCredentials credentials s.phoneNumber
    if s.wantsEmail then core.signInOrRequestEmail session s.phoneNumber
    else core.signIn session s.phoneNumber

def submit [Gateway γ] [SessionStore σ] (s : PinCodeStep) (input : String) :
    Operation γ σ (Move × PinCodeStep) := do
  let (t,core) ← s.core.submitText input s.check
  return (t,{ s with core })

end PinCodeStep

end PhoneSignIn.Flow
