import PhoneSignIn.Flow.StepState
import PhoneSignIn.Text.Blank

/-!
The phone step: the user enters a phone number, and the service sends a code to it. A number that the service does not
know is registered. After a resend the code can come by a call, where the service offers calls.
-/
namespace PhoneSignIn.Flow

variable {γ σ : Type}

structure PhoneStep where
  core : StepState
  countryCode : UInt32
  suggested : Option String
  /-- The number last sent to the service, as the service writes it once it has answered. -/
  phoneNumber : String := ""
  wantsEmail : Bool
  voiceEnabled : Bool
  resending : Bool := false
deriving DecidableEq, Repr, Inhabited

namespace PhoneStep

/-- From now on the code is sent again, by a call when the service offers calls. -/
def askAgain (s : PhoneStep) : PhoneStep :=
  let s := { s with resending := true }
  if s.voiceEnabled then { s with core.view.button := .callMe, core.view.terms := .callMe } else s

def ofHandoff (settings : Settings) (h : Handoff) : Except OpeningError PhoneStep := do
  let receiver ← Handoff.demand .phoneNumber .receiver h.receiver
  let s : PhoneStep :=
    { core := .new settings .phoneNumber receiver
      countryCode := settings.countryCode
      suggested := h.phoneNumber.filter (· ≠ "")
      wantsEmail := h.wantsEmail
      voiceEnabled := h.voiceEnabled }
  return if h.resend then s.askAgain else s

def channel (s : PhoneStep) : Channel := if s.resending && s.voiceEnabled then .voiceCall else .sms

def learn (s : PhoneStep) (features : Option Features) (normalized : Option String) : PhoneStep :=
  { s with
    voiceEnabled := (features.map (·.voiceEnabled)).getD s.voiceEnabled
    phoneNumber := normalized.getD s.phoneNumber }

def asksEmail (s : PhoneStep) (features : Option Features) : Bool :=
  s.wantsEmail && features.any (·.emailEnabled)

def handOver (s : PhoneStep) (step : Step) (h : Handoff) : Move × PhoneStep :=
  let (t,core) := s.core.handOver step h
  (t,{ s with core })

def report (s : PhoneStep) (e : CallError) : Operation γ σ (Move × PhoneStep) := do
  let (t,core) ← s.core.report e
  return (t,{ s with core })

def startLogin (s : PhoneStep) (r : LoginRequest) : Operation γ σ (Move × PhoneStep) := do
  let s := s.learn r.features r.normalizedPhoneNumber
  s.core.record .success
  return s.handOver .loginCode
    { receiver := s.core.receiver, phoneNumber := s.phoneNumber, requestId := r.requestId, userId := r.userId,
      features := r.features, wantsEmail := s.asksEmail r.features }

def register [Gateway γ] (s : PhoneStep) (channel : Channel) : Operation γ σ (Move × PhoneStep) := do
  match ← ask (.registerDevice s.phoneNumber channel) with
  | .error e => s.report e
  | .ok r =>
    let s := s.learn r.features r.normalizedPhoneNumber
    s.core.record .success
    return s.handOver .confirmationCode
      { receiver := s.core.receiver, phoneNumber := s.phoneNumber, features := r.features,
        wantsEmail := s.asksEmail r.features }

def fullNumber (countryCode : UInt32) (number : String) : String :=
  "+" ++ Text.Decimal.ofNat countryCode.toNat ++ number

def send [Gateway γ] (s : PhoneStep) (channel : Channel) : Operation γ σ (Move × PhoneStep) := do
  match ← ask (.authenticateDevice s.phoneNumber channel) with
  | .ok r => s.startLogin r
  | .error (.unknownDevice _) => s.register channel
  | .error (.unsupportedCarrier m f) =>
    ({ s with voiceEnabled := f.voiceEnabled }.askAgain).report (.unsupportedCarrier m f)
  | .error e => s.report e

def sending (s : PhoneStep) (number : String) : PhoneStep :=
  { s with core := s.core.showWorking, phoneNumber := fullNumber s.countryCode number }

def recordAttempt (s : PhoneStep) : Operation γ σ Unit :=
  match s.channel with
  | .voiceCall => s.core.record (.click .callMe)
  | .sms => s.core.recordAttempt

def submit [Gateway γ] (s : PhoneStep) (input : String) : Operation γ σ (Move × PhoneStep) := do
  let number := Text.trim input
  if number = "" || s.core.isClosed then return (.stay,s)
  s.recordAttempt
  (s.sending number).send s.channel

def resend (s : PhoneStep) : PhoneStep := { s with core := s.core.reenter }.askAgain

def chooseCountry (s : PhoneStep) (countryCode : UInt32) : Operation γ σ PhoneStep := do
  s.core.record (.click .countryCode)
  return { s with countryCode }

/-- The user changes the number: the message goes, and no call is asked for. -/
def edited (s : PhoneStep) : PhoneStep :=
  let s := { s with core := s.core.clearError }
  match s.channel with
  | .sms => s
  | .voiceCall =>
    { s with
      resending := false
      core := { s.core with view := { s.core.view with button := .send, terms := .standard, activity := .start } } }

end PhoneStep

end PhoneSignIn.Flow
