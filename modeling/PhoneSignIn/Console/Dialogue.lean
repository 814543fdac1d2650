import PhoneSignIn.Console.Terminal
import PhoneSignIn.Flow.SignIn

/-!
The dialogue of a sign-in. At any time it waits for the answer to one question, a line or the end of the input, and
every answer leads to another question or ends the dialogue.
-/
namespace PhoneSignIn.Console
open PhoneSignIn.Flow

variable {γ σ : Type}

inductive Question where
  | country (s : PhoneStep)
  | entry (s : OpenStep)
  | retry (screen : FailureScreen)
deriving DecidableEq, Repr, Inhabited

inductive Progress where
  | ask (q : Question)
  | done
  | broken
deriving DecidableEq, Repr, Inhabited

def entryLabel : Step → String
  | .phoneNumber => "Phone number (or /voice to get a call)"
  | .loginCode | .confirmationCode => "Confirmation code (or /resend)"
  | .pinCode => "Pin"
  | .email => "Email address"
  | .failure => ""

def askEntry (s : OpenStep) : Interaction γ σ Progress := do
  prompt (entryLabel s.step)
  return .ask (.entry s)

def showEntry (s : OpenStep) : Interaction γ σ Progress := do
  if let some uri := s.termsUri? then printLine ("By continuing you accept the terms at " ++ uri)
  askEntry s

/-- Open a step; the phone step asks for the country first. -/
def enter (step : Step) (h : Handoff) : Interaction γ σ Progress := do
  match OpenStep.openFrom (← get).world.settings step h with
  | .error _ => return .broken
  | .ok s =>
    act s.resume
    match s with
    | .phone p =>
      if let some number := p.suggested then printLine ("Suggested number: " ++ number)
      prompt ("Country code [" ++ Text.Decimal.ofNat p.countryCode.toNat ++ "]")
      return .ask (.country p)
    | s => showEntry s

/-- The country code in a line, which may follow plus signs. -/
def countryCode? (line : String) : Option UInt32 :=
  let digits := String.ofList ((Text.trim line).toList.dropWhile (· == '+'))
  (Text.Decimal.unsigned? UInt32.size digits).map UInt32.ofNat

def follow (s : OpenStep) : Move → Interaction γ σ Progress
  | .stay => do
    if let some message := s.core.view.message then printLine message
    askEntry s
  | .next step h => enter step h
  | .signedIn => return .done
  | .gaveUp failure => do
    let screen : FailureScreen := { failure }
    act screen.resume
    printLine ("Could not sign in: " ++ failure.reason.describe)
    prompt "Try another number? [y/N]"
    return .ask (.retry screen)

/-- The answer to what to send: a wish for a call, a wish for the code again, or the entry itself. -/
def answerEntry [Gateway γ] [SessionStore σ] (s : OpenStep) (line : String) : Interaction γ σ Progress := do
  if Text.trim line = "/voice" then
    match s with
    | .phone p =>
      let p := p.resend
      if !p.voiceEnabled then printLine "Voice calls are not available yet, an SMS will be sent"
      askEntry (.phone p)
    | s => askEntry s
  else if Text.trim line = "/resend" then
    match ← act s.resend with
    | (some t,s) => follow s t
    | (none,s) => askEntry s
  else
    let (t,s) ← act (s.submit line)
    follow s t

def isYes (line : String) : Bool := Text.trim line = "y" || Text.trim line = "Y"

/-- Take the answer to a question; `none` is the end of the input. -/
def answer [Gateway γ] [SessionStore σ] (q : Question) (line : Option String) : Interaction γ σ Progress :=
  match q with
  | .country s => do
    match line.bind countryCode? with
    | some code => showEntry (.phone (← act (s.chooseCountry code)))
    | none => showEntry (.phone s)
  | .entry s =>
    match line with
    | some line => answerEntry s line
    | none => return .done
  | .retry screen => do
    if line.any isYes then enter .phoneNumber (← act screen.restart)
    else
      act screen.dismiss
      return .done

/-- Go on at the end of the input: no question but that for the country leads to another. -/
def close [Gateway γ] [SessionStore σ] (q : Question) : Interaction γ σ Progress := do
  match ← answer q none with
  | .ask q => answer q none
  | p => return p

/-- Hold the dialogue with the lines of an input, from where it stands; a line that is no text breaks it off. Tells
    whether it ended well. -/
def converse [Gateway γ] [SessionStore σ] : Progress → List (Option String) → Interaction γ σ Bool
  | .done, _ => return true
  | .broken, _ => return false
  | .ask q, [] => return (← close q) ≠ .broken
  | .ask _, none :: _ => return false
  | .ask q, some line :: rest => do converse (← answer q (some line)) rest

end PhoneSignIn.Console
