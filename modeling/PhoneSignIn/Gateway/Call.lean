import PhoneSignIn.Gateway.Error

/-!
The calls of the auth service. Every call has its own type of answer (`Call.Answer`), and a `Gateway` is anything that
answers calls, one at a time.
-/
namespace PhoneSignIn

inductive Call where
  | authenticateDevice (phoneNumber : String) (channel : Channel)
  /-- Have a code sent to a number the service does not know. -/
  | registerDevice (phoneNumber : String) (channel : Channel)
  | createAccount (code phoneNumber : String)
  | verifyCode (requestId : String) (userId : Int64) (code : String)
  /-- Check the pin that an account asks for after its code. -/
  | verifyPin (requestId : String) (userId : Int64) (pin : String)
  | verifyAccount (session : Session)
  | submitEmail (session : Session) (email : String)
deriving DecidableEq, Repr

namespace Call

abbrev Answer : Call → Type
  | authenticateDevice .. => LoginRequest
  | registerDevice .. => Registration
  | createAccount .. | verifyCode .. | verifyPin .. | submitEmail .. => Credentials
  | verifyAccount .. => Account

def name : Call → String
  | authenticateDevice .. => "authenticate_device"
  | registerDevice .. => "register_device"
  | createAccount .. => "create_account"
  | verifyCode .. => "verify_code"
  | verifyPin .. => "verify_pin"
  | verifyAccount .. => "verify_account"
  | submitEmail .. => "submit_email"

end Call

class Gateway (γ : Type) where
  /-- The answer to a call, and the gateway after it. -/
  ask : (call : Call) → γ → Except CallError call.Answer × γ

end PhoneSignIn
