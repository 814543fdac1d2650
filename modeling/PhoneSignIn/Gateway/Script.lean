import PhoneSignIn.Gateway.Call

/-!
A gateway that plays a script: for each kind of call it has a list of answers and gives them in order. A call that the
script has no answer for fails as if the service could not be reached.
-/
namespace PhoneSignIn

structure GatewayScript where
  authenticateDevice : List (Except CallError LoginRequest) := []
  registerDevice : List (Except CallError Registration) := []
  createAccount : List (Except CallError Credentials) := []
  verifyCode : List (Except CallError Credentials) := []
  verifyPin : List (Except CallError Credentials) := []
  verifyAccount : List (Except CallError Account) := []
  submitEmail : List (Except CallError Credentials) := []

namespace GatewayScript

def next (call : Call) (answers : List (Except CallError α)) : Except CallError α × List (Except CallError α) :=
  match answers with
  | [] => (.error (.unreachable ("no scripted " ++ call.name ++ " response")),[])
  | a :: rest => (a,rest)

def ask (s : GatewayScript) : (call : Call) → Except CallError call.Answer × GatewayScript
  | call@(.authenticateDevice ..) =>
    let (a,rest) := next call s.authenticateDevice
    (a,{ s with authenticateDevice := rest })
  | call@(.registerDevice ..) =>
    let (a,rest) := next call s.registerDevice
    (a,{ s with registerDevice := rest })
  | call@(.createAccount ..) =>
    let (a,rest) := next call s.createAccount
    (a,{ s with createAccount := rest })
  | call@(.verifyCode ..) =>
    let (a,rest) := next call s.verifyCode
    (a,{ s with verifyCode := rest })
  | call@(.verifyPin ..) =>
    let (a,rest) := next call s.verifyPin
    (a,{ s with verifyPin := rest })
  | call@(.verifyAccount ..) =>
    let (a,rest) := next call s.verifyAccount
    (a,{ s with verifyAccount := rest })
  | call@(.submitEmail ..) =>
    let (a,rest) := next call s.submitEmail
    (a,{ s with submitEmail := rest })

instance : Gateway GatewayScript where
  ask call s := s.ask call

end GatewayScript

end PhoneSignIn
