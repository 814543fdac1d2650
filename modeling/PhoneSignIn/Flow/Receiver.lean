import PhoneSignIn.Flow.World

/-!
How the host learns the outcome of a sign-in. All steps of one sign-in share a receiver; the first outcome that reaches
it uses it up, whether or not the host can still be told.
-/
namespace PhoneSignIn.Flow

variable {γ σ : Type}

structure LoginResult where
  phoneNumber : String := ""
  loginError : Option String := none
deriving DecidableEq, Repr, Inhabited

def LoginResult.describe (d : LoginResult) : String :=
  let error := match d.loginError with
    | none => "None"
    | some m => "Some(" ++ Text.quoted m ++ ")"
  "ResultData \x7b phone_number: " ++ Text.quoted d.phoneNumber ++ ", login_error: " ++ error ++ " \x7d"

def successCode : Int32 := 200

def failureCode : Int32 := 400

/-! ## Callbacks -/

def World.isThere (w : World γ σ) (host : HostId) : Bool := w.host == some host || w.others.contains host

def World.canTell (w : World γ σ) (c : Callback) : Bool := !c.withdrawn && w.isThere c.host

namespace Callback

def tellSuccess (c : Callback) (session : Session) (phoneNumber : String) : Operation γ σ Unit := do
  if (← get).canTell c then
    record .auth .success
    log (.delivered (.success c.host session phoneNumber))

def tellFailure (c : Callback) (message : String) : Operation γ σ Unit := do
  if (← get).canTell c then
    record .auth .failure
    log (.delivered (.failure c.host message))

end Callback

/-! ## Receivers -/

namespace Receiver

/-- How a receiver is shown, `alive` telling whether its host can still be told. -/
def describe (r : Receiver) (alive : Bool) : String :=
  "LoginResultReceiver \x7b callback: WeakAuthCallback \x7b alive: " ++ toString alive ++ " \x7d, delivered: " ++
    toString r.delivered ++ " \x7d"

end Receiver

def newReceiver (callback : Callback) : Operation γ σ ReceiverId :=
  modifyGet fun w => (w.receivers.length,{ w with receivers := w.receivers ++ [{ callback : Receiver }] })

def modifyReceiver (id : ReceiverId) (f : Receiver → Receiver) : Operation γ σ Unit :=
  modify fun w => { w with receivers := w.receivers.modify id f }

def withdraw (id : ReceiverId) : Operation γ σ Unit :=
  modifyReceiver id fun r => { r with callback.withdrawn := true }

/-- Use a receiver up: its callback, unless an outcome has reached it before. -/
def useUp (id : ReceiverId) : Operation γ σ (Option Callback) := do
  match (← get).receivers[id]? with
  | none => return none
  | some r =>
    modifyReceiver id fun r => { r with delivered := true }
    return if r.delivered then none else some r.callback

/-- Hand an outcome to a receiver. A success is told with the active session, and counts as a failure when there is
    none; other codes than those two mean nothing. -/
def handIn [SessionStore σ] (id : ReceiverId) (code : Int32) (data : LoginResult) : Operation γ σ Unit := do
  if code = successCode then
    if let some callback ← useUp id then
      match ← readSession with
      | .ok (some session) => callback.tellSuccess session data.phoneNumber
      | .ok none => callback.tellFailure "No active session after login"
      | .error e => callback.tellFailure e.message
  else if code = failureCode then
    if let some callback ← useUp id then
      callback.tellFailure (data.loginError.getD "")

def reportSuccess [SessionStore σ] (id : ReceiverId) (phoneNumber : String) : Operation γ σ Unit :=
  handIn id successCode { phoneNumber }

def reportFailure [SessionStore σ] (id : ReceiverId) (reason : CallError) : Operation γ σ Unit :=
  handIn id failureCode { loginError := some reason.explanation }

end PhoneSignIn.Flow
