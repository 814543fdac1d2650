import PhoneSignIn.Gateway.Error

/-!
The steps of the flow and what each of them shows: the state of its action control, the message under its input field,
and the wording of its button and of its terms of service.
-/
namespace PhoneSignIn.Flow

inductive Step where
  | phoneNumber
  | loginCode
  | confirmationCode
  | pinCode
  | email
  | failure
deriving DecidableEq, Repr, Inhabited

def Step.name : Step → String
  | .phoneNumber => "PhoneNumber"
  | .loginCode => "LoginCode"
  | .confirmationCode => "ConfirmationCode"
  | .pinCode => "PinCode"
  | .email => "Email"
  | .failure => "Failure"

def Step.all : List Step := [.phoneNumber,.loginCode,.confirmationCode,.pinCode,.email,.failure]

def Step.ofName? (name : String) : Option Step := Step.all.find? (·.name == name)

inductive Activity where
  | start
  | progress
  | finish
  | error
deriving DecidableEq, Repr, Inhabited

def Activity.name : Activity → String
  | .start => "Start"
  | .progress => "Progress"
  | .finish => "Finish"
  | .error => "Error"

inductive Button where
  | send
  | callMe
deriving DecidableEq, Repr, Inhabited

def Button.name : Button → String
  | .send => "Send"
  | .callMe => "CallMe"

inductive Terms where
  | standard
  | updated
  | callMe
deriving DecidableEq, Repr, Inhabited

def Terms.name : Terms → String
  | .standard => "Standard"
  | .updated => "Updated"
  | .callMe => "CallMe"

structure Display where
  activity : Activity := .start
  message : Option String := none
  button : Button := .send
  terms : Terms := .standard
deriving DecidableEq, Repr, Inhabited

def Display.describe (v : Display) : String :=
  let message := match v.message with
    | none => "None"
    | some m => "Some(" ++ Text.quoted m ++ ")"
  "StepView \x7b action: " ++ v.activity.name ++ ", field_error: " ++ message ++ ", call_to_action: " ++
    v.button.name ++ ", tos: " ++ v.terms.name ++ " \x7d"

/-! ## Messages under the input field -/

/-- The messages of a step: one for most errors, and others for some of the service's codes. -/
structure MessageTable where
  general : String
  byCode : List (Int32 × String)
deriving DecidableEq, Repr

def networkMessage : String := "Network error. Check your connection and try again."

def invalidEmailMessage : String := "Invalid email address"

def rateLimitMessage : Int32 × String :=
  (ErrorCode.tooManyAttempts,"Too many attempts. Please try again later.")

def codeMessages : MessageTable where
  general := "Incorrect code. Please try again."
  byCode := [rateLimitMessage,
    (ErrorCode.expiredCode,"This code has expired. Request a new one."),
    (ErrorCode.voidCode,"This code is no longer valid. Request a new one.")]

def Step.messages : Step → MessageTable
  | .phoneNumber | .failure =>
    { general := "Unable to send a confirmation code. Please try again."
      byCode := [rateLimitMessage,
        (ErrorCode.unsupportedCarrier,"Your carrier does not support SMS. Try a call instead.")] }
  | .loginCode | .confirmationCode | .pinCode => codeMessages
  | .email =>
    { general := "Unable to save your email address. Please try again."
      byCode := [rateLimitMessage] }

/-- The message that shows an error: the same for every failure to reach the service, else the one of the service's
    code. -/
def MessageTable.message (m : MessageTable) (e : CallError) : String :=
  match e with
  | .unreachable _ => networkMessage
  | e => (e.code?.bind (m.byCode.lookup ·)).getD m.general

end PhoneSignIn.Flow
