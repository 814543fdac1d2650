import PhoneSignIn.Gateway.Error

/-!
The journal of a flow: what the user saw and did, and how it went, one event after the other. Every event belongs to a
component, the entry point or one screen of the flow.
-/
namespace PhoneSignIn.Journal

inductive Component where
  | auth
  | phoneNumber
  | loginCode
  | confirmationCode
  | pinCode
  | email
  | failure
deriving DecidableEq, Repr, Inhabited

def Component.label : Component → String
  | .auth => "auth"
  | .phoneNumber => "phone_number"
  | .loginCode => "login_code"
  | .confirmationCode => "confirmation_code"
  | .pinCode => "pin_code"
  | .email => "email"
  | .failure => "failure"

def Component.name : Component → String
  | .auth => "Auth"
  | .phoneNumber => "PhoneNumber"
  | .loginCode => "LoginCode"
  | .confirmationCode => "ConfirmationCode"
  | .pinCode => "PinCode"
  | .email => "Email"
  | .failure => "Failure"

def Component.describeWriter (c : Component) : String := "ScribeService \x7b component: " ++ c.name ++ " \x7d"

inductive Element where
  | submit
  | retry
  | resend
  | callMe
  | countryCode
  | dismiss
deriving DecidableEq, Repr, Inhabited

def Element.label : Element → String
  | .submit => "submit"
  | .retry => "retry"
  | .resend => "resend"
  | .callMe => "call"
  | .countryCode => "country_code"
  | .dismiss => "dismiss"

inductive Action where
  | impression
  | click (element : Element)
  | success
  | failure
  /-- An error shown to the user, with the service's code when it has one. -/
  | error (code : Option Int32)
deriving DecidableEq, Repr, Inhabited

def Action.label : Action → String
  | .impression => "Impression"
  | .click _ => "Click"
  | .success => "Success"
  | .failure => "Failure"
  | .error _ => "Error"

def Action.element? : Action → Option Element
  | .click e => some e
  | _ => none

def Action.code? : Action → Option Int32
  | .error code => code
  | _ => none

def Action.ofError (e : CallError) : Action := .error e.code?

structure Event where
  component : Component
  action : Action
deriving DecidableEq, Repr, Inhabited

end PhoneSignIn.Journal
