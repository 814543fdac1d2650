import PhoneSignIn.Gateway.Answer

/-!
Why a remote call fails. `CallError.ofCode` tells from the service's error code which failures the flow treats in a way
of its own.
-/
namespace PhoneSignIn

namespace ErrorCode

def unknown : Int32 := -1
def unknownDevice : Int32 := 32
def tooManyAttempts : Int32 := 88
def expiredCode : Int32 := 235
def voidCode : Int32 := 236
def foreignUser : Int32 := 269
def unsupportedCarrier : Int32 := 286

def named : List (String × Int32) := [("UNKNOWN_ERROR",unknown),("COULD_NOT_AUTHENTICATE",unknownDevice),
  ("RATE_LIMIT_EXCEEDED",tooManyAttempts),("EXPIRED_LOGIN_VERIFICATION_REQUEST",expiredCode),
  ("INVALID_LOGIN_VERIFICATION_REQUEST",voidCode),("USER_IS_NOT_SDK_USER",foreignUser),
  ("OPERATOR_UNSUPPORTED",unsupportedCarrier)]

end ErrorCode

structure StorageError where
  reason : String
deriving DecidableEq, Repr, Inhabited

def StorageError.message (e : StorageError) : String := "Storage error: " ++ e.reason

inductive CallError where
  | unknownDevice (message : String)
  /-- The carrier cannot deliver a text message; the features tell whether a call is possible. -/
  | unsupportedCarrier (message : String) (features : Features)
  /-- No retry can help. -/
  | fatal (message : String)
  /-- Any other error the service reports. -/
  | service (code : Int32) (message : String)
  | unreachable (message : String)
  | malformed (message : String)
deriving DecidableEq, Repr, Inhabited

inductive ErrorClass where
  | unknownDevice
  | unsupportedCarrier
  | fatal
  | ordinary
deriving DecidableEq, Repr

namespace CallError

def ofCode (code : Int32) (message : String) (features : Option Features) : CallError :=
  if code = ErrorCode.unknownDevice then .unknownDevice message
  else if code = ErrorCode.unsupportedCarrier then .unsupportedCarrier message (features.getD {})
  else if code = ErrorCode.foreignUser then .fatal message
  else .service code message

/-- A flow that cannot read or write its session cannot go on. -/
def ofStorage (e : StorageError) : CallError := .fatal e.message

def errorClass : CallError → ErrorClass
  | .unknownDevice _ => .unknownDevice
  | .unsupportedCarrier .. => .unsupportedCarrier
  | .fatal _ => .fatal
  | .service .. | .unreachable _ | .malformed _ => .ordinary

def isFatal (e : CallError) : Bool := e.errorClass == .fatal

def code? : CallError → Option Int32
  | .unknownDevice _ => some ErrorCode.unknownDevice
  | .unsupportedCarrier .. => some ErrorCode.unsupportedCarrier
  | .service code _ => some code
  | _ => none

def message : CallError → String
  | .unknownDevice m | .unsupportedCarrier m _ | .fatal m | .service _ m | .unreachable m
  | .malformed m => m

def features? : CallError → Option Features
  | .unsupportedCarrier _ f => some f
  | _ => none

def describe : CallError → String
  | .unknownDevice m => "Could not authenticate: " ++ m
  | .unsupportedCarrier m _ => "Operator unsupported: " ++ m
  | .fatal m => "Unrecoverable error: " ++ m
  | .service code m => "Remote error " ++ Text.Decimal.ofInt code.toInt ++ ": " ++ m
  | .unreachable m => "Network error: " ++ m
  | .malformed m => "Malformed response: " ++ m

/-- The text for a person: the message, or the whole description when there is none. -/
def explanation (e : CallError) : String := if e.message = "" then e.describe else e.message

end CallError

end PhoneSignIn
