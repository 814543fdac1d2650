import PhoneSignIn.Text.Decimal

/-!
The settings of the sign-in flow. Each has a default, which a variable of the environment replaces.
-/
namespace PhoneSignIn

inductive SetupError where
  | noHost
  | badUrl (reason : String)
  | client (reason : String)
deriving DecidableEq, Repr

def SetupError.message : SetupError → String
  | .noHost => "AuthCallback must not be null"
  | .badUrl reason => "Invalid URL: " ++ reason
  | .client reason => "HTTP client error: " ++ reason

abbrev Environment := List (String × String)

/-- The natural number below `bound` in a variable, or `default` when the variable is unset or spells no such number. -/
def Environment.number (env : Environment) (name : String) (bound default : Nat) : Nat :=
  ((env.lookup name).bind (Text.Decimal.unsigned? bound)).getD default

structure Settings where
  /-- How many errors a step shows before it gives up. -/
  maxErrors : UInt64 := 5
  /-- The pause after a step, in milliseconds. -/
  postDelay : UInt64 := 1500
  countryCode : UInt32 := 1
  baseUrl : String := "https://api.digits.com"
  /-- The token of requests that belong to no user; none is sent when it is empty. -/
  guestToken : String := ""
  language : String := "en"
  /-- How long a request may take, in seconds. -/
  timeout : UInt64 := 30
deriving DecidableEq, Repr, Inhabited

def Settings.ofEnvironment (env : Environment) : Settings where
  maxErrors := .ofNat (env.number "PHONE_AUTH_MAX_ERRORS" UInt64.size 5)
  postDelay := .ofNat (env.number "PHONE_AUTH_POST_DELAY_MS" UInt64.size 1500)
  countryCode := .ofNat (env.number "PHONE_AUTH_DEFAULT_COUNTRY_CODE" UInt32.size 1)
  baseUrl := (env.lookup "PHONE_AUTH_API_URL").getD "https://api.digits.com"
  guestToken := (env.lookup "PHONE_AUTH_GUEST_TOKEN").getD ""
  language := (env.lookup "PHONE_AUTH_LANG").getD "en"
  timeout := .ofNat (env.number "PHONE_AUTH_HTTP_TIMEOUT_SECS" UInt64.size 30)

end PhoneSignIn
