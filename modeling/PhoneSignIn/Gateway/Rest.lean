import PhoneSignIn.Gateway.Call
import PhoneSignIn.Http.Base64
import PhoneSignIn.Http.Message
import PhoneSignIn.Http.Status
import PhoneSignIn.Settings
import PhoneSignIn.Url.Form
import PhoneSignIn.Url.Parse

/-!
The gateway over HTTP. Every call is one request below a base URL (`RestGateway.request`) and its response is read as
the call's answer or as an error of the service (`RestGateway.answer`).
-/
namespace PhoneSignIn
open Http Json

/-! ## Bodies -/

structure ErrorEntry where
  code : Int32
  message : String
deriving DecidableEq, Repr

instance : Form ErrorEntry where
  toJson e := .record [("code",toJson e.code),("message",toJson e.message)]
  ofJson? v := do
    let [code,message] ← v.fields? ["code","message"] | none
    return ⟨← required code,← orElse "" message⟩

structure ErrorBody where
  errors : List ErrorEntry
  features : Option Features
deriving DecidableEq, Repr

instance : Form ErrorBody where
  toJson b := .record [("errors",toJson b.errors),("auth_config",toJson b.features)]
  ofJson? v := do
    let [errors,features] ← v.fields? ["errors","auth_config"] | none
    return ⟨← orElse [] errors,← orElse none features⟩

/-- The body that tells of a new account; its credentials come in headers. -/
structure NewAccountBody where
  id : Int64
deriving DecidableEq, Repr

instance : Form NewAccountBody where
  toJson b := .record [("id",toJson b.id)]
  ofJson? v := do
    let [id] ← v.fields? ["id"] | none
    return ⟨← required id⟩

structure AccountBody where
  accessToken : AuthToken
  id : Int64
  phoneNumber : String
  email : Option Email
deriving DecidableEq, Repr

instance : Form AccountBody where
  toJson b := .record [("access_token",toJson b.accessToken),("id",toJson b.id),
    ("phone_number",toJson b.phoneNumber),("email_address",toJson b.email)]
  ofJson? v := do
    let [accessToken,id,phoneNumber,email] ←
      v.fields? ["access_token","id","phone_number","email_address"] | none
    return ⟨← required accessToken,← required id,← orElse "" phoneNumber,← orElse none email⟩

/-! ## The gateway -/

structure RestGateway (ν : Type) where
  base : Url
  /-- The token of calls that belong to no user; none is sent when it is empty. -/
  guestToken : String := ""
  language : String := "en"
  network : ν

namespace RestGateway

def userAgent : String := "phone-auth/0.1.0-dev"

def baseText (s : String) : String :=
  String.ofList ((s.toList.reverse.dropWhile (· = '/')).reverse ++ ['/'])

def new (baseUrl guestToken language : String) (network : ν) : Except SetupError (RestGateway ν) :=
  match Url.parse (baseText baseUrl) with
  | .ok base => .ok { base, guestToken, language, network }
  | .error e => .error (.badUrl (baseText baseUrl ++ ": " ++ e.message))

/-! ### Requests -/

def pathOf : Call → String
  | .authenticateDevice .. => "1/sdk/login"
  | .registerDevice .. => "1.1/device/register.json"
  | .createAccount .. | .verifyAccount _ => "1.1/sdk/account.json"
  | .verifyCode .. => "auth/1/xauth_challenge.json"
  | .verifyPin .. => "auth/1/xauth_pin.json"
  | .submitEmail .. => "1.1/sdk/account/email"

def method : Call → String
  | .verifyAccount _ => "GET"
  | _ => "POST"

def form (language : String) : Call → Option (List (String × String))
  | .authenticateDevice phoneNumber channel =>
    some [("x_auth_phone_number",phoneNumber),("verification_type",channel.name)]
  | .registerDevice phoneNumber channel =>
    some [("raw_phone_number",phoneNumber),("text_key","third_party_confirmation_code"),
      ("send_numeric_pin","true"),("lang",language),("client_identifier_string","digits_sdk"),
      ("verification_type",channel.name)]
  | .createAccount code phoneNumber => some [("phone_number",phoneNumber),("numeric_pin",code)]
  | .verifyCode requestId userId code =>
    some [("login_verification_request_id",requestId),
      ("login_verification_user_id",Text.Decimal.ofInt userId.toInt),
      ("login_verification_challenge_response",code)]
  | .verifyPin requestId userId pin =>
    some [("login_verification_request_id",requestId),
      ("login_verification_user_id",Text.Decimal.ofInt userId.toInt),("pin",pin)]
  | .verifyAccount _ | .submitEmail .. => none

def query : Call → Option (List (String × String))
  | .submitEmail _ email => some [("email_address",email)]
  | _ => none

/-- The token that authorizes a call: the user's for calls about an account, else the guests'. -/
def token (guestToken : String) : Call → String
  | .verifyAccount session | .submitEmail session _ => session.authToken.token
  | _ => guestToken

def bearer (token : String) : List String := if token = "" then [] else ["Bearer " ++ token]

/-- User name and password of a URL as a header value, and the URL without them. Both stay where they are when they are
    no text. -/
def takeCredentials (url : Url) : List String × Url :=
  let decode (s : String) := Text.Utf8.decode? (Url.Percent.decode s.toList)
  match url.authority.bind fun a => (decode a.username).map (a,·) with
  | none => ([],url)
  | some (a,username) =>
    let password := a.password.bind decode
    if username = "" && password.isNone then ([],url)
    else
      let pair := Base64.encode (Text.Utf8.encode (username ++ ":" ++ password.getD ""))
      (["Basic " ++ String.ofList pair],{ url with authority := some { a with username := "", password := none } })

/-- Whether a URL can be sent: it is not too long, and its host has no marks that servers refuse. -/
def isSendable (url : Url) : Bool :=
  url.text.utf8ByteSize ≤ 65534 &&
    !url.authority.any fun a => a.host.text.toList.any ("\"`\x7b\x7d".toList.contains ·)

def unsendable (url : Url) : CallError := .unreachable ("builder error for url (" ++ url.text ++ ")")

/-- The URL of a call, from the URL that its path leads to: the call's query comes behind the one that is there. -/
def withQuery (call : Call) (url : Url) : Url :=
  match query call with
  | none => url
  | some pairs => { url with query := some (Url.Form.extend url.query pairs) }

/-- The request of a call. A request that cannot be sent fails as if the service could not be reached. -/
def request (g : RestGateway ν) (call : Call) : Except CallError Request :=
  match g.base.join (pathOf call) with
  | .error e => .error (.fatal ("Invalid endpoint " ++ pathOf call ++ ": " ++ e.message))
  | .ok joined =>
    let token := token g.guestToken call
    let taken := takeCredentials joined
    let url := withQuery call taken.2
    let form := form g.language call
    if !joined.hasHost then .error (unsendable joined)
    else if !isHeaderValue token then .error (.unreachable "builder error")
    else if (url.scheme ≠ "http" && url.scheme ≠ "https") || !isSendable url then .error (unsendable url)
    else .ok {
      method := method call
      url
      authorization := taken.1 ++ bearer token
      userAgent
      contentType := form.map fun _ => "application/x-www-form-urlencoded"
      body := (form.map Url.Form.encode).getD "" }

/-! ### Answers -/

/-- The error that a response reports: the first in its body, or else its status. -/
def serviceError (r : Response) : CallError :=
  match (read? r.text : Option ErrorBody) with
  | some { errors := entry :: _, features } => .ofCode entry.code entry.message features
  | _ => .service ErrorCode.unknown (Status.text r.status)

/-- A header's value as a credential; an empty one is none. -/
def credential? (r : Response) (name : String) : Option String :=
  ((r.header? name).filter isReadable).filter (· ≠ "")

def readAnswer? (r : Response) : (call : Call) → Option call.Answer
  | .authenticateDevice .. | .registerDevice .. | .verifyCode .. | .verifyPin .. => read? r.text
  | .createAccount .. => do
    let body : NewAccountBody ← read? r.text
    return { token := credential? r "x-twitter-new-account-oauth-access-token"
             secret := credential? r "x-twitter-new-account-oauth-secret"
             userId := body.id }
  | .verifyAccount _ => do
    let body : AccountBody ← read? r.text
    return { authToken := body.accessToken, userId := body.id, phoneNumber := body.phoneNumber,
             email := body.email.filter (·.address ≠ "") }
  | .submitEmail .. => if Text.isBlankText r.text then some {} else read? r.text

def malformedReason : String := "the response is not of the expected form"

def answer (call : Call) (r : Response) : Except CallError call.Answer :=
  if Status.isSuccess r.status then
    match readAnswer? r call with
    | some a => .ok a
    | none => .error (.malformed malformedReason)
  else .error (serviceError r)

def noResponse : Failure → CallError
  | .unanswered message => .unreachable message
  | .unreadable message => .malformed message

def ask [Client ν] (g : RestGateway ν) (call : Call) : Except CallError call.Answer × RestGateway ν :=
  match g.request call with
  | .error e => (.error e,g)
  | .ok request =>
    let (response,network) := Client.send request g.network
    let g := { g with network }
    match response with
    | .error failure => (.error (noResponse failure),g)
    | .ok r => (answer call r,g)

instance [Client ν] : Gateway (RestGateway ν) where
  ask call g := g.ask call

end RestGateway

end PhoneSignIn
