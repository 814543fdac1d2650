import PhoneSignIn.Url.Address

/-!
URLs in parts, and their text. The parts hold text as it is written, percent-encoded where it has to be.
-/
namespace PhoneSignIn
open Text

inductive UrlHost where
  | domain (name : String)
  | ipv4 (address : UInt32)
  | ipv6 (pieces : List Nat)
deriving DecidableEq, Repr, Inhabited

def UrlHost.text : UrlHost → String
  | .domain name => name
  | .ipv4 address => String.ofList (Url.Ipv4.text address)
  | .ipv6 pieces => "[" ++ String.ofList (Url.Ipv6.text pieces) ++ "]"

structure UrlAuthority where
  username : String := ""
  /-- A password has characters when there is one. -/
  password : Option String := none
  /-- The host; a domain without characters is none. -/
  host : UrlHost
  port : Option Nat := none
deriving DecidableEq, Repr, Inhabited

inductive UrlPath where
  | segments (names : List String)
  /-- A text that no other path can be reached from. -/
  | verbatim (text : String)
deriving DecidableEq, Repr, Inhabited

structure Url where
  scheme : String
  authority : Option UrlAuthority := none
  path : UrlPath
  query : Option String := none
  fragment : Option String := none
deriving DecidableEq, Repr, Inhabited

def UrlAuthority.credentialText (a : UrlAuthority) : String :=
  let password := (a.password.map (":" ++ ·)).getD ""
  if a.username = "" ∧ password = "" then "" else a.username ++ password ++ "@"

def UrlAuthority.text (a : UrlAuthority) : String :=
  a.credentialText ++ a.host.text ++ (a.port.map fun p => ":" ++ Decimal.ofNat p).getD ""

def UrlPath.text : UrlPath → String
  | .segments names => String.join (names.map ("/" ++ ·))
  | .verbatim text => text

namespace Url

/-- What stands between the scheme and the path. A path that starts with two slashes and follows no authority is set off
    by a dot segment, lest it be read as one. -/
def authorityText (u : Url) : String :=
  match u.authority, u.path with
  | some a, _ => "//" ++ a.text
  | none, .segments ("" :: _ :: _) => "/."
  | none, _ => ""

def text (u : Url) : String :=
  u.scheme ++ ":" ++ u.authorityText ++ u.path.text ++ (u.query.map ("?" ++ ·)).getD "" ++
    (u.fragment.map ("#" ++ ·)).getD ""

def hasHost (u : Url) : Bool := u.authority.any (·.host ≠ .domain "")

end Url

end PhoneSignIn
