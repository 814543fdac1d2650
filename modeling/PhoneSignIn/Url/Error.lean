/-!
Why a text is no URL, and why a reference leads nowhere.
-/
namespace PhoneSignIn.Url

inductive UrlError where
  | noScheme
  | emptyHost
  | port
  | ipv4
  | ipv6
  | domain
  /-- The host of a scheme without hosts of its own holds a character that no host may hold. -/
  | domainCharacter
  /-- A URL whose path has no segments leads to no other. -/
  | noBase
deriving DecidableEq, Repr, Inhabited

def UrlError.message : UrlError → String
  | .noScheme => "relative URL without a base"
  | .emptyHost => "empty host"
  | .port => "invalid port number"
  | .ipv4 => "invalid IPv4 address"
  | .ipv6 => "invalid IPv6 address"
  | .domain => "invalid international domain name"
  | .domainCharacter => "invalid domain character"
  | .noBase => "relative URL with a cannot-be-a-base base"

end PhoneSignIn.Url
