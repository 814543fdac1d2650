import PhoneSignIn.Text.Blank
import PhoneSignIn.Text.Utf8
import PhoneSignIn.Url.Basic

/-!
Requests and responses of HTTP, as far as the auth service is concerned, and the client that stands between the two: it
sends a request and brings a response, or none.
-/
namespace PhoneSignIn.Http
open Text

structure Request where
  method : String
  url : Url
  authorization : List String := []
  userAgent : String
  contentType : Option String := none
  body : String := ""
deriving DecidableEq, Repr, Inhabited

/-- A body that is in UTF-8, without a mark at its start. -/
def readUtf8 (body : List UInt8) : String :=
  match body with
  | 0xEF :: 0xBB :: 0xBF :: rest => Utf8.decodeLossy rest
  | _ => Utf8.decodeLossy body

structure Response where
  status : Nat := 200
  headers : List (String × String) := []
  body : List UInt8 := []
  /-- The body as the client reads it: by the mark at its start, by the charset that the headers name, and as UTF-8
      where there is neither. -/
  text : String := readUtf8 body
deriving DecidableEq, Repr, Inhabited

/-- Whether a text may be the value of a header: it has no control characters but tabs. -/
def isHeaderValue (s : String) : Bool := s.toList.all fun c => c == '\t' || (0x20 ≤ c.toNat && c.toNat ≠ 0x7F)

/-- Whether a header value can be read as text: it is ASCII and shows, tabs and spaces apart. -/
def isReadable (s : String) : Bool := s.toList.all fun c => c == '\t' || (0x20 ≤ c.toNat && c.toNat < 0x7F)

namespace Response

/-- The value of the first header with a name, in whatever case, without the blanks around it. -/
def header? (r : Response) (name : String) : Option String :=
  let found := r.headers.find? fun (n,_) => n.toList.map Char.toLower == name.toList.map Char.toLower
  found.map fun (_,v) => String.ofList (strip (fun c => c == ' ' || c == '\t') v.toList)

end Response

inductive Failure where
  /-- None came, or one response led to the next without end. -/
  | unanswered (message : String)
  /-- It broke off, or could not be decoded. -/
  | unreadable (message : String)
deriving DecidableEq, Repr, Inhabited

class Client (κ : Type) where
  /-- Send a request and follow where responses redirect it. The last response is brought, and the client as it is
      afterwards. -/
  send : Request → κ → Except Failure Response × κ

end PhoneSignIn.Http
