import PhoneSignIn.Text.Hex
import PhoneSignIn.Text.Utf8

/-!
Percent-encoding: an octet as a percent sign and two hexadecimal digits. Which ASCII characters are encoded depends on
the part of a URL that they stand in; other characters always are.
-/
namespace PhoneSignIn.Url.Percent
open PhoneSignIn.Text

def triplet (b : UInt8) : List Char := ['%',Hex.upper (b.toNat / 16),Hex.upper (b.toNat % 16)]

/-- The text with the octets of the characters in `set` and of all that are not ASCII encoded. -/
def encode (set : Char → Bool) (s : List Char) : List Char :=
  s.flatMap fun c => if 0x80 ≤ c.toNat || set c then (String.utf8EncodeChar c).flatMap triplet else [c]

def octet? (a b : Char) : Option UInt8 := do
  return .ofNat ((← Hex.value? a) * 16 + (← Hex.value? b))

/-- The octets of a text, in which a percent sign and two digits stand for one octet. -/
def decode : List Char → List UInt8
  | '%' :: a :: b :: r =>
    match octet? a b with
    | some o => o :: decode r
    | none => String.utf8EncodeChar '%' ++ decode (a :: b :: r)
  | c :: r => String.utf8EncodeChar c ++ decode r
  | [] => []

/-! ## What is encoded where -/

def control (c : Char) : Bool := c.toNat < 0x20 || c.toNat == 0x7F

def fragment (c : Char) : Bool := control c || " \"<>`".toList.contains c

def path (c : Char) : Bool := fragment c || "#?\x7b\x7d".toList.contains c

def userinfo (c : Char) : Bool := path c || "/:;=@[\\]^|".toList.contains c

def query (c : Char) : Bool := control c || " \"#<>".toList.contains c

def specialQuery (c : Char) : Bool := query c || c == '\''

end PhoneSignIn.Url.Percent
