import PhoneSignIn.Url.Percent

/-!
Forms as text (`application/x-www-form-urlencoded`): named values, in order. Letters, digits and four marks stand for
themselves, a space is a plus sign and every other octet is percent-encoded. `decode` reads such a text.
-/
namespace PhoneSignIn.Url.Form
open PhoneSignIn.Text

def isPlain (b : UInt8) : Bool :=
  let c := Char.ofNat b.toNat
  c.isAlphanum || "*-._".toList.contains c

def encodeOctet (b : UInt8) : List Char :=
  if isPlain b then [Char.ofNat b.toNat] else if b = 0x20 then ['+'] else Percent.triplet b

def encodeText (s : String) : List Char := (Utf8.encode s).flatMap encodeOctet

def encodePair (p : String × String) : List Char := encodeText p.1 ++ '=' :: encodeText p.2

def encode (pairs : List (String × String)) : String :=
  String.ofList (['&'].intercalate (pairs.map encodePair))

/-- The text of a form with more pairs at its end. -/
def extend (text : Option String) (pairs : List (String × String)) : String :=
  match text with
  | none | some "" => encode pairs
  | some text => text ++ "&" ++ encode pairs

def decodeText (s : List Char) : String :=
  Utf8.decodeLossy (Percent.decode (s.map fun c => if c = '+' then ' ' else c))

def decodePair (s : List Char) : String × String :=
  (decodeText (s.takeWhile (· ≠ '=')),decodeText ((s.dropWhile (· ≠ '=')).drop 1))

def decode (s : String) : List (String × String) :=
  ((s.toList.splitOn '&').filter (· ≠ [])).map decodePair

end PhoneSignIn.Url.Form
