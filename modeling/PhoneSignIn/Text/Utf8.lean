/-!
UTF-8. `encode` writes the octets of a text. The reader goes octet by octet and cuts the octets into characters and
ill-formed pieces, each the longest start of a character that is there (`pieces`); `decode?` refuses octets with such a
piece, `decodeLossy` writes U+FFFD for each.
-/
namespace PhoneSignIn.Text.Utf8

def encode (s : String) : List UInt8 := s.toList.flatMap String.utf8EncodeChar

inductive State where
  | start
  /-- Inside a character: the octets it still needs, the least and greatest next one, and the bits so far. -/
  | within (owed least greatest bits : Nat)
deriving DecidableEq

/-- The state after the first octet of a character, with what the octet completes: a character of one octet, or an
    ill-formed piece when no character starts with it. -/
def first (b : Nat) : List (Option Char) × State :=
  if b ≤ 0x7F then ([some (Char.ofNat b)],.start)
  else if 0xC2 ≤ b ∧ b ≤ 0xDF then ([],.within 1 0x80 0xBF (b - 0xC0))
  else if b = 0xE0 then ([],.within 2 0xA0 0xBF 0)
  else if b = 0xED then ([],.within 2 0x80 0x9F 0xD)
  else if 0xE1 ≤ b ∧ b ≤ 0xEF then ([],.within 2 0x80 0xBF (b - 0xE0))
  else if b = 0xF0 then ([],.within 3 0x90 0xBF 0)
  else if 0xF1 ≤ b ∧ b ≤ 0xF3 then ([],.within 3 0x80 0xBF (b - 0xF0))
  else if b = 0xF4 then ([],.within 3 0x80 0x8F 4)
  else ([none],.start)

/-- One octet: the pieces it completes and the state after it. An octet that cannot go on the character ends an
    ill-formed piece and is read as a first octet. -/
def State.step : State → Nat → List (Option Char) × State
  | .start, b => first b
  | .within owed least greatest bits, b =>
    if least ≤ b ∧ b ≤ greatest then
      let bits := bits * 64 + b % 64
      if owed ≤ 1 then ([some (Char.ofNat bits)],.start) else ([],.within (owed - 1) 0x80 0xBF bits)
    else
      let (out,next) := first b
      (none :: out,next)

/-- The pieces from a state on; octets that end inside a character are one more ill-formed piece. -/
def piecesFrom : State → List UInt8 → List (Option Char)
  | .start, [] => []
  | .within .., [] => [none]
  | q, b :: r =>
    let (out,next) := q.step b.toNat
    out ++ piecesFrom next r

def pieces (bs : List UInt8) : List (Option Char) := piecesFrom .start bs

def decode? (bs : List UInt8) : Option String :=
  ((pieces bs).mapM id).map String.ofList

/-- The text of any octets, with U+FFFD for each ill-formed piece. -/
def decodeLossy (bs : List UInt8) : String :=
  String.ofList ((pieces bs).map (·.getD '\uFFFD'))

end PhoneSignIn.Text.Utf8
