import PhoneSignIn.Text.Decimal
import PhoneSignIn.Text.Hex

/-!
JSON values and their compact text. A value is written as the tokens of `Value.tokens`, each in one spelling, with
nothing between them (`Value.render`).
-/
namespace PhoneSignIn.Json
open PhoneSignIn.Text

/-- The text a string literal stands for. A literal may escape half of a surrogate pair; it is then well formed but
    stands for no text. -/
abbrev Literal := Option String

/-- A number as it is written: a sign, the digits before the point, and the rest as it stands. -/
structure Numeral where
  negative : Bool
  whole : Nat
  rest : String
deriving DecidableEq, Repr

inductive Value where
  | null
  | bool (b : Bool)
  | number (n : Numeral)
  | string (s : Literal)
  | array (items : List Value)
  /-- The members in the order they are written; a key may be repeated. -/
  | object (members : List (Literal × Value))

inductive Token where
  | openObject
  | closeObject
  | openArray
  | closeArray
  | colon
  | comma
  | null
  | bool (b : Bool)
  | number (n : Numeral)
  | string (s : Literal)
deriving DecidableEq, Repr

/-! ## Tokens of a value -/

mutual

def Value.tokens : Value → List Token
  | .null => [.null]
  | .bool b => [.bool b]
  | .number n => [.number n]
  | .string s => [.string s]
  | .array items => .openArray :: (itemTokens items ++ [.closeArray])
  | .object members => .openObject :: (memberTokens members ++ [.closeObject])

def itemTokens : List Value → List Token
  | [] => []
  | v :: rest => v.tokens ++ moreItemTokens rest

def moreItemTokens : List Value → List Token
  | [] => []
  | v :: rest => .comma :: (v.tokens ++ moreItemTokens rest)

def memberTokens : List (Literal × Value) → List Token
  | [] => []
  | (k,v) :: rest => .string k :: .colon :: (v.tokens ++ moreMemberTokens rest)

def moreMemberTokens : List (Literal × Value) → List Token
  | [] => []
  | (k,v) :: rest => .comma :: .string k :: .colon :: (v.tokens ++ moreMemberTokens rest)

end

/-! ## Text of a token -/

/-- A character inside a string: quotation marks, backslashes and control characters are escaped, by a short escape
    where there is one, and every other character stands for itself. -/
def escape (c : Char) : List Char :=
  match c with
  | '"' => ['\\','"']
  | '\\' => ['\\','\\']
  | '\n' => ['\\','n']
  | '\r' => ['\\','r']
  | '\t' => ['\\','t']
  | '\x08' => ['\\','b']
  | '\x0c' => ['\\','f']
  | c => if c.toNat < 32 then '\\' :: 'u' :: Hex.padded 4 c.toNat else [c]

def quote (s : String) : List Char := '"' :: (s.toList.flatMap escape ++ ['"'])

def Numeral.text (n : Numeral) : List Char :=
  (if n.negative then ['-'] else []) ++ Decimal.digits n.whole ++ n.rest.toList

/-- The one spelling of a token. A literal without a text is written as a lone surrogate escape. -/
def Token.text : Token → List Char
  | .openObject => ['\x7b']
  | .closeObject => ['\x7d']
  | .openArray => ['[']
  | .closeArray => [']']
  | .colon => [':']
  | .comma => [',']
  | .null => ['n','u','l','l']
  | .bool true => ['t','r','u','e']
  | .bool false => ['f','a','l','s','e']
  | .number n => n.text
  | .string (some s) => quote s
  | .string none => ['"','\\','u','d','8','0','0','"']

def Value.render (v : Value) : String := String.ofList (v.tokens.flatMap Token.text)

/-! ## Building values -/

def Value.text (s : String) : Value := .string (some s)

def Value.int (z : Int) : Value := .number ⟨z < 0,z.natAbs,""⟩

def Value.ofOption (f : α → Value) : Option α → Value
  | none => .null
  | some a => f a

def Value.record (members : List (String × Value)) : Value :=
  .object (members.map fun (k,v) => (some k,v))

end PhoneSignIn.Json
