import PhoneSignIn.Text.Glyph
import PhoneSignIn.Text.Hex

/-!
Texts in quotation marks, as descriptions of values show them. Every character is visible: what has no glyph of its own
is written as an escape with its code point.
-/
namespace PhoneSignIn.Text

def showChar (c : Char) : List Char :=
  match c with
  | '"' => ['\\','"']
  | '\\' => ['\\','\\']
  | '\n' => ['\\','n']
  | '\r' => ['\\','r']
  | '\t' => ['\\','t']
  | '\x00' => ['\\','0']
  | c => if isGlyph c then [c] else ['\\','u','\x7b'] ++ Hex.digits c.toNat ++ ['\x7d']

def quoted (s : String) : String := String.ofList ('"' :: (s.toList.flatMap showChar ++ ['"']))

end PhoneSignIn.Text
