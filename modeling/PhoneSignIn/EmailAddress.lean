/-!
Email addresses as a person types them: a local part, an at sign and a host of two or more labels with points between
them. Letters are taken without regard to case.
-/
namespace PhoneSignIn.EmailAddress

/-- A letter of the English alphabet in any case variant: the long s and the Kelvin sign are variants of s and k. -/
def isLetter (c : Char) : Bool := c.isAlpha || c == '\u017F' || c == '\u212A'

def isLetterOrDigit (c : Char) : Bool := isLetter c || c.isDigit

/-- A local part has 1 to 256 letters, digits and characters of `+._%-`. -/
def isLocalPart (cs : List Char) : Bool :=
  1 ≤ cs.length && cs.length ≤ 256 && cs.all fun c => isLetterOrDigit c || "+._%-".toList.contains c

/-- A label has at most `longest` letters, digits and hyphens and starts with no hyphen. -/
def isLabel (longest : Nat) (cs : List Char) : Bool :=
  match cs with
  | [] => false
  | c :: r => isLetterOrDigit c && r.all (fun c => isLetterOrDigit c || c == '-') && cs.length ≤ longest

/-- A host has a label of at most 65 characters, then one or more of at most 26. -/
def isHost (cs : List Char) : Bool :=
  match cs.splitOn '.' with
  | label :: rest => isLabel 65 label && !rest.isEmpty && rest.all (isLabel 26)
  | [] => false

def isValid (s : String) : Bool :=
  match s.toList.splitOn '@' with
  | [user,host] => isLocalPart user && isHost host
  | _ => false

end PhoneSignIn.EmailAddress
