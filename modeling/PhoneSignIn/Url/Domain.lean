import PhoneSignIn.Text.Fold
import PhoneSignIn.Url.Error
import PhoneSignIn.Url.Percent
import PhoneSignIn.Url.Punycode

/-!
Domain names in ASCII. A name is percent-decoded and folded; a label with other characters than ASCII ones is then
written as Punycode after `xn--`, and a label that starts with `xn--` must be so written.
-/
namespace PhoneSignIn.Url.Domain
open PhoneSignIn.Text

/-- Characters that no domain holds: controls, the space, and those with a meaning in a URL. -/
def isForbidden (c : Char) : Bool := Percent.control c || " %#/:<>?@[\\]^|".toList.contains c

/-- Whether a character other than an ASCII one may stand in a label: not so for controls, invisible marks, and code
    points without a character of their own. -/
def isAllowed (c : Char) : Bool :=
  let n := c.toNat
  !((0x80 ≤ n && n ≤ 0x9F) || (0x200C ≤ n && n ≤ 0x200F) || (0x2028 ≤ n && n ≤ 0x202E) ||
    (0x2061 ≤ n && n ≤ 0x206F) || (0xE000 ≤ n && n ≤ 0xF8FF) || (0xFDD0 ≤ n && n ≤ 0xFDEF) ||
    (0xFFF9 ≤ n && n ≤ 0xFFFD) || 0xFFFE ≤ n % 0x10000 || 0xE0000 ≤ n)

def isMark (c : Char) : Bool :=
  let n := c.toNat
  (0x300 ≤ n && n ≤ 0x36F) || (0x483 ≤ n && n ≤ 0x489) || (0x591 ≤ n && n ≤ 0x5BD) ||
    (0x1AB0 ≤ n && n ≤ 0x1ACE) || (0x1DC0 ≤ n && n ≤ 0x1DFF) || (0x20D0 ≤ n && n ≤ 0x20F0) ||
    (0x302A ≤ n && n ≤ 0x302F) || (0xFE20 ≤ n && n ≤ 0xFE2F)

def isLabel (label : List Char) : Bool :=
  label.all (fun c => c.toNat < 0x80 || isAllowed c) && !label.head?.any isMark

def marker : List Char := ['x','n','-','-']

/-- Whether what stands after the marker is Punycode of a label that needs it. -/
def isEncoded (rest : List Char) : Bool :=
  match Punycode.decode? rest with
  | none => false
  | some label =>
    label.any (0x80 ≤ ·.toNat) && isLabel label && label.flatMap Fold.fold == label && !label.contains '.'

def labelToAscii (label : List Char) : Option (List Char) :=
  if label.all (·.toNat < 0x80) then
    if marker.isPrefixOf label && !isEncoded (label.drop marker.length) then none else some label
  else if isLabel label && !marker.isPrefixOf label then some (marker ++ Punycode.encode label)
  else none

def toAscii (host : List Char) : Except UrlError (List Char) :=
  match Utf8.decode? (Percent.decode host) with
  | none => .error .domain
  | some name =>
    let folded := name.toList.flatMap Fold.fold
    if folded.any isForbidden then .error .domain
    else
      match (folded.splitOn '.').mapM labelToAscii with
      | none => .error .domain
      | some labels => .ok (['.'].intercalate labels)

end PhoneSignIn.Url.Domain
