import PhoneSignIn.Text.Decimal
import PhoneSignIn.Text.Hex
import PhoneSignIn.Url.Error

/-!
Addresses as hosts. An IPv4 address has up to four numbers in decimal, octal or hexadecimal digits, the last of which
fills all octets that are left; it is written in four decimal numbers. An IPv6 address has eight pieces; it is written
with the longest run of zero pieces left out.
-/
namespace PhoneSignIn.Url
open PhoneSignIn.Text

/-! ## Version 4 -/

namespace Ipv4

def digits? (base : Nat) (cs : List Char) : Option Nat :=
  cs.foldl (fun n c => do
    let n ← n
    let d ← Hex.value? c
    if d < base then some (base * n + d) else none) (some 0)

/-- A number of an address: hexadecimal after `0x`, octal after another zero, else decimal. -/
def number? : List Char → Option Nat
  | [] => none
  | ['0'] => some 0
  | '0' :: 'x' :: r | '0' :: 'X' :: r => digits? 16 r
  | '0' :: r => digits? 8 r
  | r => digits? 10 r

/-- The parts of a host between its points; a point at the end counts for nothing. -/
def parts (host : List Char) : List (List Char) :=
  let ps := host.splitOn '.'
  if 1 < ps.length ∧ ps.getLast? = some [] then ps.dropLast else ps

/-- Whether a host can only be an address: its last part is a number, or has decimal digits alone. -/
def isNumeric (host : List Char) : Bool :=
  match (parts host).getLast? with
  | none => false
  | some last => (last ≠ [] && last.all Char.isDigit) || (number? last).isSome

/-- How many numbers `k` octets can tell apart. -/
def span : (k : Nat) → Nat
  | 0 => 1
  | k + 1 => 256 * span k

def parse (host : List Char) : Except UrlError UInt32 :=
  let ps := parts host
  match ps.mapM number? with
  | none => .error .ipv4
  | some numbers =>
    let octets := numbers.dropLast
    let last := numbers.getLastD 0
    let room := span (4 - octets.length)
    if 4 < numbers.length ∨ octets.any (255 < ·) ∨ room ≤ last then .error .ipv4
    else .ok (.ofNat (octets.foldl (fun n o => 256 * n + o) 0 * room + last))

def text (a : UInt32) : List Char :=
  let n := a.toNat
  ['.'].intercalate ([n / span 3,n / span 2 % 256,n / span 1 % 256,n % 256].map Decimal.digits)

end Ipv4

/-! ## Version 6 -/

namespace Ipv6

def piece? (cs : List Char) : Option Nat := do
  let n ← Ipv4.digits? 16 cs
  if cs ≠ [] ∧ cs.length ≤ 4 then some n else none

/-- A number of the address at the end: one to three decimal digits, without a leading zero, below 256. -/
def octet? (cs : List Char) : Option Nat := do
  let n ← Ipv4.digits? 10 cs
  if cs ≠ [] ∧ cs.length ≤ 3 ∧ n ≤ 255 ∧ (cs.head? = some '0' → n = 0 ∧ cs.length = 1) then some n else none

def embedded? (cs : List Char) : Option (List Nat) := do
  let [a,b,c,d] ← (cs.splitOn '.').mapM octet? | none
  return [a * 256 + b,c * 256 + d]

/-- Pieces with colons between them, `atEnd` telling whether an IPv4 address may stand for the last two. -/
def pieces? (atEnd : Bool) (cs : List Char) : Option (List Nat) :=
  if cs = [] then some []
  else
    let ps := cs.splitOn ':'
    let last := ps.getLastD []
    if atEnd && last.contains '.' then do
      return (← ps.dropLast.mapM piece?) ++ (← embedded? last)
    else ps.mapM piece?

def splitGap : List Char → Option (List Char × List Char)
  | ':' :: ':' :: r => some ([],r)
  | c :: r => (splitGap r).map fun (a,b) => (c :: a,b)
  | [] => none

/-- The eight pieces of an address; two colons in a row stand for zero pieces, one or more. -/
def parse (cs : List Char) : Except UrlError (List Nat) :=
  let pieces := match splitGap cs with
    | none => (pieces? true cs).filter (·.length = 8)
    | some (front,back) => do
      let front ← pieces? false front
      let back ← pieces? true back
      if front.length + back.length ≤ 7 then
        some (front ++ List.replicate (8 - front.length - back.length) 0 ++ back)
      else none
  match pieces with
  | some ps => .ok ps
  | none => .error .ipv6

def zeros (ps : List Nat) : Nat := (ps.takeWhile (· = 0)).length

/-- Where the first of the longest runs of two or more zeros starts, and how long it is. -/
def longestZeros (ps : List Nat) : Option (Nat × Nat) :=
  let runs := (List.range ps.length).map fun i => (i,zeros (ps.drop i))
  match runs.foldl (fun best r => if best.2 < r.2 then r else best) (0,1) with
  | (_,1) => none
  | best => some best

def joined (ps : List Nat) : List Char := [':'].intercalate (ps.map Hex.digits)

def text (ps : List Nat) : List Char :=
  match longestZeros ps with
  | none => joined ps
  | some (start,count) => joined (ps.take start) ++ [':',':'] ++ joined (ps.drop (start + count))

end Ipv6

end PhoneSignIn.Url
