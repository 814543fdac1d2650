import PhoneSignIn.Text.Blank
import PhoneSignIn.Url.Basic
import PhoneSignIn.Url.Domain

/-!
Reading URLs. A text is cut at the marks that separate the parts of a URL, from the outside in, and each part is read by
its own rules; `Url.join` leads from a URL to a path below it.
-/
namespace PhoneSignIn
open Text

namespace Url

inductive SchemeKind where
  /-- A scheme with a host, whose own port is left out. -/
  | special (port : Nat)
  | file
  | other
deriving DecidableEq, Repr

def schemeKind : String → SchemeKind
  | "http" | "ws" => .special 80
  | "https" | "wss" => .special 443
  | "ftp" => .special 21
  | "file" => .file
  | _ => .other

/-- Whether a character separates path segments; outside of schemes of unknown kinds a backslash does. -/
def SchemeKind.isSlash (k : SchemeKind) (c : Char) : Bool := c == '/' || (k != .other && c == '\\')

def cutAt (p : Char → Bool) (cs : List Char) : List Char × List Char :=
  (cs.takeWhile (!p ·),cs.dropWhile (!p ·))

def splitScheme (cs : List Char) : Option (List Char × List Char) :=
  match cutAt (· == ':') cs with
  | (c :: r,_ :: rest) =>
    if c.isAlpha && r.all (fun c => c.isAlphanum || "+-.".toList.contains c) then
      some ((c :: r).map Char.toLower,rest)
    else none
  | _ => none

/-! ## Paths -/

/-- Whether a segment is a letter and a colon or bar, as the names of drives are. -/
def isDrive : List Char → Bool
  | [c,d] => c.isAlpha && (d == ':' || d == '|')
  | _ => false

/-- A segment with escaped points read as points. -/
def readPoints : List Char → List Char
  | '%' :: '2' :: e :: r => if e == 'e' || e == 'E' then '.' :: readPoints r else '%' :: '2' :: e :: readPoints r
  | c :: r => c :: readPoints r
  | [] => []

/-- The segments before a segment, the last one first, followed by it: one point leads nowhere, two points lead up,
    though not out of a drive. -/
def addSegment (kind : SchemeKind) (before : List (List Char)) (segment : List Char) : List (List Char) :=
  if readPoints segment = ['.'] then before
  else if readPoints segment = ['.','.'] then if before.head?.any isDrive then before else before.drop 1
  else if kind == .file && before == [] && isDrive segment then [segment.take 1 ++ [':']]
  else segment :: before

def isPoints (segment : List Char) : Bool := readPoints segment == ['.'] || readPoints segment == ['.','.']

/-- The segments that a row of segments leads to from the segments before it, of which the last one comes first; points
    at the end lead to a directory. -/
def resolve (kind : SchemeKind) (before segments : List (List Char)) : List (List Char) :=
  let names := (segments.foldl (addSegment kind) before).reverse
  if segments.getLast?.any isPoints then names ++ [[]] else names

/-- The segments of a path, `cs` being the text after its first slash. Files have no empty names at the start. -/
def readSegments (kind : SchemeKind) (cs : List Char) : List (List Char) :=
  let names := resolve kind [] ((cs.splitOnP kind.isSlash).map (Percent.encode Percent.path))
  match kind with
  | .file => if names.all (· = []) then [[]] else names.dropWhile (· = [])
  | _ => names

def pathOf (segments : List (List Char)) : UrlPath := .segments (segments.map String.ofList)

def readPath (kind : SchemeKind) (cs : List Char) : UrlPath :=
  if cs = [] ∧ kind = .other then .segments [] else pathOf (readSegments kind (cs.drop 1))

def startsWithDrive : UrlPath → Bool
  | .segments (name :: _) => isDrive name.toList
  | _ => false

/-! ## Authorities -/

/-- The host before a port; a colon between brackets is the host's. -/
def splitPort (inside : Bool) : List Char → List Char × List Char
  | [] => ([],[])
  | c :: r =>
    if c == ':' && !inside then ([],c :: r)
    else
      let (host,port) := splitPort (if c == '[' then true else if c == ']' then false else inside) r
      (c :: host,port)

def readHost (cs : List Char) : Except UrlError UrlHost :=
  match cs with
  | '[' :: r =>
    if r.getLast? = some ']' then UrlHost.ipv6 <$> Ipv6.parse r.dropLast else .error .ipv6
  | _ => do
    let name ← Domain.toAscii cs
    if name = [] then throw .emptyHost
    if Ipv4.isNumeric name then UrlHost.ipv4 <$> Ipv4.parse name else return .domain (String.ofList name)

def readOtherHost (cs : List Char) : Except UrlError UrlHost :=
  match cs with
  | '[' :: _ => readHost cs
  | _ =>
    if cs.any ("\x00 #/:<>?@[\\]^|".toList.contains ·) then .error .domainCharacter
    else .ok (.domain (String.ofList (Percent.encode Percent.control cs)))

/-- A port: decimal digits, or none at all. The scheme's own port counts as none. -/
def readPort (kind : SchemeKind) (cs : List Char) : Except UrlError (Option Nat) :=
  if !cs.all Char.isDigit || 65535 < Decimal.value cs then .error .port
  else if cs = [] || kind == .special (Decimal.value cs) then .ok none
  else .ok (some (Decimal.value cs))

/-- User name, password and the rest of an authority, cut at its last at sign. -/
def splitCredentials (cs : List Char) : Option (List Char) × List Char :=
  match cutAt (· == '@') cs.reverse with
  | (_,[]) => (none,cs)
  | (host,_ :: user) => (some user.reverse,host.reverse)

def readCredentials (cs : List Char) : String × Option String :=
  let (user,password) := cutAt (· == ':') cs
  let encode (cs : List Char) := String.ofList (Percent.encode Percent.userinfo cs)
  (encode user,if password.drop 1 = [] then none else some (encode (password.drop 1)))

/-- An authority. Who names a user or a port must name a host. -/
def readAuthority (kind : SchemeKind) (cs : List Char) : Except UrlError UrlAuthority := do
  let (user,rest) := splitCredentials cs
  if user = some [] && rest = [] then throw .emptyHost
  let (username,password) := readCredentials (user.getD [])
  let (hostText,portText) := splitPort false rest
  if hostText = [] && (kind != .other || portText ≠ [] || username ≠ "" || password.isSome) then throw .emptyHost
  let host ← if kind == .other then readOtherHost hostText else readHost hostText
  let port ← readPort kind (portText.drop 1)
  return { username, password, host, port }

/-! ## URLs -/

/-- The authority and the path of a file URL. A drive at the place of the host belongs to the path, and no host stands
    before a drive. -/
def readFile (cs : List Char) : Except UrlError (UrlAuthority × UrlPath) :=
  let slash := SchemeKind.file.isSlash
  let nowhere : UrlAuthority := { host := .domain "" }
  let rooted := (nowhere,readPath .file (if cs.head?.any slash then cs else '/' :: cs))
  match cs with
  | a :: b :: rest =>
    if !slash a || !slash b then .ok rooted
    else
      let (hostText,path) := cutAt slash rest
      if isDrive hostText then .ok (nowhere,readPath .file ('/' :: rest))
      else if hostText = [] then .ok (nowhere,readPath .file path)
      else do
        let host ← readHost hostText
        let path := readPath .file path
        let nameless := host = .domain "localhost" || startsWithDrive path
        return ({ host := if nameless then .domain "" else host },path)
  | _ => .ok rooted

def readHierarchy (kind : SchemeKind) (cs : List Char) : Except UrlError (Option UrlAuthority × UrlPath) :=
  match kind, cs with
  | .file, cs => Prod.map some id <$> readFile cs
  | .special _, cs => do
    let (authority,path) := cutAt kind.isSlash (cs.dropWhile kind.isSlash)
    return (some (← readAuthority kind authority),readPath kind path)
  | .other, '/' :: '/' :: rest => do
    let (authority,path) := cutAt kind.isSlash rest
    return (some (← readAuthority kind authority),readPath kind path)
  | .other, '/' :: rest => return (none,readPath kind ('/' :: rest))
  | .other, cs => return (none,.verbatim (String.ofList (Percent.encode Percent.control cs)))

/-- The URL of a text. Blanks and controls around it and tabs and line breaks in it count for nothing. -/
def parse (s : String) : Except UrlError Url := do
  let cs := (strip (·.toNat ≤ 0x20) s.toList).filter fun c => c ≠ '\t' && c ≠ '\n' && c ≠ '\r'
  let some (scheme,rest) := splitScheme cs | throw .noScheme
  let scheme := String.ofList scheme
  let kind := schemeKind scheme
  let (rest,fragment) := cutAt (· == '#') rest
  let (rest,query) := cutAt (· == '?') rest
  let (authority,path) ← readHierarchy kind rest
  let querySet := if kind == .other then Percent.query else Percent.specialQuery
  let after (set : Char → Bool) : List Char → Option String
    | [] => none
    | _ :: r => some (String.ofList (Percent.encode set r))
  return { scheme, authority, path, query := after querySet query, fragment := after Percent.fragment fragment }

/-- The URL that a path leads to from another URL: it takes the place of what follows the last slash. -/
def join (base : Url) (path : String) : Except UrlError Url :=
  match base.path with
  | .verbatim _ => .error .noBase
  | .segments names =>
    let kind := schemeKind base.scheme
    let segments := (path.toList.splitOnP kind.isSlash).map (Percent.encode Percent.path)
    let path := pathOf (resolve kind (names.dropLast.map String.toList).reverse segments)
    .ok { base with path, query := none, fragment := none }

end Url

end PhoneSignIn
