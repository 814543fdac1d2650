/-!
A tree of files and directories, as far as a store of one file needs it. A path is reached from the root through
directories, one name after the other (`FileTree.find`), and a `Change` is one step of work on the tree that either
succeeds or leaves it alone.
-/
namespace PhoneSignIn

/-- The names that lead from the root to a file or directory. -/
abbrev Path := List String

/-- The path that a text names. Slashes separate the names; a point leads nowhere, and the empty text names nothing that
    could be there. -/
def Path.ofText (s : String) : Path :=
  if s = "" then [""] else (s.splitOn "/").filter fun name => name ≠ "" && name ≠ "."

inductive Entry where
  | directory
  | file (bytes : List UInt8)
deriving DecidableEq, Repr, Inhabited

inductive FileError where
  | notFound
  | notDirectory
  | isDirectory
  | exists
  | nameTooLong
  | nulCharacter
  | notText
deriving DecidableEq, Repr, Inhabited

def FileError.reason : FileError → String
  | .notFound => "No such file or directory"
  | .notDirectory => "Not a directory"
  | .isDirectory => "Is a directory"
  | .exists => "File exists"
  | .nameTooLong => "File name too long"
  | .nulCharacter => "file name contained an unexpected NUL byte"
  | .notText => "stream did not contain valid UTF-8"

structure FileTree where
  entries : List (Path × Entry) := []
deriving DecidableEq, Repr, Inhabited

namespace FileTree

/-- The entry of a path; the root is a directory. -/
def entry? (t : FileTree) : Path → Option Entry
  | [] => some .directory
  | p => t.entries.lookup p

def erase (t : FileTree) (p : Path) : FileTree := ⟨t.entries.filter (·.1 ≠ p)⟩

def insert (t : FileTree) (p : Path) (e : Entry) : FileTree := ⟨(p,e) :: (t.erase p).entries⟩

/-- The tree without a path and what is below it. -/
def eraseAll (t : FileTree) (p : Path) : FileTree := ⟨t.entries.filter fun e => !p.isPrefixOf e.1⟩

def isNameTooLong (name : String) : Bool := 255 < name.utf8ByteSize

/-- Go down from `above` by the names of `below`, each a directory but the last. -/
def descend (t : FileTree) (above : Path) : (below : Path) → Except FileError Entry
  | [] =>
    match t.entry? above with
    | some e => .ok e
    | none => .error .notFound
  | name :: below =>
    match t.entry? above with
    | none => .error .notFound
    | some (.file _) => .error .notDirectory
    | some .directory =>
      if isNameTooLong name then .error .nameTooLong else t.descend (above ++ [name]) below

/-- The octets of a path, with a slash before every name. -/
def octets : Path → Nat
  | [] => 0
  | name :: p => name.utf8ByteSize + 1 + octets p

def isPathTooLong (p : Path) : Bool := 4095 < octets p

/-- Whether an octet of a name is zero: the operating system takes it for the end of the path. -/
def hasNul (name : String) : Bool := name.toByteArray.data.toList.contains 0

def refusal? (p : Path) : Option FileError :=
  if p.any hasNul then some .nulCharacter
  else if isPathTooLong p then some .nameTooLong
  else none

def find (t : FileTree) (p : Path) : Except FileError Entry :=
  match refusal? p with
  | some e => .error e
  | none => t.descend [] p

/-- The entry at the place of a path, or nothing there when the path leads to a free place in a directory. Nothing can
    be put in the place of the empty name. -/
def place (t : FileTree) (p : Path) : Except FileError (Option Entry) :=
  match t.find p with
  | .ok e => .ok (some e)
  | .error .notFound =>
    if p.getLastD "" = "" then .error .notFound else
    match t.find p.dropLast with
    | .ok _ => .ok none
    | .error e => .error e
  | .error e => .error e

def read (t : FileTree) (p : Path) : Except FileError (List UInt8) :=
  match t.find p with
  | .ok (.file bytes) => .ok bytes
  | .ok .directory => .error .isDirectory
  | .error e => .error e

inductive Change where
  | makeDirectory (p : Path)
  /-- Make a directory if there is one to make it in. -/
  | tryDirectory (p : Path)
  | write (p : Path) (bytes : List UInt8)
  | rename (source target : Path)
  | remove (p : Path)
deriving DecidableEq, Repr

def makeDirectory (t : FileTree) (p : Path) : Except FileError FileTree :=
  match t.place p with
  | .ok none => .ok (t.insert p .directory)
  | .ok (some .directory) => .ok t
  | .ok (some (.file _)) => .error .exists
  | .error e => .error e

def Change.apply : Change → FileTree → Except FileError FileTree
  | .makeDirectory p, t => t.makeDirectory p
  | .tryDirectory p, t =>
    match t.makeDirectory p with
    | .error .notFound => .ok t
    | made => made
  | .write p bytes, t =>
    match t.place p with
    | .ok (some .directory) => .error .isDirectory
    | .ok _ => .ok (t.insert p (.file bytes))
    | .error e => .error e
  | .rename source target, t =>
    match t.read source, t.place target with
    | .ok _, .ok (some .directory) => .error .isDirectory
    | .ok bytes, .ok _ => .ok ((t.erase source).insert target (.file bytes))
    | .error e, _ => .error e
    | _, .error e => .error e
  | .remove p, t =>
    match t.read p with
    | .ok _ => .ok (t.erase p)
    | .error e => .error e

def run : List Change → FileTree → Option FileError × FileTree
  | [], t => (none,t)
  | c :: cs, t =>
    match c.apply t with
    | .ok t => run cs t
    | .error e => (some e,t)

/-- The paths between the root and a path, the shortest first. -/
def ancestors (p : Path) : List Path := (List.range' 1 (p.length - 1)).map p.take

/-- The steps that make the directories above a path. The lowest is tried first, and is all that there is to make when
    those above it are there. -/
def makeAncestors (p : Path) : List Change := .tryDirectory p.dropLast :: (ancestors p).map .makeDirectory

/-- The entries in the order of their paths: a directory comes before what is in it. -/
def listing (t : FileTree) : List (Path × Entry) :=
  t.entries.mergeSort fun a b => !decide (b.1 < a.1)

end FileTree

end PhoneSignIn
