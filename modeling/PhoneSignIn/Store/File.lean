import PhoneSignIn.Store.Basic
import PhoneSignIn.Store.FileTree
import PhoneSignIn.Text.Hex
import PhoneSignIn.Text.Utf8

/-!
A store that keeps the active session as the text of one file. A session is written to a temporary file beside it, which
then takes its place, so the file never holds half a session. What was read or written last is remembered, and the file
is not read again.
-/
namespace PhoneSignIn

structure FileStore where
  path : Path
  disk : FileTree
  /-- The session last read or written, once there is one. -/
  cache : Option (Option Session) := none
  serial : Nat := 0
deriving DecidableEq, Repr, Inhabited

namespace FileStore

/-- A file name without its extension; a point at the start begins no extension. -/
def stem (name : String) : String :=
  match name.toList.reverse.dropWhile (· ≠ '.') with
  | _ :: c :: r => String.ofList (c :: r).reverse
  | _ => name

def temporaryName (serial : Nat) (name : String) : String :=
  stem name ++ ".tmp-" ++ String.ofList (Text.Hex.padded 32 serial)

def temporary (f : FileStore) : Path :=
  f.path.dropLast ++ [temporaryName f.serial (f.path.getLastD "")]

def bytes (s : Session) : List UInt8 := Text.Utf8.encode (Session.Stored.encode (some s))

/-- The steps that keep a session once the directories above are there: the whole text in a temporary file, then the
    temporary file in place of the old one. -/
def replacement (f : FileStore) (s : Session) : List FileTree.Change :=
  [.write f.temporary (bytes s),.rename f.temporary f.path]

def changes (f : FileStore) (s : Session) : List FileTree.Change :=
  FileTree.makeAncestors f.path ++ f.replacement s

def reopen (f : FileStore) : FileStore := { f with cache := none }

def storageError (e : FileError) : StorageError := ⟨e.reason⟩

/-- What the file holds: a missing file holds no session, and one that is no text is an error. -/
def load (f : FileStore) : Except FileError (Option Session) :=
  match f.disk.read f.path with
  | .ok bytes =>
    match Text.Utf8.decode? bytes with
    | some text => .ok (Session.Stored.decode text)
    | none => .error .notText
  | .error .notFound => .ok none
  | .error e => .error e

/-- The active session; only the first answer comes from the file. -/
def read (f : FileStore) : Except StorageError (Option Session) × FileStore :=
  match f.cache with
  | some session => (.ok session,f)
  | none =>
    match f.load with
    | .ok session => (.ok session,{ f with cache := some session })
    | .error e => (.error (storageError e),f)

/-- Keep a session. When its text cannot take the place of the old one, the temporary file goes. -/
def write (s : Session) (f : FileStore) : Except StorageError Unit × FileStore :=
  match FileTree.run (FileTree.makeAncestors f.path) f.disk with
  | (some e,disk) => (.error (storageError e),{ f with disk })
  | (none,disk) =>
    match FileTree.run (f.replacement s) disk with
    | (none,disk) => (.ok (),{ f with disk, cache := some (some s), serial := f.serial + 1 })
    | (some e,disk) =>
      let (_,disk) := FileTree.run [.remove f.temporary] disk
      (.error (storageError e),{ f with disk, serial := f.serial + 1 })

/-- Remove the file; a missing file is as good. -/
def clear (f : FileStore) : Except StorageError Unit × FileStore :=
  match FileTree.Change.apply (.remove f.path) f.disk with
  | .ok disk => (.ok (),{ f with disk, cache := some none })
  | .error .notFound => (.ok (),{ f with cache := some none })
  | .error e => (.error (storageError e),f)

instance : SessionStore FileStore where
  read := read
  write := write
  clear := clear

end FileStore

end PhoneSignIn
