import PhoneSignIn.Flow.World
import PhoneSignIn.Text.Utf8

/-!
A terminal on which a sign-in is held: what it shows, and the lines that are typed into it. The host of the sign-in
shows every outcome that it is told of on the terminal, at once.
-/
namespace PhoneSignIn.Console
open PhoneSignIn.Flow

variable {γ σ : Type}

structure Terminal (γ σ : Type) where
  world : World γ σ
  shown : String := ""

abbrev Interaction (γ σ : Type) := StateM (Terminal γ σ)

def print (s : String) : Interaction γ σ Unit := modify fun t => { t with shown := t.shown ++ s }

def printLine (s : String) : Interaction γ σ Unit := print (s ++ "\n")

def prompt (label : String) : Interaction γ σ Unit := print (label ++ ": ")

def outcomeLine? : Occurrence → Option String
  | .delivered (.success _ session phoneNumber) =>
    some ("Signed in as user " ++ Text.Decimal.ofInt session.id.toInt ++ " (" ++ phoneNumber ++ ")")
  | .delivered (.failure _ message) => some ("Sign-in failed: " ++ message)
  | _ => none

def act (operation : Operation γ σ α) : Interaction γ σ α := do
  let t ← get
  let (a,world) := operation.run t.world
  set { t with world }
  for line in (world.history.drop t.world.history.length).filterMap outcomeLine? do
    printLine line
  return a

/-! ## Lines -/

/-- Cut octets into lines. A line ends at a line feed, which may follow a carriage return; the last one may end with the
    octets. -/
def splitLines (bytes : List UInt8) : List (List UInt8) :=
  let feed : UInt8 := 10
  let parts := bytes.splitOn feed
  let whole := parts.dropLast.map fun l => if l.getLast? = some 13 then l.dropLast else l
  match parts.getLast? with
  | none | some [] => whole
  | some last => whole ++ [last]

/-- The lines of an input; one that is no text is `none`. -/
def lines (bytes : List UInt8) : List (Option String) := (splitLines bytes).map Text.Utf8.decode?

end PhoneSignIn.Console
