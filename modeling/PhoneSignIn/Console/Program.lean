import PhoneSignIn.Console.Dialogue
import PhoneSignIn.Gateway.Rest
import PhoneSignIn.Store.File

/-!
The program that signs a user in at a terminal, over HTTP, and keeps the session in a file. All that it depends on comes
from its arguments and its environment.
-/
namespace PhoneSignIn.Console
open PhoneSignIn.Flow PhoneSignIn.Http

abbrev ProgramWorld (ν : Type) := World (RestGateway ν) FileStore

def sessionFile (env : Environment) : Path :=
  Path.ofText ((env.lookup "PHONE_AUTH_SESSION_FILE").getD "phone_auth_session.json")

def worldOf (env : Environment) (disk : FileTree) (network : ν) : Except SetupError (ProgramWorld ν) := do
  let settings := Settings.ofEnvironment env
  let gateway ← RestGateway.new settings.baseUrl settings.guestToken settings.language network
  return { gateway, store := { path := sessionFile env, disk }, settings, host := some 1 }

def collectsEmail (env : Environment) : Bool :=
  (env.lookup "DEMO_COLLECT_EMAIL").any fun v => v == "true" || v == "1"

/-- Start as the arguments say: sign out, or begin a sign-in unless a user is signed in already. -/
def start [Client ν] (args : List String) (env : Environment) :
    Interaction (RestGateway ν) FileStore Progress := do
  if args.head? = some "logout" then
    match ← act signOut with
    | .error _ => return .broken
    | .ok () =>
      printLine "Signed out"
      return .done
  else
    match ← act (startSignIn { host := 1, phoneNumber := "", wantsEmail := collectsEmail env }) with
    | .error _ => return .broken
    | .ok (.signedIn _) => return .done
    | .ok (.launch h) => enter .phoneNumber h

structure Ending (ν : Type) where
  good : Bool
  shown : String := ""
  disk : FileTree
  network : ν

def run [Client ν] (args : List String) (env : Environment) (input : List (Option String))
    (disk : FileTree) (network : ν) : Ending ν :=
  match worldOf env disk network with
  | .error _ => { good := false, disk, network }
  | .ok world =>
    let program : Interaction (RestGateway ν) FileStore Bool := do converse (← start args env) input
    let (good,t) := program.run { world }
    { good, shown := t.shown, disk := t.world.store.disk, network := t.world.gateway.network }

end PhoneSignIn.Console
