import PhoneSignIn.Console.Program
import PhoneSignIn.Http.Server

/-!
The command line. It brings arguments, environment, input lines and session file to the program and its output to the
terminal. It has no carrier of requests, so the service counts as out of reach.
-/
namespace PhoneSignIn.Console
open PhoneSignIn.Flow PhoneSignIn.Http

def variableNames : List String :=
  ["PHONE_AUTH_API_URL","PHONE_AUTH_GUEST_TOKEN","PHONE_AUTH_LANG","PHONE_AUTH_HTTP_TIMEOUT_SECS",
    "PHONE_AUTH_MAX_ERRORS","PHONE_AUTH_POST_DELAY_MS","PHONE_AUTH_DEFAULT_COUNTRY_CODE",
    "PHONE_AUTH_SESSION_FILE","DEMO_COLLECT_EMAIL"]

abbrev Running := Terminal (RestGateway Link) FileStore

def display (before after : Running) : IO Unit := do
  let out ← IO.getStdout
  out.putStr (String.ofList (after.shown.toList.drop before.shown.length))
  out.flush

partial def takeAnswers (p : Progress) (t : Running) : IO (Bool × Running) := do
  match p with
  | .done => return (true,t)
  | .broken => return (false,t)
  | .ask q =>
    let line ← (← IO.getStdin).getLine
    let text := (lines line.toUTF8.toList).head?.join
    let (p,t') := (answer q text).run t
    display t t'
    takeAnswers p t'

end PhoneSignIn.Console

open PhoneSignIn PhoneSignIn.Console in
def main (args : List String) : IO UInt32 := do
  let env ← variableNames.filterMapM fun name => return (← IO.getEnv name).map (name,·)
  let path := sessionFile env
  let name := "/".intercalate path
  let bytes ← try some <$> IO.FS.readBinFile name catch _ => pure none
  let disk : FileTree := match bytes with
    | none => {}
    | some bytes => { entries := (path,.file bytes.toList) :: (FileTree.ancestors path).map (·,.directory) }
  match worldOf env disk ({ up := false, server := {} } : Http.Link) with
  | .error e =>
    IO.eprintln ("Error: " ++ e.message)
    return 1
  | .ok world =>
    let before : Running := { world }
    let (p,t) := (start args env).run before
    display before t
    let (good,t) ← takeAnswers p t
    match t.world.store.disk.read path with
    | .ok kept => if some kept ≠ bytes.map (·.toList) then
        IO.FS.createDirAll ("/".intercalate ("." :: path.dropLast))
        IO.FS.writeBinFile name ⟨kept.toArray⟩
    | .error _ => if bytes.isSome then IO.FS.removeFile name
    return if good then 0 else 1
