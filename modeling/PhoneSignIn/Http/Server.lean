import PhoneSignIn.Http.Message

/-!
A server that plays a script, as a client brings its responses, and the link to it. The server gives each of its replies
to the first request that it fits; the link can be down, and then no request arrives.
-/
namespace PhoneSignIn.Http
open Text

inductive Reply where
  | respond (r : Response)
  | hangUp
deriving DecidableEq, Repr, Inhabited

def Request.unanswered (r : Request) : Failure := .unanswered ("error sending request for url (" ++ r.url.text ++ ")")

structure Server where
  /-- The replies to come, each for one path or for any. -/
  replies : List (Option String × Reply) := []
  received : List Request := []
deriving DecidableEq, Repr, Inhabited

namespace Server

def notFound : Response where
  status := 404
  body := Utf8.encode
    "\x7b\"errors\":[\x7b\"code\":34,\"message\":\"Sorry, that page does not exist\"\x7d]\x7d"

def take (path : String) : List (Option String × Reply) → Reply × List (Option String × Reply)
  | [] => (.respond notFound,[])
  | (wanted,reply) :: rest =>
    if wanted.all (· == path) then (reply,rest)
    else
      let (found,rest) := take path rest
      (found,(wanted,reply) :: rest)

instance : Client Server where
  send request server :=
    let (reply,replies) := take request.url.path.text server.replies
    let server := { replies, received := server.received ++ [request] }
    match reply with
    | .respond r => (.ok r,server)
    | .hangUp => (.error request.unanswered,server)

end Server

structure Link where
  up : Bool
  server : Server
deriving DecidableEq, Repr, Inhabited

instance : Client Link where
  send request link :=
    if link.up then
      let (response,server) := Client.send request link.server
      (response,{ link with server })
    else (.error request.unanswered,link)

end PhoneSignIn.Http
