import LongPoll.Key.Text
import LongPoll.Url

set_option autoImplicit false

/-!
Descriptions of servers. A description is tagged with the kind of channel it is meant for, and
only one for long polling says where requests are sent.
-/

namespace LongPoll

/-- A long-poll server: where requests are sent and whose key they are encrypted for. -/
structure PollServer where
  host : String
  port : UInt16
  url : Url
  publicKey : Key
deriving DecidableEq, Repr

/-- A server that channels of another kind reach. -/
structure Endpoint where
  host : String
  port : UInt16
  publicKey : Key
deriving DecidableEq, Repr

/-- A server, tagged with the kind of channel it is meant for. -/
inductive ServerDescription
  | poll (server : PollServer)
  | http (endpoint : Endpoint)
  | tcp (endpoint : Endpoint)
deriving DecidableEq, Repr

/-- A server at the host and the port that its URL names. -/
def PollServer.ofUrl (url : Url) (publicKey : Key) : Except Fault PollServer :=
  match url.host? with
  | none => .error (.unusableUrl url.text "missing host")
  | some host =>
    match url.port? with
    | none => .error (.unusableUrl url.text "missing port")
    | some port => .ok { host, port, url, publicKey }

namespace ServerDescription

def kind : ServerDescription → ChannelKind
  | poll _ => .httpLongPoll
  | http _ => .http
  | tcp _ => .tcp

def host : ServerDescription → String
  | poll server => server.host
  | http endpoint | tcp endpoint => endpoint.host

def port : ServerDescription → UInt16
  | poll server => server.port
  | http endpoint | tcp endpoint => endpoint.port

def publicKey : ServerDescription → Key
  | poll server => server.publicKey
  | http endpoint | tcp endpoint => endpoint.publicKey

/-- The long-poll server, if the description is tagged for long polling. -/
def poll? : ServerDescription → Option PollServer
  | poll server => some server
  | http _ | tcp _ => none

def display (server : ServerDescription) : String :=
  server.kind.display ++ "://" ++ server.host ++ ":" ++ toString server.port.toNat

end ServerDescription
end LongPoll
