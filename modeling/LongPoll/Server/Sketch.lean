import LongPoll.Crypto.X25519
import LongPoll.Server

set_option autoImplicit false

/-!
Sketches of servers: parts from which a description is made, as far as they fit together.
-/

namespace LongPoll

/-- The parts of a description. A public key that is not given is that of the private key. -/
structure ServerSketch where
  kind : ChannelKind := .httpLongPoll
  url : String := ""
  host : Option String := none
  port : UInt16 := 0
  key : Option Key := none
  secret : Option Key := none
deriving DecidableEq

/-- Why a sketch gives no description. -/
inductive SketchFault
  | url (fault : UrlFault)
  | server (fault : Fault)
deriving DecidableEq

namespace ServerSketch

/-- The private key of a server that is not given one. -/
def defaultSecret : Key := .uniform 0x2a

def privateKey (sketch : ServerSketch) : Key := sketch.secret.getD defaultSecret

def publicKey (sketch : ServerSketch) : Key :=
  sketch.key.getD (X25519.publicKey sketch.privateKey)

/-- Without a host a long-poll server is where its URL says. -/
def describe (sketch : ServerSketch) : Except SketchFault ServerDescription :=
  let endpoint : Endpoint :=
    { host := sketch.host.getD "", port := sketch.port, publicKey := sketch.publicKey }
  match sketch.kind with
  | .http => .ok (.http endpoint)
  | .tcp => .ok (.tcp endpoint)
  | .httpLongPoll =>
    match Url.parse sketch.url with
    | .error fault => .error (.url fault)
    | .ok url =>
      match sketch.host with
      | some host => .ok (.poll { host, port := sketch.port, url, publicKey := sketch.publicKey })
      | none =>
        match PollServer.ofUrl url sketch.publicKey with
        | .error fault => .error (.server fault)
        | .ok server => .ok (.poll server)

end ServerSketch
end LongPoll
