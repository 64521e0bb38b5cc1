import LongPoll.Channel.Cycle
import LongPoll.Rehearsal.Script

set_option autoImplicit false

/-!
The parts that scripted collaborators play: what an entry of a script does after its gate, and the
step of the worker that its end is.
-/

namespace LongPoll.Rehearsal

open Channel

/-- A collaborator that the worker may be inside of. -/
inductive Role
  | multiplexer
  | http
  | demultiplexer
  | manager
deriving DecidableEq, Repr

def Role.name : Role → String
  | multiplexer => "mux"
  | http => "http"
  | demultiplexer => "demux"
  | manager => "manager"

/-- Something that a collaborator does with the thread of the worker. -/
inductive Deed
  | ask (ask : Ask)
  | finish (ending : Ending)

/-- The part that a collaborator is playing. -/
structure Part where
  role : Role
  id : String := ""
  entry : Entry
  held : Bool
  deeds : List Deed
  /-- The call that it has made and that has not returned. -/
  calling : Option (String × Nat) := none
  /-- The server's side of the session, for the HTTP client. -/
  peer : Except Fault PeerSession := .error .badKey

def Ending.outcome {α : Type} (value : Outcome α) : Ending → Outcome α
  | .normal => value
  | .failed fault => .failed fault
  | .panicked message => .panicked message

/-- What an entry does after its gate. A fault of a manager is nothing to the channel. -/
def Entry.deeds (entry : Entry) (role : Role) : List Deed :=
  let own := entry.asks.map Deed.ask
  let fault := if role = .manager then none else entry.fault
  match ending entry.panic fault with
  | .normal =>
    if role = .http then
      own ++ entry.reply.asks.map Deed.ask
        ++ [.finish (ending entry.reply.panic entry.reply.fault)]
    else own ++ [.finish .normal]
  | other => own ++ [.finish other]

def Part.begin (role : Role) (id : String) (entry : Entry) : Part :=
  { role, id, entry, held := entry.gate, deeds := entry.deeds role }

/-- The response that a reply makes, or why there is none. -/
def Content.response (peer : Except Fault PeerSession) (nonce : Nonce) :
    Content → Outcome Response
  | .sealed data tamper status =>
    match peer with
    | .error fault => .failed fault
    | .ok session =>
      .returned { status := status.getD 200, body := tamper.apply (session.encode nonce data) }
  | .raw body status => .returned { status := status.getD 200, body }
  | .empty status => .returned { status := status.getD 204 }

/-- The step of the worker that the end of a part is. -/
def Part.lastMove (part : Part) (ending : Ending) (nonce : Nonce) : Move :=
  match part.role with
  | .multiplexer =>
    .compiled (ending.outcome (.returned (part.entry.body.getD (utf8 part.id))))
      (.returned nonce)
  | .http => .answered (ending.outcome (part.entry.reply.content.response part.peer nonce))
  | .demultiplexer => .processed (ending.outcome (.returned ()))
  | .manager =>
    .reported (match ending with
      | .panicked _ => true
      | _ => false)

end LongPoll.Rehearsal
