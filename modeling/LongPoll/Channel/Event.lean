import LongPoll.Channel.State

set_option autoImplicit false

/-!
What can be seen of a channel at work: calls of its collaborators, and entries of its log.
-/

namespace LongPoll.Channel

inductive Notice
  | connectionFailed (server : PollServer) (fault : Fault)
  | connectionAborted (fault : Fault)
  | cannotBegin (fault : Fault)
  | cannotReschedule (fault : Fault)
  | requestDropped
  | emptyPoll
  | noServerToSync
  | noManager
  | managerPanicked
deriving DecidableEq

def Notice.text : Notice → String
  | connectionFailed .. => "connection failed"
  | connectionAborted .. => "connection was aborted"
  | cannotBegin .. => "cannot run poll cycle"
  | cannotReschedule .. => "failed to schedule next poll"
  | requestDropped => "stop requested before send, dropping request"
  | emptyPoll => "poll window elapsed without data"
  | noServerToSync => "can't sync channel, server is not set"
  | noManager => "no channel manager to report the failed server to"
  | managerPanicked => "channel manager panicked handling server failure"

inductive Event
  | spawned
  /-- The multiplexer is asked for a request body. -/
  | compile (capture : Capture)
  | send (capture : Capture) (request : FormPost)
  /-- The HTTP client is asked to abort the exchange of a cycle, first or repeatedly. -/
  | close (cycle : Nat) (repeated : Bool)
  | process (capture : Capture) (payload : Bytes)
  /-- The manager is told of a server that failed. -/
  | serverFailed (capture : Capture)
  | notice (entry : Notice)
deriving DecidableEq

end LongPoll.Channel
