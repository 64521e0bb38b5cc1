import LongPoll.Channel.Event
import LongPoll.Rehearsal.Description
import LongPoll.Rehearsal.Part

set_option autoImplicit false

/-!
What is seen of a rehearsal: the answers to what is asked, and the calls of collaborators and log
entries in their order.
-/

namespace LongPoll.Rehearsal

open Channel

inductive Answer
  | returned (result : Except Fault Unit)
  | urlRejected (fault : UrlFault)
  | phase (phase : Phase)
  | released (role : Role)
  | noGate
  /-- The channel has been dropped. -/
  | gone
  | pending

inductive CloseEffect
  | nothing
  | ignored
  | aborted
deriving DecidableEq, Repr

def CloseEffect.name : CloseEffect → String
  | nothing => "nothing"
  | ignored => "ignored"
  | aborted => "aborted"

inductive Sight
  | compile (id : String) (types : Nat)
  | send (description : Description)
  | close (effect : CloseEffect)
  | process (id : String) (payload : Bytes)
  | serverFailed (server : String)
  | asked (name : String) (answer : Answer)
  | notice (entry : Notice)

end LongPoll.Rehearsal
