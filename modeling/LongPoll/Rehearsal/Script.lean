import LongPoll.Channel.Cycle
import LongPoll.Rehearsal.Tamper
import LongPoll.Server.Sketch

set_option autoImplicit false

/-!
Scripts for the collaborators of a channel, and what is asked of the channel in a rehearsal. Each
call of a collaborator takes the next entry of its script.
-/

namespace LongPoll.Rehearsal

/-- The body of a scripted response. -/
inductive Content
  /-- Data sealed by the server and changed on its way. -/
  | sealed (data : Bytes) (tamper : Tamper) (status : Option Nat)
  | raw (body : Bytes) (status : Option Nat)
  | empty (status : Option Nat)

mutual

inductive Ask
  | start
  | stop
  | sync (type : TransportType)
  | syncAll
  | setServer (sketch : ServerSketch)
  | setMultiplexer (adapter : Adapter)
  | setDemultiplexer (adapter : Adapter)
  | shutdown
  | phase

/-- A scripted multiplexer or demultiplexer. -/
structure Adapter where
  id : String
  script : List Entry := []

/-- What a collaborator does when it is called, in this order. -/
structure Entry where
  /-- It is held until it is released. -/
  gate : Bool := false
  /-- How many aborts it ignores while it is held; none if it ignores all. -/
  ignoredCloses : Option Nat := some 0
  /-- What it asks of the channel. -/
  asks : List Ask := []
  /-- It panics, with a message or without. -/
  panic : Option (Option String) := none
  fault : Option Fault := none
  /-- The body that a multiplexer compiles, in place of its id. -/
  body : Option Bytes := none
  reply : Reply

/-- What the server sends back, after what the HTTP client does on receiving it. -/
structure Reply where
  asks : List Ask := []
  panic : Option (Option String) := none
  fault : Option Fault := none
  content : Content := .empty none

end

/-- What a collaborator does when its script has run out. -/
def Entry.plain : Entry := { reply := {} }

/-- What the HTTP client does when its script has run out: it waits for a release. -/
def Entry.held : Entry := { gate := true, reply := {} }

/-- The name under which an ask is recorded. -/
def Ask.name : Ask → String
  | start => "start"
  | stop => "stop"
  | sync _ => "sync"
  | syncAll => "sync_all"
  | setServer _ => "set_server"
  | setMultiplexer _ => "set_mux"
  | setDemultiplexer _ => "set_demux"
  | shutdown => "shutdown"
  | phase => "phase"

inductive Step
  /-- A thread of its own asks something of the channel. -/
  | ask (ask : Ask)
  /-- Lets a held collaborator go on, the HTTP client with another reply. -/
  | release (reply : Option Reply)
  /-- Appends entries to the scripts of the HTTP client and of the manager. -/
  | push (http manager : List Entry)
  | dropManager
  /-- Drops the channel, which shuts it down. -/
  | drop

/-- How a collaborator ends, once it has asked all it asks. -/
inductive Ending
  | panicked (message : Option String)
  | failed (fault : Fault)
  | normal

/-- The end that a panic or a fault makes, of which a panic comes first. -/
def ending (panic : Option (Option String)) (fault : Option Fault) : Ending :=
  match panic, fault with
  | some message, _ => .panicked message
  | none, some fault => .failed fault
  | none, none => .normal

end LongPoll.Rehearsal
