import LongPoll.Channel.Event

set_option autoImplicit false

/-!
The operations of a channel, each as the sections that it runs one after another. A call that
cannot run its next section waits.
-/

namespace LongPoll.Channel

structure Setup where
  config : Config
  keys : ClientKeys
deriving DecidableEq

inductive Operation
  | start
  | stop
  | sync (type : TransportType)
  | syncAll
  | setServer (server : ServerDescription)
  | setMultiplexer (multiplexer : Multiplexer)
  | setDemultiplexer (demultiplexer : Demultiplexer)
  | shutdown
deriving DecidableEq, Repr

/-- A step of an operation: a section under the lock, or what is done between two. -/
inductive Section
  | start
  | stop
  /-- Waits until a cycle is no longer in progress. -/
  | await (cycle : Nat)
  /-- Ends the call if no server is bound. -/
  | requireServer
  | bind (server : PollServer) (session : Session)
  | setMultiplexer (multiplexer : Multiplexer)
  | setDemultiplexer (demultiplexer : Demultiplexer)
  | retire
  | dismiss
  /-- Waits until the worker has left. -/
  | join
deriving DecidableEq

/-- What a new session is made from. -/
structure Draw where
  sessionKey : Key
  nonce : Nonce
deriving DecidableEq

def restart : List Section := [.requireServer, .stop, .start]

/-- The server to bind a channel to, unless the description is for channels of another kind. -/
def pollServer (channelId : String) (description : ServerDescription) : Except Fault PollServer :=
  match description.poll? with
  | none => .error (.wrongServerKind channelId .httpLongPoll description.kind)
  | some server => .ok server

/-- The sections of an operation, or why it is rejected before the first. -/
def plan (setup : Setup) (draw : Draw) : Operation → Except Fault (List Section)
  | .start => .ok [.start]
  | .stop => .ok [.stop]
  | .sync type =>
    if setup.config.supportedTypes.isSyncAllowed type then .ok restart
    else .error (.syncNotAllowed setup.config.channelId type)
  | .syncAll => .ok restart
  | .setServer description => do
    let server ← pollServer setup.config.channelId description
    let session ← Session.make setup.keys server.publicKey draw.sessionKey draw.nonce
    .ok [.stop, .bind server session, .start]
  | .setMultiplexer multiplexer => .ok [.setMultiplexer multiplexer]
  | .setDemultiplexer demultiplexer => .ok [.setDemultiplexer demultiplexer]
  | .shutdown => .ok [.stop, .retire]

/-- A call under way. It is over when no section is left. -/
structure Call where
  operation : Operation
  /-- The call was made by a collaborator on the worker's own thread. -/
  onWorker : Bool
  sections : List Section
  result : Except Fault Unit := .ok ()
  /-- The HTTP client panicked under the call, which then never returns. -/
  panicked : Bool := false

/-- What the surroundings decide while a section runs. -/
structure Chance where
  /-- Why no thread can be had for the worker. -/
  spawnFault : Option String := none
  /-- The HTTP client panics when it is asked to abort an exchange. -/
  closePanics : Bool := false
deriving DecidableEq, Repr

namespace Call

def isOver (call : Call) : Bool := call.sections.isEmpty

def hasReturned (call : Call) : Bool := call.isOver && !call.panicked

/-- The call after a panic of the HTTP client under it. -/
def panic (call : Call) : Call := { call with sections := [], panicked := true }

def make (setup : Setup) (draw : Draw) (operation : Operation) (onWorker : Bool) : Call :=
  match plan setup draw operation with
  | .ok sections => { operation, onWorker, sections }
  | .error fault => { operation, onWorker, sections := [], result := .error fault }

structure Advance where
  state : State
  call : Call
  events : List Event := []

/-- Runs the next section of a call; none if there is none or if the call has to wait. A stop does
not wait on the thread of a running worker, and a shutdown does not join its own thread. -/
def advance? (setup : Setup) (state : State) (call : Call) (chance : Chance) : Option Advance :=
  match call.sections with
  | [] => none
  | .start :: rest =>
    let (next, result) := state.start setup.config.channelId chance.spawnFault
    let events :=
      if state.worker = .unstarted ∧ chance.spawnFault = none then [.spawned] else []
    some { state := next, call := { call with sections := rest, result }, events }
  | .stop :: rest =>
    let next := state.stop
    let waits := next.inProgress && !(call.onWorker && next.worker = .running)
    let sections := if waits then .await next.cycleSeq :: rest else rest
    let events := if state.stopAborts then [.close state.cycleSeq false] else []
    let call :=
      if state.stopAborts && chance.closePanics then call.panic else { call with sections }
    some { state := next, call, events }
  | .await cycle :: rest =>
    if state.awaits cycle then none
    else some { state, call := { call with sections := rest } }
  | .requireServer :: rest =>
    if state.server.isNone then
      some { state, call := { call with sections := [] }, events := [.notice .noServerToSync] }
    else some { state, call := { call with sections := rest } }
  | .bind server session :: rest =>
    some { state := state.bind server session, call := { call with sections := rest } }
  | .setMultiplexer multiplexer :: rest =>
    some {
      state := { state with multiplexer := some multiplexer }
      call := { call with sections := rest } }
  | .setDemultiplexer demultiplexer :: rest =>
    some {
      state := { state with demultiplexer := some demultiplexer }
      call := { call with sections := rest } }
  | .retire :: rest =>
    let joins := setup.config.joinWorkerOnDrop && !call.onWorker
    let leaving : List Section :=
      if state.worker = .running then .dismiss :: (if joins then [.join] else []) else []
    some {
      state := { state with worker := .retired }
      call := { call with sections := leaving ++ rest } }
  | .dismiss :: rest =>
    some {
      state := { state with queue := (state.queue.post? .exit).getD state.queue }
      call := { call with sections := rest } }
  | .join :: rest =>
    if state.queue.closed then some { state, call := { call with sections := rest } } else none

/-- The cycle that a waiting stop may ask to abort once more. -/
def repeats? (state : State) (call : Call) : Option Nat :=
  match call.sections with
  | .await cycle :: _ => if state.awaits cycle then some cycle else none
  | _ => none

end Call
end LongPoll.Channel
