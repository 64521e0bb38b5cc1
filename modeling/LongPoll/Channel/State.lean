import LongPoll.Config
import LongPoll.Server
import LongPoll.Session

set_option autoImplicit false

/-!
What the lock of a channel protects, and the queue of jobs for its worker. Every function here is
one section under the lock: it reads and writes the whole state at once, and between two sections
anything may happen. The two counters are unbounded.
-/

namespace LongPoll.Channel

inductive Phase
  /-- No cycle begins until the next start. -/
  | idle
  /-- A cycle is posted or about to be. -/
  | scheduled
  | inFlight
  /-- A stop has come while a request was outstanding. -/
  | stopping
deriving DecidableEq, Repr

def Phase.name : Phase → String
  | idle => "Idle"
  | scheduled => "Scheduled"
  | inFlight => "InFlight"
  | stopping => "Stopping"

inductive Job
  | poll
  | exit
deriving DecidableEq, Repr

/-- Jobs in the order of posting. Nothing can be posted once the worker has left. -/
structure JobQueue where
  jobs : List Job := []
  closed : Bool := false
deriving DecidableEq, Repr

def JobQueue.post? (queue : JobQueue) (job : Job) : Option JobQueue :=
  if queue.closed then none else some { queue with jobs := queue.jobs ++ [job] }

/-- The one worker that a channel ever has. -/
inductive WorkerSlot
  | unstarted
  | running
  | retired
deriving DecidableEq, Repr

/-- Stands for a collaborator that compiles requests; two are the same if their tags are. -/
structure Multiplexer where
  tag : Nat
deriving DecidableEq, Repr

/-- Stands for a collaborator that processes responses; two are the same if their tags are. -/
structure Demultiplexer where
  tag : Nat
deriving DecidableEq, Repr

/-- Everything that a cycle reads, taken together when the cycle begins. -/
structure Capture where
  cycle : Nat
  server : PollServer
  session : Session
  multiplexer : Multiplexer
  demultiplexer : Demultiplexer
  /-- How many aborts had been requested. -/
  abortEpoch : Nat
deriving DecidableEq

structure State where
  stopped : Bool := true
  /-- A cycle is between its beginning and the end of its exchange. -/
  inProgress : Bool := false
  /-- A cycle has been posted and has not begun. -/
  taskPosted : Bool := false
  /-- How often a stop has asked for an exchange to be aborted. That a counter of 64 bits overflows
  in the end is left out, here and for the cycles. -/
  abortRequests : Nat := 0
  /-- How many cycles have been in progress. -/
  cycleSeq : Nat := 0
  worker : WorkerSlot := .unstarted
  server : Option PollServer := none
  session : Option Session := none
  multiplexer : Option Multiplexer := none
  demultiplexer : Option Demultiplexer := none
  queue : JobQueue := {}
deriving DecidableEq

namespace State

def phase (state : State) : Phase :=
  match state.stopped, state.inProgress with
  | true, false => .idle
  | true, true => .stopping
  | false, true => .inFlight
  | false, false => .scheduled

/-- Posts the next cycle. Without a worker that takes jobs the channel stops. -/
def post (channelId : String) (state : State) : State × Except Fault Unit :=
  match state.worker, state.queue.post? .poll with
  | .running, some queue => ({ state with queue, taskPosted := true }, .ok ())
  | _, _ =>
    ({ state with stopped := true },
      .error (.workerUnavailable channelId "poll worker is not running"))

/-- The state once it has a worker: the first start creates it. -/
def equip (state : State) : State :=
  { state with worker := if state.worker = .unstarted then .running else state.worker }

/-- Creates the worker at the first start, unless no thread can be had for it. A cycle in progress
posts its successor itself. -/
def start (channelId : String) (spawnFault : Option String) (state : State) :
    State × Except Fault Unit :=
  match state.worker, spawnFault with
  | .unstarted, some reason => (state, .error (.workerUnavailable channelId reason))
  | _, _ =>
    if !state.equip.stopped then (state.equip, .ok ())
    else
      let resumed := { state.equip with stopped := false }
      if resumed.taskPosted || resumed.inProgress then (resumed, .ok ())
      else resumed.post channelId

/-- Whether a stop finds an exchange that it has to abort. -/
def stopAborts (state : State) : Bool := !state.stopped && state.inProgress

/-- The first section of a stop. -/
def stop (state : State) : State :=
  { state with
    stopped := true
    abortRequests := if state.stopAborts then state.abortRequests + 1 else state.abortRequests }

/-- Whether the cycle that a stop waits for is still in progress. -/
def awaits (state : State) (cycle : Nat) : Bool := state.inProgress && state.cycleSeq = cycle

def bind (server : PollServer) (session : Session) (state : State) : State :=
  { state with server := some server, session := some session }

/-- What the next cycle will read. The server is missed first, then the adapters. -/
def capture (channelId : String) (state : State) : Except Fault Capture :=
  match state.server, state.session with
  | some server, some session =>
    match state.multiplexer, state.demultiplexer with
    | none, _ => .error (.missingMultiplexer channelId)
    | some _, none => .error (.missingDemultiplexer channelId)
    | some multiplexer, some demultiplexer =>
      .ok { cycle := state.cycleSeq + 1, server, session, multiplexer, demultiplexer,
            abortEpoch := state.abortRequests }
  | _, _ => .error (.missingServer channelId)

inductive Beginning
  /-- The channel was stopped before. -/
  | skipped
  | misconfigured (fault : Fault)
  | begun (capture : Capture)

def begin (channelId : String) (state : State) : State × Beginning :=
  let taken := { state with taskPosted := false }
  if taken.stopped then (taken, .skipped)
  else match taken.capture channelId with
    | .ok capture =>
      ({ taken with inProgress := true, cycleSeq := taken.cycleSeq + 1 }, .begun capture)
    | .error fault => ({ taken with stopped := true }, .misconfigured fault)

/-- Whether a stop has hit a cycle since it began, even if a start has followed. -/
def interrupted (state : State) (capture : Capture) : Bool :=
  state.stopped || state.abortRequests != capture.abortEpoch

def settle (state : State) : State := { state with inProgress := false }

/-- Posts the next cycle, unless the channel is stopped or one is posted already; the fault if
that does not work. -/
def reschedule (channelId : String) (state : State) : State × Option Fault :=
  if state.stopped || state.taskPosted then (state, none)
  else match state.post channelId with
    | (next, .ok ()) => (next, none)
    | (next, .error fault) => (next, some fault)

end State
end LongPoll.Channel
