import LongPoll.Channel.Call

set_option autoImplicit false

/-!
What the worker does: it takes jobs one after another and runs a cycle for each. A cycle builds a
request and sends it outside the lock, hands the decrypted response on, and posts its successor.
Faults are classified here and never leave the worker.
-/

namespace LongPoll.Channel

/-- How a collaborator ends its part. -/
inductive Outcome (α : Type)
  | returned (value : α)
  | failed (fault : Fault)
  /-- A panic, with its message if it is a text. -/
  | panicked (message : Option String)

/-- A panic is a fault of the data. -/
def Outcome.result {α : Type} : Outcome α → Except Fault α
  | returned value => .ok value
  | failed fault => .error fault
  | panicked message =>
    .error (.badData ("poll cycle panicked: " ++ message.getD "unknown panic"))

inductive Activity
  | idle
  /-- Has taken a cycle that has not begun. -/
  | taken
  | compiling (capture : Capture)
  /-- The request is built and not yet checked against stops. -/
  | built (capture : Capture) (request : FormPost)
  /-- The request has passed the check. -/
  | cleared (capture : Capture) (request : FormPost)
  | sending (capture : Capture) (request : FormPost)
  | answered (capture : Capture) (response : Response)
  | processing (capture : Capture)
  /-- The payload has been processed, or there was none. -/
  | delivered (capture : Capture)
  /-- The cycle has failed before the end of its exchange and has not been classified. -/
  | failing (capture : Capture) (fault : Fault)
  /-- The response could not be delivered, and the cycle has not been classified. -/
  | undelivered (capture : Capture) (fault : Fault)
  | reporting (capture : Capture)
  | gone
deriving DecidableEq

/-- Whether a collaborator has the thread of the worker, and may use the channel from it. -/
def Activity.inCollaborator : Activity → Bool
  | compiling _ | sending .. | processing _ | reporting _ => true
  | _ => false

def Activity.isExchange : Activity → Bool
  | sending .. => true
  | _ => false

/-- A step of the worker, with what its collaborators contribute. -/
inductive Move
  | take
  | begin
  /-- The multiplexer is done; its body is then sealed under a fresh nonce. -/
  | compiled (outcome : Outcome Bytes) (sealing : Outcome Nonce)
  /-- Checks whether a stop has come while the request was built. -/
  | check
  | send
  | answered (outcome : Outcome Response)
  /-- Ends the exchange and decrypts the response. -/
  | settle
  | processed (outcome : Outcome Unit)
  | finish
  | fail
  | reported (panicked : Bool)

structure Progress where
  state : State
  activity : Activity
  events : List Event := []

def rescheduleNotices (fault : Option Fault) : List Event :=
  match fault with
  | some fault => [.notice (.cannotReschedule fault)]
  | none => []

/-- Takes the next job of the queue; with the job to leave the queue closes. -/
def takeJob? (state : State) : Option Progress :=
  match state.queue.jobs with
  | [] => none
  | .poll :: jobs =>
    some { state := { state with queue := { state.queue with jobs } }, activity := .taken }
  | .exit :: jobs =>
    some { state := { state with queue := { jobs, closed := true } }, activity := .gone }

def beginCycle (channelId : String) (state : State) : Progress :=
  match state.begin channelId with
  | (state, .skipped) => { state, activity := .idle }
  | (state, .misconfigured fault) =>
    { state, activity := .idle, events := [.notice (.cannotBegin fault)] }
  | (state, .begun capture) =>
    { state, activity := .compiling capture, events := [.compile capture] }

/-- Drops the request if a stop has hit the cycle; there was no exchange for it to abort. -/
def checkStops (channelId : String) (state : State) (capture : Capture) (request : FormPost) :
    Progress :=
  if state.interrupted capture then
    let (state, fault) := state.settle.reschedule channelId
    { state, activity := .idle, events := .notice .requestDropped :: rescheduleNotices fault }
  else { state, activity := .cleared capture request }

/-- Ends the exchange. A payload goes to the demultiplexer, an empty one to nobody. -/
def settleExchange (state : State) (capture : Capture) (response : Response) : Progress :=
  match capture.session.receive response with
  | .error fault => { state := state.settle, activity := .undelivered capture fault }
  | .ok [] =>
    { state := state.settle, activity := .delivered capture, events := [.notice .emptyPoll] }
  | .ok payload =>
    { state := state.settle, activity := .processing capture,
      events := [.process capture payload] }

def finishCycle (channelId : String) (state : State) : Progress :=
  let (state, fault) := state.reschedule channelId
  { state, activity := .idle, events := rescheduleNotices fault }

/-- A cycle that a stop has hit is cancelled. Any other failure stops the channel, and the manager
is told of the server that the cycle began with. Nothing else asks whether the manager is alive, so
that it is looked for within the section. -/
def failCycle (channelId : String) (managerAlive : Bool) (state : State) (capture : Capture)
    (fault : Fault) : Progress :=
  if state.interrupted capture then
    let (state, unposted) := state.settle.reschedule channelId
    { state, activity := .idle,
      events := .notice (.connectionAborted fault) :: rescheduleNotices unposted }
  else
    let failed : Event := .notice (.connectionFailed capture.server fault)
    let state := { state.settle with stopped := true }
    if managerAlive then
      { state, activity := .reporting capture, events := [failed, .serverFailed capture] }
    else { state, activity := .idle, events := [failed, .notice .noManager] }

/-- A step of the worker, if it fits what the worker is at. -/
def work? (setup : Setup) (managerAlive : Bool) (state : State) (activity : Activity)
    (move : Move) : Option Progress :=
  let channelId := setup.config.channelId
  match activity, move with
  | .idle, .take => takeJob? state
  | .taken, .begin => some (beginCycle channelId state)
  | .compiling capture, .compiled outcome sealing =>
    match outcome.result, sealing.result with
    | .ok body, .ok nonce =>
      let request := capture.session.request capture.server.url nonce body
      some { state, activity := .built capture request }
    | .ok _, .error fault | .error fault, _ => some { state, activity := .failing capture fault }
  | .built capture request, .check => some (checkStops channelId state capture request)
  | .cleared capture request, .send =>
    some { state, activity := .sending capture request, events := [.send capture request] }
  | .sending capture _, .answered outcome =>
    match outcome.result with
    | .ok response => some { state, activity := .answered capture response }
    | .error fault => some { state, activity := .failing capture fault }
  | .answered capture response, .settle => some (settleExchange state capture response)
  | .processing capture, .processed outcome =>
    match outcome.result with
    | .ok () => some { state, activity := .delivered capture }
    | .error fault => some { state, activity := .undelivered capture fault }
  | .delivered _, .finish => some (finishCycle channelId state)
  | .failing capture fault, .fail | .undelivered capture fault, .fail =>
    some (failCycle channelId managerAlive state capture fault)
  | .reporting _, .reported panicked =>
    let events := if panicked then [.notice .managerPanicked] else []
    some { state, activity := .idle, events }
  | _, _ => none

end LongPoll.Channel
