import LongPoll.Channel.World
import LongPoll.Rehearsal.Sight

set_option autoImplicit false

/-!
A channel among scripted collaborators. The stage chooses the next action of the channel: a call
that can go on does so before the worker, and the worker goes on unless its collaborator is held.
-/

namespace LongPoll.Rehearsal

open Channel

structure Stage where
  setup : Setup
  world : World
  entropy : Entropy := .counting
  /-- The adapters by their tags. -/
  multiplexers : List Adapter := []
  demultiplexers : List Adapter := []
  http : List Entry := []
  manager : List Entry := []
  /-- The private key of the server last set at each URL. -/
  secrets : List (String × Key) := []
  part : Option Part := none
  /-- What has been seen during the step. -/
  sights : List Sight := []
  dropped : Bool := false
  maxInFlight : Nat := 0

namespace Stage

def see (stage : Stage) (sight : Sight) : Stage :=
  { stage with sights := stage.sights ++ [sight] }

/-- The next entry of a script, and the script after it. -/
def nextEntry (default : Entry) : List Entry → Entry × List Entry
  | [] => (default, [])
  | entry :: rest => (entry, rest)

/-- The next entry of the adapter of a tag, and the adapters after it. -/
def nextOf (adapters : List Adapter) (tag : Nat) : String × Entry × List Adapter :=
  match adapters[tag]? with
  | none => ("", .plain, adapters)
  | some adapter =>
    let (entry, script) := nextEntry .plain adapter.script
    (adapter.id, entry, adapters.set tag { adapter with script })

def secretAt (stage : Stage) (url : String) : Key :=
  ((stage.secrets.find? fun entry => entry.1 = url).map (·.2)).getD ServerSketch.defaultSecret

/-- An abort reaches the HTTP client: it ends an exchange that is held, unless that ignores it. -/
def close (stage : Stage) : Stage :=
  match stage.part with
  | none => stage.see (.close .nothing)
  | some part =>
    if part.role ≠ .http ∨ !part.held then stage.see (.close .nothing)
    else match part.entry.ignoredCloses with
      | none => stage.see (.close .ignored)
      | some (count + 1) =>
        let entry := { part.entry with ignoredCloses := some count }
        { stage with part := some { part with entry } }.see (.close .ignored)
      | some 0 =>
        let deeds := [.finish (.failed .aborted)]
        { stage with part := some { part with held := false, deeds } }.see (.close .aborted)

/-- Shows an event to the collaborator that it concerns. -/
def absorb (stage : Stage) : Event → Stage
  | .spawned => stage
  | .notice entry => stage.see (.notice entry)
  | .close _ _ => stage.close
  | .compile capture =>
    let (id, entry, multiplexers) := nextOf stage.multiplexers capture.multiplexer.tag
    { stage with multiplexers, part := some (.begin .multiplexer id entry) }.see
      (.compile id stage.setup.config.supportedTypes.size)
  | .send _ request =>
    let peer := peerOf (stage.secretAt request.url.text) request
    let (entry, http) := nextEntry .held stage.http
    { stage with http, part := some { Part.begin .http "" entry with peer } }.see
      (.send (describe stage.setup.keys.signingPublic peer request))
  | .process capture payload =>
    let (id, entry, demultiplexers) := nextOf stage.demultiplexers capture.demultiplexer.tag
    { stage with demultiplexers, part := some (.begin .demultiplexer id entry) }.see
      (.process id payload)
  | .serverFailed capture =>
    let (entry, manager) := nextEntry .plain stage.manager
    { stage with manager, part := some (.begin .manager "" entry) }.see
      (.serverFailed (ServerDescription.poll capture.server).display)

/-- Lets an action happen, if it can. -/
def perform? (stage : Stage) (action : Action) : Option Stage :=
  match stage.world.act? stage.setup action with
  | none => none
  | some (world, events) =>
    let inFlight := if world.activity.isExchange then 1 else 0
    some (events.foldl absorb
      { stage with world, maxInFlight := max stage.maxInFlight inFlight })

/-- Makes a call; its number, or the answer if there is no call to wait for. -/
def invoke (stage : Stage) (operation : Operation) (onWorker : Bool) : Stage × Except Answer Nat :=
  if stage.dropped then (stage, .error .gone)
  else
    let (sessionKey, entropy) := stage.entropy.drawKey
    let (nonce, entropy) := entropy.drawNonce
    let number := stage.world.calls.length
    match { stage with entropy }.perform? (.invoke operation { sessionKey, nonce } onWorker) with
    | none => (stage, .error .pending)
    | some stage => (stage, .ok number)

/-- Asks something of the channel. The server at a URL gets its private key even if the channel
then rejects it. -/
def ask (stage : Stage) (onWorker : Bool) : Ask → Stage × Except Answer Nat
  | .start => stage.invoke .start onWorker
  | .stop => stage.invoke .stop onWorker
  | .sync type => stage.invoke (.sync type) onWorker
  | .syncAll => stage.invoke .syncAll onWorker
  | .shutdown => stage.invoke .shutdown onWorker
  | .phase =>
    (stage, .error (if stage.dropped then .gone else .phase stage.world.state.phase))
  | .setMultiplexer adapter =>
    let tag := stage.multiplexers.length
    { stage with multiplexers := stage.multiplexers ++ [adapter] }.invoke
      (.setMultiplexer { tag }) onWorker
  | .setDemultiplexer adapter =>
    let tag := stage.demultiplexers.length
    { stage with demultiplexers := stage.demultiplexers ++ [adapter] }.invoke
      (.setDemultiplexer { tag }) onWorker
  | .setServer sketch =>
    match sketch.describe with
    | .error (.url fault) => (stage, .error (.urlRejected fault))
    | .error (.server fault) => (stage, .error (.returned (.error fault)))
    | .ok description =>
      let secrets := match description.poll? with
        | some server => (server.url.text, sketch.privateKey) :: stage.secrets
        | none => stage.secrets
      { stage with secrets }.invoke (.setServer description) onWorker

/-- The result of a call that has returned. -/
def result? (stage : Stage) (number : Nat) : Option (Except Fault Unit) :=
  match stage.world.calls[number]? with
  | some call => if call.hasReturned then some call.result else none
  | none => none

/-- The step of the worker outside its collaborators. -/
def ownMove? : Activity → Option Move
  | .idle => some .take
  | .taken => some .begin
  | .built .. => some .check
  | .cleared .. => some .send
  | .answered .. => some .settle
  | .delivered _ => some .finish
  | .failing .. | .undelivered .. => some .fail
  | _ => none

/-- The collaborator on the thread of the worker goes on. -/
def playPart? (stage : Stage) (part : Part) : Option Stage :=
  if part.held then none
  else match part.calling with
    | some (name, number) =>
      match stage.result? number with
      | some result =>
        some ({ stage with part := some { part with calling := none } }.see
          (.asked name (.returned result)))
      | none => stage.perform? (.advance number)
    | none =>
      match part.deeds with
      | [] => none
      | .ask ask :: rest =>
        let part := { part with deeds := rest }
        match stage.ask true ask with
        | (stage, .error answer) =>
          some ({ stage with part := some part }.see (.asked ask.name answer))
        | (stage, .ok number) =>
          some { stage with part := some { part with calling := some (ask.name, number) } }
      | .finish ending :: _ =>
        let (nonce, entropy) := stage.entropy.drawNonce
        { stage with entropy, part := none }.perform? (.work (part.lastMove ending nonce))

def playWorker? (stage : Stage) : Option Stage :=
  match stage.part with
  | some part => stage.playPart? part
  | none => (ownMove? stage.world.activity).bind fun move => stage.perform? (.work move)

/-- The first call of another thread that can go on does. -/
def playCalls? (stage : Stage) : Option Stage :=
  stage.world.calls.zipIdx.findSome? fun (call, number) =>
    if call.onWorker || call.hasReturned then none else stage.perform? (.advance number)

/-- How long an abort may take to be repeated within a step, in milliseconds. -/
def patience : Nat := 60000

/-- A waiting stop repeats its abort, if the exchange will give way in the end. -/
def playAbort? (stage : Stage) : Option Stage :=
  match stage.part with
  | none => none
  | some part =>
    if part.role = .http ∧ part.held ∧ part.entry.ignoredCloses.isSome
        ∧ stage.setup.config.abortRetryMs.toNat < patience then
      stage.world.calls.zipIdx.findSome? fun (call, number) =>
        if call.onWorker then none else stage.perform? (.repeatAbort number)
    else none

/-- The worker is between two cycles, with the next one posted. -/
def betweenCycles (stage : Stage) : Bool :=
  match stage.world.activity with
  | .idle => stage.world.state.queue.jobs.head? = some .poll
  | .taken => true
  | _ => false

/-- Calls of other threads go on before the worker does, which is quicker than a call that has to
wake up only from one cycle to the next. -/
def play? (stage : Stage) : Option Stage :=
  if stage.betweenCycles then
    stage.playWorker? <|> stage.playCalls?
  else
    stage.playCalls? <|> stage.playWorker? <|> stage.playAbort?

/-- Plays on until nothing moves, for a number of actions at most. -/
def playUpTo : Nat → Stage → Stage
  | 0, stage => stage
  | actions + 1, stage =>
    match stage.play? with
    | none => stage
    | some next => playUpTo actions next

/-- More actions than there are between two steps: every cycle that does not wait for a release
uses up an entry of the script of the HTTP client. -/
def playLimit : Nat := 1000000

def play (stage : Stage) : Stage := stage.playUpTo playLimit

/-- Whether the worker is held or has nothing to do. A worker whose own call waits is neither: the
call waits for the cycle that the worker is in. -/
def isSettled (stage : Stage) : Bool :=
  match stage.part with
  | none => true
  | some part => part.held

end Stage
end LongPoll.Rehearsal
