import LongPoll.Rehearsal.Stage

set_option autoImplicit false

/-!
Rehearsals: steps carried out one after another, each played until nothing moves. A rehearsal ends
without reports if that leaves the worker waiting for itself.
-/

namespace LongPoll.Rehearsal

open Channel

/-- What can be read off a channel after a step. -/
structure View where
  phase : Phase
  running : Bool
  server : Option String

structure Report where
  answer : Answer
  sights : List Sight
  /-- Where the worker is held. -/
  gate : Option Role
  /-- Calls of earlier steps that have returned now. -/
  returned : List (Nat × Except Fault Unit)
  /-- Steps whose calls have not returned. -/
  pending : List Nat
  /-- None once the channel has been dropped. -/
  view : Option View

/-- The number of a step after which the channel has not settled. -/
structure Unsettled where
  step : Nat
deriving DecidableEq, Repr

def Unsettled.message (fault : Unsettled) : String :=
  s!"step {fault.step}: channel did not settle"

/-- A stage and the calls that have not returned, each with its step. -/
structure Run where
  stage : Stage
  pending : List (Nat × Nat) := []
  /-- How many steps have been carried out. -/
  count : Nat := 0

structure Cast where
  config : Config
  keys : ClientKeys
  hasManager : Bool := true
  multiplexer : Option Adapter := none
  demultiplexer : Option Adapter := none
  http : List Entry := []
  manager : List Entry := []

namespace Stage

def release (stage : Stage) (reply : Option Reply) : Stage × Answer :=
  match stage.part with
  | none => (stage, .noGate)
  | some part =>
    if !part.held then (stage, .noGate)
    else
      let entry := match reply with
        | some reply => { part.entry with reply }
        | none => part.entry
      let part := { part with held := false, entry, deeds := entry.deeds part.role }
      ({ stage with part := some part }, .released part.role)

/-- Carries out a step before anything is played. -/
def carryOut (stage : Stage) : Step → Stage × Except Answer Nat
  | .ask ask => stage.ask false ask
  | .release reply =>
    let (stage, answer) := stage.release reply
    (stage, .error answer)
  | .push http manager =>
    ({ stage with http := stage.http ++ http, manager := stage.manager ++ manager },
      .error (.returned (.ok ())))
  | .dropManager => ((stage.perform? .dropManager).getD stage, .error (.returned (.ok ())))
  | .drop =>
    let (stage, call) := stage.invoke .shutdown false
    ({ stage with dropped := true }, call)

def view (stage : Stage) : View where
  phase := stage.world.state.phase
  running := !stage.world.state.stopped
  server := stage.world.state.server.map fun server => server.url.text

end Stage

namespace Run

def start (cast : Cast) : Run where
  stage := {
    setup := { config := cast.config, keys := cast.keys }
    world := .new (cast.multiplexer.map fun _ => { tag := 0 })
      (cast.demultiplexer.map fun _ => { tag := 0 }) cast.hasManager
    multiplexers := cast.multiplexer.toList
    demultiplexers := cast.demultiplexer.toList
    http := cast.http
    manager := cast.manager }

/-- What there is to report once a step has been played. -/
def report (run : Run) (stage : Stage) (call : Except Answer Nat) : Run × Report :=
  let returned := run.pending.filterMap fun (number, call) =>
    (stage.result? call).map fun result => (number, result)
  let waiting := run.pending.filter fun (_, call) => (stage.result? call).isNone
  let (answer, pending) := match call with
    | .error answer => (answer, waiting)
    | .ok call =>
      match stage.result? call with
      | some result => (Answer.returned result, waiting)
      | none => (Answer.pending, waiting ++ [(run.count, call)])
  let gate := stage.part.bind fun part => if part.held then some part.role else none
  ({ stage, pending, count := run.count + 1 },
    { answer, sights := stage.sights, gate, returned, pending := pending.map (·.1),
      view := if stage.dropped then none else some stage.view })

/-- Carries out a step and plays until nothing moves. -/
def step (run : Run) (step : Step) : Except Unsettled (Run × Report) :=
  let (stage, call) := { run.stage with sights := [] }.carryOut step
  let stage := stage.play
  if stage.isSettled then .ok (run.report stage call) else .error { step := run.count }

/-- Carries out all steps; the reports are in their order. -/
def through : Run → List Step → Except Unsettled (Run × List Report)
  | run, [] => .ok (run, [])
  | run, first :: rest => do
    let (next, report) ← run.step first
    let (last, reports) ← through next rest
    pure (last, report :: reports)

end Run
end LongPoll.Rehearsal
