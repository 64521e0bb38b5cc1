import LongPoll.Channel.Cycle

set_option autoImplicit false

/-!
A channel with its worker and all calls made of it. An action is one section of a call or one step
of the worker, so that the runs of actions are the interleavings of any number of threads.
-/

namespace LongPoll.Channel

structure World where
  state : State := {}
  activity : Activity := .idle
  /-- Every call ever made, in the order of making. -/
  calls : List Call := []
  /-- There is a manager to be told of failures. -/
  managerAlive : Bool := false

inductive Action
  /-- A thread makes a call; a collaborator makes it on the thread of the worker. -/
  | invoke (operation : Operation) (draw : Draw) (onWorker : Bool)
  | advance (call : Nat) (chance : Chance := {})
  /-- A stop has waited long enough to ask for the abort again. -/
  | repeatAbort (call : Nat) (closePanics : Bool := false)
  | dropManager
  | work (move : Move)

namespace World

/-- A channel as it is made: idle, with no server bound. -/
def new (multiplexer : Option Multiplexer) (demultiplexer : Option Demultiplexer)
    (managerAlive : Bool) : World :=
  { state := { multiplexer, demultiplexer }, managerAlive }

/-- Whether a call made on the thread of the worker is not over. -/
def workerIsBusy (world : World) : Bool :=
  world.calls.any fun call => call.onWorker && !call.isOver

/-- The world after an action and the events of the action; none if the action cannot happen. The
worker goes on only after the calls on its own thread are over. -/
def act? (setup : Setup) (world : World) : Action → Option (World × List Event)
  | .invoke operation draw onWorker =>
    if onWorker && (!world.activity.inCollaborator || world.workerIsBusy) then none
    else
      let call := Call.make setup draw operation onWorker
      some ({ world with calls := world.calls ++ [call] }, [])
  | .advance index chance =>
    match world.calls[index]? with
    | none => none
    | some call =>
      match call.advance? setup world.state chance with
      | none => none
      | some next =>
        some ({ world with state := next.state, calls := world.calls.set index next.call },
          next.events)
  | .repeatAbort index closePanics =>
    match world.calls[index]? with
    | none => none
    | some call =>
      match call.repeats? world.state with
      | none => none
      | some cycle =>
        let calls := if closePanics then world.calls.set index call.panic else world.calls
        some ({ world with calls }, [.close cycle true])
  | .dropManager => some ({ world with managerAlive := false }, [])
  | .work move =>
    if world.workerIsBusy then none
    else match work? setup world.managerAlive world.state world.activity move with
      | none => none
      | some progress =>
        some ({ world with state := progress.state, activity := progress.activity },
          progress.events)

end World
end LongPoll.Channel
