import LongPoll.Proofs.Soundness

set_option autoImplicit false

/-!
The exchanges of a run and its workers, counted from its events. What has been sent and not been
answered is what the worker is at, so that the invariant of the poll state bounds what can be in
flight.
-/

namespace LongPoll.Channel

variable {setup : Setup}

def Event.sentCycle? : Event → Option Nat
  | .send capture _ => some capture.cycle
  | _ => none

/-- The cycle whose request has been sent and not been answered. -/
def Activity.openCycles : Activity → List Nat
  | .sending capture _ => [capture.cycle]
  | _ => []

/-- The cycle for which the HTTP client comes back, with a response or not. -/
def answeredCycles : Activity → Action → List Nat
  | .sending capture _, .work (.answered _) => [capture.cycle]
  | _, _ => []

namespace Step

def sentCycles (step : Step setup) : List Nat := step.events.filterMap Event.sentCycle?

def answeredCycles (step : Step setup) : List Nat :=
  Channel.answeredCycles step.before.activity step.action

end Step

theorem sentCycle?_rescheduleNotices (unposted : Option Fault) :
    (rescheduleNotices unposted).filterMap Event.sentCycle? = [] := by
  cases unposted <;> rfl

theorem answeredCycles_of_call {activity : Activity} {action : Action}
    (called : ∀ move, action ≠ .work move) : Channel.answeredCycles activity action = [] := by
  unfold Channel.answeredCycles
  split
  · exact absurd rfl (called _)
  · rfl

/-- A turn of the worker opens what it sends and closes what is answered. -/
theorem Turn.openCycles {managerAlive : Bool} {state next : State} {activity after : Activity}
    {move : Move} {events : List Event}
    (turn : Turn setup managerAlive state activity move next after events) :
    activity.openCycles ++ events.filterMap Event.sentCycle? =
      Channel.answeredCycles activity (.work move) ++ after.openCycles := by
  cases turn with
  | proceed proceeds => cases proceeds <;> rfl
  | settle settles => cases settles <;> rfl
  | drop hit rescheduled => exact sentCycle?_rescheduleNotices _
  | finish rescheduled => exact sentCycle?_rescheduleNotices _
  | cancel failed hit rescheduled =>
      rcases Activity.of_failure? failed with rfl | rfl
      · exact sentCycle?_rescheduleNotices _
      · exact sentCycle?_rescheduleNotices _
  | fail failed unhit =>
      rcases Activity.of_failure? failed with rfl | rfl
      · cases managerAlive <;> rfl
      · cases managerAlive <;> rfl
  | reported => split <;> rfl
  | _ => rfl

/-- Outside an exchange the worker sends nothing. -/
theorem Turn.sentCycles {managerAlive : Bool} {state next : State} {activity after : Activity}
    {move : Move} {events : List Event}
    (turn : Turn setup managerAlive state activity move next after events)
    (settled : activity.exchanging? = none) : events.filterMap Event.sentCycle? = [] := by
  cases turn with
  | proceed proceeds =>
      cases proceeds with
      | send => cases settled
      | _ => rfl
  | settle settles => cases settles <;> rfl
  | drop hit rescheduled | finish rescheduled | cancel failed hit rescheduled =>
      exact sentCycle?_rescheduleNotices _
  | fail failed unhit => cases managerAlive <;> rfl
  | reported => split <;> rfl
  | _ => rfl

theorem Advances.sentCycles {chance : Chance} {state next : State} {call after : Call}
    {events : List Event} (advances : Advances setup chance state call next after events) :
    events.filterMap Event.sentCycle? = [] := by
  cases advances with
  | start sections started => split <;> rfl
  | stopWaiting sections busy outside => split <;> rfl
  | stopPassing sections free => split <;> rfl
  | _ => rfl

theorem Happening.openCycles {before after : World} {action : Action} {events : List Event}
    (happening : Happening setup before action after events) :
    before.activity.openCycles ++ events.filterMap Event.sentCycle? =
      Channel.answeredCycles before.activity action ++ after.activity.openCycles := by
  cases happening with
  | work free turn => exact turn.openCycles
  | advance found advances =>
      rw [advances.sentCycles, answeredCycles_of_call (by intro move same; cases same)]
      exact List.append_nil _
  | _ =>
      rw [answeredCycles_of_call (by intro move same; cases same)]
      exact List.append_nil _

theorem Happening.sentCycles {before after : World} {action : Action} {events : List Event}
    (happening : Happening setup before action after events)
    (settled : before.activity.exchanging? = none) : events.filterMap Event.sentCycle? = [] := by
  cases happening with
  | work free turn => exact turn.sentCycles settled
  | advance found advances => exact advances.sentCycles
  | _ => rfl

theorem Step.sentCycles_eq_nil {step : Step setup} (sound : step.before.Sound)
    (quiet : step.before.state.inProgress = false) : step.sentCycles = [] := by
  have settled : step.before.activity.exchanging? = none := by
    rw [sound.consistent.position] at quiet
    exact Option.isSome_eq_false_iff.mp quiet |> Option.isNone_iff_eq_none.mp
  exact step.happening.sentCycles settled

/-- How many workers a channel in the state can have had. -/
def State.workers (state : State) : Nat := if state.worker = .unstarted then 0 else 1

theorem State.workers_of_not_unstarted {state : State} (created : state.worker ≠ .unstarted) :
    state.workers = 1 :=
  if_neg created

theorem Turn.not_spawned {managerAlive : Bool} {state next : State} {activity after : Activity}
    {move : Move} {events : List Event}
    (turn : Turn setup managerAlive state activity move next after events) :
    Event.spawned ∉ events := by
  cases turn with
  | proceed proceeds => cases proceeds <;> simp
  | settle settles => cases settles <;> simp
  | drop hit rescheduled | finish rescheduled | cancel failed hit rescheduled =>
      rename_i unposted
      cases unposted <;> simp [rescheduleNotices]
  | fail failed unhit => cases managerAlive <;> simp
  | reported => split <;> simp
  | _ => simp

theorem Advances.spawns_le {chance : Chance} {state next : State} {call after : Call}
    {events : List Event} (advances : Advances setup chance state call next after events) :
    state.workers + events.count .spawned ≤ next.workers := by
  cases advances with
  | start sections started =>
      by_cases spawns : state.worker = .unstarted ∧ chance.spawnFault = none
      · obtain ⟨first, possible⟩ := spawns
        have none_before : state.workers = 0 := if_pos first
        rw [if_pos ⟨first, possible⟩, none_before,
          State.workers_of_not_unstarted (started.equipped possible)]
        exact Nat.le_refl _
      · rw [if_neg spawns]
        rcases started.worker with same | ⟨first, created⟩
        · unfold State.workers
          rw [same]
          exact Nat.le_refl _
        · have none_before : state.workers = 0 := if_pos first
          rw [none_before]
          exact Nat.zero_le _
  | stopWaiting sections busy outside => split <;> exact Nat.le_refl _
  | stopPassing sections free => split <;> exact Nat.le_refl _
  | retire sections leaves =>
      have one : State.workers { state with worker := .retired } = 1 :=
        State.workers_of_not_unstarted (by intro impossible; cases impossible)
      rw [one]
      unfold State.workers
      split <;> decide
  | _ => exact Nat.le_refl _

theorem Happening.spawns_le {before after : World} {action : Action} {events : List Event}
    (happening : Happening setup before action after events) :
    before.state.workers + events.count .spawned ≤ after.state.workers := by
  cases happening with
  | work free turn =>
      rw [List.count_eq_zero.mpr turn.not_spawned]
      unfold State.workers
      rw [turn.worker]
      exact Nat.le_refl _
  | advance found advances => exact advances.spawns_le
  | _ => exact Nat.le_refl _

namespace Consistent

variable {state : State} {activity : Activity}

theorem inProgress_iff (consistent : Consistent state activity) :
    state.inProgress = true ↔ ∃ capture,
      activity.exchanging? = some capture ∧ capture.cycle = state.cycleSeq := by
  rw [consistent.position]
  constructor
  · intro within
    obtain ⟨capture, exchanging⟩ := Option.isSome_iff_exists.mp within
    exact ⟨capture, exchanging,
      consistent.current capture (Activity.capture?_of_exchanging? exchanging)⟩
  · rintro ⟨capture, exchanging, _⟩
    rw [exchanging]
    rfl

theorem openCycles (consistent : Consistent state activity) :
    activity.openCycles = if activity.isExchange then [state.cycleSeq] else [] := by
  cases activity with
  | sending capture request =>
      have current : capture.cycle = state.cycleSeq := consistent.current capture rfl
      change [capture.cycle] = [state.cycleSeq]
      rw [current]
  | _ => rfl

end Consistent

namespace Run

variable {start finish : World} {steps : List (Step setup)}

/-- What has been sent along a run has been answered or is open at its end. -/
theorem openCycles (run : Run setup start steps finish) :
    start.activity.openCycles ++ steps.flatMap Step.sentCycles =
      steps.flatMap Step.answeredCycles ++ finish.activity.openCycles := by
  induction run with
  | nil world => exact List.append_nil _
  | cons step tail ih =>
      have opened : step.before.activity.openCycles ++ step.sentCycles =
          step.answeredCycles ++ step.after.activity.openCycles := step.happening.openCycles
      rw [List.flatMap_cons, List.flatMap_cons, ← List.append_assoc, opened, List.append_assoc, ih,
        List.append_assoc]

theorem spawns_le (run : Run setup start steps finish) :
    start.state.workers + (steps.flatMap Step.events).count .spawned ≤ finish.state.workers := by
  induction run with
  | nil world => exact Nat.le_refl _
  | cons step tail ih =>
      have first := step.happening.spawns_le
      rw [List.flatMap_cons, List.count_append]
      omega

/-- In every state that a channel comes to, whatever its callers and its collaborators do: it has
had one worker at most; one cycle is posted or none, as the flag says, and none while another is in
progress; the other flag is set from the first section of a cycle to the one that clears it; a stop
that hit the cycle in progress can be told from its epoch; and nothing is in flight but the request
of that cycle, once. -/
theorem pollState_invariant {multiplexer : Option Multiplexer}
    {demultiplexer : Option Demultiplexer} {managerAlive : Bool}
    (run : Run setup (.new multiplexer demultiplexer managerAlive) steps finish) :
    (steps.flatMap Step.events).count .spawned ≤ 1 ∧
    finish.pendingPolls = (if finish.state.taskPosted then 1 else 0) ∧
    ¬ (finish.state.inProgress = true ∧ finish.state.taskPosted = true) ∧
    (finish.state.inProgress = true ↔ ∃ capture,
      finish.activity.exchanging? = some capture ∧ capture.cycle = finish.state.cycleSeq) ∧
    (∀ capture, finish.activity.exchanging? = some capture → finish.state.stopped = true →
      capture.abortEpoch < finish.state.abortRequests) ∧
    steps.flatMap Step.sentCycles = steps.flatMap Step.answeredCycles ++
      (if finish.activity.isExchange then [finish.state.cycleSeq] else []) := by
  have consistent := (run.sound (.new multiplexer demultiplexer managerAlive)).consistent
  refine ⟨?_, consistent.pending, ?_, ?_, consistent.hit, ?_⟩
  · have bound := run.spawns_le
    have one : finish.state.workers ≤ 1 := by
      unfold State.workers
      split <;> decide
    omega
  · rintro ⟨busy, posted⟩
    rw [consistent.exclusive busy] at posted
    cases posted
  · exact consistent.inProgress_iff
  · rw [← consistent.openCycles]
    exact run.openCycles

/-- The first request to a server, while it is in flight. -/
theorem pollState_invariant_sending : ∃ steps finish,
    Run Trial.client Trial.channel steps finish ∧ finish.activity.isExchange = true ∧
      finish.pendingPolls = 0 ∧
      steps.flatMap Step.sentCycles = steps.flatMap Step.answeredCycles ++ [1] := by
  have seen : (Trial.channel.record? Trial.client
      (Trial.bind 0 1 ++ Trial.begin ++ Trial.send)).map
        (fun record => (record.2.activity.isExchange, record.2.state.cycleSeq,
          record.2.state.taskPosted)) = some (true, 1, false) := by
    decide +kernel
  obtain ⟨⟨steps, finish⟩, recorded, shape⟩ := Option.map_eq_some_iff.mp seen
  have run := Run.of_record recorded
  obtain ⟨_, pending, _, _, _, sent⟩ := pollState_invariant run
  obtain ⟨sending, rest⟩ := Prod.mk.inj shape
  obtain ⟨cycle, posted⟩ := Prod.mk.inj rest
  refine ⟨steps, finish, run, sending, ?_, ?_⟩
  · rw [pending, show finish.state.taskPosted = false from posted]
    rfl
  · rw [sent, show finish.activity.isExchange = true from sending,
      show finish.state.cycleSeq = 1 from cycle]
    rfl

end Run

end LongPoll.Channel
