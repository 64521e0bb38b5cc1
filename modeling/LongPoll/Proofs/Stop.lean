import LongPoll.Proofs.Calls
import LongPoll.Proofs.Exchange
import LongPoll.Proofs.History

set_option autoImplicit false

/-!
What a stop promises once it has returned. It lets go of the lock while it waits, so that other
stops, starts and cycles come in between; the number of the cycle that it found in progress is what
it goes by. That number is never in progress again, and without a start nothing else is.
-/

namespace LongPoll.Channel

variable {setup : Setup}

/-! ### The wait -/

def Section.isStop : Section → Bool
  | .stop | .await _ => true
  | _ => false

/-- Whether a call has no stop ahead of it that it has to wait for. -/
def Call.hasStopped (call : Call) : Bool :=
  !call.panicked && call.sections.all (!·.isStop)

theorem State.awaits_iff {state : State} {cycle : Nat} :
    state.awaits cycle = true ↔ state.inProgress = true ∧ state.cycleSeq = cycle := by
  simp [State.awaits]

/-- The cycle in progress is the last one that has begun. -/
theorem State.awaits_cycleSeq (state : State) :
    state.awaits state.cycleSeq = state.inProgress := by
  simp [State.awaits]

theorem Advances.awaits {cycle : Nat} {chance : Chance} {state next : State}
    {call after : Call} {events : List Event}
    (advances : Advances setup chance state call next after events) :
    next.awaits cycle = state.awaits cycle := by
  unfold State.awaits
  rw [advances.inProgress, advances.cycleSeq]

/-- A cycle that has begun and is no longer in progress never is again. -/
theorem Turn.awaits {managerAlive : Bool} {state next : State} {activity after : Activity}
    {move : Move} {events : List Event} {cycle : Nat}
    (turn : Turn setup managerAlive state activity move next after events)
    (begun : cycle ≤ state.cycleSeq) (past : state.awaits cycle = false) :
    next.awaits cycle = false := by
  cases turn with
  | begin running captured =>
      have later : state.cycleSeq + 1 ≠ cycle := by omega
      simp [State.awaits, later]
  | settle settles => rfl
  | drop hit rescheduled =>
      unfold State.awaits
      rw [rescheduled.inProgress]
      rfl
  | finish rescheduled =>
      unfold State.awaits
      rw [rescheduled.inProgress, rescheduled.cycleSeq]
      exact past
  | cancel failed hit rescheduled =>
      unfold State.awaits
      rw [rescheduled.inProgress]
      rfl
  | fail failed unhit => rfl
  | _ => exact past

theorem Happening.awaits {before after : World} {action : Action} {events : List Event}
    {cycle : Nat} (happening : Happening setup before action after events)
    (begun : cycle ≤ before.state.cycleSeq) (past : before.state.awaits cycle = false) :
    after.state.awaits cycle = false := by
  cases happening with
  | work free turn => exact turn.awaits begun past
  | advance found advances => exact advances.awaits.trans past
  | _ => exact past

theorem Run.awaits {start finish : World} {steps : List (Step setup)} {cycle : Nat}
    (run : Run setup start steps finish) (begun : cycle ≤ start.state.cycleSeq)
    (past : start.state.awaits cycle = false) : finish.state.awaits cycle = false := by
  induction run with
  | nil world => exact past
  | cons step tail ih =>
      apply ih
      · exact Nat.le_trans begun step.happening.cycleSeq_le
      · exact step.happening.awaits begun past

theorem Run.quiet {start finish : World} {steps : List (Step setup)}
    (run : Run setup start steps finish)
    (same : finish.state.cycleSeq = start.state.cycleSeq)
    (quiet : start.state.inProgress = false) : finish.state.inProgress = false := by
  have past : start.state.awaits start.state.cycleSeq = false := by
    rw [State.awaits_cycleSeq, quiet]
  have never := run.awaits (Nat.le_refl _) past
  rw [← same, State.awaits_cycleSeq] at never
  exact never

/-- What a cycle has sent has been answered once its exchange is over. -/
theorem Run.answered {start finish : World} {steps : List (Step setup)} {cycle : Nat}
    (run : Run setup start steps finish) (unsent : start.activity.openCycles = [])
    (past : ∀ capture, finish.activity.exchanging? = some capture → capture.cycle ≠ cycle) :
    (steps.flatMap Step.sentCycles).count cycle =
      (steps.flatMap Step.answeredCycles).count cycle := by
  have settled : finish.activity.openCycles.count cycle = 0 := by
    apply List.count_eq_zero.mpr
    intro member
    cases at_work : finish.activity with
    | sending capture request =>
        rw [at_work] at member
        exact past capture (by rw [at_work]; rfl) (List.mem_singleton.mp member).symm
    | _ =>
        rw [at_work] at member
        cases member
  have balance := run.openCycles
  rw [unsent, List.nil_append] at balance
  rw [balance, List.count_append, settled, Nat.add_zero]

/-! ### A stopped channel -/

theorem Turn.stopped {managerAlive : Bool} {state next : State} {activity after : Activity}
    {move : Move} {events : List Event}
    (turn : Turn setup managerAlive state activity move next after events)
    (stopped : state.stopped = true) :
    next.stopped = true ∧ next.cycleSeq = state.cycleSeq := by
  cases turn with
  | begin running captured =>
      rw [stopped] at running
      cases running
  | misconfigure running missing => exact ⟨rfl, rfl⟩
  | drop hit rescheduled => exact ⟨rescheduled.stopped stopped, rescheduled.cycleSeq⟩
  | finish rescheduled => exact ⟨rescheduled.stopped stopped, rescheduled.cycleSeq⟩
  | cancel failed hit rescheduled =>
      exact ⟨rescheduled.stopped stopped, rescheduled.cycleSeq⟩
  | fail failed unhit => exact ⟨rfl, rfl⟩
  | _ => exact ⟨stopped, rfl⟩

theorem Advances.stopped {chance : Chance} {state next : State} {call after : Call}
    {events : List Event} (advances : Advances setup chance state call next after events)
    (unstarted : ∀ rest, call.sections ≠ .start :: rest) (stopped : state.stopped = true) :
    next.stopped = true := by
  cases advances with
  | start sections started => exact absurd sections (unstarted _)
  | stopPanicking | stopWaiting | stopPassing => rfl
  | _ => exact stopped

theorem Happening.stopped {before after : World} {action : Action} {events : List Event}
    (happening : Happening setup before action after events)
    (stopped : before.state.stopped = true)
    (unstarted : ∀ index chance call rest, action = .advance index chance →
      before.calls[index]? = some call → call.sections ≠ .start :: rest) :
    after.state.stopped = true ∧ after.state.cycleSeq = before.state.cycleSeq := by
  cases happening with
  | work free turn => exact turn.stopped stopped
  | advance found advances =>
      refine ⟨advances.stopped ?_ stopped, advances.cycleSeq⟩
      intro rest
      exact unstarted _ _ _ rest rfl found
  | _ => exact ⟨stopped, rfl⟩

/-- Nothing but a start turns a channel on, and none of its cycles begin before. -/
theorem Step.stopped {step : Step setup} (unstarted : ¬ step.Runs .start)
    (stopped : step.before.state.stopped = true) :
    step.after.state.stopped = true ∧
      step.after.state.cycleSeq = step.before.state.cycleSeq := by
  apply step.happening.stopped stopped
  intro index chance call rest action found sections
  exact unstarted ⟨index, chance, call, rest, action, found, sections⟩

theorem Run.stopped {start finish : World} {steps : List (Step setup)}
    (run : Run setup start steps finish) (unstarted : ∀ step ∈ steps, ¬ step.Runs .start)
    (stopped : start.state.stopped = true) :
    finish.state.stopped = true ∧ finish.state.cycleSeq = start.state.cycleSeq := by
  apply run.keeps (fun world => world.state.stopped = true ∧
    world.state.cycleSeq = start.state.cycleSeq) ⟨stopped, rfl⟩
  rintro step member ⟨still, same⟩
  obtain ⟨after, kept⟩ := Step.stopped (unstarted step member) still
  exact ⟨after, kept.trans same⟩

theorem Run.stopped_at {start finish : World} {steps : List (Step setup)}
    (run : Run setup start steps finish) (unstarted : ∀ step ∈ steps, ¬ step.Runs .start)
    (stopped : start.state.stopped = true) : ∀ step ∈ steps, step.before.state.stopped = true := by
  intro step member
  refine (run.keeps_at (fun world => world.state.stopped = true) stopped ?_ step member).1
  intro other present still
  exact (Step.stopped (unstarted other present) still).1

/-- Once a stopped channel has no cycle in progress, nothing is sent until the next start. -/
theorem Run.silent {start finish : World} {steps : List (Step setup)}
    (run : Run setup start steps finish) (sound : start.Sound)
    (unstarted : ∀ step ∈ steps, ¬ step.Runs .start) (stopped : start.state.stopped = true)
    (quiet : start.state.inProgress = false) : steps.flatMap Step.sentCycles = [] := by
  apply List.flatMap_eq_nil_iff.mpr
  intro step member
  have sound_before := (run.sound_at sound step member).1
  obtain ⟨first, last, rfl⟩ := List.append_of_mem member
  obtain ⟨earlier, _⟩ := run.cut
  obtain ⟨_, kept⟩ := earlier.stopped (fun other before =>
    unstarted other (List.mem_append_left _ before)) stopped
  apply Step.sentCycles_eq_nil sound_before
  exact earlier.quiet kept quiet

/-! ### The call that makes the stop -/

/-- How many stops a call has ahead of it or waits in. -/
def Call.stops (call : Call) : Nat := call.sections.countP Section.isStop

theorem Call.make_stops {draw : Draw} {operation : Operation} {onWorker : Bool} :
    (Call.make setup draw operation onWorker).stops ≤ 1 := by
  cases sections : (Call.make setup draw operation onWorker).sections with
  | nil =>
      unfold Call.stops
      rw [sections]
      exact Nat.zero_le _
  | cons first rest =>
      have ahead : first ∈ (Call.make setup draw operation onWorker).sections := by simp [sections]
      obtain ⟨_, made, planned⟩ := Call.make_planned ahead
      rw [made]
      cases planned with
      | start | setMultiplexer | setDemultiplexer => exact Nat.zero_le _
      | _ => exact Nat.le_refl _

theorem Advances.stops_le {chance : Chance} {state next : State} {call after : Call}
    {events : List Event} (advances : Advances setup chance state call next after events) :
    after.stops ≤ call.stops := by
  unfold Call.stops
  cases advances with
  | stopPanicking sections aborts panics => exact Nat.zero_le _
  | noServer sections unbound => exact Nat.zero_le _
  | stopWaiting sections busy outside =>
      rw [sections]
      exact Nat.le_refl _
  | @retire rest leaving sections leaves joins =>
      rw [sections, List.countP_append]
      have none_leaving : leaving.countP Section.isStop = 0 := by
        apply List.countP_eq_zero.mpr
        intro left member
        rcases leaves left member with rfl | rfl <;> decide
      rw [none_leaving, List.countP_cons]
      omega
  | start sections | stopPassing sections | await sections | serverFound sections
  | bind sections | setMultiplexer sections | setDemultiplexer sections | dismiss sections
  | join sections =>
      rw [sections, List.countP_cons]
      exact Nat.le_add_right _ _

theorem Happening.stops_le {before after : World} {action : Action} {events : List Event}
    (happening : Happening setup before action after events)
    (once : ∀ call ∈ before.calls, call.stops ≤ 1) : ∀ call ∈ after.calls, call.stops ≤ 1 := by
  refine happening.each_call once ?_ ?_ ?_
  · intro operation draw onWorker _
    exact Call.make_stops
  · intro call _
    exact Nat.zero_le _
  · intro index chance call next _ found advances
    exact Nat.le_trans advances.stops_le (once call (List.mem_of_getElem? found))

/-- A call makes one stop at most. -/
theorem Run.stops_le {multiplexer : Option Multiplexer} {demultiplexer : Option Demultiplexer}
    {managerAlive : Bool} {finish : World} {steps : List (Step setup)}
    (run : Run setup (.new multiplexer demultiplexer managerAlive) steps finish) :
    ∀ call ∈ finish.calls, call.stops ≤ 1 := by
  refine run.keeps (fun world => ∀ call ∈ world.calls, call.stops ≤ 1) ?_ ?_
  · intro call impossible
    cases impossible
  · intro step _ once
    exact step.happening.stops_le once

/-- How far the stop of a call has come that found the given cycle, in progress or not. -/
inductive Stopping (cycle : Nat) (busy : Bool) (state : State) (call : Call) : Prop
  | panicked (panicked : call.panicked = true) (ended : call.sections = [])
  | waiting {rest : List Section} (found : busy = true)
      (sections : call.sections = .await cycle :: rest)
      (last : rest.countP Section.isStop = 0)
  | passed (past : state.awaits cycle = false) (done : call.stops = 0)

theorem Stopping.advances {cycle : Nat} {busy : Bool} {chance : Chance} {state next : State}
    {call after : Call} {events : List Event} (stopping : Stopping cycle busy state call)
    (advances : Advances setup chance state call next after events) :
    Stopping cycle busy next after := by
  cases stopping with
  | panicked panicked ended => exact absurd ended advances.sections_ne_nil
  | waiting found sections last =>
      obtain ⟨past, rfl⟩ := advances.leaves sections
      exact .passed (advances.awaits.trans past) last
  | passed past done =>
      exact .passed (advances.awaits.trans past) (Nat.le_zero.mp (done ▸ advances.stops_le))

theorem Stopping.of_state {cycle : Nat} {busy : Bool} {state next : State} {call : Call}
    (stopping : Stopping cycle busy state call)
    (passes : state.awaits cycle = false → next.awaits cycle = false) :
    Stopping cycle busy next call := by
  cases stopping with
  | panicked panicked ended => exact .panicked panicked ended
  | waiting found sections last => exact .waiting found sections last
  | passed past done => exact .passed (passes past) done

theorem Happening.stopping {before after : World} {action : Action} {events : List Event}
    {cycle index : Nat} {busy : Bool} {call : Call}
    (happening : Happening setup before action after events)
    (begun : cycle ≤ before.state.cycleSeq) (found : before.calls[index]? = some call)
    (stopping : Stopping cycle busy before.state call) :
    ∃ next, after.calls[index]? = some next ∧ Stopping cycle busy after.state next := by
  have passes := happening.awaits begun
  rcases happening.changes found with kept | ⟨_, _, panics⟩ | ⟨chance, next, _, moved, advances⟩
  · exact ⟨call, kept, stopping.of_state passes⟩
  · exact ⟨call.panic, panics, .panicked rfl rfl⟩
  · exact ⟨next, moved, stopping.advances advances⟩

theorem Run.stopping {start finish : World} {steps : List (Step setup)} {cycle index : Nat}
    {busy : Bool} {call : Call} (run : Run setup start steps finish) (begun : cycle ≤ start.state.cycleSeq)
    (found : start.calls[index]? = some call) (stopping : Stopping cycle busy start.state call) :
    ∃ left, finish.calls[index]? = some left ∧ Stopping cycle busy finish.state left := by
  induction run generalizing call with
  | nil world => exact ⟨call, found, stopping⟩
  | cons step tail ih =>
      obtain ⟨next, kept, further⟩ := step.happening.stopping begun found stopping
      exact ih (Nat.le_trans begun step.happening.cycleSeq_le) kept further

/-- A stop from outside waits for the cycle in progress, if there is one. -/
theorem Advances.stopping {chance : Chance} {state next : State} {call after : Call}
    {events : List Event} {rest : List Section}
    (advances : Advances setup chance state call next after events)
    (sections : call.sections = .stop :: rest) (outside : call.onWorker = false)
    (alone : rest.countP Section.isStop = 0) :
    Stopping state.cycleSeq state.inProgress next after := by
  rcases advances.leaves sections with ⟨_, rfl⟩ | ⟨busy, _, rfl⟩ | ⟨free, rfl⟩
  · exact .panicked rfl rfl
  · exact .waiting busy rfl alone
  · have quiet : state.inProgress = false := by
      rcases free with quiet | ⟨inside, _⟩
      · exact quiet
      · rw [outside] at inside
        cases inside
    refine .passed ?_ alone
    unfold State.awaits
    rw [advances.inProgress, quiet]
    rfl

/-- The step is the first section of a stop that a call makes on a thread that is not the
worker's. -/
structure Step.StopsOutside (step : Step setup) (index : Nat) : Prop where
  stops : step.RunsFor index .stop
  outside : ∃ call, step.before.calls[index]? = some call ∧ call.onWorker = false

theorem Step.StopsOutside.stopping {step : Step setup} {index : Nat}
    (stops : step.StopsOutside index) (once : ∀ call ∈ step.before.calls, call.stops ≤ 1) :
    ∃ next, step.after.calls[index]? = some next ∧
      Stopping step.before.state.cycleSeq step.before.state.inProgress step.after.state next := by
  obtain ⟨⟨chance, call, rest, action, found, sections⟩, same, own, outside⟩ := stops
  cases Option.some.inj (found.symm.trans own)
  obtain ⟨bound, _⟩ := List.getElem?_eq_some_iff.mp found
  obtain ⟨next, advances, after⟩ := (action ▸ step.happening).advances found
  have alone : rest.countP Section.isStop = 0 := by
    have single := once call (List.mem_of_getElem? found)
    unfold Call.stops at single
    rw [sections, List.countP_cons_of_pos rfl] at single
    omega
  have kept : step.after.calls[index]? = some next := by
    rw [after]
    exact List.getElem?_set_self bound
  exact ⟨next, kept, advances.stopping sections outside alone⟩

namespace Consistent

variable {state : State} {activity : Activity}

/-- A stop waits as long as the exchange of its cycle is not over. -/
theorem not_awaits_iff (consistent : Consistent state activity) {cycle : Nat} :
    state.awaits cycle = false ↔
      ∀ capture, activity.exchanging? = some capture → capture.cycle ≠ cycle := by
  constructor
  · intro past capture exchanging same
    have current := consistent.current capture (Activity.capture?_of_exchanging? exchanging)
    have busy := consistent.inProgress_iff.mpr ⟨capture, exchanging, current⟩
    rw [State.awaits_iff.mpr ⟨busy, current.symm.trans same⟩] at past
    cases past
  · intro others
    apply Bool.eq_false_iff.mpr
    intro awaited
    obtain ⟨busy, same⟩ := State.awaits_iff.mp awaited
    obtain ⟨capture, exchanging, current⟩ := consistent.inProgress_iff.mp busy
    exact others capture exchanging (current.trans same)

theorem isExchange_eq_false (consistent : Consistent state activity)
    (quiet : state.inProgress = false) : activity.isExchange = false := by
  cases activity with
  | sending capture request =>
      rw [consistent.position] at quiet
      cases quiet
  | _ => rfl

end Consistent

namespace Stopping

variable {cycle : Nat} {busy : Bool} {state : State} {call : Call}

theorem past (stopping : Stopping cycle busy state call) (stopped : call.hasStopped = true) :
    state.awaits cycle = false := by
  obtain ⟨returned, clear⟩ := Bool.and_eq_true_iff.mp stopped
  cases stopping with
  | panicked panicked ended =>
      rw [panicked] at returned
      cases returned
  | waiting found sections last =>
      rw [sections] at clear
      cases clear
  | passed past done => exact past

theorem of_await (stopping : Stopping cycle busy state call) {other : Nat}
    (waits : .await other ∈ call.sections) : other = cycle ∧ busy = true := by
  cases stopping with
  | panicked panicked ended =>
      rw [ended] at waits
      cases waits
  | waiting found sections last =>
      rw [sections] at waits
      rcases List.mem_cons.mp waits with same | later
      · cases same
        exact ⟨rfl, found⟩
      · exact absurd rfl (List.countP_eq_zero.mp last _ later)
  | passed past done => exact absurd rfl (List.countP_eq_zero.mp done _ waits)

end Stopping

theorem World.act?_await {world : World} {index cycle : Nat} {call : Call} {rest : List Section}
    {chance : Chance} (found : world.calls[index]? = some call)
    (sections : call.sections = .await cycle :: rest)
    (past : world.state.awaits cycle = false) :
    (world.act? setup (.advance index chance)).isSome = true := by
  simp [World.act?, found, Call.advance?, sections, past]

/-- A stop made by another thread than the worker's, at any later moment. Once it has returned, the
cycle that it found in progress is not in progress, and whatever that cycle sent has been answered.
If no start has followed it, the channel is idle with nothing in flight, and nothing is sent until
one does. It waits for that one cycle only: when the cycle is no longer in progress it never is
again, and the stop can go on, whatever begins meanwhile. -/
theorem Run.stop_returned {multiplexer : Option Multiplexer}
    {demultiplexer : Option Demultiplexer} {managerAlive : Bool} {earlier later : List (Step setup)}
    {stop : Step setup} {index : Nat} {finish : World}
    (run : Run setup (.new multiplexer demultiplexer managerAlive) (earlier ++ stop :: later) finish)
    (stops : stop.StopsOutside index) :
    ∃ call, finish.calls[index]? = some call ∧
      (call.hasStopped = true → stop.before.state.inProgress = true →
        (∀ capture, finish.activity.exchanging? = some capture →
          capture.cycle ≠ stop.before.state.cycleSeq) ∧
        ((earlier ++ stop :: later).flatMap Step.sentCycles).count stop.before.state.cycleSeq =
          ((earlier ++ stop :: later).flatMap Step.answeredCycles).count
            stop.before.state.cycleSeq) ∧
      (call.hasStopped = true → (∀ step ∈ later, ¬ step.Runs .start) →
        finish.state.phase = .idle ∧ finish.activity.isExchange = false ∧
        ∀ more world, Run setup finish more world → (∀ step ∈ more, ¬ step.Runs .start) →
          more.flatMap Step.sentCycles = []) ∧
      (∀ cycle, .await cycle ∈ call.sections →
        cycle = stop.before.state.cycleSeq ∧ stop.before.state.inProgress = true) ∧
      ((∀ capture, finish.activity.exchanging? = some capture →
          capture.cycle ≠ stop.before.state.cycleSeq) →
        (∀ more world, Run setup finish more world →
          world.state.awaits stop.before.state.cycleSeq = false) ∧
        ∀ rest chance, call.sections = .await stop.before.state.cycleSeq :: rest →
          (finish.act? setup (.advance index chance)).isSome = true) := by
  have sound := run.sound (.new multiplexer demultiplexer managerAlive)
  obtain ⟨before, after⟩ := run.cut
  have consistent := sound.consistent
  obtain ⟨made, kept, stopping⟩ := stops.stopping before.stops_le
  have state := Step.Runs.stop ⟨index, stops.stops⟩
  have number : stop.after.state.cycleSeq = stop.before.state.cycleSeq := by
    rw [state]
    rfl
  have begun : stop.before.state.cycleSeq ≤ stop.after.state.cycleSeq := Nat.le_of_eq number.symm
  obtain ⟨call, found, standing⟩ := after.stopping begun kept stopping
  refine ⟨call, found, ?_, ?_, fun cycle waits => standing.of_await waits, ?_⟩
  · intro stopped _
    have past := consistent.not_awaits_iff.mp (standing.past stopped)
    exact ⟨past, run.answered rfl past⟩
  · intro stopped unstarted
    have off : stop.after.state.stopped = true := by
      rw [state]
      rfl
    obtain ⟨still, same⟩ := after.stopped unstarted off
    have quiet : finish.state.inProgress = false := by
      have past := standing.past stopped
      rw [← number, ← same, State.awaits_cycleSeq] at past
      exact past
    refine ⟨?_, consistent.isExchange_eq_false quiet, ?_⟩
    · unfold State.phase
      rw [still, quiet]
    · intro more world further none_starts
      exact further.silent sound none_starts still quiet
  · intro others
    have past := consistent.not_awaits_iff.mpr others
    constructor
    · intro more world further
      exact further.awaits (Nat.le_trans begun after.cycleSeq_le) past
    · intro rest chance sections
      exact World.act?_await found sections past

/-- A stop that comes while the first request is in flight, and returns after the answer. -/
theorem Run.stop_returned_after_answer : ∃ earlier stop later finish call,
    Run Trial.client Trial.channel (earlier ++ stop :: later) finish ∧ stop.StopsOutside 1 ∧
      stop.before.state.inProgress = true ∧ finish.calls[1]? = some call ∧
      call.hasStopped = true ∧ ∀ capture, finish.activity.exchanging? = some capture →
        capture.cycle ≠ stop.before.state.cycleSeq := by
  have seen : (Trial.channel.record? Trial.client
      (Trial.bind 0 1 ++ Trial.begin ++ Trial.send ++
        [.invoke .stop Trial.draw false, .advance 1] ++ Trial.answer 204 ++ [.advance 1])).map
        (fun record => ((record.1.drop 10).head?.any fun step =>
          step.runsFor 1 .stop && step.before.state.inProgress &&
            step.before.calls[1]?.any (!·.onWorker),
          record.2.calls[1]?.any Call.hasStopped)) = some (true, true) := by
    decide +kernel
  obtain ⟨⟨steps, finish⟩, recorded, shape⟩ := Option.map_eq_some_iff.mp seen
  obtain ⟨tenth, last⟩ := Prod.mk.inj shape
  obtain ⟨stop, first, found⟩ := (Option.any_eq_true _ _).mp tenth
  obtain ⟨own, elsewhere⟩ := Bool.and_eq_true_iff.mp found
  obtain ⟨runs, busy⟩ := Bool.and_eq_true_iff.mp own
  obtain ⟨made, at_stop, outside⟩ := (Option.any_eq_true _ _).mp elsewhere
  have stops : stop.StopsOutside 1 :=
    ⟨Step.of_runsFor runs, made, at_stop, by simpa using outside⟩
  obtain ⟨later, dropped⟩ := List.head?_eq_some_iff.mp first
  obtain ⟨call, present, stopped⟩ := (Option.any_eq_true _ _).mp last
  have split : steps.take 10 ++ stop :: later = steps := by
    rw [← dropped]
    exact List.take_append_drop 10 steps
  have run : Run Trial.client Trial.channel (steps.take 10 ++ stop :: later) finish := by
    rw [split]
    exact Run.of_record recorded
  obtain ⟨same, kept, past, _⟩ := Run.stop_returned run stops
  cases Option.some.inj (present.symm.trans kept)
  exact ⟨steps.take 10, stop, later, finish, call, run, stops, busy, present, stopped,
    (past stopped busy).1⟩

end LongPoll.Channel
