import LongPoll.Proofs.Shutdown

set_option autoImplicit false

/-!
Stops that are made on the thread of the worker, from inside a cycle. The only cycle that one could
wait for is the one it is made in, so that a wait would never end. A stop knows the thread of the
worker by the slot of the worker, which a shutdown empties. It is enough that no start turns the
channel on again behind a shutdown: the slot is then never empty while a cycle is in progress.
-/

namespace LongPoll.Channel

variable {setup : Setup}

/-! ### Waiting on the worker -/

/-- The step is the first section of a stop that a call makes on the thread of the worker. -/
structure Step.StopsInside (step : Step setup) (index : Nat) : Prop where
  stops : step.RunsFor index .stop
  inside : ∃ call, step.before.calls[index]? = some call ∧ call.onWorker = true

theorem Call.repeats?_of_await {state : State} {call : Call} {cycle : Nat} {rest : List Section}
    (sections : call.sections = .await cycle :: rest) (awaited : state.awaits cycle = true) :
    call.repeats? state = some cycle := by
  unfold Call.repeats?
  rw [sections]
  exact if_pos awaited

theorem Call.await_mem_of_repeats? {state : State} {call : Call} {cycle : Nat}
    (waits : call.repeats? state = some cycle) : .await cycle ∈ call.sections := by
  obtain ⟨rest, sections, _⟩ := Call.repeats?_eq_some waits
  rw [sections]
  exact List.mem_cons_self

namespace Consistent

variable {state : State} {activity : Activity}

/-- A cycle in progress has a worker, if a retired one. -/
theorem retired_of_inProgress (consistent : Consistent state activity)
    (busy : state.inProgress = true) (unserved : state.worker ≠ .running) :
    state.worker = .retired := by
  cases slot : state.worker with
  | retired => rfl
  | running => exact absurd slot unserved
  | unstarted =>
      obtain ⟨capture, exchanging, _⟩ := consistent.inProgress_iff.mp busy
      rw [(consistent.fresh slot).2] at exchanging
      cases exchanging

end Consistent

/-- How the first section of a stop on the worker ends: with a panic of the HTTP client, with no
stop left to wait for, or in a wait. -/
inductive StopsInside (state next : State) (after : Call) : Prop
  | panicked (panicked : after.panicked = true)
  | passed (done : after.stops = 0)
      (free : state.inProgress = false ∨ state.worker = .running)
  | stuck (waits : after.repeats? next = some state.cycleSeq) (busy : state.inProgress = true)
      (retired : state.worker = .retired)

theorem Advances.stopsInside {chance : Chance} {state next : State} {activity : Activity}
    {call after : Call} {events : List Event} {rest : List Section}
    (advances : Advances setup chance state call next after events)
    (consistent : Consistent state activity) (sections : call.sections = .stop :: rest)
    (inside : call.onWorker = true) (once : call.stops ≤ 1) : StopsInside state next after := by
  have alone : rest.countP Section.isStop = 0 := by
    unfold Call.stops at once
    rw [sections, List.countP_cons_of_pos rfl] at once
    omega
  rcases advances.leaves sections with ⟨_, rfl⟩ | ⟨busy, outside, rfl⟩ | ⟨free, rfl⟩
  · exact .panicked rfl
  · refine .stuck ?_ busy (consistent.retired_of_inProgress busy (outside inside))
    apply Call.repeats?_of_await rfl
    rw [advances.awaits, State.awaits_iff]
    exact ⟨busy, rfl⟩
  · exact .passed alone (free.imp_right And.right)

/-- A stop on the worker is over at once, unless it finds a cycle in progress and its slot empty. -/
theorem Step.StopsInside.outcome {step : Step setup} {index : Nat}
    (stops : step.StopsInside index) (sound : step.before.Sound)
    (once : ∀ call ∈ step.before.calls, call.stops ≤ 1) :
    ∃ next, step.after.calls[index]? = some next ∧ next.onWorker = true ∧
      Channel.StopsInside step.before.state step.after.state next := by
  obtain ⟨runs, call, same, inside⟩ := stops
  obtain ⟨chance, other, next, found, ⟨rest, sections⟩, kept, advances⟩ := runs.advances
  cases Option.some.inj (found.symm.trans same)
  exact ⟨next, kept, advances.onWorker.trans inside,
    advances.stopsInside sound.consistent sections inside (once call (List.mem_of_getElem? found))⟩

/-- A call on the worker waits for a cycle that is still in progress. -/
structure World.Stuck (world : World) (index cycle : Nat) : Prop where
  waits : ∃ call, world.calls[index]? = some call ∧ call.onWorker = true ∧
    ∃ rest, call.sections = .await cycle :: rest
  awaited : world.state.awaits cycle = true

theorem World.Stuck.of_repeats? {world : World} {index cycle : Nat} {call : Call}
    (found : world.calls[index]? = some call) (inside : call.onWorker = true)
    (waits : call.repeats? world.state = some cycle) : world.Stuck index cycle := by
  obtain ⟨rest, sections, awaited⟩ := Call.repeats?_eq_some waits
  exact ⟨⟨call, found, inside, rest, sections⟩, awaited⟩

/-- The worker, which alone could end the cycle, is kept busy by the call that waits for it. -/
theorem World.Stuck.happening {before after : World} {action : Action} {events : List Event}
    {index cycle : Nat} (stuck : before.Stuck index cycle)
    (happening : Happening setup before action after events)
    (unhurt : action ≠ .repeatAbort index true) :
    after.Stuck index cycle ∧ after.activity = before.activity := by
  obtain ⟨⟨call, found, inside, rest, sections⟩, awaited⟩ := stuck
  have kept : after.calls[index]? = some call := by
    rcases happening.changes found with kept | ⟨_, panics, _⟩ | ⟨_, next, _, _, advances⟩
    · exact kept
    · exact absurd panics unhurt
    · obtain ⟨settled, _⟩ := advances.leaves sections
      rw [awaited] at settled
      cases settled
  have still : after.state.awaits cycle = true ∧ after.activity = before.activity := by
    cases happening with
    | work free turn =>
        have busy : before.workerIsBusy = true := by
          refine List.any_eq_true.mpr ⟨call, List.mem_of_getElem? found, ?_⟩
          simp [inside, Call.isOver, sections]
        rw [free] at busy
        cases busy
    | advance same advances => exact ⟨advances.awaits.trans awaited, rfl⟩
    | invoke | repeatAbort | repeatPanicking | dropManager => exact ⟨awaited, rfl⟩
  exact ⟨⟨⟨call, kept, inside, rest, sections⟩, still.1⟩, still.2⟩

/-- A stop that waits on the worker waits for ever, unless the HTTP client panics under it. -/
theorem Run.stuck {start finish : World} {steps : List (Step setup)} {index cycle : Nat}
    (run : Run setup start steps finish) (stuck : start.Stuck index cycle)
    (unhurt : ∀ step ∈ steps, step.action ≠ .repeatAbort index true) :
    finish.Stuck index cycle ∧ finish.activity = start.activity := by
  refine run.keeps (fun world => world.Stuck index cycle ∧ world.activity = start.activity)
    ⟨stuck, rfl⟩ ?_
  rintro step member ⟨before, same⟩
  obtain ⟨after, kept⟩ := before.happening step.happening (unhurt step member)
  exact ⟨after, kept.trans same⟩

/-! ### Shutdowns that come to an end -/

/-- How far a shutdown has come that has not retired the worker. -/
inductive Call.Closing (state : State) (call : Call) : Prop
  | ahead (sections : call.sections = [.stop, .retire])
  | waiting (sections : call.sections = [.await state.cycleSeq, .retire])
      (stopped : state.stopped = true)
  | last (sections : call.sections = [.retire]) (stopped : state.stopped = true)
      (quiet : state.inProgress = false)

/-- Whether a shutdown has stopped the channel that has retired the worker or will. -/
def World.closing (world : World) : Bool :=
  world.state.worker = .retired || world.calls.any fun call =>
    call.sections.contains .retire && !call.sections.contains .stop

/-- The step is the start of a channel that a shutdown has stopped, and it turns it on. -/
def Step.Revives (step : Step setup) : Prop :=
  step.Runs .start ∧ step.before.closing = true ∧ step.after.state.stopped = false

/-- The channel is asked to shut down on the worker while a cycle is in progress. -/
def Step.shutsDownInside (step : Step setup) : Bool :=
  match step.action with
  | .invoke .shutdown _ true => step.before.state.inProgress
  | _ => false

structure World.Closes (world : World) : Prop where
  closing : ∀ call ∈ world.calls, .retire ∈ call.sections → call.Closing world.state
  inside : ∀ call ∈ world.calls, call.onWorker = true → .retire ∈ call.sections →
    world.state.inProgress = false
  retired : world.state.worker = .retired →
    world.state.stopped = true ∧ world.state.inProgress = false
  unwaiting : ∀ call ∈ world.calls, call.onWorker = true → ∀ cycle,
    .await cycle ∉ call.sections

theorem World.closing_of_retired {world : World} (retired : world.state.worker = .retired) :
    world.closing = true := by
  simp [World.closing, retired]

theorem World.closing_of_call {world : World} {call : Call} (member : call ∈ world.calls)
    (retires : .retire ∈ call.sections) (past : .stop ∉ call.sections) :
    world.closing = true := by
  apply Bool.or_eq_true_iff.mpr
  right
  refine List.any_eq_true.mpr ⟨call, member, ?_⟩
  simp [retires, past]

namespace Call.Closing

variable {state next : State} {call after : Call}

/-- A shutdown stands where it did while others act, as long as what it has stopped stays so. -/
theorem of_state (closing : call.Closing state)
    (stays : .stop ∉ call.sections → state.stopped = true →
      next.stopped = true ∧ next.cycleSeq = state.cycleSeq ∧
        (state.inProgress = false → next.inProgress = false)) :
    call.Closing next := by
  cases closing with
  | ahead sections => exact .ahead sections
  | waiting sections stopped =>
      obtain ⟨still, same, _⟩ := stays (by simp [sections]) stopped
      exact .waiting (same ▸ sections) still
  | last sections stopped quiet =>
      obtain ⟨still, _, settled⟩ := stays (by simp [sections]) stopped
      exact .last sections still (settled quiet)

/-- A shutdown waits for the cycle that it has found, and the channel is quiet when it goes on. -/
theorem advances {chance : Chance} {events : List Event} (closing : call.Closing state)
    (advances : Advances setup chance state call next after events)
    (inside : call.onWorker = true → state.inProgress = false)
    (retires : .retire ∈ after.sections) : after.Closing next := by
  cases closing with
  | ahead sections =>
      have stops : next = state.stop := advances.shown sections
      rcases advances.leaves sections with ⟨_, rfl⟩ | ⟨_, _, rfl⟩ | ⟨free, rfl⟩
      · cases retires
      · exact .waiting (by rw [stops]; rfl) (by rw [stops]; rfl)
      · have quiet : state.inProgress = false := by
          rcases free with quiet | ⟨onWorker, _⟩
          · exact quiet
          · exact inside onWorker
        exact .last rfl (by rw [stops]; rfl) (advances.inProgress.trans quiet)
  | waiting sections stopped =>
      obtain ⟨settled, rfl⟩ := advances.leaves sections
      rw [State.awaits_cycleSeq] at settled
      have unstarted (rest : List Section) : call.sections ≠ .start :: rest := by
        rw [sections]
        nofun
      exact .last rfl (advances.stopped unstarted stopped) (advances.inProgress.trans settled)
  | last sections stopped quiet =>
      obtain ⟨leaving, leaves, rfl⟩ := advances.leaves sections
      rw [List.append_nil] at retires
      rcases leaves _ retires with impossible | impossible <;> cases impossible

end Call.Closing

theorem Call.make_closing {draw : Draw} {operation : Operation} {onWorker : Bool}
    (retires : .retire ∈ (Call.make setup draw operation onWorker).sections) (state : State) :
    operation = .shutdown ∧ (Call.make setup draw operation onWorker).Closing state := by
  cases Call.make_retires retires
  exact ⟨rfl, .ahead rfl⟩

theorem Turn.quiet {managerAlive : Bool} {state next : State} {activity after : Activity}
    {move : Move} {events : List Event}
    (turn : Turn setup managerAlive state activity move next after events)
    (stopped : state.stopped = true) (quiet : state.inProgress = false) :
    next.inProgress = false := by
  have past : state.awaits state.cycleSeq = false := by
    rw [State.awaits_cycleSeq]
    exact quiet
  have never := turn.awaits (Nat.le_refl _) past
  rw [← (turn.stopped stopped).2, State.awaits_cycleSeq] at never
  exact never

namespace World.Closes

theorem new (multiplexer : Option Multiplexer) (demultiplexer : Option Demultiplexer)
    (managerAlive : Bool) : (World.new multiplexer demultiplexer managerAlive).Closes where
  closing := by intro call impossible; cases impossible
  inside := by intro call impossible; cases impossible
  retired := by intro impossible; cases impossible
  unwaiting := by intro call impossible; cases impossible

theorem happening {before after : World} {action : Action} {events : List Event}
    (closes : before.Closes) (sound : before.Sound)
    (happening : Happening setup before action after events)
    (outside : ∀ draw, action = .invoke .shutdown draw true → before.state.inProgress = false)
    (unrevived : ∀ index chance call rest, action = .advance index chance →
      before.calls[index]? = some call → call.sections = .start :: rest →
        before.closing = true → after.state.stopped = true) : after.Closes := by
  have stays (shut : before.closing = true) (stopped : before.state.stopped = true) :
      after.state.stopped = true ∧ after.state.cycleSeq = before.state.cycleSeq ∧
        (before.state.inProgress = false → after.state.inProgress = false) := by
    cases happening with
    | work free turn =>
        exact ⟨(turn.stopped stopped).1, (turn.stopped stopped).2, turn.quiet stopped⟩
    | @advance index chance call next state events found advances =>
        refine ⟨?_, advances.cycleSeq, advances.inProgress.trans⟩
        by_cases starts : ∃ rest, call.sections = .start :: rest
        · obtain ⟨rest, sections⟩ := starts
          exact unrevived index chance call rest rfl found sections shut
        · exact advances.stopped (fun rest sections => starts ⟨rest, sections⟩) stopped
    | _ => exact ⟨stopped, rfl, id⟩
  have quiet {call : Call} (member : call ∈ before.calls) (inside : call.onWorker = true)
      (retires : .retire ∈ call.sections) : after.state.inProgress = false := by
    have settled := closes.inside call member inside retires
    cases happening with
    | work free turn =>
        -- The worker makes no turn while a call on its thread is not over.
        have busy : before.workerIsBusy = true := by
          refine List.any_eq_true.mpr ⟨call, member, ?_⟩
          have going : call.sections ≠ [] := List.ne_nil_of_mem retires
          simp [inside, Call.isOver, going]
        rw [free] at busy
        cases busy
    | advance found advances => exact advances.inProgress.trans settled
    | _ => exact settled
  constructor
  · refine happening.each_call ?_ ?_ ?_ ?_
    · intro call member retires
      refine (closes.closing call member retires).of_state ?_
      intro past stopped
      exact stays (World.closing_of_call member retires past) stopped
    · intro operation draw onWorker _ retires
      exact (Call.make_closing retires after.state).2
    · intro call _ retires
      cases retires
    · intro index chance call next _ found advances retires
      have present : call ∈ before.calls := List.mem_of_getElem? found
      have ahead := advances.planned_mem rfl retires
      refine (closes.closing call present ahead).advances advances ?_ retires
      intro inside
      exact closes.inside call present inside ahead
  · refine happening.each_call ?_ ?_ ?_ ?_
    · intro call member
      exact quiet member
    · rintro operation draw onWorker rfl inside retires
      rw [Call.make_onWorker] at inside
      cases inside
      cases Call.make_retires retires
      have settled := outside draw rfl
      cases happening
      exact settled
    · intro call _ _ retires
      cases retires
    · intro index chance call next _ found advances inside retires
      exact quiet (List.mem_of_getElem? found) (advances.onWorker.symm.trans inside)
        (advances.planned_mem rfl retires)
  · have kept (retired : before.state.worker = .retired) :
        after.state.stopped = true ∧ after.state.inProgress = false := by
      obtain ⟨stopped, settled⟩ := closes.retired retired
      obtain ⟨still, _, done⟩ := stays (World.closing_of_retired retired) stopped
      exact ⟨still, done settled⟩
    intro retired
    cases happening with
    | work free turn => exact kept (turn.worker.symm.trans retired)
    | @advance index chance call next state events found advances =>
        rcases advances.of_retired retired with before | ⟨⟨rest, sections⟩, same⟩
        · exact kept before
        · -- A shutdown retires the worker only when the channel is stopped and quiet.
          have closing := closes.closing call (List.mem_of_getElem? found)
            (sections ▸ List.mem_cons_self)
          cases closing with
          | ahead other | waiting other =>
              rw [sections] at other
              cases other
          | last other stopped settled =>
              exact ⟨same.trans stopped, advances.inProgress.trans settled⟩
    | _ => exact kept retired
  · refine happening.each_call closes.unwaiting ?_ ?_ ?_
    · intro operation draw onWorker _ _ cycle waits
      cases Call.make_isPlanned _ waits
    · intro call _ _ cycle waits
      cases waits
    · intro index chance call next _ found advances inside cycle waits
      have onThread := advances.onWorker.symm.trans inside
      rcases advances.section_mem waits with before | ⟨_, busy, unserved, _⟩ | ⟨leaves | leaves, _⟩
      · exact closes.unwaiting call (List.mem_of_getElem? found) onThread cycle before
      · have retired := sound.consistent.retired_of_inProgress busy (unserved onThread)
        rw [(closes.retired retired).2] at busy
        cases busy
      · cases leaves
      · cases leaves

end World.Closes

namespace Step

variable {step : Step setup}

theorem quiet_of_shutsDownInside (outside : step.shutsDownInside = false) {draw : Draw}
    (shuts : step.action = .invoke .shutdown draw true) : step.before.state.inProgress = false := by
  unfold shutsDownInside at outside
  rw [shuts] at outside
  exact outside

theorem closes (closes : step.before.Closes) (sound : step.before.Sound)
    (outside : step.shutsDownInside = false) (unrevived : ¬ step.Revives) : step.after.Closes := by
  refine closes.happening sound step.happening ?_ ?_
  · intro draw shuts
    exact quiet_of_shutsDownInside outside shuts
  · intro index chance call rest action found sections shut
    cases running : step.after.state.stopped with
    | true => rfl
    | false =>
        have starts : step.Runs .start := ⟨index, chance, call, rest, action, found, sections⟩
        exact absurd ⟨starts, shut, running⟩ unrevived

end Step

namespace Run

variable {start finish : World} {steps : List (Step setup)} {multiplexer : Option Multiplexer}
  {demultiplexer : Option Demultiplexer} {managerAlive : Bool}

theorem closes (run : Run setup start steps finish) (sound : start.Sound) (closes : start.Closes)
    (outside : ∀ step ∈ steps, step.shutsDownInside = false)
    (unrevived : ∀ step ∈ steps, ¬ step.Revives) :
    finish.Closes ∧ ∀ step ∈ steps, step.before.Closes := by
  have kept (step : Step setup) (member : step ∈ steps)
      (before : step.before.Sound ∧ step.before.Closes) : step.after.Sound ∧ step.after.Closes :=
    ⟨before.1.happening step.happening,
      Step.closes before.2 before.1 (outside step member) (unrevived step member)⟩
  constructor
  · exact (run.keeps (fun world => world.Sound ∧ world.Closes) ⟨sound, closes⟩ kept).2
  · intro step member
    exact (run.keeps_at (fun world => world.Sound ∧ world.Closes) ⟨sound, closes⟩ kept step
      member).1.2

theorem stops_le_at (run : Run setup (.new multiplexer demultiplexer managerAlive) steps finish)
    {step : Step setup} (member : step ∈ steps) : ∀ call ∈ step.before.calls, call.stops ≤ 1 := by
  obtain ⟨first, last, rfl⟩ := List.append_of_mem member
  exact run.cut.1.stops_le

/-- Stops on the thread of the worker, at any moment of any run. Such a stop is over after its first
section, unless it finds a cycle in progress and the slot of the worker emptied by a shutdown: then
it waits for the very cycle that it is made in, and neither it nor the worker ever goes on, unless
the HTTP client panics under the wait. A cycle that some stop still waits for is always the one whose
exchange the worker is in. As long as no shutdown is called on the worker while a cycle is in
progress, and no start turns the channel on behind a shutdown, a cycle in progress has a worker that
can be told, no stop on the worker waits, and all that wait are on other threads. -/
theorem stop_inside (run : Run setup (.new multiplexer demultiplexer managerAlive) steps finish) :
    (∀ step ∈ steps, ∀ index, step.StopsInside index →
      ∃ next, step.after.calls[index]? = some next ∧ next.onWorker = true ∧
        StopsInside step.before.state step.after.state next) ∧
    (∀ (index : Nat) (call : Call) (cycle : Nat), finish.calls[index]? = some call →
      call.repeats? finish.state = some cycle →
        (∃ capture, finish.activity.exchanging? = some capture ∧ capture.cycle = cycle) ∧
        (call.onWorker = true → ∀ more world, Run setup finish more world →
          (∀ step ∈ more, step.action ≠ .repeatAbort index true) →
            world.Stuck index cycle ∧ world.activity = finish.activity)) ∧
    ((∀ step ∈ steps, step.shutsDownInside = false) → (∀ step ∈ steps, ¬ step.Revives) →
      (finish.state.inProgress = true → finish.state.worker = .running) ∧
      (∀ step ∈ steps, ∀ index, step.StopsInside index →
        ∃ next, step.after.calls[index]? = some next ∧
          (next.panicked = true ∨ next.stops = 0)) ∧
      ∀ (index : Nat) (call : Call) (cycle : Nat), finish.calls[index]? = some call →
        call.repeats? finish.state = some cycle →
          call.onWorker = false ∧ ∀ other ∈ finish.calls, other.onWorker = true →
            other.repeats? finish.state = none) := by
  have fresh := World.Sound.new multiplexer demultiplexer managerAlive
  have consistent := (run.sound fresh).consistent
  have outcome (step : Step setup) (member : step ∈ steps) (index : Nat)
      (stops : step.StopsInside index) :
      ∃ next, step.after.calls[index]? = some next ∧ next.onWorker = true ∧
        StopsInside step.before.state step.after.state next :=
    stops.outcome (run.sound_at fresh step member).1 (run.stops_le_at member)
  refine ⟨outcome, ?_, ?_⟩
  · intro index call cycle found waits
    obtain ⟨rest, _, awaited⟩ := Call.repeats?_eq_some waits
    obtain ⟨busy, number⟩ := State.awaits_iff.mp awaited
    obtain ⟨capture, exchanging, current⟩ := consistent.inProgress_iff.mp busy
    refine ⟨⟨capture, exchanging, current.trans number⟩, ?_⟩
    intro inside more world further unhurt
    exact further.stuck (.of_repeats? found inside waits) unhurt
  · intro outside unrevived
    obtain ⟨closes, closes_at⟩ := run.closes fresh (.new _ _ _) outside unrevived
    have unwaiting (call : Call) (member : call ∈ finish.calls) (inside : call.onWorker = true) :
        call.repeats? finish.state = none := by
      cases waits : call.repeats? finish.state with
      | none => rfl
      | some cycle =>
          have ahead := Call.await_mem_of_repeats? waits
          exact absurd ahead (closes.unwaiting call member inside cycle)
    refine ⟨?_, ?_, ?_⟩
    · intro busy
      cases slot : finish.state.worker with
      | running => rfl
      | unstarted | retired =>
          have retired := consistent.retired_of_inProgress busy (by rw [slot]; decide)
          rw [(closes.retired retired).2] at busy
          cases busy
    · intro step member index stops
      obtain ⟨next, found, _, ends⟩ := outcome step member index stops
      refine ⟨next, found, ?_⟩
      cases ends with
      | panicked panicked => exact .inl panicked
      | passed done free => exact .inr done
      | stuck waits busy retired =>
          rw [((closes_at step member).retired retired).2] at busy
          cases busy
    · intro index call cycle found waits
      refine ⟨?_, unwaiting⟩
      cases inside : call.onWorker with
      | false => rfl
      | true =>
          rw [unwaiting call (List.mem_of_getElem? found) inside] at waits
          cases waits

end Run

/-! ### Two stops of one cycle, and one behind a shutdown -/

namespace Trial

/-- A stop from outside waits for the first cycle, and a collaborator then stops the channel from
inside that cycle. -/
def stopTwice : List Action :=
  bind 0 1 ++ begin ++
    [.invoke .stop draw false, .advance 1, .invoke .stop draw true, .advance 2]

/-- The channel is started behind a shutdown, and a collaborator stops it from inside the cycle that
had been posted before. -/
def stopRevived : List Action :=
  shutdown ++ startAgain ++ begin ++ [.invoke .stop draw true, .advance 3]

end Trial

def Step.stopsInside (step : Step setup) (index : Nat) : Bool :=
  step.runsFor index .stop && step.before.calls[index]?.any Call.onWorker

theorem Step.of_stopsInside {step : Step setup} {index : Nat}
    (stops : step.stopsInside index = true) : step.StopsInside index := by
  obtain ⟨runs, inside⟩ := Bool.and_eq_true_iff.mp stops
  exact ⟨Step.of_runsFor runs, (Option.any_eq_true _ _).mp inside⟩

namespace Run

/-- The stop inside the cycle passes, while the one outside waits. -/
theorem stop_inside_passing : ∃ steps finish call stop next,
    Run Trial.client Trial.channel steps finish ∧ finish.calls[1]? = some call ∧
    call.repeats? finish.state = some 1 ∧ call.onWorker = false ∧ stop ∈ steps ∧
    stop.StopsInside 2 ∧ stop.before.state.inProgress = true ∧
    stop.after.calls[2]? = some next ∧ next.stops = 0 := by
  have seen : (Trial.channel.record? Trial.client Trial.stopTwice).any (fun record =>
      record.1.all (fun step => !step.shutsDownInside && !step.before.closing) &&
        record.2.calls[1]?.any (fun call => call.repeats? record.2.state = some 1) &&
        record.1.any fun step => step.stopsInside 2 && step.before.state.inProgress &&
          step.after.calls[2]?.all (!·.panicked)) = true := by
    decide +kernel
  obtain ⟨⟨steps, finish⟩, recorded, checked⟩ := (Option.any_eq_true _ _).mp seen
  simp only [Bool.and_eq_true, List.all_eq_true, List.any_eq_true, Bool.not_eq_true'] at checked
  obtain ⟨⟨quiet, waiting⟩, stop, member, ⟨stops, busy⟩, unhurt⟩ := checked
  obtain ⟨call, found, waits⟩ := (Option.any_eq_true _ _).mp waiting
  have unrevived (step : Step Trial.client) (member : step ∈ steps) : ¬ step.Revives := by
    rintro ⟨_, closing, _⟩
    rw [(quiet step member).2] at closing
    cases closing
  have inside := Step.of_stopsInside stops
  obtain ⟨_, _, told⟩ := stop_inside (Run.of_record recorded)
  obtain ⟨_, passes, outside⟩ := told (fun step member => (quiet step member).1) unrevived
  obtain ⟨next, kept, panicked | done⟩ := passes stop member 2 inside
  · rw [kept, Option.all_some, panicked] at unhurt
    cases unhurt
  · exact ⟨steps, finish, call, stop, next, Run.of_record recorded, found,
      of_decide_eq_true waits, (outside 1 call 1 found (of_decide_eq_true waits)).1, member,
      inside, busy, kept, done⟩

/-- Without a shutdown on the worker, a stop on the worker can wait for its own cycle, and does so
for ever. -/
theorem stop_inside_waiting : ∃ steps finish call capture,
    Run Trial.detached Trial.channel steps finish ∧
    (∀ step ∈ steps, step.shutsDownInside = false) ∧ finish.calls[3]? = some call ∧
    call.operation = .stop ∧ call.onWorker = true ∧
    call.repeats? finish.state = some capture.cycle ∧
    finish.activity = .compiling capture ∧
    ∀ more world, Run Trial.detached finish more world →
      (∀ step ∈ more, step.action ≠ .repeatAbort 3 true) →
        world.activity = .compiling capture := by
  have seen : (Trial.channel.record? Trial.detached Trial.stopRevived).any (fun record =>
      record.1.all (fun step => !step.shutsDownInside) &&
        record.2.calls[3]?.any fun call => call.operation = .stop && call.onWorker &&
          match record.2.activity with
          | .compiling capture => call.repeats? record.2.state = some capture.cycle
          | _ => false) = true := by
    decide +kernel
  obtain ⟨⟨steps, finish⟩, recorded, checked⟩ := (Option.any_eq_true _ _).mp seen
  simp only [Bool.and_eq_true, List.all_eq_true, Bool.not_eq_true'] at checked
  obtain ⟨outside, waiting⟩ := checked
  obtain ⟨call, found, made⟩ := (Option.any_eq_true _ _).mp waiting
  simp only [Bool.and_eq_true, decide_eq_true_eq] at made
  obtain ⟨⟨stops, inside⟩, waits⟩ := made
  split at waits
  · rename_i capture compiling
    have own := of_decide_eq_true waits
    refine ⟨steps, finish, call, capture, Run.of_record recorded, outside, found, stops, inside,
      own, compiling, ?_⟩
    intro more world further unhurt
    rw [(further.stuck (.of_repeats? found inside own) unhurt).2]
    exact compiling
  · cases waits

end Run

end LongPoll.Channel
