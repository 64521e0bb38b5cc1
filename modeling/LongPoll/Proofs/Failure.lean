import LongPoll.Proofs.Queue

set_option autoImplicit false

/-!
How a cycle that fails is classified. It fails ahead of the delivery exactly if compiling, sealing or
sending ends in a fault or a panic. The section that classifies it only sees a counter and a flag;
the theorems here say what these record: whether a stop has found the channel running since the
cycle began. If none has, the failure turns the channel off and its server is reported once. If one
has, nobody is told, and the channel goes on with one next cycle if a start has followed.
-/

namespace LongPoll.Channel

variable {setup : Setup}

/-! ### Reports to the manager -/

def Event.failedServer? : Event → Option Capture
  | .serverFailed capture => some capture
  | _ => none

def Step.reports (step : Step setup) : List Capture := step.events.filterMap Event.failedServer?

/-- What the manager is told of a cycle. -/
def reportsOf (cycle : Nat) (steps : List (Step setup)) : List Capture :=
  (steps.flatMap Step.reports).filter (·.cycle = cycle)

theorem reportsOf_append (cycle : Nat) (first second : List (Step setup)) :
    reportsOf cycle (first ++ second) = reportsOf cycle first ++ reportsOf cycle second := by
  unfold reportsOf
  rw [List.flatMap_append, List.filter_append]

theorem reportsOf_cons (cycle : Nat) (step : Step setup) (rest : List (Step setup)) :
    reportsOf cycle (step :: rest) =
      step.reports.filter (·.cycle = cycle) ++ reportsOf cycle rest := by
  unfold reportsOf
  rw [List.flatMap_cons, List.filter_append]

theorem reportsOf_eq_nil {cycle : Nat} {steps : List (Step setup)}
    (others : ∀ step ∈ steps, ∀ capture ∈ step.reports, capture.cycle ≠ cycle) :
    reportsOf cycle steps = [] := by
  apply List.filter_eq_nil_iff.mpr
  intro capture member same
  obtain ⟨step, present, reported⟩ := List.mem_flatMap.mp member
  exact others step present capture reported (of_decide_eq_true same)

theorem failedServer?_rescheduleNotices (unposted : Option Fault) :
    (rescheduleNotices unposted).filterMap Event.failedServer? = [] := by
  cases unposted <;> rfl

/-- The turn by which a failure is classified, and the reports it makes. -/
theorem Turn.classifies {managerAlive : Bool} {state next : State} {activity after : Activity}
    {events : List Event} {capture : Capture} {fault : Fault}
    (turn : Turn setup managerAlive state activity .fail next after events)
    (failed : activity.failure? = some (capture, fault)) :
    (state.interrupted capture = true ∧ after = .idle ∧
      events.filterMap Event.failedServer? = [] ∧
      ∃ unposted, Rescheduled setup.config.channelId state.settle next unposted) ∨
    (state.interrupted capture = false ∧ next = { state.settle with stopped := true } ∧
      after = (if managerAlive then .reporting capture else .idle) ∧
      events.filterMap Event.failedServer? = if managerAlive then [capture] else []) := by
  cases turn with
  | proceed proceeds => cases proceeds
  | cancel same hit rescheduled =>
      cases Option.some.inj (failed.symm.trans same)
      exact .inl ⟨hit, rfl, failedServer?_rescheduleNotices _, _, rescheduled⟩
  | fail same unhit =>
      cases Option.some.inj (failed.symm.trans same)
      refine .inr ⟨unhit, rfl, rfl, ?_⟩
      cases managerAlive <;> rfl

/-- The manager is told by no other turn. -/
theorem Turn.reports {managerAlive : Bool} {state next : State} {activity after : Activity}
    {move : Move} {events : List Event}
    (turn : Turn setup managerAlive state activity move next after events) :
    events.filterMap Event.failedServer? = [] ∨
      ∃ capture fault, move = .fail ∧ activity.failure? = some (capture, fault) ∧
        events.filterMap Event.failedServer? = [capture] := by
  cases turn with
  | proceed proceeds => cases proceeds <;> exact .inl rfl
  | settle settles => cases settles <;> exact .inl rfl
  | drop hit rescheduled | finish rescheduled | cancel failed hit rescheduled =>
      exact .inl (failedServer?_rescheduleNotices _)
  | fail failed unhit =>
      cases managerAlive with
      | true => exact .inr ⟨_, _, rfl, failed, rfl⟩
      | false => exact .inl rfl
  | reported => split <;> exact .inl rfl
  | _ => exact .inl rfl

theorem Advances.reports {chance : Chance} {state next : State} {call after : Call}
    {events : List Event} (advances : Advances setup chance state call next after events) :
    events.filterMap Event.failedServer? = [] := by
  cases advances with
  | start sections started => split <;> rfl
  | stopWaiting sections busy outside => split <;> rfl
  | stopPassing sections free => split <;> rfl
  | _ => rfl

theorem Happening.reports {before after : World} {action : Action} {events : List Event}
    (happening : Happening setup before action after events) :
    events.filterMap Event.failedServer? = [] ∨
      ∃ capture fault, action = .work .fail ∧
        before.activity.failure? = some (capture, fault) ∧
        events.filterMap Event.failedServer? = [capture] := by
  cases happening with
  | work free turn =>
      rcases turn.reports with quiet | ⟨capture, fault, rfl, failed, reported⟩
      · exact .inl quiet
      · exact .inr ⟨capture, fault, rfl, failed, reported⟩
  | advance found advances => exact .inl advances.reports
  | _ => exact .inl rfl

namespace Step

variable {step : Step setup} {capture : Capture}

theorem of_reports (reported : capture ∈ step.reports) :
    ∃ fault, step.action = .work .fail ∧
      step.before.activity.failure? = some (capture, fault) ∧ step.reports = [capture] := by
  rcases step.happening.reports with quiet | ⟨other, fault, action, failed, reports⟩
  · rw [show step.reports = [] from quiet] at reported
    cases reported
  · rw [show step.reports = [other] from reports] at reported
    cases List.mem_singleton.mp reported
    exact ⟨fault, action, failed, reports⟩

/-- The manager is only told of the cycle that the worker is at. -/
theorem cycle_of_reports (sound : step.before.Sound) (reported : capture ∈ step.reports) :
    capture.cycle = step.before.state.cycleSeq := by
  obtain ⟨fault, _, failed, _⟩ := of_reports reported
  exact sound.consistent.current capture (Activity.fallible?_of_failure? failed).2

/-- The section that classifies a failure ends the cycle. -/
theorem classifies {fault : Fault} (action : step.action = .work .fail)
    (failed : step.before.activity.failure? = some (capture, fault)) :
    (step.before.state.interrupted capture = true ∧ step.after.activity = .idle ∧
      step.reports = [] ∧ ∃ unposted, Rescheduled setup.config.channelId
        step.before.state.settle step.after.state unposted) ∨
    (step.before.state.interrupted capture = false ∧
      step.after.state = { step.before.state.settle with stopped := true } ∧
      step.after.activity = (if step.before.managerAlive then .reporting capture else .idle) ∧
      step.reports = if step.before.managerAlive then [capture] else []) :=
  (action ▸ step.happening).turn.classifies failed

theorem over_of_reports (reported : capture ∈ step.reports) :
    step.after.activity.exchanging? = none := by
  obtain ⟨fault, action, failed, _⟩ := of_reports reported
  rcases classifies action failed with ⟨_, idle, _⟩ | ⟨_, _, ends, _⟩
  · rw [idle]
    rfl
  · rw [ends]
    split <;> rfl

end Step

namespace Run

variable {start finish : World} {steps : List (Step setup)} {begin : Step setup}
  {capture : Capture}

/-- A cycle that no stop has hit since it began is not taken for interrupted. -/
theorem not_interrupted (run : Run setup begin.after steps finish)
    (begins : begin.Begins capture)
    (throughout : Throughout Activity.exchanging? capture steps)
    (unhit : ∀ step ∈ steps, ¬ step.Hits) : finish.state.interrupted capture = false := by
  have undisturbed : finish.state.stopped = false ∧
      finish.state.abortRequests = capture.abortEpoch := by
    refine run.keeps (fun world => world.state.stopped = false ∧
      world.state.abortRequests = capture.abortEpoch) ?_ ?_
    · have beginning := begins.beginning
      rw [beginning.state, beginning.abortEpoch]
      exact ⟨beginning.running, rfl⟩
    · rintro step member ⟨running, epoch⟩
      obtain ⟨before, after⟩ := throughout step member
      obtain ⟨still, same⟩ := Step.unhit (unhit step member) before after running
      exact ⟨still, same.trans epoch⟩
  simp [State.interrupted, undisturbed.1, undisturbed.2]

/-- A stop that has hit a cycle is not forgotten, even if a start has followed. -/
theorem interrupted (run : Run setup begin.after steps finish) (sound : begin.after.Sound)
    (begins : begin.Begins capture)
    (throughout : Throughout Activity.exchanging? capture steps)
    (hit : ∃ step ∈ steps, step.Hits) : finish.state.interrupted capture = true := by
  obtain ⟨step, member, hits⟩ := hit
  have within := (throughout step member).1
  have busy : step.before.state.inProgress = true := by
    rw [(run.sound_at sound step member).1.consistent.position, within]
    rfl
  obtain ⟨first, last, rfl⟩ := List.append_of_mem member
  obtain ⟨earlier, later⟩ := run.cut
  have beginning := begins.beginning
  have epoch : capture.abortEpoch = begin.after.state.abortRequests := by
    rw [beginning.state]
    exact beginning.abortEpoch
  have before := earlier.abortRequests_le
  have counted := hits.abortRequests busy
  have after := later.abortRequests_le
  have more : finish.state.abortRequests ≠ capture.abortEpoch := by omega
  simp [State.interrupted, more]

theorem reportsOf_prior (run : Run setup start steps begin.before) (sound : start.Sound)
    (begins : begin.Begins capture) : reportsOf capture.cycle steps = [] := by
  apply reportsOf_eq_nil
  intro step member other reported same
  have current := Step.cycle_of_reports (run.sound_at sound step member).1 reported
  obtain ⟨_, after⟩ := run.cycleSeq_between step member
  have before := step.happening.cycleSeq_le
  have next := begins.beginning.cycle
  omega

theorem reportsOf_during (throughout : Throughout Activity.exchanging? capture steps) :
    reportsOf capture.cycle steps = [] := by
  apply reportsOf_eq_nil
  intro step member other reported _
  have settled := Step.over_of_reports reported
  rw [(throughout step member).2] at settled
  cases settled

theorem reportsOf_later (run : Run setup start steps finish)
    (ended : start.activity.fallible? = none) (begun : capture.cycle ≤ start.state.cycleSeq) :
    reportsOf capture.cycle steps = [] := by
  apply reportsOf_eq_nil
  intro step member other reported same
  obtain ⟨fault, _, failed, _⟩ := Step.of_reports reported
  have within := (Activity.fallible?_of_failure? failed).1
  obtain ⟨first, last, rfl⟩ := List.append_of_mem member
  have later := run.cut.1.fallible_later (by rw [ended]; intro impossible; cases impossible) within
  omega

end Run

/-! ### Failures before delivery -/

/-- The move by which the preparation or the exchange of a cycle ends in a fault. What has not been
compiled is not sealed. -/
inductive Breaks (capture : Capture) (fault : Fault) : Activity → Move → Prop
  | uncompiled {outcome : Outcome Bytes} {sealing : Outcome Nonce}
      (failed : outcome.result = .error fault) :
      Breaks capture fault (.compiling capture) (.compiled outcome sealing)
  | unsealed {outcome : Outcome Bytes} {sealing : Outcome Nonce} {body : Bytes}
      (compiled : outcome.result = .ok body) (failed : sealing.result = .error fault) :
      Breaks capture fault (.compiling capture) (.compiled outcome sealing)
  | unanswered {request : FormPost} {outcome : Outcome Response}
      (failed : outcome.result = .error fault) :
      Breaks capture fault (.sending capture request) (.answered outcome)

namespace Turn

variable {managerAlive : Bool} {state next : State} {activity after : Activity} {move : Move}
  {events : List Event} {capture : Capture} {fault : Fault}

theorem breaks_of_failing
    (turn : Turn setup managerAlive state activity move next after events)
    (failing : after = .failing capture fault) : Breaks capture fault activity move := by
  cases turn with
  | proceed proceeds =>
      cases proceeds with
      | uncompiled failed =>
          cases failing
          rcases failed with failed | ⟨body, compiled, failed⟩
          · exact .uncompiled failed
          · exact .unsealed compiled failed
      | unanswered failed =>
          cases failing
          exact .unanswered failed
      | _ => cases failing
  | settle settles => cases settles <;> cases failing
  | fail failed unhit => split at failing <;> cases failing
  | _ => cases failing

/-- The outcome decides what becomes of the request, so that the fault is the one it ends in. -/
theorem failing_of_breaks
    (turn : Turn setup managerAlive state activity move next after events)
    (breaks : Breaks capture fault activity move) : after = .failing capture fault := by
  cases breaks with
  | uncompiled failed =>
      cases turn with
      | proceed proceeds =>
          cases proceeds with
          | compiled built sealed => cases built.symm.trans failed
          | uncompiled other =>
              rcases other with same | ⟨body, built, _⟩
              · cases same.symm.trans failed
                rfl
              · cases built.symm.trans failed
  | unsealed compiled failed =>
      cases turn with
      | proceed proceeds =>
          cases proceeds with
          | compiled built sealed => cases sealed.symm.trans failed
          | uncompiled other =>
              rcases other with unmade | ⟨body, _, same⟩
              · cases unmade.symm.trans compiled
              · cases same.symm.trans failed
                rfl
  | unanswered failed =>
      cases turn with
      | proceed proceeds =>
          cases proceeds with
          | answered returned => cases returned.symm.trans failed
          | unanswered same =>
              cases same.symm.trans failed
              rfl

theorem move_of_failing
    (turn : Turn setup managerAlive state (.failing capture fault) move next after events) :
    move = .fail := by
  cases turn with
  | proceed proceeds => cases proceeds
  | cancel failed hit rescheduled => rfl
  | fail failed unhit => rfl

end Turn

namespace Step

/-- Compiling, sealing or sending ends in a fault or a panic. -/
def BreaksDown (step : Step setup) (capture : Capture) (fault : Fault) : Prop :=
  ∃ move, step.action = .work move ∧ Breaks capture fault step.before.activity move

theorem breaksDown_iff {step : Step setup} {capture : Capture} {fault : Fault} :
    step.BreaksDown capture fault ↔ step.before.activity ≠ .failing capture fault ∧
      step.after.activity = .failing capture fault := by
  constructor
  · rintro ⟨move, action, breaks⟩
    have turn := (action ▸ step.happening).turn
    refine ⟨?_, turn.failing_of_breaks breaks⟩
    intro failing
    rw [failing] at breaks
    cases breaks
  · rintro ⟨other, failing⟩
    rcases step.happening.turn_or_kept with ⟨move, action, turn⟩ | kept
    · exact ⟨move, action, turn.breaks_of_failing failing⟩
    · exact absurd (kept.symm.trans failing) other

/-- The step classifies a failure of the preparation or the exchange. -/
def failsEarly (step : Step setup) : Bool :=
  match step.before.activity, step.action with
  | .failing .., .work .fail => true
  | _, _ => false

theorem of_failsEarly {step : Step setup} (early : step.failsEarly = true) :
    ∃ capture fault, step.before.activity = .failing capture fault ∧
      step.action = .work .fail := by
  unfold failsEarly at early
  split at early
  · rename_i capture fault failing action
    exact ⟨capture, fault, failing, action⟩
  · cases early

/-- The failure turns the channel off, and is reported once if there is a manager. -/
structure TurnsOff (steps : List (Step setup)) (failed : Step setup) (capture : Capture) :
    Prop where
  stopped : failed.after.state.stopped = true
  unqueued : failed.after.state.queue = failed.before.state.queue
  reported : reportsOf capture.cycle steps =
    if failed.before.managerAlive then [capture] else []

/-- The failure is reported to nobody, and one next cycle is queued if the channel can go on. -/
structure Cancels (steps : List (Step setup)) (failed : Step setup) (capture : Capture) :
    Prop where
  unreported : reportsOf capture.cycle steps = []
  goesOn : failed.before.state.stopped = false → failed.before.state.worker ≠ .retired →
    failed.after.state.stopped = false ∧ failed.after.state.queue.jobs.count .poll = 1
  staysOff : failed.before.state.stopped = true ∨ failed.before.state.worker = .retired →
    failed.after.state.stopped = true

end Step

theorem Rescheduled.goesOn {channelId : String} {state next : State} {activity : Activity}
    {unposted : Option Fault} (rescheduled : Rescheduled channelId state.settle next unposted)
    (consistent : Consistent state activity) (busy : state.inProgress = true)
    (running : state.stopped = false) (unretired : state.worker ≠ .retired) :
    next.stopped = false ∧ next.taskPosted = true := by
  have within : activity ≠ .idle := by
    rintro rfl
    rw [consistent.position] at busy
    cases busy
  cases rescheduled with
  | kept needless =>
      rcases needless with stopped | posted
      · rw [show state.settle.stopped = state.stopped from rfl, running] at stopped
        cases stopped
      · rw [show state.settle.taskPosted = state.taskPosted from rfl,
          consistent.exclusive busy] at posted
        cases posted
  | posted same free served => exact ⟨running, rfl⟩
  | refused same free unserved =>
      rw [show state.settle.serves = state.serves from rfl,
        consistent.serves within unretired] at unserved
      cases unserved

theorem Rescheduled.staysOff {channelId : String} {state next : State} {activity : Activity}
    {unposted : Option Fault} (rescheduled : Rescheduled channelId state.settle next unposted)
    (consistent : Consistent state activity) (busy : state.inProgress = true)
    (off : state.stopped = true ∨ state.worker = .retired) : next.stopped = true := by
  cases rescheduled with
  | kept needless =>
      rcases needless with stopped | posted
      · exact stopped
      · rw [show state.settle.taskPosted = state.taskPosted from rfl,
          consistent.exclusive busy] at posted
        cases posted
  | posted running free served =>
      rcases off with stopped | retired
      · rw [show state.settle.stopped = state.stopped from rfl, stopped] at running
        cases running
      · have slot : state.settle.worker = .retired := retired
        simp [State.serves, slot] at served
  | refused running free unserved => rfl

namespace Run

variable {start finish : World} {prior during later : List (Step setup)}
  {begin failed : Step setup} {capture : Capture} {fault : Fault}

/-- A cycle is reported by the section that classifies it or not at all. -/
theorem reportsOf_cycle
    (run : Run setup start (prior ++ begin :: during ++ failed :: later) finish)
    (sound : start.Sound) (begins : begin.Begins capture)
    (throughout : Throughout Activity.exchanging? capture during)
    (ended : failed.after.activity.fallible? = none) :
    reportsOf capture.cycle (prior ++ begin :: during ++ failed :: later) =
      failed.reports.filter (·.cycle = capture.cycle) := by
  obtain ⟨first, last⟩ := run.cut
  obtain ⟨before, middle⟩ := first.cut
  have beginning := begins.beginning
  have quiet : begin.reports = [] := by
    unfold Step.reports
    rw [beginning.events]
    rfl
  have begun : capture.cycle ≤ failed.after.state.cycleSeq := by
    have first := middle.cycleSeq_le
    have second := failed.happening.cycleSeq_le
    have third := beginning.cycleSeq
    omega
  rw [reportsOf_append, reportsOf_append, reportsOf_cons, reportsOf_cons,
    before.reportsOf_prior sound begins, quiet, reportsOf_during throughout,
    last.reportsOf_later ended begun]
  simp

theorem turnsOff
    (run : Run setup start (prior ++ begin :: during ++ failed :: later) finish)
    (sound : start.Sound) (begins : begin.Begins capture)
    (throughout : Throughout Activity.exchanging? capture during)
    (failure : failed.before.activity = .failing capture fault)
    (action : failed.action = .work .fail) (unhit : ∀ step ∈ during, ¬ step.Hits) :
    failed.TurnsOff (prior ++ begin :: during ++ failed :: later) capture := by
  obtain ⟨_, middle⟩ := run.cut.1.cut
  have kept := middle.not_interrupted begins throughout unhit
  rcases Step.classifies action (by rw [failure]; rfl) with ⟨hit, _⟩ | ⟨_, state, ends, reports⟩
  · rw [kept] at hit
    cases hit
  · have ended : failed.after.activity.fallible? = none := by
      rw [ends]
      split <;> rfl
    constructor
    · rw [state]
    · rw [state]
      rfl
    · rw [run.reportsOf_cycle sound begins throughout ended, reports]
      split <;> simp

theorem cancels
    (run : Run setup start (prior ++ begin :: during ++ failed :: later) finish)
    (sound : start.Sound) (begins : begin.Begins capture)
    (throughout : Throughout Activity.exchanging? capture during)
    (failure : failed.before.activity = .failing capture fault)
    (action : failed.action = .work .fail) (hit : ∃ step ∈ during, step.Hits) :
    failed.Cancels (prior ++ begin :: during ++ failed :: later) capture := by
  obtain ⟨early, middle⟩ := run.cut.1.cut
  have begun : begin.after.Sound := (early.sound sound).happening begin.happening
  have interrupted := middle.interrupted begun begins throughout hit
  have consistent : Consistent failed.before.state failed.before.activity :=
    (middle.sound begun).consistent
  have after : Consistent failed.after.state failed.after.activity :=
    ((middle.sound begun).happening failed.happening).consistent
  have busy : failed.before.state.inProgress = true := by
    rw [consistent.position, failure]
    rfl
  rcases Step.classifies action (by rw [failure]; rfl) with ⟨_, idle, reports, _, rest⟩ | ⟨free, _⟩
  · constructor
    · rw [run.reportsOf_cycle sound begins throughout (by rw [idle]; rfl), reports]
      rfl
    · intro running unretired
      obtain ⟨still, posted⟩ := rest.goesOn consistent busy running unretired
      have pending := after.pending
      rw [idle, posted] at pending
      change 0 + failed.after.state.queue.jobs.count .poll = 1 at pending
      exact ⟨still, by omega⟩
    · intro off
      exact rest.staysOff consistent busy off
  · rw [interrupted] at free
    cases free

/-- A failure ahead of the delivery has come about by a breakdown. -/
theorem broken_down {steps : List (Step setup)} (run : Run setup start steps finish)
    (other : start.activity ≠ .failing capture fault)
    (failing : finish.activity = .failing capture fault) :
    ∃ broken ∈ steps, broken.BreaksDown capture fault := by
  apply Classical.byContradiction
  intro never
  refine run.keeps (fun world => world.activity ≠ .failing capture fault) other ?_ failing
  intro step member before after
  exact never ⟨step, member, Step.breaksDown_iff.mpr ⟨before, after⟩⟩

/-- A failure ahead of the delivery is classified next by the worker, which nothing keeps from it. -/
theorem classifies_next {steps : List (Step setup)} (run : Run setup start steps finish)
    (yields : start.Yields) (failing : start.activity = .failing capture fault) :
    (finish.activity = .failing capture fault ∧
      (finish.act? setup (.work .fail)).isSome = true) ∨
    ∃ waiting, ∃ failed : Step setup, ∃ rest, steps = waiting ++ failed :: rest ∧
      failed.before.activity = .failing capture fault ∧ failed.action = .work .fail := by
  rcases run.moves_on yields failing rfl rfl with
    still | ⟨waiting, failed, rest, move, split, _, here, action, turn⟩
  · exact .inl still
  · exact .inr ⟨waiting, failed, rest, split, here, turn.move_of_failing ▸ action⟩

/-- A cycle whose preparation or exchange fails began once, with the server bound then, and has
broken down since. If no stop has found the channel running since it began, the failure turns the
channel off, queues nothing, and is reported once, of that server, if there is a manager. If one
has, nothing is reported of the cycle, and one next cycle is queued unless the channel stays off or
its worker has retired. The manager is told of no other end of a cycle but of a response that cannot
be delivered. Compiling, sealing and sending that end in a fault or a panic, and nothing else, lead
to such a failure, and the worker classifies it next. -/
theorem failure_classified {multiplexer : Option Multiplexer}
    {demultiplexer : Option Demultiplexer} {managerAlive : Bool} {steps : List (Step setup)}
    (run : Run setup (.new multiplexer demultiplexer managerAlive) steps finish) :
    (∀ earlier failed later capture fault, steps = earlier ++ failed :: later →
      failed.before.activity = .failing capture fault → failed.action = .work .fail →
      ∃ prior begin during, earlier = prior ++ begin :: during ∧ begin.Begins capture ∧
        begin.before.state.server = some capture.server ∧
        (∀ step ∈ prior ++ (during ++ failed :: later), ∀ other, step.Begins other →
          other.cycle ≠ capture.cycle) ∧
        (∃ broken ∈ during, broken.BreaksDown capture fault) ∧
        ((∀ step ∈ during, ¬ step.Hits) → failed.TurnsOff steps capture) ∧
        ((∃ step ∈ during, step.Hits) → failed.Cancels steps capture)) ∧
    (∀ step ∈ steps, ∀ capture ∈ step.reports, step.reports = [capture] ∧
      step.action = .work .fail ∧ ∃ fault, step.before.activity = .failing capture fault ∨
        step.before.activity = .undelivered capture fault) ∧
    (∀ step ∈ steps, ∀ capture fault, step.BreaksDown capture fault ↔
      step.before.activity ≠ .failing capture fault ∧
        step.after.activity = .failing capture fault) ∧
    ∀ earlier (broken : Step setup) later capture fault, steps = earlier ++ broken :: later →
      broken.BreaksDown capture fault →
      (finish.activity = .failing capture fault ∧
        (finish.act? setup (.work .fail)).isSome = true) ∨
      ∃ waiting, ∃ failed : Step setup, ∃ rest, later = waiting ++ failed :: rest ∧
        failed.before.activity = .failing capture fault ∧ failed.action = .work .fail := by
  have sound := World.Sound.new multiplexer demultiplexer managerAlive
  refine ⟨?_, ?_, fun _ _ _ _ => Step.breaksDown_iff, ?_⟩
  · intro earlier failed later capture fault split failure action
    subst split
    have within : failed.before.activity.exchanging? = some capture := by
      rw [failure]
      rfl
    obtain ⟨prior, begin, during, rfl, begins, throughout⟩ :=
      run.cut.1.since_begin Activity.exchanging? (fun step => step.exchanging?)
        (by intro impossible; cases impossible) within
    have once : Run setup (.new multiplexer demultiplexer managerAlive)
        (prior ++ begin :: (during ++ failed :: later)) finish := by
      rw [← List.cons_append, ← List.append_assoc]
      exact run
    have fresh : begin.after.activity ≠ .failing capture fault := by
      rw [begins.2]
      nofun
    have broken := run.cut.1.cut.2.broken_down fresh failure
    exact ⟨prior, begin, during, rfl, begins, begins.beginning.server, once.begins_once begins,
      broken, run.turnsOff sound begins throughout failure action,
      run.cancels sound begins throughout failure action⟩
  · intro step member capture reported
    obtain ⟨fault, action, failed, reports⟩ := Step.of_reports reported
    exact ⟨reports, action, fault, Activity.of_failure? failed⟩
  · rintro earlier broken later capture fault rfl breaks
    obtain ⟨before, after⟩ := run.cut
    exact after.classifies_next ((before.yields (.new _ _ _)).happening broken.happening)
      (Step.breaksDown_iff.mp breaks).2

/-- A multiplexer that fails for the first request, while a thread stops and starts the channel. -/
theorem failure_classified_compiling : ∃ steps finish earlier failed capture fault,
    Run Trial.client Trial.channel steps finish ∧ steps = earlier ++ [failed] ∧
      failed.before.activity = .failing capture fault ∧ failed.action = .work .fail ∧
      finish.pendingPolls = 1 ∧
      ∃ prior begin during, earlier = prior ++ begin :: during ∧ begin.Begins capture ∧
        (∃ broken ∈ during, broken.BreaksDown capture fault) ∧
        ((∃ step ∈ during, step.Hits) → failed.Cancels steps capture) := by
  have seen : (Trial.channel.record? Trial.client
      (Trial.bind 0 1 ++ Trial.begin ++ Trial.restart 1 ++
        [.work (.compiled (.failed .badKey) (.returned Trial.draw.nonce)), .work .fail])).map
        (fun record => (record.1.getLast?.any Step.failsEarly, record.2.pendingPolls)) =
      some (true, 1) := by
    decide +kernel
  obtain ⟨⟨steps, finish⟩, recorded, shape⟩ := Option.map_eq_some_iff.mp seen
  obtain ⟨last, pending⟩ := Prod.mk.inj shape
  obtain ⟨failed, ends, early⟩ := (Option.any_eq_true _ _).mp last
  obtain ⟨earlier, split⟩ := List.getLast?_eq_some_iff.mp ends
  obtain ⟨capture, fault, failing, action⟩ := Step.of_failsEarly early
  have run := Run.of_record recorded
  obtain ⟨prior, begin, during, cut, begins, _, _, broken, _, cancels⟩ :=
    (failure_classified run).1 earlier failed [] capture fault split failing action
  exact ⟨steps, finish, earlier, failed, capture, fault, run, split, failing, action, pending,
    prior, begin, during, cut, begins, broken, cancels⟩

end Run

end LongPoll.Channel
