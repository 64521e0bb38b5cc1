import LongPoll.Proofs.Failure
import LongPoll.Proofs.Progress
import LongPoll.Proofs.Stop

set_option autoImplicit false

/-!
What becomes of a restart. A start that finds the channel stopped, or a call that stops and starts
it, turns the channel on while an older cycle may still be at work. An older cycle whose exchange was
not over has been hit by then, and its failure is taken for a cancellation. One whose response was
being delivered has not, and its failure still turns the channel off: that is the one way in which
an older cycle undoes a restart.
-/

namespace LongPoll.Channel

variable {setup : Setup}

/-! ### Restarts -/

namespace Step

/-- The step is the start with which a call returns without a fault. -/
def StartsOk (step : Step setup) (index : Nat) : Prop :=
  step.RunsFor index .start ∧
    ∃ call, step.after.calls[index]? = some call ∧ call.result = .ok ()

/-- When the step came, the response of a cycle was being delivered, and no stop had hit the
exchange of that cycle. -/
def LeavesBehind (step : Step setup) (capture : Capture) : Prop :=
  step.before.activity.delivering? = some capture ∧
    step.before.state.abortRequests = capture.abortEpoch

end Step

/-- The steps from the first section of a restart to its last: a start that finds the channel
stopped, or a call that stops and starts it. -/
inductive Restart : Step setup → List (Step setup) → Prop
  | start {step : Step setup} {index : Nat} (starts : step.StartsOk index)
      (stopped : step.before.state.stopped = true) : Restart step []
  | again {opening closing : Step setup} {between : List (Step setup)} {index : Nat}
      (stops : opening.RunsFor index .stop) (starts : closing.StartsOk index) :
      Restart opening (between ++ [closing])

theorem Started.running_of_ok {channelId : String} {spawnFault : Option String}
    {state next : State} (ends : Started channelId spawnFault state next (.ok ())) :
    next.stopped = false := by
  cases ends with
  | alreadyRunning running => exact running
  | resumed stopped ahead => rfl
  | posted stopped unposted quiet served => rfl

theorem Advances.of_start {chance : Chance} {state next : State} {call after : Call}
    {events : List Event} {rest : List Section}
    (advances : Advances setup chance state call next after events)
    (sections : call.sections = .start :: rest) :
    Started setup.config.channelId chance.spawnFault state next after.result :=
  advances.shown sections

theorem Step.StartsOk.running {step : Step setup} {index : Nat} (starts : step.StartsOk index) :
    step.after.state.stopped = false := by
  obtain ⟨runs, returned, kept, ok⟩ := starts
  obtain ⟨chance, call, next, _, ⟨rest, sections⟩, own, advances⟩ := runs.advances
  cases Option.some.inj (own.symm.trans kept)
  have started := advances.of_start sections
  rw [ok] at started
  exact started.running_of_ok

theorem Restart.running {opening : Step setup} {rest : List (Step setup)} {middle : World}
    (restart : Restart opening rest) (run : Run setup opening.after rest middle) :
    middle.state.stopped = false := by
  cases restart with
  | start starts stopped =>
      rw [run.finish_of_nil]
      exact starts.running
  | again stops starts =>
      obtain ⟨_, last⟩ := run.cut
      rw [last.finish_of_nil]
      exact starts.running

/-- An exchange that is not over when a restart comes has been hit once it has come. -/
theorem Restart.hits {opening : Step setup} {rest : List (Step setup)} {capture : Capture}
    (restart : Restart opening rest) (sound : opening.before.Sound)
    (within : opening.before.activity.exchanging? = some capture) :
    capture.abortEpoch < opening.after.state.abortRequests := by
  have consistent := sound.consistent
  have monotone := opening.happening.abortRequests_le
  have stopped_before (stopped : opening.before.state.stopped = true) :
      capture.abortEpoch < opening.after.state.abortRequests :=
    Nat.lt_of_lt_of_le (consistent.hit capture within stopped) monotone
  cases restart with
  | start starts stopped => exact stopped_before stopped
  | again stops starts =>
      cases stopped : opening.before.state.stopped with
      | true => exact stopped_before stopped
      | false =>
          have busy : opening.before.state.inProgress = true := by
            rw [consistent.position, within]
            rfl
          have hits : opening.Hits := ⟨⟨_, stops⟩, stopped⟩
          have counted := hits.abortRequests busy
          have epoch := consistent.epoch capture (Activity.capture?_of_exchanging? within)
          omega

/-! ### Delivery -/

/-- A response that is being delivered is, until its cycle can no longer fail. -/
theorem Turn.delivering? {managerAlive : Bool} {state next : State} {activity after : Activity}
    {move : Move} {events : List Event} {capture : Capture}
    (turn : Turn setup managerAlive state activity move next after events)
    (delivering : activity.delivering? = some capture)
    (within : after.fallible? = some capture) : after.delivering? = some capture := by
  cases turn with
  | proceed proceeds => cases proceeds <;> first | exact within | cases delivering
  | settle settles => cases delivering
  | fail failed unhit => split at within <;> cases within
  | begin running captured => cases delivering
  | _ => cases within

theorem Step.delivering? {step : Step setup} {capture : Capture}
    (delivering : step.before.activity.delivering? = some capture)
    (within : step.after.activity.fallible? = some capture) :
    step.after.activity.delivering? = some capture := by
  rcases step.happening.turn_or_kept with ⟨move, _, turn⟩ | kept
  · exact turn.delivering? delivering within
  · rw [kept]
    exact delivering

theorem Happening.abortRequests_eq {before after : World} {action : Action}
    {events : List Event} (happening : Happening setup before action after events)
    (quiet : before.state.inProgress = false) :
    after.state.abortRequests = before.state.abortRequests := by
  cases happening with
  | work free turn => exact turn.abortRequests
  | advance found advances =>
      cases advances with
      | start sections started => exact started.abortRequests
      | stopPanicking | stopWaiting | stopPassing =>
          simp [State.stop, State.stopAborts, quiet]
      | _ => rfl
  | _ => rfl

/-- Stops that come while a response is being delivered leave no trace. -/
theorem Run.delivering {start finish : World} {steps : List (Step setup)} {capture : Capture}
    (run : Run setup start steps finish) (sound : start.Sound)
    (delivering : start.activity.delivering? = some capture)
    (throughout : ∀ step ∈ steps, step.after.activity.fallible? = some capture) :
    finish.activity.delivering? = some capture ∧
      finish.state.abortRequests = start.state.abortRequests := by
  have all : finish.Sound ∧ finish.activity.delivering? = some capture ∧
      finish.state.abortRequests = start.state.abortRequests := by
    refine run.keeps (fun world => world.Sound ∧ world.activity.delivering? = some capture ∧
      world.state.abortRequests = start.state.abortRequests) ⟨sound, delivering, rfl⟩ ?_
    rintro step member ⟨sound, delivering, same⟩
    have quiet : step.before.state.inProgress = false := by
      rw [sound.consistent.position, Activity.exchanging?_of_delivering? delivering]
      rfl
    refine ⟨sound.happening step.happening, ?_, ?_⟩
    · exact Step.delivering? delivering (throughout step member)
    · exact (step.happening.abortRequests_eq quiet).trans same
  exact all.2

/-! ### Failures of older cycles -/

/-- A failure turns a running channel off if no stop has hit the cycle. -/
theorem Step.Fails.switchesOff_iff {step : Step setup} {capture : Capture}
    (fails : step.Fails capture) (sound : step.before.Sound)
    (unretired : step.before.state.worker ≠ .retired)
    (running : step.before.state.stopped = false) :
    step.SwitchesOff ↔ step.before.state.abortRequests = capture.abortEpoch := by
  obtain ⟨action, fault, failed⟩ := fails
  have interrupted : step.before.state.interrupted capture = false ↔
      step.before.state.abortRequests = capture.abortEpoch := by
    simp [State.interrupted, running]
  rw [← interrupted]
  rcases Step.classifies action failed with ⟨hit, _, _, _, rescheduled⟩ | ⟨unhit, state, _⟩
  · have served : step.before.state.settle.serves = true :=
      sound.consistent.serves (by intro idle; rw [idle] at failed; cases failed) unretired
    have same : step.after.state.stopped = step.before.state.stopped :=
      rescheduled.stopped_eq served
    constructor
    · rintro ⟨_, off⟩
      rw [same, running] at off
      cases off
    · intro unhit
      rw [hit] at unhit
      cases unhit
  · constructor
    · intro _
      exact unhit
    · intro _
      refine ⟨running, ?_⟩
      rw [state]

namespace Run

variable {start finish : World} {earlier rest later steps : List (Step setup)}
  {opening step : Step setup} {capture : Capture}

theorem unretired (run : Run setup start steps finish)
    (unretired : finish.state.worker ≠ .retired) : start.state.worker ≠ .retired := by
  intro retired
  exact unretired (run.keeps (fun world => world.state.worker = .retired) retired
    fun step _ before => step.happening.retired before)

/-- The failure of a cycle that is older than a restart turns the channel off again exactly if the
restart has left its delivery behind. -/
theorem switchesOff_iff_leavesBehind (run : Run setup opening.after steps step.before)
    (restart : Restart opening rest) (sound : opening.before.Sound)
    (unretired : step.before.state.worker ≠ .retired) (fails : step.Fails capture)
    (older : capture.cycle ≤ opening.before.state.cycleSeq)
    (running : step.before.state.stopped = false) :
    step.SwitchesOff ↔ opening.LeavesBehind capture := by
  have begun : opening.after.Sound := sound.happening opening.happening
  rw [fails.switchesOff_iff (run.sound begun) unretired running]
  obtain ⟨_, fault, failed⟩ := fails
  have within := (Activity.fallible?_of_failure? failed).1
  have known := Nat.le_trans older opening.happening.cycleSeq_le
  obtain ⟨after, throughout⟩ :=
    run.view_kept Activity.fallible? (fun step => step.fallible?) (run.unbegun known) within
  have before : opening.before.activity.fallible? = some capture := by
    rcases opening.fallible? after with kept | begins
    · exact kept
    · have number := begins.beginning.cycle
      omega
  rcases Activity.exchanging_or_delivering before with exchanging | delivering
  · have hit := restart.hits sound exchanging
    have monotone := run.abortRequests_le
    constructor
    · intro unhit
      omega
    · rintro ⟨delivering, _⟩
      rw [Activity.exchanging?_of_delivering? delivering] at exchanging
      cases exchanging
  · have quiet : opening.before.state.inProgress = false := by
      rw [sound.consistent.position, Activity.exchanging?_of_delivering? delivering]
      rfl
    have first := opening.happening.abortRequests_eq quiet
    have second := (run.delivering begun (Step.delivering? delivering after)
      fun other member => (throughout other member).2).2
    rw [second, first]
    constructor
    · intro unhit
      exact ⟨delivering, unhit⟩
    · rintro ⟨_, unhit⟩
      exact unhit

theorem server (run : Run setup start steps finish)
    (unbound : ∀ step ∈ steps, ∀ server session, ¬ step.Runs (.bind server session)) :
    finish.state.server = start.state.server := by
  refine run.keeps (fun world => world.state.server = start.state.server) rfl ?_
  intro step member same
  rw [← same]
  apply step.happening.server
  intro index chance call server session rest action found sections
  exact unbound step member server session ⟨index, chance, call, rest, action, found, sections⟩

end Run

theorem Step.Runs.bind {step : Step setup} {server : PollServer} {session : Session}
    (runs : step.Runs (.bind server session)) :
    step.after.state = step.before.state.bind server session := by
  obtain ⟨index, runs⟩ := runs
  obtain ⟨chance, call, next, _, ⟨rest, sections⟩, _, advances⟩ := runs.advances
  exact advances.shown sections

namespace Run

variable {start middle finish : World} {rest later : List (Step setup)}
  {opening step : Step setup} {capture : Capture}

theorem switchesOff_after (restart : Restart opening rest) (sound : opening.before.Sound)
    (restarting : Run setup opening.after rest middle) (run : Run setup middle later finish)
    (unretired : finish.state.worker ≠ .retired) (member : step ∈ later)
    (switches : step.SwitchesOff) :
    step.Runs .stop ∨ step.Misconfigures ∨ ∃ capture, step.Fails capture ∧
      (opening.before.state.cycleSeq < capture.cycle ∨ opening.LeavesBehind capture) := by
  obtain ⟨first, second, rfl⟩ := List.append_of_mem member
  obtain ⟨before, after⟩ := run.cut
  have path := restarting.append before
  have begun : opening.after.Sound := sound.happening opening.happening
  have present := (Run.cons step after).unretired unretired
  rcases switches.cause (path.sound begun) present with stops | missing | ⟨capture, fails, unhit⟩
  · exact .inl stops
  · exact .inr (.inl missing)
  · refine .inr (.inr ⟨capture, fails, ?_⟩)
    by_cases older : capture.cycle ≤ opening.before.state.cycleSeq
    · right
      exact (path.switchesOff_iff_leavesBehind restart sound present fails older switches.1).mp
        switches
    · left
      omega

/-- A cycle that is not older than a binding was begun with the server bound, as long as nothing
else has been bound. -/
theorem begins_bound {bind : Step setup} {server : PollServer} {session : Session}
    (binds : bind.Runs (.bind server session)) (sound : bind.after.Sound)
    (run : Run setup bind.after later finish)
    (unbound : ∀ step ∈ later, ∀ server session, ¬ step.Runs (.bind server session))
    (within : finish.activity.fallible? = some capture)
    (newer : bind.before.state.cycleSeq < capture.cycle) :
    ∃ begin ∈ later, begin.Begins capture ∧ capture.server = server := by
  have number : bind.after.state.cycleSeq = bind.before.state.cycleSeq := by
    rw [binds.bind]
    rfl
  have bound : bind.after.state.server = some server := by
    rw [binds.bind]
    rfl
  have absent : bind.after.activity.fallible? ≠ some capture := by
    intro present
    have current := sound.consistent.current capture (Activity.capture?_of_fallible? present)
    omega
  obtain ⟨prior, begin, during, rfl, begins, _⟩ :=
    run.since_begin Activity.fallible? (fun step => step.fallible?) absent within
  refine ⟨begin, by simp, begins, ?_⟩
  have kept := run.cut.1.server fun step earlier => unbound step (by simp [earlier])
  rw [bound, begins.beginning.server] at kept
  exact Option.some.inj kept

/-- A restart that has bound a server reaches it before the worker has nothing left to do, unless a
cycle begun before the binding turns the channel off first. -/
theorem reaches_bound {bind : Step setup} {second : List (Step setup)} {server : PollServer}
    {session : Session} (sound : bind.before.Sound) (furnished : Furnished bind.before.state)
    (awake : Awake bind.before.state bind.before.activity)
    (binds : bind.Runs (.bind server session))
    (restarting : Run setup bind.after second middle) (run : Run setup middle later finish)
    (running : middle.state.stopped = false) (unretired : finish.state.worker ≠ .retired)
    (unbound : ∀ step ∈ second ++ later, ∀ server session,
      ¬ step.Runs (.bind server session))
    (unstopped : ∀ step ∈ later, ¬ step.Runs .stop)
    (begun : 0 < bind.before.state.cycleSeq) (idle : finish.activity = .idle)
    (done : finish.pendingPolls = 0) :
    (∃ begin ∈ second ++ later, ∃ capture, begin.Begins capture ∧ capture.server = server) ∨
      ∃ step ∈ later, ∃ capture, step.Fails capture ∧ step.SwitchesOff ∧
        capture.cycle ≤ bind.before.state.cycleSeq := by
  have bound : bind.after.Sound := sound.happening bind.happening
  have path := restarting.append run
  have off : finish.state.stopped = true := by
    have still := path.awake bound (awake.happening sound bind.happening)
    have pending := (path.sound bound).consistent.pending
    cases stopped : finish.state.stopped with
    | true => rfl
    | false =>
        rcases still stopped with posted | unfinished
        · rw [posted] at pending
          have none_left : finish.activity.heldPolls + finish.state.queue.jobs.count .poll = 0 :=
            done
          rw [none_left] at pending
          cases pending
        · rw [idle] at unfinished
          cases unfinished
  obtain ⟨first, step, last, rfl, switches⟩ := run.switchesOff running off
  obtain ⟨before, after⟩ := run.cut
  have way := restarting.append before
  have present := (Run.cons step after).unretired unretired
  rcases switches.cause (way.sound bound) present with stops | ⟨_, _, fault, missing⟩ |
    ⟨capture, fails, _⟩
  · exact absurd stops (unstopped step (by simp))
  · have counted : 0 < step.before.state.cycleSeq := by
      have first := bind.happening.cycleSeq_le
      have second := way.cycleSeq_le
      omega
    have all := way.furnished (bind.happening.furnished furnished) counted
    obtain ⟨capture, captured⟩ := State.capture_of_furnished all
    rw [captured] at missing
    cases missing
  · by_cases newer : bind.before.state.cycleSeq < capture.cycle
    · left
      obtain ⟨_, fault, failed⟩ := fails
      obtain ⟨begin, member, begins, same⟩ := way.begins_bound binds bound
        (fun other earlier => unbound other (by
          rcases List.mem_append.mp earlier with old | new
          · simp [old]
          · simp [new]))
        (Activity.fallible?_of_failure? failed).1 newer
      refine ⟨begin, ?_, capture, begins, same⟩
      rcases List.mem_append.mp member with old | new
      · simp [old]
      · simp [new]
    · right
      exact ⟨step, by simp, capture, fails, switches, by omega⟩

end Run

/-! ### A restart that is lost -/

/-- The server of the cycle that an event asks a request for. -/
def Event.compiledServer? : Event → Option PollServer
  | .compile capture => some capture.server
  | _ => none

namespace Step

variable {step : Step setup}

def startsOk (step : Step setup) (index : Nat) : Bool :=
  step.runsFor index .start && step.after.calls[index]?.any fun call => call.result.isOk

theorem of_startsOk {index : Nat} (starts : step.startsOk index = true) :
    step.StartsOk index := by
  obtain ⟨runs, returned⟩ := Bool.and_eq_true_iff.mp starts
  obtain ⟨call, found, ok⟩ := (Option.any_eq_true _ _).mp returned
  exact ⟨of_runsFor runs, call, found, Except.eq_ok_of_isOk ok⟩

/-- The cycle whose failure turns a running channel off by the step. -/
def turnedOffBy? (step : Step setup) : Option Capture :=
  match step.action, step.before.activity.failure? with
  | .work .fail, some (capture, _) =>
    if !step.before.state.stopped && step.after.state.stopped then some capture else none
  | _, _ => none

theorem of_turnedOffBy? {capture : Capture} (off : step.turnedOffBy? = some capture) :
    step.SwitchesOff ∧ step.Fails capture := by
  unfold turnedOffBy? at off
  split at off
  · rename_i failed fault action failure
    split at off
    · rename_i switches
      cases off
      obtain ⟨running, stopped⟩ := Bool.and_eq_true_iff.mp switches
      exact ⟨⟨by simpa using running, stopped⟩, action, fault, failure⟩
    · cases off
  · cases off

theorem Begins.server_of_events {capture : Capture} (begins : step.Begins capture) :
    capture.server ∈ step.events.filterMap Event.compiledServer? := by
  rw [begins.beginning.events]
  exact List.mem_singleton.mpr rfl

end Step

/-- Whether a restart follows the first twelve steps, and the failure of an older cycle undoes it at
once. -/
def Trial.undoes (steps : List (Step setup)) : Bool :=
  match steps.drop 12 with
  | opening :: _ :: closing :: failed :: _ =>
    opening.runsFor 1 .stop && closing.startsOk 1 &&
      failed.turnedOffBy?.any (·.cycle ≤ opening.before.state.cycleSeq)
  | _ => false

theorem Trial.of_undoes {steps : List (Step setup)} (undone : Trial.undoes steps = true) :
    ∃ earlier opening rest failed last capture,
      steps = earlier ++ opening :: (rest ++ failed :: last) ∧ Restart opening rest ∧
      failed.SwitchesOff ∧ failed.Fails capture ∧
      capture.cycle ≤ opening.before.state.cycleSeq := by
  unfold Trial.undoes at undone
  split at undone
  · rename_i opening between closing failed last dropped
    obtain ⟨both, off⟩ := Bool.and_eq_true_iff.mp undone
    obtain ⟨stops, starts⟩ := Bool.and_eq_true_iff.mp both
    obtain ⟨capture, found, older⟩ := (Option.any_eq_true _ _).mp off
    obtain ⟨switches, fails⟩ := Step.of_turnedOffBy? found
    refine ⟨steps.take 12, opening, [between] ++ [closing], failed, last, capture, ?_,
      .again (Step.of_runsFor stops) (Step.of_startsOk starts), switches, fails,
      of_decide_eq_true older⟩
    have whole := List.take_append_drop 12 steps
    rw [dropped] at whole
    exact whole.symm
  · cases undone

/-- A channel is bound to a second server while the response of the first is being delivered. The
delivery then fails, and turns the channel off: it stays idle, and the second server never gets a
request. -/
theorem Trial.rebind_undone : ∃ steps finish, Run Trial.client Trial.channel steps finish ∧
    Trial.undoes steps = true ∧ finish.state.worker = .running ∧
    finish.state.server = some (Trial.server 2) ∧ finish.state.stopped = true ∧
    finish.activity = .idle ∧ finish.pendingPolls = 0 ∧
    ∀ step ∈ steps, ∀ capture, step.Begins capture → capture.server = Trial.server 1 := by
  have seen : (Trial.channel.record? Trial.client Trial.rebind).any (fun record =>
      Trial.undoes record.1 && record.2.state.worker = .running &&
        record.2.state.server = some (Trial.server 2) && record.2.state.stopped &&
        record.2.activity = .idle && record.2.pendingPolls = 0 &&
        (record.1.flatMap fun step => step.events.filterMap Event.compiledServer?) =
          [Trial.server 1]) = true := by
    decide +kernel
  obtain ⟨⟨steps, finish⟩, recorded, checked⟩ := (Option.any_eq_true _ _).mp seen
  simp only [Bool.and_eq_true, decide_eq_true_eq] at checked
  obtain ⟨⟨⟨⟨⟨⟨undone, slot⟩, bound⟩, stopped⟩, idle⟩, done⟩, compiled⟩ := checked
  refine ⟨steps, finish, Run.of_record recorded, undone, slot, bound, stopped, idle, done, ?_⟩
  intro step member capture begins
  have among : capture.server ∈
      steps.flatMap fun step => step.events.filterMap Event.compiledServer? :=
    List.mem_flatMap.mpr ⟨step, member, begins.server_of_events⟩
  rw [compiled] at among
  exact List.mem_singleton.mp among

/-! ### The outcome of a restart -/

/-- What becomes of a restart of a channel that is not shut down. It is undone only by a later stop,
by a later cycle for which something is missing, by the failure of a later cycle, or by the failure
of the one older cycle that it has left behind: a cycle whose response was being delivered when the
restart came, and whose exchange no stop had hit. An older cycle that fails while the channel runs
undoes the restart exactly if it is that one. After a restart that binds a server, with no stop or
binding to follow, a cycle with that server begins before the worker has nothing left to do, unless
that one, or a cycle that another thread has started between the stop and the binding, turns the
channel off; no cycle begins then until the next start. -/
theorem Run.restart_outcome {multiplexer : Option Multiplexer}
    {demultiplexer : Option Demultiplexer} {managerAlive : Bool}
    {earlier rest later : List (Step setup)} {opening : Step setup} {finish : World}
    (run : Run setup (.new multiplexer demultiplexer managerAlive)
      (earlier ++ opening :: (rest ++ later)) finish)
    (restart : Restart opening rest) (unretired : finish.state.worker ≠ .retired) :
    (∀ step ∈ later, step.SwitchesOff → step.Runs .stop ∨ step.Misconfigures ∨
      ∃ capture, step.Fails capture ∧
        (opening.before.state.cycleSeq < capture.cycle ∨ opening.LeavesBehind capture)) ∧
    (∀ step ∈ later, ∀ capture, step.Fails capture →
      capture.cycle ≤ opening.before.state.cycleSeq → step.before.state.stopped = false →
        (step.SwitchesOff ↔ opening.LeavesBehind capture)) ∧
    (∀ first bind second server session, rest = first ++ bind :: second →
      bind.Runs (.bind server session) →
      (∀ step ∈ second ++ later, ∀ server session, ¬ step.Runs (.bind server session)) →
      (∀ step ∈ later, ¬ step.Runs .stop) → 0 < opening.before.state.cycleSeq →
      finish.activity = .idle → finish.pendingPolls = 0 →
        (∃ begin ∈ second ++ later, ∃ capture, begin.Begins capture ∧ capture.server = server) ∨
        ∃ step ∈ later, ∃ capture, step.Fails capture ∧ step.SwitchesOff ∧
          (opening.LeavesBehind capture ∨ opening.before.state.cycleSeq < capture.cycle ∧
            capture.cycle ≤ bind.before.state.cycleSeq)) ∧
    ∀ first step last, later = first ++ step :: last → step.SwitchesOff →
      (∀ other ∈ last, ¬ other.Runs .start) →
        finish.state.stopped = true ∧ ∀ other ∈ last, ∀ capture, ¬ other.Begins capture := by
  obtain ⟨before, after⟩ := run.cut
  obtain ⟨middle, restarting, following⟩ := after.split
  have fresh := World.Sound.new multiplexer demultiplexer managerAlive
  have sound := before.sound fresh
  have begun : opening.after.Sound := sound.happening opening.happening
  have exact_when (step : Step setup) (member : step ∈ later) (capture : Capture)
      (fails : step.Fails capture) (older : capture.cycle ≤ opening.before.state.cycleSeq)
      (running : step.before.state.stopped = false) :
      step.SwitchesOff ↔ opening.LeavesBehind capture := by
    obtain ⟨first, last, rfl⟩ := List.append_of_mem member
    obtain ⟨path, tail⟩ := following.cut
    have present := (Run.cons step tail).unretired unretired
    exact (restarting.append path).switchesOff_iff_leavesBehind restart sound present fails older
      running
  refine ⟨?_, exact_when, ?_, ?_⟩
  · intro step member switches
    exact Run.switchesOff_after restart sound restarting following unretired member switches
  · rintro first bind second server session rfl binds unbound unstopped counted idle done
    obtain ⟨path, last⟩ := restarting.cut
    have furnished : Furnished bind.before.state :=
      path.furnished (opening.happening.furnished (before.furnished
        (by intro impossible; exact absurd impossible (Nat.lt_irrefl 0))))
    have started : Awake opening.before.state opening.before.activity :=
      before.awake fresh (by intro impossible; cases impossible)
    have awake : Awake bind.before.state bind.before.activity :=
      path.awake begun (started.happening sound opening.happening)
    have counted_bind : 0 < bind.before.state.cycleSeq := by
      have first_le := opening.happening.cycleSeq_le
      have second_le := path.cycleSeq_le
      omega
    rcases last.reaches_bound (path.sound begun) furnished awake binds following
      (restart.running restarting) unretired unbound unstopped counted_bind idle done with
      reached | ⟨step, member, capture, fails, switches, number⟩
    · exact .inl reached
    · refine .inr ⟨step, member, capture, fails, switches, ?_⟩
      by_cases older : capture.cycle ≤ opening.before.state.cycleSeq
      · exact .inl ((exact_when step member capture fails older switches.1).mp switches)
      · exact .inr ⟨by omega, number⟩
  · rintro first step last rfl switches unstarted
    obtain ⟨_, tail⟩ := following.cut
    refine ⟨(tail.stopped unstarted switches.2).1, ?_⟩
    intro other member capture begins
    have still := tail.stopped_at unstarted switches.2 other member
    rw [begins.beginning.running] at still
    cases still

/-- The older cycle is the one that the restart has left behind. -/
theorem Run.restart_outcome_rebinding : ∃ opening rest later finish step capture,
    (∃ earlier, Run Trial.client Trial.channel (earlier ++ opening :: (rest ++ later)) finish) ∧
    Restart opening rest ∧ finish.state.worker ≠ .retired ∧ step ∈ later ∧ step.SwitchesOff ∧
    step.Fails capture ∧ opening.LeavesBehind capture := by
  obtain ⟨steps, finish, run, undone, slot, _⟩ := Trial.rebind_undone
  obtain ⟨earlier, opening, rest, failed, last, capture, rfl, restart, switches, fails, older⟩ :=
    Trial.of_undoes undone
  have unretired : finish.state.worker ≠ .retired := by
    rw [slot]
    decide
  have outcome := Run.restart_outcome run restart unretired
  have left : opening.LeavesBehind capture :=
    (outcome.2.1 failed List.mem_cons_self capture fails older switches.1).mp switches
  exact ⟨opening, rest, failed :: last, finish, failed, capture, ⟨earlier, run⟩, restart,
    unretired, List.mem_cons_self, switches, fails, left⟩

/-- An older cycle can undo a restart. -/
theorem Run.older_cycle_undoes_restart : ∃ earlier opening rest later finish,
    Run Trial.client Trial.channel (earlier ++ opening :: (rest ++ later)) finish ∧
    Restart opening rest ∧ finish.state.worker ≠ .retired ∧
    (∃ step ∈ later, step.SwitchesOff ∧ ∃ capture, step.Fails capture ∧
      capture.cycle ≤ opening.before.state.cycleSeq) ∧
    finish.state.server = some (Trial.server 2) ∧ finish.state.stopped = true ∧
    finish.activity = .idle ∧ finish.pendingPolls = 0 ∧
    ∀ step ∈ earlier ++ opening :: (rest ++ later), ∀ capture,
      step.Begins capture → capture.server = Trial.server 1 := by
  obtain ⟨steps, finish, run, undone, slot, bound, stopped, idle, done, first⟩ :=
    Trial.rebind_undone
  obtain ⟨earlier, opening, rest, failed, last, capture, rfl, restart, switches, fails, older⟩ :=
    Trial.of_undoes undone
  refine ⟨earlier, opening, rest, failed :: last, finish, run, restart, ?_, ?_, bound, stopped,
    idle, done, first⟩
  · rw [slot]
    decide
  · exact ⟨failed, List.mem_cons_self, switches, capture, fails, older⟩

end LongPoll.Channel
