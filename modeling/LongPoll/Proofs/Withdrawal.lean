import LongPoll.Proofs.Delivery
import LongPoll.Proofs.Lifecycle
import LongPoll.Proofs.Queue

set_option autoImplicit false

/-!
A stop ahead of the send. A request that a stop has overtaken while it was built is dropped at the
check, or its failure is cancelled: the counter of aborts has gone past what the cycle captured, and
no start takes it back. Without a stop the check lets the request pass, and it is sent.
-/

namespace LongPoll.Channel

variable {setup : Setup}

namespace Activity

/-- The cycle that has begun and whose request is not built or not checked, or that has failed. -/
def unsent? : Activity → Option Capture
  | compiling capture | built capture _ | failing capture _ => some capture
  | _ => none

theorem exchanging?_of_unsent? {activity : Activity} {capture : Capture}
    (unsent : activity.unsent? = some capture) : activity.exchanging? = some capture := by
  cases activity <;> first | exact unsent | cases unsent

theorem compiling_of_unsent? {activity : Activity} {capture : Capture}
    (unsent : activity.unsent? = some capture) (inside : activity.inCollaborator = true) :
    activity = .compiling capture := by
  cases activity with
  | compiling other =>
      cases unsent
      rfl
  | built | failing => cases inside
  | _ => cases unsent

end Activity

theorem State.interrupted_of_lt {state : State} {capture : Capture}
    (hit : capture.abortEpoch < state.abortRequests) : state.interrupted capture = true := by
  have more : state.abortRequests ≠ capture.abortEpoch := by omega
  simp [State.interrupted, more]

namespace Step

/-- The cycle whose request passes the check. -/
def cleared? (step : Step setup) : Option Capture :=
  match step.before.activity, step.after.activity with
  | .built capture _, .cleared .. => some capture
  | _, _ => none

/-- Compiling and sealing succeed, and the request of the cycle is made of what they give. -/
def Prepares (step : Step setup) (capture : Capture) (request : FormPost) : Prop :=
  step.before.activity = .compiling capture ∧ ∃ outcome sealing body nonce,
    step.action = .work (.compiled outcome sealing) ∧ outcome.result = .ok body ∧
      sealing.result = .ok nonce ∧
      request = capture.session.request capture.server.url nonce body

/-- The cycle ends as cancelled. Nobody is told, the binding stays, and one next cycle is queued
if the channel can go on. -/
structure Withdraws (step : Step setup) (capture : Capture) : Prop where
  cancelled : (∃ request, step.before.activity = .built capture request ∧
      .notice .requestDropped ∈ step.events) ∨
    ∃ fault, step.before.activity = .failing capture fault ∧
      .notice (.connectionAborted fault) ∈ step.events
  ended : step.after.activity = .idle
  unreported : step.reports = []
  server : step.after.state.server = step.before.state.server
  session : step.after.state.session = step.before.state.session
  goesOn : step.before.state.stopped = false → step.before.state.worker ≠ .retired →
    step.after.state.stopped = false ∧ step.after.pendingPolls = 1
  staysOff : step.before.state.stopped = true ∨ step.before.state.worker = .retired →
    step.after.state.stopped = true ∧ step.after.pendingPolls = 0

end Step

/-! ### The check -/

namespace Turn

variable {managerAlive : Bool} {state next : State} {activity after : Activity} {move : Move}
  {events : List Event} {capture : Capture}

theorem built_of_compiled {outcome : Outcome Bytes} {sealing : Outcome Nonce} {body : Bytes}
    {nonce : Nonce}
    (turn : Turn setup managerAlive state (.compiling capture) (.compiled outcome sealing) next
      after events)
    (compiled : outcome.result = .ok body) (sealed : sealing.result = .ok nonce) :
    after = .built capture (capture.session.request capture.server.url nonce body) := by
  cases turn with
  | proceed proceeds =>
      cases proceeds with
      | compiled same own =>
          cases same.symm.trans compiled
          cases own.symm.trans sealed
          rfl
      | uncompiled failed =>
          rcases failed with uncompiled | ⟨_, _, unsealed⟩
          · cases uncompiled.symm.trans compiled
          · cases unsealed.symm.trans sealed

theorem compiled_of_built {request : FormPost}
    (turn : Turn setup managerAlive state (.compiling capture) move next after events)
    (built : after = .built capture request) : ∃ outcome sealing body nonce,
      move = .compiled outcome sealing ∧ outcome.result = .ok body ∧
        sealing.result = .ok nonce ∧
        request = capture.session.request capture.server.url nonce body := by
  cases turn with
  | proceed proceeds =>
      cases proceeds with
      | compiled compiled sealed =>
          cases built
          exact ⟨_, _, _, _, rfl, compiled, sealed, rfl⟩
      | uncompiled failed => cases built
  | cancel failed hit rescheduled => cases built
  | fail failed unhit => split at built <;> cases built

theorem unsent? (turn : Turn setup managerAlive state activity move next after events)
    (unsent : activity.unsent? = some capture) (within : after.exchanging? = some capture) :
    after.unsent? = some capture ∨
      ∃ request, activity = .built capture request ∧ after = .cleared capture request := by
  cases turn with
  | proceed proceeds =>
      cases proceeds with
      | compiled | uncompiled => exact .inl within
      | clear unhit =>
          cases unsent
          exact .inr ⟨_, rfl, rfl⟩
      | _ => cases unsent
  | settle settles => cases unsent
  | fail failed unhit => split at within <;> cases within
  | begin running captured | reported => cases unsent
  | _ => cases within

/-- A cycle that a stop has hit is not sent: it is built further, dropped or cancelled. -/
theorem withdraws (turn : Turn setup managerAlive state activity move next after events)
    (unsent : activity.unsent? = some capture) (hit : state.interrupted capture = true) :
    after.unsent? = some capture ∨
      (after = .idle ∧ events.filterMap Event.failedServer? = [] ∧
        ((∃ request, activity = .built capture request ∧ .notice .requestDropped ∈ events) ∨
          ∃ fault, activity = .failing capture fault ∧
            .notice (.connectionAborted fault) ∈ events) ∧
        ∃ unposted, Rescheduled setup.config.channelId state.settle next unposted) := by
  cases turn with
  | proceed proceeds =>
      cases proceeds with
      | compiled | uncompiled => exact .inl unsent
      | clear unhit =>
          cases unsent
          rw [unhit] at hit
          cases hit
      | _ => cases unsent
  | drop _ rescheduled =>
      cases unsent
      exact .inr ⟨rfl, failedServer?_rescheduleNotices _, .inl ⟨_, rfl, List.mem_cons_self⟩, _,
        rescheduled⟩
  | cancel failed _ rescheduled =>
      rcases Activity.of_failure? failed with rfl | rfl
      · cases unsent
        exact .inr ⟨rfl, failedServer?_rescheduleNotices _, .inr ⟨_, rfl, List.mem_cons_self⟩, _,
          rescheduled⟩
      · cases unsent
  | fail failed unhit =>
      rcases Activity.of_failure? failed with rfl | rfl
      · cases unsent
        rw [unhit] at hit
        cases hit
      · cases unsent
  | _ => cases unsent

/-- Nothing but the check takes a built request on, and it lets it pass or drops it. -/
theorem checks {request : FormPost}
    (turn : Turn setup managerAlive state (.built capture request) move next after events) :
    move = .check ∧ (state.interrupted capture = false → after = .cleared capture request) := by
  cases turn with
  | proceed proceeds =>
      cases proceeds
      exact ⟨rfl, fun _ => rfl⟩
  | drop hit rescheduled =>
      refine ⟨rfl, fun unhit => ?_⟩
      rw [unhit] at hit
      cases hit
  | cancel failed | fail failed => cases failed

theorem sends {request : FormPost}
    (turn : Turn setup managerAlive state (.cleared capture request) move next after events) :
    events = [.send capture request] := by
  cases turn with
  | proceed proceeds =>
      cases proceeds
      rfl
  | cancel failed | fail failed => cases failed

end Turn

/-- The end of a cycle whose exchange was open leaves one cycle pending if the channel can go on,
and none otherwise. -/
theorem Rescheduled.pending {channelId : String} {state next : State} {activity : Activity}
    {unposted : Option Fault} (rescheduled : Rescheduled channelId state.settle next unposted)
    (consistent : Consistent state activity) (after : Consistent next .idle)
    (busy : state.inProgress = true) :
    (state.stopped = false → state.worker ≠ .retired →
      next.stopped = false ∧ next.queue.jobs.count .poll = 1) ∧
    (state.stopped = true ∨ state.worker = .retired →
      next.stopped = true ∧ next.queue.jobs.count .poll = 0) := by
  have queued := after.pending
  change 0 + next.queue.jobs.count .poll = if next.taskPosted then 1 else 0 at queued
  rw [Nat.zero_add] at queued
  constructor
  · intro running unretired
    obtain ⟨still, posted⟩ := rescheduled.goesOn consistent busy running unretired
    rw [posted] at queued
    exact ⟨still, queued⟩
  · intro off
    have stopped := rescheduled.staysOff consistent busy off
    have unposted : next.taskPosted = false := by
      cases rescheduled with
      | kept | refused => exact consistent.exclusive busy
      | posted running => cases (running.symm.trans stopped : false = true)
    rw [unposted] at queued
    exact ⟨stopped, queued⟩

namespace Step

variable {step : Step setup} {capture : Capture}

theorem prepares_iff {request : FormPost} :
    step.Prepares capture request ↔ step.before.activity = .compiling capture ∧
      step.after.activity = .built capture request := by
  constructor
  · rintro ⟨compiling, outcome, sealing, body, nonce, action, compiled, sealed, rfl⟩
    have turn := (action ▸ step.happening).turn
    rw [compiling] at turn
    exact ⟨compiling, turn.built_of_compiled compiled sealed⟩
  · rintro ⟨compiling, built⟩
    rcases step.happening.turn_or_kept with ⟨move, action, turn⟩ | kept
    · rw [compiling] at turn
      obtain ⟨outcome, sealing, body, nonce, rfl, rest⟩ := turn.compiled_of_built built
      exact ⟨compiling, outcome, sealing, body, nonce, action, rest⟩
    · rw [compiling, built] at kept
      cases kept

theorem unsent? (unsent : step.before.activity.unsent? = some capture)
    (within : step.after.activity.exchanging? = some capture)
    (uncleared : step.cleared? ≠ some capture) : step.after.activity.unsent? = some capture := by
  rcases step.happening.turn_or_kept with ⟨move, _, turn⟩ | kept
  · rcases turn.unsent? unsent within with stays | ⟨request, built, cleared⟩
    · exact stays
    · unfold cleared? at uncleared
      rw [built, cleared] at uncleared
      exact absurd rfl uncleared
  · rw [kept]
    exact unsent

theorem withdraws (sound : step.before.Sound)
    (unsent : step.before.activity.unsent? = some capture)
    (hit : capture.abortEpoch < step.before.state.abortRequests) :
    step.after.activity.unsent? = some capture ∨ step.Withdraws capture := by
  have consistent := sound.consistent
  have after := (sound.happening step.happening).consistent
  have busy : step.before.state.inProgress = true := by
    rw [consistent.position, Activity.exchanging?_of_unsent? unsent]
    rfl
  rcases step.happening.turn_or_kept with ⟨move, _, turn⟩ | kept
  · rcases turn.withdraws unsent (State.interrupted_of_lt hit) with stays |
      ⟨idle, unreported, cancelled, unposted, rescheduled⟩
    · exact .inl stays
    · rw [idle] at after
      obtain ⟨goesOn, staysOff⟩ := rescheduled.pending consistent after busy
      have pending : step.after.pendingPolls = step.after.state.queue.jobs.count .poll := by
        unfold World.pendingPolls
        rw [idle]
        exact Nat.zero_add _
      rw [← pending] at goesOn staysOff
      exact .inr ⟨cancelled, idle, unreported, turn.server, turn.session, goesOn, staysOff⟩
  · exact .inl (kept ▸ unsent)

theorem of_sentCycles {cycle : Nat} (sent : cycle ∈ step.sentCycles) :
    ∃ capture request, step.before.activity = .cleared capture request ∧
      capture.cycle = cycle := by
  obtain ⟨event, member, same⟩ := List.mem_filterMap.mp sent
  cases event with
  | send capture request =>
      cases same
      obtain ⟨_, arises⟩ := step.arises member rfl
      cases arises with
      | send cleared => exact ⟨capture, request, cleared, rfl⟩
  | _ => cases same

theorem RunsFor.activity {index : Nat} {part : Section} (runs : step.RunsFor index part) :
    step.after.activity = step.before.activity := by
  obtain ⟨chance, call, rest, action, _⟩ := runs
  rcases step.happening.turn_or_kept with ⟨move, other, _⟩ | kept
  · rw [action] at other
    cases other
  · exact kept

end Step

/-! ### Runs after the stop -/

/-- Nothing is sent in a cycle, and the manager is not told of it. -/
structure Silent (cycle : Nat) (steps : List (Step setup)) : Prop where
  unsent : ∀ step ∈ steps, cycle ∉ step.sentCycles
  unreported : reportsOf cycle steps = []

theorem Silent.append {cycle : Nat} {first second : List (Step setup)}
    (left : Silent cycle first) (right : Silent cycle second) : Silent cycle (first ++ second) := by
  constructor
  · intro step member
    rcases List.mem_append.mp member with earlier | later
    · exact left.unsent step earlier
    · exact right.unsent step later
  · rw [reportsOf_append, left.unreported, right.unreported]
    rfl

theorem Silent.of_step {cycle : Nat} {step : Step setup} (unsent : cycle ∉ step.sentCycles)
    (unreported : step.reports = []) : Silent cycle [step] := by
  constructor
  · intro other member
    rw [List.mem_singleton.mp member]
    exact unsent
  · unfold reportsOf
    simp [unreported]

theorem Step.not_sent_of_unsent {step : Step setup} {capture : Capture}
    (unsent : step.before.activity.unsent? = some capture) (cycle : Nat) :
    cycle ∉ step.sentCycles := by
  intro sent
  obtain ⟨other, request, cleared, _⟩ := Step.of_sentCycles sent
  rw [cleared] at unsent
  cases unsent

theorem Throughout.silent {capture : Capture} {steps : List (Step setup)}
    (throughout : Throughout Activity.unsent? capture steps) : Silent capture.cycle steps := by
  constructor
  · intro step member
    exact Step.not_sent_of_unsent (throughout step member).1 _
  · apply Run.reportsOf_during
    intro step member
    obtain ⟨before, after⟩ := throughout step member
    exact ⟨Activity.exchanging?_of_unsent? before, Activity.exchanging?_of_unsent? after⟩

theorem Throughout.nil {view : Activity → Option Capture} {capture : Capture} :
    Throughout view capture ([] : List (Step setup)) := by
  intro step impossible
  cases impossible

theorem Throughout.cons {view : Activity → Option Capture} {capture : Capture} {step : Step setup}
    {steps : List (Step setup)} (before : view step.before.activity = some capture)
    (after : view step.after.activity = some capture) (rest : Throughout view capture steps) :
    Throughout view capture (step :: steps) := by
  intro other member
  rcases List.mem_cons.mp member with rfl | later
  · exact ⟨before, after⟩
  · exact rest other later

theorem Step.Begins.silent {begin : Step setup} {capture : Capture}
    (begins : begin.Begins capture) : Silent capture.cycle [begin] := by
  have events := begins.beginning.events
  apply Silent.of_step
  · unfold Step.sentCycles
    rw [events]
    simp [Event.sentCycle?]
  · unfold Step.reports
    rw [events]
    rfl

namespace Run

variable {start finish : World} {steps : List (Step setup)} {capture : Capture}

theorem silent_prior {begin : Step setup} (run : Run setup start steps begin.before)
    (sound : start.Sound) (begins : begin.Begins capture) : Silent capture.cycle steps := by
  constructor
  · intro step member sent
    obtain ⟨other, request, cleared, same⟩ := Step.of_sentCycles sent
    have current := (run.sound_at sound step member).1.consistent.current other
      (by rw [cleared]; rfl)
    have before := step.happening.cycleSeq_le
    have reached := (run.cycleSeq_between step member).2
    have next := begins.beginning.cycle
    omega
  · exact run.reportsOf_prior sound begins

theorem silent_later (run : Run setup start steps finish)
    (ended : start.activity.fallible? = none) (begun : capture.cycle ≤ start.state.cycleSeq) :
    Silent capture.cycle steps := by
  constructor
  · intro step member sent
    obtain ⟨other, request, cleared, same⟩ := Step.of_sentCycles sent
    obtain ⟨first, last, rfl⟩ := List.append_of_mem member
    have within : step.before.activity.fallible? = some other := by
      rw [cleared]
      rfl
    have quiet : start.activity.fallible? ≠ some other := by
      rw [ended]
      intro impossible
      cases impossible
    have later := run.cut.1.fallible_later quiet within
    omega
  · exact run.reportsOf_later ended begun

/-- A request that has not passed the check has been unsent ever since its cycle began. -/
theorem unsent_of_uncleared (run : Run setup start steps finish)
    (unsent : start.activity.unsent? = some capture)
    (throughout : Throughout Activity.exchanging? capture steps)
    (uncleared : ∀ step ∈ steps, step.cleared? ≠ some capture) :
    finish.activity.unsent? = some capture ∧ Throughout Activity.unsent? capture steps := by
  induction run with
  | nil world => exact ⟨unsent, .nil⟩
  | cons step tail ih =>
      have after := Step.unsent? unsent (throughout step List.mem_cons_self).2
        (uncleared step List.mem_cons_self)
      obtain ⟨last, rest⟩ := ih after
        (fun other member => throughout other (List.mem_cons_of_mem _ member))
        (fun other member => uncleared other (List.mem_cons_of_mem _ member))
      exact ⟨last, .cons unsent after rest⟩

/-- A request that a stop has hit stays unsent until its cycle ends as cancelled. -/
theorem withdrawn (run : Run setup start steps finish) (sound : start.Sound)
    (unsent : start.activity.unsent? = some capture)
    (hit : capture.abortEpoch < start.state.abortRequests) :
    (finish.activity.unsent? = some capture ∧ Throughout Activity.unsent? capture steps) ∨
      ∃ during last rest, steps = during ++ last :: rest ∧
        Throughout Activity.unsent? capture during ∧
        last.before.activity.unsent? = some capture ∧ last.Withdraws capture := by
  induction run with
  | nil world => exact .inl ⟨unsent, .nil⟩
  | cons step tail ih =>
      rcases Step.withdraws sound unsent hit with after | withdraws
      · -- No action takes the counter back, so that the stop still counts at the next step.
        have still := Nat.lt_of_lt_of_le hit step.happening.abortRequests_le
        rcases ih (sound.happening step.happening) after still with
          ⟨last, rest⟩ | ⟨during, last, rest, rfl, waiting, open_, withdraws⟩
        · exact .inl ⟨last, .cons unsent after rest⟩
        · exact .inr ⟨step :: during, last, rest, rfl, .cons unsent after waiting, open_, withdraws⟩
      · exact .inr ⟨[], step, _, rfl, .nil, unsent, withdraws⟩

/-! ### The whole run -/

/-- A request that has passed the check is sent next by the worker, which nothing keeps from it. -/
theorem sends_cleared (run : Run setup start steps finish) (yields : start.Yields)
    {request : FormPost} (cleared : start.activity = .cleared capture request) :
    (finish.activity = .cleared capture request ∧
      (finish.act? setup (.work .send)).isSome = true) ∨
    ∃ waiting send rest, steps = waiting ++ send :: rest ∧
      (∀ step ∈ waiting, step.after.activity = .cleared capture request) ∧
      send.events = [.send capture request] := by
  rcases run.moves_on yields cleared rfl rfl with
    still | ⟨waiting, send, rest, move, split, kept, _, _, turn⟩
  · exact .inl still
  · exact .inr ⟨waiting, send, rest, split, kept, turn.sends⟩

theorem silent_of_hit (run : Run setup start steps finish) (sound : start.Sound)
    (unsent : start.activity.unsent? = some capture)
    (hit : capture.abortEpoch < start.state.abortRequests) : Silent capture.cycle steps := by
  have current := sound.consistent.current capture
    (Activity.capture?_of_exchanging? (Activity.exchanging?_of_unsent? unsent))
  rcases run.withdrawn sound unsent hit with ⟨_, waiting⟩ |
    ⟨during, last, rest, rfl, waiting, before, withdraws⟩
  · exact waiting.silent
  · obtain ⟨first, tail⟩ := run.cut
    have begun : capture.cycle ≤ last.after.state.cycleSeq := by
      have reached := first.cycleSeq_le
      have next := last.happening.cycleSeq_le
      omega
    have closed : last.after.activity.fallible? = none := by
      rw [withdraws.ended]
      rfl
    have ending := Silent.of_step (Step.not_sent_of_unsent before capture.cycle)
      withdraws.unreported
    exact waiting.silent.append (ending.append (tail.silent_later closed begun))

variable {multiplexer : Option Multiplexer} {demultiplexer : Option Demultiplexer}
  {managerAlive : Bool}

theorem silent_until_clear
    (run : Run setup (.new multiplexer demultiplexer managerAlive) steps finish)
    (within : finish.activity.exchanging? = some capture)
    (uncleared : ∀ step ∈ steps, step.cleared? ≠ some capture) :
    finish.activity.unsent? = some capture ∧ Silent capture.cycle steps := by
  obtain ⟨prior, begin, during, rfl, begins, throughout⟩ :=
    run.since_begin Activity.exchanging? (fun step => step.exchanging?)
      (by intro impossible; cases impossible) within
  obtain ⟨before, after⟩ := run.cut
  obtain ⟨unsent, waiting⟩ := after.unsent_of_uncleared (by rw [begins.2]; rfl) throughout
    fun step member => uncleared step (List.mem_append_right _ (List.mem_cons_of_mem _ member))
  exact ⟨unsent,
    (before.silent_prior (.new ..) begins).append (begins.silent.append waiting.silent)⟩

/-- A stop at any moment between the beginning of a cycle and the check of its request keeps the
request from being sent, whatever follows. The cycle is built further until it ends as cancelled:
the manager is not told, the binding stays, and one next cycle is queued if the channel can go on.
The request is built exactly if compiling and sealing succeed; without a stop the check then lets it
pass, and it is sent. -/
theorem stop_withdraws_request
    (run : Run setup (.new multiplexer demultiplexer managerAlive) steps finish) :
    (∀ earlier (stop : Step setup) later (capture : Capture), steps = earlier ++ stop :: later →
      stop.Runs .stop → stop.before.activity.exchanging? = some capture →
      (∀ step ∈ earlier, step.cleared? ≠ some capture) →
      (∀ step ∈ steps, capture.cycle ∉ step.sentCycles) ∧ reportsOf capture.cycle steps = [] ∧
      ((finish.activity.unsent? = some capture ∧
          (finish.workerIsBusy = true → finish.activity = .compiling capture) ∧
          (finish.workerIsBusy = false →
            (finish.act? setup (.work finish.activity.nextMove)).isSome = true)) ∨
        ∃ during, ∃ last : Step setup, ∃ rest, later = during ++ last :: rest ∧
          Throughout Activity.unsent? capture during ∧ last.Withdraws capture)) ∧
    (∀ step ∈ steps, ∀ (capture : Capture) request, step.Prepares capture request ↔
      step.before.activity = .compiling capture ∧
        step.after.activity = .built capture request) ∧
    ∀ earlier (prepared : Step setup) later (capture : Capture) request,
      steps = earlier ++ prepared :: later → prepared.Prepares capture request →
      (finish.activity = .built capture request ∧
        (finish.act? setup (.work .check)).isSome = true) ∨
      ∃ waiting, ∃ check : Step setup, ∃ rest, later = waiting ++ check :: rest ∧
        check.action = .work .check ∧ check.before.activity = .built capture request ∧
        ∃ prior, ∃ begin : Step setup, ∃ during,
          earlier ++ prepared :: waiting = prior ++ begin :: during ∧ begin.Begins capture ∧
          ((∀ step ∈ during, ¬ step.Runs .stop) →
            check.after.activity = .cleared capture request ∧
            ((finish.activity = .cleared capture request ∧
              (finish.act? setup (.work .send)).isSome = true) ∨
            ∃ cleared, ∃ send : Step setup, ∃ last, rest = cleared ++ send :: last ∧
              (∀ step ∈ cleared, step.after.activity = .cleared capture request) ∧
              send.events = [.send capture request])) := by
  have fresh : (World.new multiplexer demultiplexer managerAlive).Sound := .new ..
  have idle : (World.new multiplexer demultiplexer managerAlive).Yields := .new _ _ _
  refine ⟨?_, fun _ _ _ _ => Step.prepares_iff, ?_⟩
  · rintro earlier stop later capture rfl stops within uncleared
    obtain ⟨before, after⟩ := run.cut
    -- Before the stop the request has not been sent yet, and after it the check drops it.
    obtain ⟨unsent, silent⟩ := before.silent_until_clear within uncleared
    have sound : stop.after.Sound := (before.sound fresh).happening stop.happening
    have kept : stop.after.activity.unsent? = some capture := by
      obtain ⟨index, runs⟩ := stops
      rw [runs.activity]
      exact unsent
    have hit : capture.abortEpoch < stop.after.state.abortRequests := by
      apply sound.consistent.hit capture (Activity.exchanging?_of_unsent? kept)
      rw [stops.stop]
      rfl
    have own : Silent capture.cycle [stop] := (Throughout.nil.cons unsent kept).silent
    have whole := silent.append (own.append (after.silent_of_hit sound kept hit))
    refine ⟨whole.unsent, whole.unreported, ?_⟩
    rcases after.withdrawn sound kept hit with ⟨last, _⟩ |
      ⟨during, last, rest, split, waiting, _, withdraws⟩
    · refine .inl ⟨last, ?_, fun free => World.goes_on free (Activity.exchanging?_of_unsent? last)⟩
      intro busy
      have inside := run.yields idle busy
      exact Activity.compiling_of_unsent? last inside
    · exact .inr ⟨during, last, rest, split, waiting, withdraws⟩
  · rintro earlier prepared later capture request rfl prepares
    obtain ⟨before, after⟩ := run.cut
    have built := (Step.prepares_iff.mp prepares).2
    rcases after.moves_on ((before.yields idle).happening prepared.happening) built rfl rfl with
      still | ⟨waiting, check, rest, move, rfl, _, here, action, turn⟩
    · exact .inl still
    · right
      have whole : earlier ++ prepared :: (waiting ++ check :: rest) =
          (earlier ++ prepared :: waiting) ++ check :: rest := by simp
      rw [whole] at run
      obtain ⟨upto, tail⟩ := run.cut
      obtain ⟨rfl, passes⟩ := turn.checks
      obtain ⟨prior, begin, during, split, begins, throughout⟩ :=
        upto.since_begin Activity.exchanging? (fun step => step.exchanging?)
          (by intro impossible; cases impossible) (by rw [here]; rfl)
      refine ⟨waiting, check, rest, rfl, action, here, prior, begin, during, split, begins, ?_⟩
      intro unstopped
      have middle := (split ▸ upto).cut.2
      have cleared := passes (middle.not_interrupted begins throughout
        fun step member hits => unstopped step member hits.1)
      exact ⟨cleared, tail.sends_cleared ((upto.yields idle).happening check.happening) cleared⟩

/-- A thread stops and starts the channel while its first request is built. The request is dropped
and one cycle is queued. -/
theorem stop_withdraws_request_restarting : ∃ earlier stop later finish capture,
    Run Trial.client Trial.channel (earlier ++ stop :: later) finish ∧ stop.Runs .stop ∧
      stop.before.activity.exchanging? = some capture ∧
      (∀ step ∈ earlier, step.cleared? ≠ some capture) ∧ finish.state.stopped = false ∧
      finish.pendingPolls = 1 ∧ finish.activity.unsent? = none ∧
      (∀ step ∈ earlier ++ stop :: later, capture.cycle ∉ step.sentCycles) ∧
      ∃ during last rest, later = during ++ last :: rest ∧
        Throughout Activity.unsent? capture during ∧ last.Withdraws capture := by
  have seen : (Trial.channel.record? Trial.client
      (Trial.bind 0 1 ++ Trial.begin ++ Trial.restart 1 ++
        [.work (.compiled (.returned []) (.returned Trial.draw.nonce)), .work .check])).map
        (fun record => ((record.1.drop 7).head?.any fun step =>
            step.runsFor 1 .stop && step.before.activity.exchanging?.isSome,
          (record.1.take 7).all (·.cleared?.isNone), record.2.state.stopped,
          record.2.pendingPolls, decide (record.2.activity.unsent? = none))) =
      some (true, true, false, 1, true) := by
    decide +kernel
  obtain ⟨⟨steps, finish⟩, recorded, shape⟩ := Option.map_eq_some_iff.mp seen
  obtain ⟨seventh, rest⟩ := Prod.mk.inj shape
  obtain ⟨unpassed, flags⟩ := Prod.mk.inj rest
  obtain ⟨running, counted⟩ := Prod.mk.inj flags
  obtain ⟨pending, gone⟩ := Prod.mk.inj counted
  obtain ⟨stop, first, found⟩ := (Option.any_eq_true _ _).mp seventh
  obtain ⟨own, within⟩ := Bool.and_eq_true_iff.mp found
  obtain ⟨capture, exchanging⟩ := Option.isSome_iff_exists.mp within
  obtain ⟨later, dropped⟩ := List.head?_eq_some_iff.mp first
  have ended : finish.activity.unsent? = none := of_decide_eq_true gone
  have stops : stop.Runs .stop := ⟨1, Step.of_runsFor own⟩
  have uncleared : ∀ step ∈ steps.take 7, step.cleared? ≠ some capture := by
    intro step member passed
    have never := List.all_eq_true.mp unpassed step member
    rw [passed] at never
    cases never
  have run : Run Trial.client Trial.channel (steps.take 7 ++ stop :: later) finish := by
    rw [← dropped, List.take_append_drop 7 steps]
    exact Run.of_record recorded
  obtain ⟨unsent, _, ends⟩ := (stop_withdraws_request run).1 _ _ _ _ rfl stops exchanging uncleared
  refine ⟨_, stop, later, finish, capture, run, stops, exchanging, uncleared, running, pending,
    ended, unsent, ends.resolve_left ?_⟩
  rintro ⟨still, _⟩
  rw [ended] at still
  cases still

end Run

end LongPoll.Channel
