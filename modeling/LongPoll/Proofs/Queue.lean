import LongPoll.Proofs.Calls
import LongPoll.Proofs.Progress

set_option autoImplicit false

/-!
What lies ahead of the worker. A channel asks its worker to leave after everything else it has asked
for, so that a cycle that is posted is always reached. A channel that runs has a cycle posted or one
at work, and its worker is never left without a next move.
-/

namespace LongPoll.Channel

variable {setup : Setup}

/-! ### The order of the jobs -/

/-- The worker is asked to leave last, and has nothing left to do once it has left. -/
structure Orderly (state : State) (activity : Activity) : Prop where
  order : state.queue.jobs.Pairwise fun first second => first = .exit → second ≠ .poll
  gone : activity = .gone → .poll ∉ state.queue.jobs
  closed : state.queue.closed = true → activity = .gone

namespace Orderly

variable {channelId : String} {state next : State} {activity after : Activity}

theorem of_queue (orderly : Orderly state activity) (same : next.queue = state.queue)
    (stays : activity ≠ .gone) (stayed : after ≠ .gone) : Orderly next after where
  order := by rw [same]; exact orderly.order
  gone := fun left => absurd left stayed
  closed := by
    intro closed
    rw [same] at closed
    exact absurd (orderly.closed closed) stays

theorem of_same (orderly : Orderly state activity) (same : next.queue = state.queue) :
    Orderly next activity where
  order := by rw [same]; exact orderly.order
  gone := by rw [same]; exact orderly.gone
  closed := by rw [same]; exact orderly.closed

theorem withPoll (orderly : Orderly state activity) (unasked : .exit ∉ state.queue.jobs)
    (stays : activity ≠ .gone) : Orderly state.withPoll activity where
  order := by
    refine List.pairwise_append.mpr ⟨orderly.order, List.pairwise_singleton _ _, ?_⟩
    intro first member _ _ asked
    rw [asked] at member
    exact absurd member unasked
  gone := fun left => absurd left stays
  closed := orderly.closed

theorem dismissed (orderly : Orderly state activity) :
    Orderly { state with queue := (state.queue.post? .exit).getD state.queue } activity := by
  cases closed : state.queue.closed with
  | true =>
      apply orderly.of_same
      simp [JobQueue.post?, closed]
  | false =>
      have posted : (state.queue.post? .exit).getD state.queue =
          { state.queue with jobs := state.queue.jobs ++ [.exit] } := by
        simp [JobQueue.post?, closed]
      rw [posted]
      constructor
      · refine List.pairwise_append.mpr ⟨orderly.order, List.pairwise_singleton _ _, ?_⟩
        intro first _ second last _ poll
        rw [List.mem_singleton.mp last] at poll
        cases poll
      · intro left member
        rcases List.mem_append.mp member with earlier | last
        · exact orderly.gone left earlier
        · cases List.mem_singleton.mp last
      · exact orderly.closed

theorem takes {job : Job} {jobs : List Job} (orderly : Orderly state .idle)
    (next : state.queue.jobs = job :: jobs) :
    jobs.Pairwise (fun first second => first = .exit → second ≠ .poll) ∧
      (job = .exit → .poll ∉ jobs) := by
  have order := orderly.order
  rw [next] at order
  obtain ⟨front, rest⟩ := List.pairwise_cons.mp order
  exact ⟨rest, fun exit member => front .poll member exit rfl⟩

theorem rescheduled {unposted : Option Fault} (orderly : Orderly state activity)
    (unasked : state.worker = .running → .exit ∉ state.queue.jobs) (stays : activity ≠ .gone)
    (ends : Rescheduled channelId state next unposted) : Orderly next activity := by
  cases ends with
  | kept needless => exact orderly
  | posted running free served =>
      exact orderly.withPoll (unasked (State.running_of_serves served)) stays
  | refused running free unserved => exact orderly.of_same rfl

theorem started {spawnFault : Option String} {result : Except Fault Unit}
    (orderly : Orderly state activity) (consistent : Consistent state activity)
    (ends : Started channelId spawnFault state next result) : Orderly next activity := by
  cases ends with
  | posted stopped unposted quiet served =>
      have slot := State.running_of_serves served
      obtain ⟨_, unasked, stays⟩ := consistent.equip.serving slot
      have resumed : Orderly { state.equip with stopped := false } activity :=
        orderly.of_same rfl
      exact resumed.withPoll unasked stays
  | unspawned | alreadyRunning | resumed | refused => exact orderly.of_same rfl

theorem turn {managerAlive : Bool} {move : Move} {events : List Event}
    (orderly : Orderly state activity) (consistent : Consistent state activity)
    (turn : Turn setup managerAlive state activity move next after events) :
    Orderly next after := by
  have unasked (running : state.worker = .running) : .exit ∉ state.queue.jobs :=
    (consistent.serving running).2.1
  cases turn with
  | take next =>
      obtain ⟨order, _⟩ := orderly.takes next
      constructor
      · exact order
      · intro impossible
        cases impossible
      · intro closed
        cases orderly.closed closed
  | leave next =>
      obtain ⟨order, last⟩ := orderly.takes next
      exact ⟨order, fun _ => last rfl, fun _ => rfl⟩
  | skip | misconfigure | begin | reported => exact orderly.of_queue rfl nofun nofun
  | proceed proceeds => cases proceeds <;> exact orderly.of_queue rfl nofun nofun
  | settle settles => cases settles <;> exact orderly.of_queue rfl nofun nofun
  | drop hit rescheduled =>
      have settled : Orderly state.settle .idle := orderly.of_queue rfl nofun nofun
      exact settled.rescheduled unasked nofun rescheduled
  | finish rescheduled =>
      have settled : Orderly state .idle := orderly.of_queue rfl nofun nofun
      exact settled.rescheduled unasked nofun rescheduled
  | cancel failed hit rescheduled =>
      have settled : Orderly state.settle .idle :=
        orderly.of_queue rfl (by rintro rfl; cases failed) nofun
      exact settled.rescheduled unasked nofun rescheduled
  | fail failed unhit =>
      refine orderly.of_queue rfl (by rintro rfl; cases failed) ?_
      split
      · nofun
      · nofun

theorem advances {chance : Chance} {call called : Call} {events : List Event}
    (orderly : Orderly state activity) (consistent : Consistent state activity)
    (advances : Advances setup chance state call next called events) : Orderly next activity := by
  cases advances with
  | start sections started => exact orderly.started consistent started
  | dismiss sections => exact orderly.dismissed
  | _ => exact orderly.of_same rfl

theorem happening {before after : World} {action : Action} {events : List Event}
    (orderly : Orderly before.state before.activity) (sound : before.Sound)
    (happening : Happening setup before action after events) :
    Orderly after.state after.activity := by
  cases happening with
  | work free turn => exact orderly.turn sound.consistent turn
  | advance found advances => exact orderly.advances sound.consistent advances
  | _ => exact orderly

end Orderly

theorem Run.orderly {start finish : World} {steps : List (Step setup)}
    (run : Run setup start steps finish) (sound : start.Sound)
    (orderly : Orderly start.state start.activity) : Orderly finish.state finish.activity := by
  have both : finish.Sound ∧ Orderly finish.state finish.activity := by
    refine run.keeps (fun world => world.Sound ∧ Orderly world.state world.activity)
      ⟨sound, orderly⟩ ?_
    rintro step _ ⟨sound, orderly⟩
    exact ⟨sound.happening step.happening, orderly.happening sound step.happening⟩
  exact both.2

/-! ### What is ahead of the worker -/

/-- The worker has taken a cycle, or comes to one before it is to leave. -/
def World.PollAhead (world : World) : Prop :=
  world.activity = .taken ∨ world.activity ≠ .gone ∧
    ∃ earlier later, world.state.queue.jobs = earlier ++ .poll :: later ∧ .exit ∉ earlier

theorem Orderly.ahead {world : World} (orderly : Orderly world.state world.activity)
    (pending : world.pendingPolls ≠ 0) : world.PollAhead := by
  by_cases taken : world.activity = .taken
  · exact .inl taken
  · right
    have none_held : world.activity.heldPolls = 0 := by
      cases at_work : world.activity <;> first | rfl | exact absurd at_work taken
    have queued : .poll ∈ world.state.queue.jobs := by
      unfold World.pendingPolls at pending
      rw [none_held, Nat.zero_add] at pending
      exact List.count_pos_iff.mp (Nat.pos_of_ne_zero pending)
    refine ⟨fun left => orderly.gone left queued, ?_⟩
    obtain ⟨earlier, later, jobs⟩ := List.append_of_mem queued
    refine ⟨earlier, later, jobs, ?_⟩
    intro asked
    have order := orderly.order
    rw [jobs] at order
    exact (List.pairwise_append.mp order).2.2 .exit asked .poll List.mem_cons_self rfl rfl

/-- How the worker can go on. -/
def Activity.nextMove : Activity → Move
  | .idle | .gone => .take
  | .taken => .begin
  | .compiling _ => .compiled (.returned []) (.panicked none)
  | .built .. => .check
  | .cleared .. => .send
  | .sending .. => .answered (.panicked none)
  | .answered .. => .settle
  | .processing _ => .processed (.panicked none)
  | .delivered _ => .finish
  | .failing .. | .undelivered .. => .fail
  | .reporting _ => .reported false

theorem work?_nextMove {managerAlive : Bool} {state : State} {activity : Activity}
    (stays : activity ≠ .gone) (waits : activity = .idle → state.queue.jobs ≠ []) :
    (work? setup managerAlive state activity activity.nextMove).isSome = true := by
  cases activity with
  | gone => exact absurd rfl stays
  | idle =>
      change (takeJob? state).isSome = true
      unfold takeJob?
      split
      · rename_i empty
        exact absurd empty (waits rfl)
      · rfl
      · rfl
  | _ => rfl

theorem World.act?_nextMove {world : World} (free : world.workerIsBusy = false)
    (stays : world.activity ≠ .gone)
    (waits : world.activity = .idle → world.state.queue.jobs ≠ []) :
    (world.act? setup (.work world.activity.nextMove)).isSome = true := by
  have possible : (work? setup world.managerAlive world.state world.activity
      world.activity.nextMove).isSome = true := work?_nextMove stays waits
  obtain ⟨progress, works⟩ := Option.isSome_iff_exists.mp possible
  simp [World.act?, free, works]

theorem World.goes_on {world : World} {capture : Capture} (free : world.workerIsBusy = false)
    (within : world.activity.exchanging? = some capture) :
    (world.act? setup (.work world.activity.nextMove)).isSome = true := by
  apply World.act?_nextMove free
  · intro gone
    rw [gone] at within
    cases within
  · intro idle
    rw [idle] at within
    cases within

/-- Before the end of the exchange the worker goes on by a turn, unless it is in a collaborator. -/
theorem Run.moves_on {start finish : World} {steps : List (Step setup)}
    (run : Run setup start steps finish) (yields : start.Yields) {activity : Activity}
    {capture : Capture} (here : start.activity = activity)
    (within : activity.exchanging? = some capture) (own : activity.inCollaborator = false) :
    (finish.activity = activity ∧
      (finish.act? setup (.work activity.nextMove)).isSome = true) ∨
    ∃ waiting, ∃ leaving : Step setup, ∃ rest move, steps = waiting ++ leaving :: rest ∧
      (∀ step ∈ waiting, step.after.activity = activity) ∧
      leaving.before.activity = activity ∧ leaving.action = .work move ∧
      Turn setup leaving.before.managerAlive leaving.before.state activity move
        leaving.after.state leaving.after.activity leaving.events := by
  rcases run.stays_or_leaves here with
    still | ⟨waiting, leaving, rest, split, kept, before, leaves⟩
  · subst still
    exact .inl ⟨rfl, World.goes_on ((run.yields yields).free own) within⟩
  · obtain ⟨move, action, turn⟩ := leaving.happening.turn_or_kept.resolve_right
      fun same => leaves (same.trans before)
    exact .inr ⟨waiting, leaving, rest, move, split, kept, before, action, before ▸ turn⟩

/-! ### A running channel -/

namespace Run

variable {start finish : World} {steps : List (Step setup)}

theorem orderly_of_new {multiplexer : Option Multiplexer} {demultiplexer : Option Demultiplexer}
    {managerAlive : Bool}
    (run : Run setup (.new multiplexer demultiplexer managerAlive) steps finish) :
    Orderly finish.state finish.activity := by
  refine run.orderly (.new multiplexer demultiplexer managerAlive) ?_
  constructor
  · exact List.Pairwise.nil
  · nofun
  · nofun

theorem awake_of_new {multiplexer : Option Multiplexer} {demultiplexer : Option Demultiplexer}
    {managerAlive : Bool}
    (run : Run setup (.new multiplexer demultiplexer managerAlive) steps finish) :
    Awake finish.state finish.activity :=
  run.awake (.new multiplexer demultiplexer managerAlive) nofun

/-- Whatever its callers and its collaborators do, a channel that is not stopped has a cycle posted
that the worker will come to, or its worker is in a cycle that has a section under the lock ahead of
it; and unless a call keeps the thread of the worker, the worker has a move to make. So a channel
is stopped if its worker has nothing to do, or has left. -/
theorem running_channel_has_work {multiplexer : Option Multiplexer}
    {demultiplexer : Option Demultiplexer} {managerAlive : Bool}
    (run : Run setup (.new multiplexer demultiplexer managerAlive) steps finish) :
    (finish.state.stopped = false →
      (finish.state.taskPosted = true ∧ finish.PollAhead ∨
        ∃ capture, finish.activity.unfinished? = some capture) ∧
      (finish.workerIsBusy = false →
        ∃ move, (finish.act? setup (.work move)).isSome = true)) ∧
    (finish.activity = .idle ∨ finish.activity = .gone → finish.pendingPolls = 0 →
      finish.state.stopped = true) ∧
    (finish.activity = .gone → finish.pendingPolls = 0) := by
  have consistent := (run.sound (.new multiplexer demultiplexer managerAlive)).consistent
  have orderly := run.orderly_of_new
  have pending : finish.pendingPolls = if finish.state.taskPosted then 1 else 0 :=
    consistent.pending
  have ahead (running : finish.state.stopped = false) :
      finish.state.taskPosted = true ∧ finish.PollAhead ∨
        ∃ capture, finish.activity.unfinished? = some capture := by
    rcases run.awake_of_new running with posted | unfinished
    · left
      refine ⟨posted, orderly.ahead ?_⟩
      rw [pending, posted]
      decide
    · exact .inr (Option.isSome_iff_exists.mp unfinished)
  refine ⟨fun running => ⟨ahead running, ?_⟩, ?_, ?_⟩
  · intro free
    refine ⟨_, World.act?_nextMove free ?_ ?_⟩
    · intro gone
      rcases ahead running with ⟨_, taken | ⟨stays, _⟩⟩ | ⟨capture, unfinished⟩
      · rw [gone] at taken
        cases taken
      · exact stays gone
      · rw [gone] at unfinished
        cases unfinished
    · intro idle empty
      rcases ahead running with ⟨_, taken | ⟨_, earlier, later, jobs, _⟩⟩ | ⟨capture, unfinished⟩
      · rw [idle] at taken
        cases taken
      · rw [empty] at jobs
        exact List.append_ne_nil_of_right_ne_nil earlier (List.cons_ne_nil _ _) jobs.symm
      · rw [idle] at unfinished
        cases unfinished
  · intro quiet nothing
    cases running : finish.state.stopped with
    | true => rfl
    | false =>
        rcases ahead running with ⟨posted, _⟩ | ⟨capture, unfinished⟩
        · rw [pending, posted] at nothing
          cases nothing
        · rcases quiet with idle | gone
          · rw [idle] at unfinished
            cases unfinished
          · rw [gone] at unfinished
            cases unfinished
  · intro gone
    unfold World.pendingPolls
    rw [List.count_eq_zero.mpr (orderly.gone gone), gone]
    rfl

/-- A thread stops and starts the channel while the first request is built. Nothing is posted then:
the cycle at work goes on. -/
theorem running_channel_has_work_restarting : ∃ steps finish,
    Run Trial.client Trial.channel steps finish ∧ finish.state.stopped = false ∧
      finish.state.taskPosted = false ∧
      (∃ capture, finish.activity.unfinished? = some capture) ∧
      ∃ move, (finish.act? Trial.client (.work move)).isSome = true := by
  have seen : (Trial.channel.record? Trial.client
      (Trial.bind 0 1 ++ Trial.begin ++ Trial.restart 1)).map
        (fun record => (record.2.state.stopped, record.2.state.taskPosted,
          record.2.workerIsBusy)) = some (false, false, false) := by
    decide +kernel
  obtain ⟨⟨steps, finish⟩, recorded, shape⟩ := Option.map_eq_some_iff.mp seen
  obtain ⟨running, rest⟩ := Prod.mk.inj shape
  obtain ⟨unposted, free⟩ := Prod.mk.inj rest
  have run := Run.of_record recorded
  obtain ⟨work, goes⟩ := (running_channel_has_work run).1 running
  refine ⟨steps, finish, run, running, unposted, ?_, goes free⟩
  rcases work with ⟨posted, _⟩ | unfinished
  · rw [show finish.state.taskPosted = false from unposted] at posted
    cases posted
  · exact unfinished

end Run

end LongPoll.Channel
