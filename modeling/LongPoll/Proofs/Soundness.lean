import LongPoll.Proofs.Transition

set_option autoImplicit false

/-!
The invariant of the poll state. The flags, the two counters and the queue are written by every
section and are only right together: each fact below needs some of the others to be kept. It holds
between any two steps of any run, so that no cycle is posted twice, none begins while another is in
progress, and a stopped cycle can be told from one that was never stopped.
-/

namespace LongPoll.Channel

variable {setup : Setup}

/-- Cycles that the worker has taken from the queue and that have not begun. -/
def Activity.heldPolls : Activity → Nat
  | .taken => 1
  | _ => 0

/-- Cycles that have been posted and have not begun. -/
def World.pendingPolls (world : World) : Nat :=
  world.activity.heldPolls + world.state.queue.jobs.count .poll

/-- What the state says fits what the worker is at. -/
structure Consistent (state : State) (activity : Activity) : Prop where
  pending : activity.heldPolls + state.queue.jobs.count .poll = if state.taskPosted then 1 else 0
  exclusive : state.inProgress = true → state.taskPosted = false
  position : state.inProgress = activity.exchanging?.isSome
  current : ∀ capture, activity.capture? = some capture → capture.cycle = state.cycleSeq
  epoch : ∀ capture, activity.capture? = some capture → capture.abortEpoch ≤ state.abortRequests
  hit : ∀ capture, activity.exchanging? = some capture → state.stopped = true →
    capture.abortEpoch < state.abortRequests
  serving : state.worker = .running →
    state.queue.closed = false ∧ Job.exit ∉ state.queue.jobs ∧ activity ≠ .gone
  fresh : state.worker = .unstarted → state.queue = {} ∧ activity = .idle

namespace Consistent

variable {channelId : String} {state next : State} {activity after : Activity}

theorem initial (multiplexer : Option Multiplexer) (demultiplexer : Option Demultiplexer) :
    Consistent { multiplexer, demultiplexer } .idle where
  pending := rfl
  exclusive := by intro impossible; cases impossible
  position := rfl
  current := by intro capture impossible; cases impossible
  epoch := by intro capture impossible; cases impossible
  hit := by intro capture impossible; cases impossible
  serving := by intro impossible; cases impossible
  fresh := by intro _; exact ⟨rfl, rfl⟩

theorem started_worker (consistent : Consistent state activity) (within : activity ≠ .idle) :
    state.worker ≠ .unstarted :=
  fun unstarted => within (consistent.fresh unstarted).2

/-- A worker that has not retired takes jobs as long as it is at one. -/
theorem serves (consistent : Consistent state activity) (within : activity ≠ .idle)
    (unretired : state.worker ≠ .retired) : state.serves = true := by
  cases slot : state.worker with
  | unstarted => exact absurd slot (consistent.started_worker within)
  | retired => exact absurd slot unretired
  | running =>
      obtain ⟨opened, _⟩ := consistent.serving slot
      simp [State.serves, slot, opened]

theorem posted_of_taken (consistent : Consistent state .taken) : state.taskPosted = true := by
  have pending := consistent.pending
  cases posted : state.taskPosted with
  | true => rfl
  | false =>
      rw [posted] at pending
      change 1 + state.queue.jobs.count .poll = 0 at pending
      omega

/-- A cycle that was taken and does not begin leaves the worker idle. -/
theorem unbegun (consistent : Consistent state .taken) :
    Consistent { state with taskPosted := false } .idle := by
  have pending := consistent.pending
  rw [consistent.posted_of_taken] at pending
  constructor
  · change 0 + state.queue.jobs.count .poll = 0
    change 1 + state.queue.jobs.count .poll = 1 at pending
    omega
  · intro _
    rfl
  · exact consistent.position
  · intro capture impossible
    cases impossible
  · intro capture impossible
    cases impossible
  · intro capture impossible
    cases impossible
  · intro slot
    obtain ⟨opened, unasked, _⟩ := consistent.serving slot
    exact ⟨opened, unasked, by intro impossible; cases impossible⟩
  · intro slot
    exact absurd slot (consistent.started_worker (by intro impossible; cases impossible))

theorem takes {jobs : List Job} (consistent : Consistent state .idle)
    (next : state.queue.jobs = .poll :: jobs) :
    Consistent { state with queue := { state.queue with jobs } } .taken := by
  have pending := consistent.pending
  have front : (Job.poll :: jobs).count .poll = jobs.count .poll + 1 := List.count_cons_self
  rw [next, front] at pending
  constructor
  · rw [← pending]
    change 1 + jobs.count .poll = 0 + (jobs.count .poll + 1)
    omega
  · exact consistent.exclusive
  · exact consistent.position
  · intro capture impossible
    cases impossible
  · intro capture impossible
    cases impossible
  · intro capture impossible
    cases impossible
  · intro slot
    obtain ⟨opened, unasked, _⟩ := consistent.serving slot
    rw [next] at unasked
    refine ⟨opened, ?_, by intro impossible; cases impossible⟩
    intro asked
    exact unasked (List.mem_cons_of_mem _ asked)
  · intro slot
    have queue : state.queue = {} := (consistent.fresh slot).1
    rw [queue] at next
    cases next

theorem leaves {jobs : List Job} (consistent : Consistent state .idle)
    (next : state.queue.jobs = .exit :: jobs) :
    Consistent { state with queue := { jobs, closed := true } } .gone := by
  have pending := consistent.pending
  have front : (Job.exit :: jobs).count .poll = jobs.count .poll :=
    List.count_cons_of_ne (by decide)
  rw [next, front] at pending
  constructor
  · exact pending
  · exact consistent.exclusive
  · exact consistent.position
  · intro capture impossible
    cases impossible
  · intro capture impossible
    cases impossible
  · intro capture impossible
    cases impossible
  · intro slot
    obtain ⟨_, unasked, _⟩ := consistent.serving slot
    rw [next] at unasked
    exact absurd List.mem_cons_self unasked
  · intro slot
    have queue : state.queue = {} := (consistent.fresh slot).1
    rw [queue] at next
    cases next

/-- A worker moves on within a cycle, or leaves it once its exchange is over. -/
theorem of_activity (consistent : Consistent state activity)
    (captures : ∀ capture, after.capture? = some capture → activity.capture? = some capture)
    (exchanges : after.exchanging? = activity.exchanging?)
    (held : after.heldPolls = activity.heldPolls) (stays : after ≠ .gone)
    (within : activity ≠ .idle) : Consistent state after where
  pending := by rw [held]; exact consistent.pending
  exclusive := consistent.exclusive
  position := by rw [exchanges]; exact consistent.position
  current := fun capture found => consistent.current capture (captures capture found)
  epoch := fun capture found => consistent.epoch capture (captures capture found)
  hit := fun capture found =>
    consistent.hit capture (exchanges ▸ found)
  serving := fun running =>
    ⟨(consistent.serving running).1, (consistent.serving running).2.1, stays⟩
  fresh := fun unstarted => absurd unstarted (consistent.started_worker within)

theorem settle (consistent : Consistent state activity)
    (captures : ∀ capture, after.capture? = some capture → activity.capture? = some capture)
    (settled : after.exchanging? = none) (held : after.heldPolls = activity.heldPolls)
    (stays : after ≠ .gone) (within : activity ≠ .idle) : Consistent state.settle after where
  pending := by rw [held]; exact consistent.pending
  exclusive := by intro impossible; cases impossible
  position := by rw [settled]; rfl
  current := fun capture found => consistent.current capture (captures capture found)
  epoch := fun capture found => consistent.epoch capture (captures capture found)
  hit := by intro capture found; rw [settled] at found; cases found
  serving := fun running =>
    ⟨(consistent.serving running).1, (consistent.serving running).2.1, stays⟩
  fresh := fun unstarted => absurd unstarted (consistent.started_worker within)

theorem failed {capture : Capture} {fault : Fault} (consistent : Consistent state activity)
    (failed : activity.failure? = some (capture, fault))
    (captures : ∀ other, after.capture? = some other → some capture = some other)
    (settled : after.exchanging? = none) (held : after.heldPolls = 0) (stays : after ≠ .gone) :
    Consistent state.settle after := by
  rcases Activity.of_failure? failed with rfl | rfl
  · exact consistent.settle captures settled held stays (by intro impossible; cases impossible)
  · exact consistent.settle captures settled held stays (by intro impossible; cases impossible)

/-- A channel may turn itself off when no exchange is under way. -/
theorem turnOff (consistent : Consistent state activity) (settled : activity.exchanging? = none) :
    Consistent { state with stopped := true } activity where
  pending := consistent.pending
  exclusive := consistent.exclusive
  position := consistent.position
  current := consistent.current
  epoch := consistent.epoch
  hit := by intro capture found; rw [settled] at found; cases found
  serving := consistent.serving
  fresh := consistent.fresh

theorem withPoll (consistent : Consistent state activity) (unposted : state.taskPosted = false)
    (quiet : state.inProgress = false) (served : state.serves = true) :
    Consistent state.withPoll activity where
  pending := by
    have nothing := consistent.pending
    rw [unposted] at nothing
    have one : (state.queue.jobs ++ [Job.poll]).count .poll =
        state.queue.jobs.count .poll + 1 := by
      rw [List.count_append]
      rfl
    simp only [State.withPoll, one, if_true]
    simp only [Bool.false_eq_true, if_false] at nothing
    omega
  exclusive := by
    intro busy
    rw [show state.withPoll.inProgress = state.inProgress from rfl, quiet] at busy
    cases busy
  position := consistent.position
  current := consistent.current
  epoch := consistent.epoch
  hit := consistent.hit
  serving := by
    intro running
    obtain ⟨opened, unasked, stays⟩ := consistent.serving running
    refine ⟨opened, ?_, stays⟩
    intro asked
    rcases List.mem_append.mp asked with earlier | last
    · exact unasked earlier
    · cases List.mem_singleton.mp last
  fresh := by
    intro unstarted
    have slot : state.worker = .unstarted := unstarted
    simp [State.serves, slot] at served

theorem rescheduled {unposted : Option Fault} (consistent : Consistent state activity)
    (settled : activity.exchanging? = none) (ends : Rescheduled channelId state next unposted) :
    Consistent next activity := by
  have quiet : state.inProgress = false := by
    rw [consistent.position, settled]
    rfl
  cases ends with
  | kept needless => exact consistent
  | posted running free served => exact consistent.withPoll free quiet served
  | refused running free unserved => exact consistent.turnOff settled

theorem equip (consistent : Consistent state activity) : Consistent state.equip activity where
  pending := consistent.pending
  exclusive := consistent.exclusive
  position := consistent.position
  current := consistent.current
  epoch := consistent.epoch
  hit := consistent.hit
  serving := by
    intro running
    by_cases unstarted : state.worker = .unstarted
    · obtain ⟨empty, idle⟩ := consistent.fresh unstarted
      have queue : state.equip.queue = {} := empty
      rw [queue, idle]
      decide
    · have same : state.equip.worker = state.worker := if_neg unstarted
      exact consistent.serving (same ▸ running)
  fresh := by
    intro unstarted
    by_cases before : state.worker = .unstarted
    · have running : state.equip.worker = .running := if_pos before
      rw [running] at unstarted
      cases unstarted
    · have same : state.equip.worker = state.worker := if_neg before
      exact absurd (same ▸ unstarted) before

theorem turnOn (consistent : Consistent state activity) :
    Consistent { state with stopped := false } activity where
  pending := consistent.pending
  exclusive := consistent.exclusive
  position := consistent.position
  current := consistent.current
  epoch := consistent.epoch
  hit := by intro capture found impossible; cases impossible
  serving := consistent.serving
  fresh := consistent.fresh

theorem started {spawnFault : Option String} {result : Except Fault Unit}
    (consistent : Consistent state activity)
    (ends : Started channelId spawnFault state next result) : Consistent next activity := by
  cases ends with
  | unspawned first failed => exact consistent
  | alreadyRunning running => exact consistent.equip
  | resumed stopped ahead => exact consistent.equip.turnOn
  | posted stopped unposted quiet served =>
      exact consistent.equip.turnOn.withPoll unposted quiet served
  | refused stopped unposted quiet unserved => exact consistent.equip

/-- A stop that finds an exchange leaves its trace in the epoch, whatever follows. -/
theorem stop (consistent : Consistent state activity) : Consistent state.stop activity where
  pending := consistent.pending
  exclusive := consistent.exclusive
  position := consistent.position
  current := consistent.current
  epoch := by
    intro capture found
    have before := consistent.epoch capture found
    simp only [State.stop]
    split <;> omega
  hit := by
    intro capture found _
    have before := consistent.epoch capture (Activity.capture?_of_exchanging? found)
    have busy : state.inProgress = true := by
      rw [consistent.position, found]
      rfl
    cases stopped : state.stopped with
    | true =>
        have hit := consistent.hit capture found stopped
        simpa [State.stop, State.stopAborts, stopped] using hit
    | false =>
        have aborts : state.stopAborts = true := by simp [State.stopAborts, stopped, busy]
        simp only [State.stop, aborts, if_true]
        omega
  serving := consistent.serving
  fresh := consistent.fresh

theorem proceeds {move : Move} {events : List Event} (consistent : Consistent state activity)
    (moves : Proceeds state activity move after events) : Consistent state after := by
  cases moves <;> exact consistent.of_activity (by intro _ found; exact found) rfl rfl
    (by intro impossible; cases impossible) (by intro impossible; cases impossible)

/-- The first section of a cycle captures the epoch of its time. -/
theorem begins {capture : Capture} (consistent : Consistent state .taken)
    (running : state.stopped = false) (captured : state.capture channelId = .ok capture) :
    Consistent
      { state with taskPosted := false, inProgress := true, cycleSeq := state.cycleSeq + 1 }
      (.compiling capture) := by
  obtain ⟨cycle, epoch, _⟩ := State.capture_eq_ok captured
  have posted := consistent.posted_of_taken
  have pending := consistent.pending
  rw [posted] at pending
  constructor
  · change 0 + state.queue.jobs.count .poll = 0
    change 1 + state.queue.jobs.count .poll = 1 at pending
    omega
  · intro _
    rfl
  · rfl
  · intro other found
    cases found
    exact cycle
  · intro other found
    cases found
    exact Nat.le_of_eq epoch
  · intro other found stopped
    have impossible : state.stopped = true := stopped
    rw [running] at impossible
    cases impossible
  · intro slot
    obtain ⟨opened, unasked, _⟩ := consistent.serving slot
    exact ⟨opened, unasked, by intro impossible; cases impossible⟩
  · intro slot
    exact absurd slot (consistent.started_worker (by intro impossible; cases impossible))

theorem turn {managerAlive : Bool} {move : Move} {events : List Event}
    (consistent : Consistent state activity)
    (turn : Turn setup managerAlive state activity move next after events) :
    Consistent next after := by
  cases turn with
  | take next => exact consistent.takes next
  | leave next => exact consistent.leaves next
  | skip stopped => exact consistent.unbegun
  | misconfigure running missing => exact consistent.unbegun.turnOff rfl
  | begin running captured => exact consistent.begins running captured
  | proceed proceeds => exact consistent.proceeds proceeds
  | settle settles =>
      cases settles <;> exact consistent.settle (by intro _ found; exact found) rfl rfl
        (by intro impossible; cases impossible) (by intro impossible; cases impossible)
  | drop hit rescheduled =>
      have rest : Consistent state.settle .idle :=
        consistent.settle (by intro _ impossible; cases impossible) rfl rfl
          (by intro impossible; cases impossible) (by intro impossible; cases impossible)
      exact rest.rescheduled rfl rescheduled
  | finish rescheduled =>
      have rest : Consistent state .idle :=
        consistent.of_activity (by intro _ impossible; cases impossible) rfl rfl
          (by intro impossible; cases impossible) (by intro impossible; cases impossible)
      exact rest.rescheduled rfl rescheduled
  | cancel failed hit rescheduled =>
      have rest : Consistent state.settle .idle :=
        consistent.failed failed (by intro _ impossible; cases impossible) rfl rfl
          (by intro impossible; cases impossible)
      exact rest.rescheduled rfl rescheduled
  | fail failed unhit =>
      rename_i capture fault
      cases managerAlive with
      | true =>
          have rest : Consistent state.settle (.reporting capture) :=
            consistent.failed failed (by intro _ found; exact found) rfl rfl
              (by intro impossible; cases impossible)
          exact rest.turnOff rfl
      | false =>
          have rest : Consistent state.settle .idle :=
            consistent.failed failed (by intro _ impossible; cases impossible) rfl rfl
              (by intro impossible; cases impossible)
          exact rest.turnOff rfl
  | reported =>
      exact consistent.of_activity (by intro _ impossible; cases impossible) rfl rfl
        (by intro impossible; cases impossible) (by intro impossible; cases impossible)

theorem dismissed (consistent : Consistent state activity) (retired : state.worker = .retired) :
    Consistent { state with queue := (state.queue.post? .exit).getD state.queue } activity := by
  have polls : ((state.queue.post? .exit).getD state.queue).jobs.count .poll =
      state.queue.jobs.count .poll := by
    unfold JobQueue.post?
    split
    · rfl
    · change (state.queue.jobs ++ [Job.exit]).count .poll = state.queue.jobs.count .poll
      rw [List.count_append]
      rfl
  constructor
  · rw [← consistent.pending]
    exact congrArg (activity.heldPolls + ·) polls
  · exact consistent.exclusive
  · exact consistent.position
  · exact consistent.current
  · exact consistent.epoch
  · exact consistent.hit
  · intro running
    exact absurd (retired ▸ running : WorkerSlot.retired = .running) (by decide)
  · intro unstarted
    exact absurd (retired ▸ unstarted : WorkerSlot.retired = .unstarted) (by decide)

theorem retired (consistent : Consistent state activity) :
    Consistent { state with worker := .retired } activity where
  pending := consistent.pending
  exclusive := consistent.exclusive
  position := consistent.position
  current := consistent.current
  epoch := consistent.epoch
  hit := consistent.hit
  serving := by intro impossible; cases impossible
  fresh := by intro impossible; cases impossible

theorem rebound {server : Option PollServer} {session : Option Session}
    {multiplexer : Option Multiplexer} {demultiplexer : Option Demultiplexer}
    (consistent : Consistent state activity) :
    Consistent { state with server, session, multiplexer, demultiplexer } activity where
  pending := consistent.pending
  exclusive := consistent.exclusive
  position := consistent.position
  current := consistent.current
  epoch := consistent.epoch
  hit := consistent.hit
  serving := consistent.serving
  fresh := consistent.fresh

theorem advances {chance : Chance} {call called : Call} {events : List Event}
    (consistent : Consistent state activity)
    (dismissing : .dismiss ∈ call.sections → state.worker = .retired)
    (advances : Advances setup chance state call next called events) :
    Consistent next activity := by
  cases advances with
  | start sections started => exact consistent.started started
  | stopPanicking sections aborts panics => exact consistent.stop
  | stopWaiting sections busy outside => exact consistent.stop
  | stopPassing sections free => exact consistent.stop
  | bind sections => exact consistent.rebound
  | setMultiplexer sections => exact consistent.rebound
  | setDemultiplexer sections => exact consistent.rebound
  | retire sections leaves => exact consistent.retired
  | dismiss sections => exact consistent.dismissed (dismissing (sections ▸ List.mem_cons_self))
  | await sections settled => exact consistent
  | noServer sections unbound => exact consistent
  | serverFound sections bound => exact consistent
  | join sections left => exact consistent

end Consistent

/-! ### Reachable worlds -/

/-- The invariant of a channel together with the calls made of it. -/
structure World.Sound (world : World) : Prop where
  consistent : Consistent world.state world.activity
  dismissing : ∀ call ∈ world.calls, .dismiss ∈ call.sections → world.state.worker = .retired
  awaiting : ∀ call ∈ world.calls, ∀ cycle, .await cycle ∈ call.sections →
    cycle ≤ world.state.cycleSeq

/-- Whether an operation may be planned with the section; the others come up on the way. -/
def Section.isPlanned : Section → Bool
  | .await _ | .dismiss | .join => false
  | _ => true

theorem Call.make_isPlanned {draw : Draw} {operation : Operation} {onWorker : Bool} :
    ∀ left ∈ (Call.make setup draw operation onWorker).sections, left.isPlanned = true := by
  intro left ahead
  obtain ⟨sections, made, planned⟩ := Call.make_planned ahead
  have every : ∀ left ∈ sections, left.isPlanned = true := by
    cases planned <;> simp [restart, Section.isPlanned]
  rw [made] at ahead
  exact every left ahead

/-- A section that operations are planned with does not come up on the way. -/
theorem Advances.planned_mem {chance : Chance} {state next : State} {call after : Call}
    {events : List Event} (advances : Advances setup chance state call next after events)
    {left : Section} (planned : left.isPlanned = true) (member : left ∈ after.sections) :
    left ∈ call.sections := by
  rcases advances.section_mem member with before | ⟨rfl, _⟩ | ⟨rfl | rfl, _⟩
  · exact before
  · cases planned
  · cases planned
  · cases planned

namespace World.Sound

theorem new (multiplexer : Option Multiplexer) (demultiplexer : Option Demultiplexer)
    (managerAlive : Bool) : (World.new multiplexer demultiplexer managerAlive).Sound where
  consistent := .initial multiplexer demultiplexer
  dismissing := by intro call impossible; cases impossible
  awaiting := by intro call impossible; cases impossible

theorem happening {before after : World} {action : Action} {events : List Event}
    (sound : before.Sound) (happening : Happening setup before action after events) :
    after.Sound := by
  constructor
  · cases happening with
    | work free turn => exact sound.consistent.turn turn
    | advance found advances =>
        exact sound.consistent.advances (sound.dismissing _ (List.mem_of_getElem? found)) advances
    | _ => exact sound.consistent
  · refine happening.each_call ?_ ?_ ?_ ?_
    · intro call member asked
      exact happening.retired (sound.dismissing call member asked)
    · intro operation draw onWorker _ asked
      cases Call.make_isPlanned _ asked
    · intro call _ asked
      cases asked
    · intro index chance call next _ found advances asked
      rcases advances.section_mem asked with before | ⟨waits, _⟩ | ⟨_, retired⟩
      · exact happening.retired (sound.dismissing call (List.mem_of_getElem? found) before)
      · cases waits
      · exact retired
  · refine happening.each_call ?_ ?_ ?_ ?_
    · intro call member cycle asked
      exact Nat.le_trans (sound.awaiting call member cycle asked) happening.cycleSeq_le
    · intro operation draw onWorker _ cycle asked
      cases Call.make_isPlanned _ asked
    · intro call _ cycle asked
      cases asked
    · intro index chance call next _ found advances cycle asked
      rcases advances.section_mem asked with before | ⟨waits, _⟩ | ⟨leaves | leaves, _⟩
      · exact Nat.le_trans (sound.awaiting call (List.mem_of_getElem? found) cycle before)
          happening.cycleSeq_le
      · cases waits
        exact happening.cycleSeq_le
      · cases leaves
      · cases leaves

end World.Sound

namespace Run

variable {start finish : World} {steps : List (Step setup)}

theorem sound (run : Run setup start steps finish) (sound : start.Sound) : finish.Sound :=
  run.keeps World.Sound sound fun step _ before => before.happening step.happening

theorem sound_at (run : Run setup start steps finish) (sound : start.Sound) :
    ∀ step ∈ steps, step.before.Sound ∧ step.after.Sound :=
  run.keeps_at World.Sound sound fun step _ before => before.happening step.happening

end Run

end LongPoll.Channel
