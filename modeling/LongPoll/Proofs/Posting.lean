import LongPoll.Proofs.Shutdown

set_option autoImplicit false

/-!
The jobs of the worker along a run. What is posted is taken in the order of posting; a cycle is
posted only while there is a worker, and the exit only for a shutdown that dismisses it. Every move
of the worker uses up what has been posted, so that it comes to an end if nothing else is posted.
-/

namespace LongPoll.Channel

variable {setup : Setup}

/-! ### What is taken and what is posted -/

/-- The job that the worker takes in the step, if it takes one. -/
def Step.taken (step : Step setup) : List Job :=
  match step.action with
  | .work .take => step.before.state.queue.jobs.take 1
  | _ => []

/-- What the step leaves in the queue behind the jobs that were there. -/
def Step.posted (step : Step setup) : List Job :=
  (step.taken ++ step.after.state.queue.jobs).drop step.before.state.queue.jobs.length

/-- What a step may post. -/
inductive Step.Posts (step : Step setup) : List Job → Prop
  | nothing : Posts step []
  | poll (running : step.after.state.worker = .running) : Posts step [.poll]
  | exit {index : Nat} (dismisses : step.RunsFor index .dismiss) : Posts step [.exit]

theorem Rescheduled.jobs {channelId : String} {state next : State} {unposted : Option Fault}
    (ends : Rescheduled channelId state next unposted) :
    next.queue.jobs = state.queue.jobs ∨
      next.queue.jobs = state.queue.jobs ++ [.poll] ∧ next.worker = .running := by
  cases ends with
  | kept | refused => exact .inl rfl
  | posted running unposted served => exact .inr ⟨rfl, State.running_of_serves served⟩

theorem Started.jobs {channelId : String} {spawnFault : Option String} {state next : State}
    {result : Except Fault Unit} (ends : Started channelId spawnFault state next result) :
    next.queue.jobs = state.queue.jobs ∨
      next.queue.jobs = state.queue.jobs ++ [.poll] ∧ next.worker = .running := by
  cases ends with
  | posted stopped unposted quiet served => exact .inr ⟨rfl, State.running_of_serves served⟩
  | unspawned | alreadyRunning | resumed | refused => exact .inl rfl

theorem Turn.jobs {managerAlive : Bool} {state next : State} {activity after : Activity}
    {move : Move} {events : List Event}
    (turn : Turn setup managerAlive state activity move next after events) :
    (move = .take ∧ ∃ job, state.queue.jobs = job :: next.queue.jobs) ∨
      move ≠ .take ∧ (next.queue.jobs = state.queue.jobs ∨
        next.queue.jobs = state.queue.jobs ++ [.poll] ∧ next.worker = .running) := by
  cases turn with
  | take jobs | leave jobs => exact .inl ⟨rfl, _, jobs⟩
  | drop hit rescheduled | cancel failed hit rescheduled => exact .inr ⟨nofun, rescheduled.jobs⟩
  | finish rescheduled => exact .inr ⟨nofun, rescheduled.jobs⟩
  | skip | misconfigure | begin | settle | fail | reported => exact .inr ⟨nofun, .inl rfl⟩
  | proceed proceeds =>
      refine .inr ⟨?_, .inl rfl⟩
      cases proceeds <;> nofun

theorem Advances.jobs {chance : Chance} {state next : State} {call after : Call}
    {events : List Event} (advances : Advances setup chance state call next after events) :
    next.queue.jobs = state.queue.jobs ∨
      next.queue.jobs = state.queue.jobs ++ [.poll] ∧ next.worker = .running ∨
      next.queue.jobs = state.queue.jobs ++ [.exit] ∧ ∃ rest, call.sections = .dismiss :: rest := by
  cases advances with
  | start sections started => exact started.jobs.imp_right .inl
  | dismiss sections =>
      cases closed : state.queue.closed with
      | true => simp [JobQueue.post?, closed]
      | false =>
          refine .inr (.inr ⟨?_, _, sections⟩)
          simp [JobQueue.post?, closed]
  | _ => exact .inl rfl

namespace Step

variable {step : Step setup}

theorem taken_of_not_take (other : step.action ≠ .work .take) : step.taken = [] := by
  unfold taken
  split
  · rename_i takes
    exact absurd takes other
  · rfl

/-- A step takes the first of the jobs or none, and posts behind the last. -/
theorem posts (step : Step setup) : ∃ posted, step.Posts posted ∧
    step.taken ++ step.after.state.queue.jobs = step.before.state.queue.jobs ++ posted := by
  have untaken {posted : List Job} (other : step.action ≠ .work .take)
      (jobs : step.after.state.queue.jobs = step.before.state.queue.jobs ++ posted) :
      step.taken ++ step.after.state.queue.jobs = step.before.state.queue.jobs ++ posted := by
    rw [taken_of_not_take other]
    exact jobs
  obtain ⟨before, action, after, events, happens⟩ := step
  have happening : Happening setup before action after events :=
    Step.happening ⟨before, action, after, events, happens⟩
  cases happening with
  | @advance index chance call next state events found advances =>
      rcases advances.jobs with same | ⟨more, running⟩ | ⟨more, rest, sections⟩
      · exact ⟨[], .nothing, untaken nofun (same.trans (List.append_nil _).symm)⟩
      · exact ⟨[.poll], .poll running, untaken nofun more⟩
      · exact ⟨[.exit], .exit ⟨chance, call, rest, rfl, found, sections⟩, untaken nofun more⟩
  | @work move state activity events free turn =>
      rcases turn.jobs with ⟨rfl, job, jobs⟩ | ⟨other, same | ⟨more, running⟩⟩
      · refine ⟨[], .nothing, ?_⟩
        change before.state.queue.jobs.take 1 ++ state.queue.jobs = before.state.queue.jobs ++ []
        rw [jobs]
        simp
      · have elsewhere : Action.work move ≠ .work .take := fun same => other (Action.work.inj same)
        exact ⟨[], .nothing, untaken elsewhere (same.trans (List.append_nil _).symm)⟩
      · have elsewhere : Action.work move ≠ .work .take := fun same => other (Action.work.inj same)
        exact ⟨[.poll], .poll running, untaken elsewhere more⟩
  | invoke | repeatAbort | repeatPanicking | dropManager =>
      exact ⟨[], .nothing, untaken nofun (List.append_nil _).symm⟩

/-- Nothing is lost between what is posted and what is taken. -/
theorem jobs (step : Step setup) :
    step.taken ++ step.after.state.queue.jobs =
      step.before.state.queue.jobs ++ step.posted := by
  obtain ⟨posted, _, jobs⟩ := step.posts
  unfold Step.posted
  rw [jobs, List.drop_left]

theorem posts_posted (step : Step setup) : step.Posts step.posted := by
  obtain ⟨posted, posts, jobs⟩ := step.posts
  have same : step.posted = posted := by
    unfold Step.posted
    rw [jobs, List.drop_left]
  rw [same]
  exact posts

theorem not_poll_of_retired (retired : step.before.state.worker = .retired) :
    .poll ∉ step.posted := by
  have still := step.happening.retired retired
  have posts := step.posts_posted
  intro member
  generalize step.posted = posted at posts member
  cases posts with
  | nothing => cases member
  | poll running =>
      rw [still] at running
      cases running
  | exit dismisses => cases List.mem_singleton.mp member

end Step

/-- The jobs are taken in the order in which they have been posted. -/
theorem Run.jobs {start finish : World} {steps : List (Step setup)}
    (run : Run setup start steps finish) :
    start.state.queue.jobs ++ steps.flatMap Step.posted =
      steps.flatMap Step.taken ++ finish.state.queue.jobs := by
  induction run with
  | nil world => exact List.append_nil _
  | cons step tail ih =>
      rw [List.flatMap_cons, List.flatMap_cons, ← List.append_assoc, ← step.jobs,
        List.append_assoc, ih, List.append_assoc]

/-! ### How many moves are left -/

/-- How many moves the worker makes at most before it comes to the next job. -/
def Activity.movesLeft : Activity → Nat
  | .idle | .gone => 0
  | .delivered _ | .reporting _ => 1
  | .failing .. | .undelivered .. => 2
  | .processing _ => 3
  | .answered .. => 4
  | .sending .. => 5
  | .cleared .. => 6
  | .built .. => 7
  | .compiling _ => 8
  | .taken => 9

/-- How many moves the worker makes at most if nothing is posted. -/
def World.movesLeft (world : World) : Nat :=
  world.activity.movesLeft + 10 * world.state.queue.jobs.length

def Step.isMove (step : Step setup) : Bool :=
  match step.action with
  | .work _ => true
  | _ => false

/-- Every move takes a job or brings the worker closer to the next one. -/
theorem Turn.movesLeft {managerAlive : Bool} {state next : State} {activity after : Activity}
    {move : Move} {events : List Event}
    (turn : Turn setup managerAlive state activity move next after events) :
    after.movesLeft < activity.movesLeft ∨
      (∃ job, state.queue.jobs = job :: next.queue.jobs) ∧ after.movesLeft < 10 := by
  have failing {capture : Capture} {fault : Fault}
      (failed : activity.failure? = some (capture, fault)) : activity.movesLeft = 2 := by
    rcases Activity.of_failure? failed with rfl | rfl
    · rfl
    · rfl
  cases turn with
  | take jobs | leave jobs => exact .inr ⟨⟨_, jobs⟩, by simp [Activity.movesLeft]⟩
  | skip | misconfigure | begin | drop | finish | reported =>
      exact .inl (by simp [Activity.movesLeft])
  | proceed proceeds => cases proceeds <;> exact .inl (by simp [Activity.movesLeft])
  | settle settles => cases settles <;> exact .inl (by simp [Activity.movesLeft])
  | cancel failed hit rescheduled =>
      left
      rw [failing failed]
      decide
  | fail failed unhit =>
      left
      rw [failing failed]
      split <;> simp [Activity.movesLeft]

theorem Step.movesLeft (step : Step setup) :
    step.after.movesLeft + (if step.isMove then 1 else 0) ≤
      step.before.movesLeft + 10 * step.posted.length := by
  have length : step.taken.length + step.after.state.queue.jobs.length =
      step.before.state.queue.jobs.length + step.posted.length := by
    rw [← List.length_append, step.jobs, List.length_append]
  unfold World.movesLeft
  by_cases moves : ∃ move, step.action = .work move
  · obtain ⟨move, action⟩ := moves
    rcases (action ▸ step.happening).turn.movesLeft with closer | ⟨⟨job, jobs⟩, near⟩
    · split <;> omega
    · rw [jobs, List.length_cons] at length ⊢
      split <;> omega
  · have unmoved : step.isMove = false := by
      unfold Step.isMove
      split
      · rename_i move action
        exact absurd ⟨move, action⟩ moves
      · rfl
    have same : step.after.activity = step.before.activity := by
      rcases step.happening.turn_or_kept with ⟨move, action, _⟩ | same
      · exact absurd ⟨move, action⟩ moves
      · exact same
    rw [unmoved, same]
    simp only [Bool.false_eq_true, if_false]
    omega

/-- All moves that a run can make without a new job are counted before. -/
theorem Run.movesLeft {start finish : World} {steps : List (Step setup)}
    (run : Run setup start steps finish) :
    steps.countP Step.isMove + finish.movesLeft ≤
      start.movesLeft + 10 * (steps.flatMap Step.posted).length := by
  induction run with
  | nil world => simp
  | cons step tail ih =>
      have first := step.movesLeft
      rw [List.countP_cons, List.flatMap_cons, List.length_append]
      omega

end LongPoll.Channel
