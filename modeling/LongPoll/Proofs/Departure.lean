import LongPoll.Proofs.Posting
import LongPoll.Proofs.Reentry

set_option autoImplicit false

/-!
How the worker of a channel leaves. A shutdown retires it and then asks it to leave, once; it first
comes to what had been posted before. The channel that it leaves behind is at rest whatever others
have asked of it meanwhile, since the last cycle cannot post another. Only a stop on the worker's
own thread that takes it for a stranger can keep it from leaving.
-/

namespace LongPoll.Channel

variable {setup : Setup}

/-! ### Asking the worker to leave -/

namespace Call

variable {state : State} {call : Call} {chance : Chance}

theorem advance?_of_retire {rest : List Section} (sections : call.sections = .retire :: rest) :
    call.advance? setup state chance = some {
      state := { state with worker := .retired }
      call := { call with
        sections := (if state.worker = .running then
          .dismiss :: (if setup.config.joinWorkerOnDrop && !call.onWorker then [.join] else [])
          else []) ++ rest } } := by
  unfold advance?
  rw [sections]

/-- A call asks the worker to leave right after it has retired it, and joins it from another thread
only. -/
theorem leaving_of_advance? {next : Call.Advance}
    (advanced : call.advance? setup state chance = some next) {left : Section}
    (leaves : left = .dismiss ∨ left = .join) (ahead : left ∈ next.call.sections) :
    left ∈ call.sections ∨ (∃ rest, call.sections = .retire :: rest) ∧ state.worker = .running ∧
      (left = .join → call.onWorker = false) := by
  by_cases retires : ∃ rest, call.sections = .retire :: rest
  · obtain ⟨rest, sections⟩ := retires
    rw [advance?_of_retire sections] at advanced
    cases advanced
    rcases List.mem_append.mp ahead with leaving | later
    · right
      by_cases running : state.worker = .running
      · refine ⟨⟨rest, sections⟩, running, ?_⟩
        rintro rfl
        rw [if_pos running] at leaving
        have joins : setup.config.joinWorkerOnDrop = true ∧ call.onWorker = false := by
          simpa using leaving
        exact joins.2
      · rw [if_neg running] at leaving
        cases leaving
    · exact .inl (sections ▸ List.mem_cons_of_mem _ later)
  · left
    have advances := advances_of_advance? advanced
    generalize next.state = after, next.call = called, next.events = events at advances ahead
    cases advances with
    | retire sections => exact absurd ⟨_, sections⟩ retires
    | stopPanicking | noServer => cases ahead
    | stopWaiting sections busy outside =>
        rcases List.mem_cons.mp ahead with rfl | later
        · rcases leaves with impossible | impossible <;> cases impossible
        · exact sections ▸ List.mem_cons_of_mem _ later
    | start sections | stopPassing sections | await sections | serverFound sections
    | bind sections | setMultiplexer sections | setDemultiplexer sections | dismiss sections
    | join sections => exact sections ▸ List.mem_cons_of_mem _ ahead

end Call

theorem Step.advanced {step : Step setup} {index : Nat} {chance : Chance}
    (action : step.action = .advance index chance) :
    ∃ call next, step.before.calls[index]? = some call ∧
      call.advance? setup step.before.state chance = some next ∧
      step.after = { step.before with
        state := next.state, calls := step.before.calls.set index next.call } ∧
      step.events = next.events := by
  obtain ⟨before, action, after, events, happens⟩ := step
  cases action
  simp only [World.act?] at happens
  split at happens
  · cases happens
  · rename_i call found
    split at happens
    · cases happens
    · rename_i next advanced
      cases happens
      exact ⟨call, next, found, advanced, rfl, rfl⟩

namespace Step

variable {step : Step setup}

theorem leaving {index : Nat} {call : Call} (found : step.after.calls[index]? = some call)
    {left : Section} (leaves : left = .dismiss ∨ left = .join) (ahead : left ∈ call.sections) :
    (∃ earlier, step.before.calls[index]? = some earlier ∧ left ∈ earlier.sections ∧
      earlier.onWorker = call.onWorker) ∨
    step.before.state.worker = .running ∧ step.after.state.worker = .retired ∧
      (left = .join → call.onWorker = false) := by
  rcases step.happening.call found with kept | ⟨operation, draw, onWorker, _, rfl⟩ |
    ⟨earlier, present, _, rfl | ⟨chance, action, advances⟩⟩
  · exact .inl ⟨call, kept, ahead, rfl⟩
  · have planned := Call.make_isPlanned left ahead
    rcases leaves with rfl | rfl <;> cases planned
  · cases ahead
  · obtain ⟨other, next, same, advanced, after, _⟩ := step.advanced action
    cases Option.some.inj (present.symm.trans same)
    obtain ⟨bound, _⟩ := List.getElem?_eq_some_iff.mp present
    rw [after, List.getElem?_set_self bound] at found
    cases found
    -- Only the retirement of a running worker puts a new section before a call.
    rcases Call.leaving_of_advance? advanced leaves ahead with
      before | ⟨⟨rest, sections⟩, running, apart⟩
    · exact .inl ⟨earlier, present, before, advances.onWorker.symm⟩
    · refine .inr ⟨running, (advances.shown sections).1, ?_⟩
      rw [advances.onWorker]
      exact apart

theorem unasked (idle : step.before.state.worker ≠ .running)
    (unasked : ∀ call ∈ step.before.calls, .dismiss ∉ call.sections) :
    ∀ call ∈ step.after.calls, .dismiss ∉ call.sections := by
  intro call member ahead
  obtain ⟨index, found⟩ := List.getElem?_of_mem member
  rcases step.leaving found (.inl rfl) ahead with ⟨earlier, present, before, _⟩ | ⟨running, _⟩
  · exact unasked earlier (List.mem_of_getElem? present) before
  · exact idle running

theorem not_dismiss (unasked : ∀ call ∈ step.before.calls, .dismiss ∉ call.sections)
    (index : Nat) : ¬ step.RunsFor index .dismiss := by
  rintro ⟨chance, call, rest, _, found, sections⟩
  exact unasked call (List.mem_of_getElem? found) (sections ▸ List.mem_cons_self)

theorem posted_of_not_dismiss (slot : step.after.state.worker ≠ .running)
    (undismissed : ∀ index, ¬ step.RunsFor index .dismiss) : step.posted = [] := by
  have posts := step.posts_posted
  generalize step.posted = posted at posts
  cases posts with
  | nothing => rfl
  | poll running => exact absurd running slot
  | exit dismisses => exact absurd dismisses (undismissed _)

/-- The worker leaves with the job that asks it to. -/
theorem leaves (stays : step.before.activity ≠ .gone) (gone : step.after.activity = .gone) :
    step.before.state.queue.jobs = .exit :: step.after.state.queue.jobs := by
  rcases step.happening.turn_or_kept with ⟨move, _, turn⟩ | kept
  · generalize step.before.state = state, step.after.state = next, step.events = events,
      step.before.activity = activity, step.after.activity = after at *
    cases turn with
    | leave jobs => exact jobs
    | take | skip | misconfigure | begin | drop | finish | cancel | reported => cases gone
    | proceed proceeds => cases proceeds <;> cases gone
    | settle settles => cases settles <;> cases gone
    | fail => split at gone <;> cases gone
  · exact absurd (kept.symm.trans gone) stays

theorem gone (gone : step.before.activity = .gone) : step.after.activity = .gone := by
  rcases step.happening.turn_or_kept with ⟨move, _, turn⟩ | kept
  · rw [gone] at turn
    generalize step.before.state = state, step.after.state = next, step.events = events,
      step.after.activity = after at turn
    cases turn with
    | proceed proceeds => cases proceeds
    | cancel failed | fail failed => cases failed
  · exact kept.trans gone

theorem idle (idle : step.before.activity = .idle) (nothing : step.before.state.queue.jobs = []) :
    step.after.activity = .idle := by
  rcases step.happening.turn_or_kept with ⟨move, _, turn⟩ | kept
  · rw [idle] at turn
    generalize step.before.state = state, step.after.state = next, step.events = events,
      step.after.activity = after at turn nothing
    cases turn with
    | take jobs | leave jobs =>
        rw [nothing] at jobs
        cases jobs
    | proceed proceeds => cases proceeds
    | cancel failed | fail failed => cases failed
  · exact kept.trans idle

/-- A section that does not wait stays the first of its call until it runs. -/
theorem kept_until {index : Nat} {call : Call} {part : Section} {rest : List Section}
    (found : step.before.calls[index]? = some call) (sections : call.sections = part :: rest)
    (unwaiting : ∀ cycle, part ≠ .await cycle) (ahead : ¬ step.RunsFor index part) :
    step.after.calls[index]? = some call := by
  rcases step.happening.changes found with kept | ⟨⟨cycle, later, waits⟩, _, _⟩ |
    ⟨chance, _, action, _⟩
  · exact kept
  · cases sections.symm.trans waits
    exact absurd rfl (unwaiting cycle)
  · exact absurd ⟨chance, call, rest, action, found, sections⟩ ahead

theorem dismisses {index : Nat} {call : Call} {rest : List Section}
    (found : step.before.calls[index]? = some call) (sections : call.sections = .dismiss :: rest)
    (runs : step.RunsFor index .dismiss) (opened : step.before.state.queue.closed = false) :
    step.posted = [.exit] ∧ .exit ∈ step.after.state.queue.jobs ∧
      step.after.calls = step.before.calls.set index { call with sections := rest } := by
  have law := step.jobs
  obtain ⟨chance, _, _, action, _, _⟩ := id runs
  rw [taken_of_not_take (by rw [action]; nofun), List.nil_append] at law
  obtain ⟨next, advances, after⟩ := (action ▸ step.happening).advances found
  have exits : step.after.state.queue.jobs = step.before.state.queue.jobs ++ [.exit] ∧
      next = { call with sections := rest } := by
    generalize step.after.state = state, step.events = events at advances
    cases advances with
    | dismiss own =>
        cases sections.symm.trans own
        simp [JobQueue.post?, opened]
    | start other | stopPanicking other | stopWaiting other | stopPassing other | await other
    | noServer other | serverFound other | bind other | setMultiplexer other
    | setDemultiplexer other | retire other | join other =>
        rw [sections] at other
        cases other
  rw [exits.1] at law
  refine ⟨(List.append_cancel_left law).symm, ?_, ?_⟩
  · rw [exits.1]
    simp
  · rw [after, exits.2]

theorem gone_of_taken (exit : .exit ∈ step.taken) : step.after.activity = .gone := by
  unfold taken at exit
  split at exit
  · rename_i action
    have turn := (action ▸ step.happening).turn
    generalize step.before.state = state, step.after.state = next, step.events = events,
      step.before.activity = activity, step.after.activity = after at turn exit
    cases turn with
    | take jobs =>
        rw [jobs] at exit
        cases List.mem_singleton.mp exit
    | leave jobs => rfl
    | proceed proceeds => cases proceeds
  · cases exit

end Step

theorem Happening.worker_of_running {before after : World} {action : Action}
    {events : List Event} (happening : Happening setup before action after events)
    (running : before.state.worker = .running) :
    after.state.worker = .running ∨ after.state.worker = .retired := by
  have workers := happening.spawns_le
  rw [State.workers_of_not_unstarted (by rw [running]; decide)] at workers
  cases slot : after.state.worker with
  | running => exact .inl rfl
  | retired => exact .inr rfl
  | unstarted =>
      have none_left : after.state.workers = 0 := if_pos slot
      omega

theorem Step.retires {step : Step setup} (unretired : step.before.state.worker ≠ .retired)
    (retired : step.after.state.worker = .retired) : ∃ index, step.RunsFor index .retire := by
  obtain ⟨before, action, after, events, happens⟩ := step
  have happening : Happening setup before action after events :=
    Step.happening ⟨before, action, after, events, happens⟩
  change before.state.worker ≠ .retired at unretired
  cases happening with
  | work free turn => exact absurd (turn.worker.symm.trans retired) unretired
  | @advance index chance call next state events found advances =>
      rcases advances.of_retired retired with earlier | ⟨⟨rest, sections⟩, _⟩
      · exact absurd earlier unretired
      · exact ⟨index, chance, call, rest, rfl, found, sections⟩
  | invoke | repeatAbort | repeatPanicking | dropManager => exact absurd retired unretired

theorem Advances.spawned_iff {chance : Chance} {state next : State} {call after : Call}
    {events : List Event} (advances : Advances setup chance state call next after events) :
    .spawned ∈ events ↔ state.worker = .unstarted ∧ next.worker = .running := by
  have unchanged (kept : next.worker = state.worker) (unspawned : Event.spawned ∉ events) :
      .spawned ∈ events ↔ state.worker = .unstarted ∧ next.worker = .running := by
    constructor
    · intro spawned
      exact absurd spawned unspawned
    · rintro ⟨unstarted, running⟩
      rw [kept, unstarted] at running
      cases running
  cases advances with
  | start sections started =>
      split
      · rename_i able
        have created := started.equipped able.2
        rcases started.worker with same | ⟨_, running⟩
        · exact absurd (same.trans able.1) created
        · exact iff_of_true (List.mem_singleton_self _) ⟨able.1, running⟩
      · rename_i unable
        refine iff_of_false List.not_mem_nil ?_
        rintro ⟨unstarted, running⟩
        cases started with
        | unspawned => cases unstarted.symm.trans running
        | alreadyRunning _ able | resumed _ _ able | posted _ _ _ _ able | refused _ _ _ _ able =>
            exact unable ⟨unstarted, able unstarted⟩
  | stopPanicking => exact unchanged rfl (by simp)
  | stopWaiting | stopPassing => exact unchanged rfl (by split <;> simp)
  | noServer => exact unchanged rfl (by simp)
  | retire => exact iff_of_false List.not_mem_nil nofun
  | await | serverFound | bind | setMultiplexer | setDemultiplexer | dismiss | join =>
      exact unchanged rfl List.not_mem_nil

theorem Step.spawned_iff (step : Step setup) :
    .spawned ∈ step.events ↔
      step.before.state.worker = .unstarted ∧ step.after.state.worker = .running := by
  have unchanged {worker : WorkerSlot} {events : List Event} (unspawned : Event.spawned ∉ events) :
      .spawned ∈ events ↔ worker = .unstarted ∧ worker = .running := by
    constructor
    · intro spawned
      exact absurd spawned unspawned
    · rintro ⟨rfl, running⟩
      cases running
  have happening := step.happening
  generalize step.before = before, step.action = action, step.after = after,
    step.events = events at happening
  cases happening with
  | work free turn =>
      change _ ↔ before.state.worker = .unstarted ∧ _
      rw [turn.worker]
      exact unchanged turn.not_spawned
  | advance found advances => exact advances.spawned_iff
  | invoke | dropManager => exact unchanged List.not_mem_nil
  | repeatAbort | repeatPanicking => exact unchanged (by simp)

def Spawned (steps : List (Step setup)) : Prop := ∃ step ∈ steps, .spawned ∈ step.events

theorem Spawned.append {first second : List (Step setup)} :
    Spawned (first ++ second) ↔ Spawned first ∨ Spawned second := by
  simp [Spawned, or_and_right, exists_or]

theorem Spawned.concat {made : List (Step setup)} {step : Step setup} :
    Spawned (made ++ [step]) ↔ Spawned made ∨ .spawned ∈ step.events := by
  rw [Spawned.append]
  simp [Spawned]

/-! ### The last job -/

/-- How far the departure of the worker has come, after the steps made so far. -/
inductive World.Stage (made : List (Step setup)) (world : World) : Prop
  /-- The worker has not retired, and only cycles have been posted. -/
  | staffed {polls : Nat} (unretired : world.state.worker ≠ .retired)
      (spawned : Spawned made ↔ world.state.worker = .running)
      (posted : made.flatMap Step.posted = List.replicate polls .poll)
      (unposted : ¬ Spawned made → polls = 0)
  /-- There has never been a worker, and there will be none. -/
  | unmanned (retired : world.state.worker = .retired) (unspawned : ¬ Spawned made)
      (posted : made.flatMap Step.posted = []) (idle : world.activity = .idle)
      (unasked : ∀ call ∈ world.calls, .dismiss ∉ call.sections)
  /-- One call is about to ask the worker to leave. -/
  | asked {polls index : Nat} {call : Call} {rest : List Section}
      (retired : world.state.worker = .retired) (spawned : Spawned made)
      (posted : made.flatMap Step.posted = List.replicate polls .poll)
      (stays : world.activity ≠ .gone) (found : world.calls[index]? = some call)
      (sections : call.sections = .dismiss :: rest) (once : .dismiss ∉ rest)
      (alone : ∀ (other : Nat) (call : Call), world.calls[other]? = some call →
        .dismiss ∈ call.sections → other = index)
  /-- The worker will come to the exit. -/
  | told {polls : Nat} (retired : world.state.worker = .retired) (spawned : Spawned made)
      (posted : made.flatMap Step.posted = List.replicate polls .poll ++ [.exit])
      (stays : world.activity ≠ .gone) (ahead : .exit ∈ world.state.queue.jobs)
      (unasked : ∀ call ∈ world.calls, .dismiss ∉ call.sections)
  | left {polls : Nat} (retired : world.state.worker = .retired) (spawned : Spawned made)
      (posted : made.flatMap Step.posted = List.replicate polls .poll ++ [.exit])
      (gone : world.activity = .gone) (done : world.state.queue.jobs = [])
      (unasked : ∀ call ∈ world.calls, .dismiss ∉ call.sections)

namespace World.Stage

variable {made : List (Step setup)} {step : Step setup}

theorem not_spawned_of_retired (retired : step.before.state.worker = .retired) :
    .spawned ∉ step.events := by
  intro spawned
  rw [(step.spawned_iff.mp spawned).1] at retired
  cases retired

theorem flatMap_concat {view : Step setup → List Job} :
    (made ++ [step]).flatMap view = made.flatMap view ++ view step := by
  simp

/-- A worker that was never there takes nothing and is asked nothing. -/
theorem unmanned_concat (retired : step.before.state.worker = .retired)
    (unspawned : ¬ Spawned made) (posted : made.flatMap Step.posted = [])
    (idle : step.before.activity = .idle) (nothing : step.before.state.queue.jobs = [])
    (unasked : ∀ call ∈ step.before.calls, .dismiss ∉ call.sections) :
    step.after.Stage (made ++ [step]) := by
  have still := step.happening.retired retired
  refine .unmanned still ?_ ?_ (step.idle idle nothing) ?_
  · rw [Spawned.concat]
    rintro (spawned | spawned)
    · exact unspawned spawned
    · exact not_spawned_of_retired retired spawned
  · rw [flatMap_concat, posted, Step.posted_of_not_dismiss (by rw [still]; decide)
      (Step.not_dismiss unasked)]
    rfl
  · exact Step.unasked (by rw [retired]; decide) unasked

theorem left_concat {polls : Nat} (retired : step.before.state.worker = .retired)
    (spawned : Spawned made)
    (posted : made.flatMap Step.posted = List.replicate polls .poll ++ [.exit])
    (gone : step.before.activity = .gone) (done : step.before.state.queue.jobs = [])
    (unasked : ∀ call ∈ step.before.calls, .dismiss ∉ call.sections) :
    step.after.Stage (made ++ [step]) := by
  have still := step.happening.retired retired
  have nothing : step.posted = [] := Step.posted_of_not_dismiss (by rw [still]; decide)
    (Step.not_dismiss unasked)
  have jobs := step.jobs
  rw [done, nothing] at jobs
  have later : (made ++ [step]).flatMap Step.posted = List.replicate polls .poll ++ [.exit] := by
    rw [flatMap_concat, nothing, List.append_nil, posted]
  exact .left still (Spawned.concat.mpr (.inl spawned)) later (step.gone gone)
    (List.append_eq_nil_iff.mp jobs).2 (Step.unasked (by rw [retired]; decide) unasked)

theorem last_exit {polls : Nat} {taken rest : List Job}
    (order : List.replicate polls .poll ++ [.exit] = taken ++ .exit :: rest) : rest = [] := by
  rcases List.eq_nil_or_concat rest with empty | ⟨front, last, rfl⟩
  · exact empty
  · have before : List.replicate polls .poll = taken ++ .exit :: front := by
      have same : List.replicate polls .poll ++ [.exit] = (taken ++ .exit :: front) ++ [last] := by
        rw [order, List.append_assoc, List.cons_append, List.concat_eq_append]
      exact List.append_inj_left' same rfl
    have exit : .exit ∈ List.replicate polls Job.poll := by
      rw [before]
      simp
    cases List.eq_of_mem_replicate exit

theorem told_concat {polls : Nat} (retired : step.before.state.worker = .retired)
    (spawned : Spawned made)
    (posted : made.flatMap Step.posted = List.replicate polls .poll ++ [.exit])
    (order : made.flatMap Step.posted =
      made.flatMap Step.taken ++ step.before.state.queue.jobs)
    (stays : step.before.activity ≠ .gone) (ahead : .exit ∈ step.before.state.queue.jobs)
    (unasked : ∀ call ∈ step.before.calls, .dismiss ∉ call.sections) :
    step.after.Stage (made ++ [step]) := by
  have still := step.happening.retired retired
  have nothing : step.posted = [] := Step.posted_of_not_dismiss (by rw [still]; decide)
    (Step.not_dismiss unasked)
  have later : (made ++ [step]).flatMap Step.posted = List.replicate polls .poll ++ [.exit] := by
    rw [flatMap_concat, nothing, List.append_nil, posted]
  have known : Spawned (made ++ [step]) := Spawned.concat.mpr (.inl spawned)
  have kept := Step.unasked (by rw [retired]; decide) unasked
  by_cases gone : step.after.activity = .gone
  · refine .left still known later gone ?_ kept
    -- The job with which the worker leaves is the exit, and nothing was posted behind it.
    have jobs := step.leaves stays gone
    rw [posted, jobs] at order
    exact last_exit order
  · refine .told still known later gone ?_ kept
    have jobs := step.jobs
    rw [nothing, List.append_nil] at jobs
    rw [← jobs] at ahead
    rcases List.mem_append.mp ahead with taken | waiting
    · exact absurd (Step.gone_of_taken taken) gone
    · exact waiting

/-- Only the call that has retired the worker asks it to leave, and nothing of the call is lost
before. -/
theorem asked_concat {polls index : Nat} {call : Call} {rest : List Section}
    (orderly : Orderly step.before.state step.before.activity)
    (retired : step.before.state.worker = .retired) (spawned : Spawned made)
    (posted : made.flatMap Step.posted = List.replicate polls .poll)
    (order : made.flatMap Step.posted =
      made.flatMap Step.taken ++ step.before.state.queue.jobs)
    (stays : step.before.activity ≠ .gone) (found : step.before.calls[index]? = some call)
    (sections : call.sections = .dismiss :: rest) (once : .dismiss ∉ rest)
    (alone : ∀ (other : Nat) (call : Call), step.before.calls[other]? = some call →
      .dismiss ∈ call.sections → other = index) :
    step.after.Stage (made ++ [step]) := by
  have still := step.happening.retired retired
  have known : Spawned (made ++ [step]) := Spawned.concat.mpr (.inl spawned)
  have later (other : Nat) (call : Call) (found : step.after.calls[other]? = some call)
      (ahead : .dismiss ∈ call.sections) : other = index := by
    rcases step.leaving found (.inl rfl) ahead with ⟨earlier, present, before, _⟩ | ⟨running, _⟩
    · exact alone other earlier present before
    · rw [retired] at running
      cases running
  have stayed : step.after.activity ≠ .gone := by
    intro gone
    -- The worker would take an exit that has not been posted yet.
    have jobs := step.leaves stays gone
    have exit : .exit ∈ List.replicate polls Job.poll := by
      rw [← posted, order, jobs]
      simp
    cases List.eq_of_mem_replicate exit
  by_cases dismisses : step.RunsFor index .dismiss
  · have opened : step.before.state.queue.closed = false := by
      cases closed : step.before.state.queue.closed with
      | false => rfl
      | true => exact absurd (orderly.closed closed) stays
    obtain ⟨exit, ahead, calls⟩ := Step.dismisses found sections dismisses opened
    have told : (made ++ [step]).flatMap Step.posted =
        List.replicate polls .poll ++ [.exit] := by
      rw [flatMap_concat, posted, exit]
    refine .told still known told stayed ahead ?_
    intro other member asks
    obtain ⟨place, present⟩ := List.getElem?_of_mem member
    cases later place other present asks
    obtain ⟨bound, _⟩ := List.getElem?_eq_some_iff.mp found
    rw [calls, List.getElem?_set_self bound] at present
    cases present
    exact once asks
  · have nothing : step.posted = [] := by
      refine Step.posted_of_not_dismiss (by rw [still]; decide) ?_
      intro other again
      obtain ⟨chance, dismissing, more, _, present, own⟩ := id again
      have same := alone other dismissing present (own ▸ List.mem_cons_self)
      exact dismisses (same ▸ again)
    have same : (made ++ [step]).flatMap Step.posted = List.replicate polls .poll := by
      rw [flatMap_concat, nothing, List.append_nil, posted]
    exact .asked still known same stayed (Step.kept_until found sections nofun dismisses) sections
      once later

theorem staffed_retires {polls : Nat} (sound : step.before.Sound)
    (unretired : step.before.state.worker ≠ .retired)
    (retired : step.after.state.worker = .retired)
    (spawned : Spawned made ↔ step.before.state.worker = .running)
    (posted : made.flatMap Step.posted = List.replicate polls .poll)
    (unposted : ¬ Spawned made → polls = 0) : step.after.Stage (made ++ [step]) := by
  -- A call that is to ask the worker to leave has retired it, and nobody has done so before.
  have unasked (call : Call) (member : call ∈ step.before.calls) : .dismiss ∉ call.sections :=
    fun asks => unretired (sound.dismissing call member asks)
  have nothing : step.posted = [] := Step.posted_of_not_dismiss (by rw [retired]; decide)
    (Step.not_dismiss unasked)
  have same : (made ++ [step]).flatMap Step.posted = List.replicate polls .poll := by
    rw [flatMap_concat, nothing, List.append_nil, posted]
  obtain ⟨index, chance, call, rest, action, found, sections⟩ := step.retires unretired retired
  obtain ⟨other, next, present, advanced, after, _⟩ := step.advanced action
  cases Option.some.inj (found.symm.trans present)
  rw [Call.advance?_of_retire sections] at advanced
  cases advanced
  obtain ⟨bound, _⟩ := List.getElem?_eq_some_iff.mp found
  have finished : .dismiss ∉ rest := fun asks =>
    unasked call (List.mem_of_getElem? found) (sections ▸ List.mem_cons_of_mem _ asks)
  have activity : step.after.activity = step.before.activity := by rw [after]
  by_cases running : step.before.state.worker = .running
  · have stays : step.after.activity ≠ .gone := by
      rw [activity]
      exact (sound.consistent.serving running).2.2
    have own : step.after.calls[index]? = some { call with
        sections := .dismiss ::
          ((if setup.config.joinWorkerOnDrop && !call.onWorker then [.join] else []) ++
            rest) } := by
      rw [after, if_pos running]
      exact List.getElem?_set_self bound
    refine .asked retired (Spawned.concat.mpr (.inl (spawned.mpr running))) same stays own rfl
      ?_ ?_
    · intro asks
      rcases List.mem_append.mp asks with joins | later
      · split at joins
        · cases List.mem_singleton.mp joins
        · cases joins
      · exact finished later
    · intro place call present asks
      by_cases elsewhere : index = place
      · exact elsewhere.symm
      · rw [after, List.getElem?_set_ne elsewhere] at present
        exact absurd asks (unasked call (List.mem_of_getElem? present))
  · have unstarted : step.before.state.worker = .unstarted := by
      cases slot : step.before.state.worker with
      | unstarted => rfl
      | running => exact absurd slot running
      | retired => exact absurd slot unretired
    have unspawned : ¬ Spawned made := fun earlier => running (spawned.mp earlier)
    refine .unmanned retired ?_ ?_ ?_ ?_
    · rw [Spawned.concat]
      rintro (earlier | now)
      · exact unspawned earlier
      · rw [(step.spawned_iff.mp now).2] at retired
        cases retired
    · rw [same, unposted unspawned]
      rfl
    · rw [activity]
      exact (sound.consistent.fresh unstarted).2
    · exact step.unasked running unasked

theorem staffed_concat {polls : Nat} (sound : step.before.Sound)
    (unretired : step.after.state.worker ≠ .retired)
    (spawned : Spawned made ↔ step.before.state.worker = .running)
    (posted : made.flatMap Step.posted = List.replicate polls .poll)
    (unposted : ¬ Spawned made → polls = 0) : step.after.Stage (made ++ [step]) := by
  have known : Spawned (made ++ [step]) ↔ step.after.state.worker = .running := by
    rw [Spawned.concat, spawned, step.spawned_iff]
    constructor
    · rintro (running | ⟨_, running⟩)
      · exact (step.happening.worker_of_running running).resolve_right unretired
      · exact running
    · intro running
      cases slot : step.before.state.worker with
      | running => exact .inl rfl
      | unstarted => exact .inr ⟨rfl, running⟩
      | retired => exact absurd (step.happening.retired slot) unretired
  have posts := step.posts_posted
  generalize more : step.posted = jobs at posts
  cases posts with
  | nothing =>
      have same : (made ++ [step]).flatMap Step.posted = List.replicate polls .poll := by
        rw [flatMap_concat, more, List.append_nil, posted]
      refine .staffed unretired known same ?_
      intro unspawned
      exact unposted fun earlier => unspawned (Spawned.concat.mpr (.inl earlier))
  | poll running =>
      have next : (made ++ [step]).flatMap Step.posted = List.replicate (polls + 1) .poll := by
        rw [flatMap_concat, more, posted, List.replicate_succ']
      refine .staffed unretired known next ?_
      intro unspawned
      exact absurd (known.mpr running) unspawned
  | exit dismisses =>
      obtain ⟨chance, call, rest, _, found, sections⟩ := dismisses
      have retired := sound.dismissing call (List.mem_of_getElem? found)
        (sections ▸ List.mem_cons_self)
      exact absurd (step.happening.retired retired) unretired

theorem concat (sound : step.before.Sound)
    (orderly : Orderly step.before.state step.before.activity)
    (order : made.flatMap Step.posted =
      made.flatMap Step.taken ++ step.before.state.queue.jobs)
    (stage : step.before.Stage made) : step.after.Stage (made ++ [step]) := by
  cases stage with
  | staffed unretired spawned posted unposted =>
      by_cases retired : step.after.state.worker = .retired
      · exact .staffed_retires sound unretired retired spawned posted unposted
      · exact .staffed_concat sound retired spawned posted unposted
  | unmanned retired unspawned posted idle unasked =>
      rw [posted] at order
      have nothing := (List.append_eq_nil_iff.mp order.symm).2
      exact .unmanned_concat retired unspawned posted idle nothing unasked
  | asked retired spawned posted stays found sections once alone =>
      exact .asked_concat orderly retired spawned posted order stays found sections once alone
  | told retired spawned posted stays ahead unasked =>
      exact .told_concat retired spawned posted order stays ahead unasked
  | left retired spawned posted gone done unasked =>
      exact .left_concat retired spawned posted gone done unasked

end World.Stage

namespace Run

variable {start middle finish : World} {steps earlier later : List (Step setup)}
  {multiplexer : Option Multiplexer} {demultiplexer : Option Demultiplexer} {managerAlive : Bool}

theorem jobs_of_new (run : Run setup (.new multiplexer demultiplexer managerAlive) steps finish) :
    steps.flatMap Step.posted = steps.flatMap Step.taken ++ finish.state.queue.jobs :=
  run.jobs

theorem stage (run : Run setup (.new multiplexer demultiplexer managerAlive) steps finish) :
    finish.Stage steps := by
  refine run.keeps_along (fun made world => world.Stage made) ?_ ?_
  · have unposted : ([] : List (Step setup)).flatMap Step.posted = List.replicate 0 .poll := rfl
    refine .staffed nofun (iff_of_false ?_ nofun) unposted fun _ => rfl
    rintro ⟨step, impossible, _⟩
    cases impossible
  · rintro made step later rfl stage
    obtain ⟨before, _⟩ := run.cut
    exact stage.concat (before.sound (.new multiplexer demultiplexer managerAlive))
      before.orderly_of_new before.jobs_of_new

theorem not_join (run : Run setup (.new multiplexer demultiplexer managerAlive) steps finish) :
    ∀ call ∈ finish.calls, call.onWorker = true → .join ∉ call.sections := by
  refine run.keeps (fun world => ∀ call ∈ world.calls, call.onWorker = true →
    .join ∉ call.sections) ?_ ?_
  · intro call impossible
    cases impossible
  · intro step _ before call member inside joins
    obtain ⟨index, found⟩ := List.getElem?_of_mem member
    rcases step.leaving found (.inr rfl) joins with ⟨earlier, present, ahead, same⟩ | ⟨_, _, apart⟩
    · exact before earlier (List.mem_of_getElem? present) (same.trans inside) ahead
    · rw [apart rfl] at inside
      cases inside

end Run

/-! ### What can keep the worker from leaving -/

/-- How a worker that has been dismissed can go on to leave, if it has not left. -/
inductive World.Departs (setup : Setup) (world : World) : Prop
  | left (gone : world.activity = .gone)
  /-- The worker has a move to make. -/
  | moves {move : Move} (possible : (world.act? setup (.work move)).isSome = true)
  /-- A call has a section to run: one that asks the worker to leave, or one on its thread. -/
  | advances {index : Nat} {call : Call} (found : world.calls[index]? = some call)
      (concerns : call.onWorker = true ∨ ∃ rest, call.sections = .dismiss :: rest)
      (possible : ∀ chance, (world.act? setup (.advance index chance)).isSome = true)
  /-- A call on the thread of the worker waits for the cycle that the worker is in. -/
  | stuck {index cycle : Nat} (stuck : world.Stuck index cycle)

theorem World.act?_advance {world : World} {index : Nat} {call : Call} {chance : Chance}
    (found : world.calls[index]? = some call)
    (advanced : ∃ next, call.advance? setup world.state chance = some next) :
    (world.act? setup (.advance index chance)).isSome = true := by
  obtain ⟨next, advanced⟩ := advanced
  simp [World.act?, found, advanced]

theorem World.Stage.departs {made : List (Step setup)} {world : World}
    (stage : world.Stage made) (retired : world.state.worker = .retired)
    (spawned : Spawned made)
    (unjoined : ∀ call ∈ world.calls, call.onWorker = true → .join ∉ call.sections) :
    world.Departs setup := by
  cases busy : world.workerIsBusy with
  | true =>
      obtain ⟨call, member, unfinished⟩ := List.any_eq_true.mp busy
      obtain ⟨inside, ahead⟩ := Bool.and_eq_true_iff.mp unfinished
      obtain ⟨index, found⟩ := List.getElem?_of_mem member
      cases sections : call.sections with
      | nil => simp [Call.isOver, sections] at ahead
      | cons part rest =>
          rcases Call.advance?_or_waits sections with goes | ⟨cycle, rfl, awaited⟩ | rfl
          · exact .advances found (.inl inside) fun chance => act?_advance found (goes chance)
          · exact .stuck ⟨⟨call, found, inside, rest, sections⟩, awaited⟩
          · exact absurd (sections ▸ List.mem_cons_self) (unjoined call member inside)
  | false =>
      have moves (stays : world.activity ≠ .gone)
          (waits : world.activity = .idle → world.state.queue.jobs ≠ []) : world.Departs setup :=
        .moves (world.act?_nextMove busy stays waits)
      cases stage with
      | staffed unretired => exact absurd retired unretired
      | unmanned _ unspawned => exact absurd spawned unspawned
      | @asked polls index call rest _ _ _ stays found sections =>
          rcases Call.advance?_or_waits sections with goes | ⟨_, waits, _⟩ | waits
          · exact .advances found (.inr ⟨rest, sections⟩) fun chance =>
              act?_advance found (goes chance)
          · cases waits
          · cases waits
      | told _ _ _ stays ahead => exact moves stays fun _ => List.ne_nil_of_mem ahead
      | left _ _ _ gone => exact .left gone

/-! ### What is left behind -/

/-- A call that would start a channel at rest is over and refused, or comes closer to that by any
section it runs. -/
def Call.Refuses (setup : Setup) (state : State) (call : Call) : Prop :=
  call.panicked = false ∧
    (call.sections = [] ∧ call.result = .error setup.unavailable ∨
      ∀ chance, ∃ next, call.advance? setup state chance = some next ∧
        next.call.sections.length < call.sections.length)

/-- The channel is at rest for good: no start finds a worker any more. -/
structure World.Settled (setup : Setup) (middle : World) : Prop where
  rests {more : List (Step setup)} {world : World} (run : Run setup middle more world) :
    world.state.atRest = true ∧ world.activity = middle.activity ∧ ¬ Spawned more
  refuses {more : List (Step setup)} {world : World} (run : Run setup middle more world) :
    ∀ step ∈ more, ∀ index, step.RunsFor index .start →
      ∃ call, step.after.calls[index]? = some call ∧ call.result = .error setup.unavailable
  returns {more : List (Step setup)} {world : World} (run : Run setup middle more world) :
    ∀ (index : Nat) (call : Call), middle.calls.length ≤ index → world.calls[index]? = some call →
      call.operation.Starts setup middle.state → call.Refuses setup world.state

/-- The sections of calls that neither wait nor end a channel. -/
def Call.Brief (call : Call) : Prop :=
  call.panicked = false ∧ ∀ part ∈ call.sections, part.isPlanned = true ∧ part ≠ .retire

theorem Operation.Starts.brief {state : State} {draw : Draw} {operation : Operation}
    {onWorker : Bool} (starts : operation.Starts setup state) :
    (Call.make setup draw operation onWorker).Brief := by
  constructor
  · unfold Call.make
    split <;> rfl
  · intro part ahead
    refine ⟨Call.make_isPlanned part ahead, ?_⟩
    rintro rfl
    cases Call.make_retires ahead
    cases starts

/-- Nothing keeps a brief call from its end in a channel at rest, and nothing is aborted. -/
theorem Advances.brief {chance : Chance} {state next : State} {call after : Call}
    {events : List Event} (advances : Advances setup chance state call next after events)
    (rest : state.atRest = true) (brief : call.Brief) :
    after.Brief ∧ after.sections.length < call.sections.length := by
  obtain ⟨stopped, _, quiet⟩ := State.atRest_iff.mp rest
  obtain ⟨unhurt, planned⟩ := brief
  have drops {part : Section} {rest : List Section} (sections : call.sections = part :: rest) :
      (∀ part ∈ rest, part.isPlanned = true ∧ part ≠ .retire) ∧
        rest.length < call.sections.length := by
    rw [sections] at planned ⊢
    exact ⟨fun part ahead => planned part (List.mem_cons_of_mem _ ahead), Nat.lt_succ_self _⟩
  cases advances with
  | stopPanicking sections aborts panics => simp [State.stopAborts, stopped] at aborts
  | stopWaiting sections busy outside =>
      rw [quiet] at busy
      cases busy
  | noServer sections unbound =>
      refine ⟨⟨unhurt, ?_⟩, ?_⟩
      · intro part impossible
        cases impossible
      · rw [sections]
        exact Nat.succ_pos _
  | retire sections => exact absurd rfl (planned .retire (sections ▸ List.mem_cons_self)).2
  | start sections | stopPassing sections | await sections | serverFound sections
  | bind sections | setMultiplexer sections | setDemultiplexer sections | dismiss sections
  | join sections => exact ⟨⟨unhurt, (drops sections).1⟩, (drops sections).2⟩

theorem Call.Brief.goes {state : State} {call : Call} (brief : call.Brief)
    (rest : state.atRest = true) (unfinished : call.sections ≠ []) (chance : Chance) :
    ∃ next, call.advance? setup state chance = some next ∧
      next.call.sections.length < call.sections.length := by
  obtain ⟨part, later, sections⟩ := List.exists_cons_of_ne_nil unfinished
  have planned := (brief.2 part (sections ▸ List.mem_cons_self)).1
  rcases Call.advance?_or_waits sections with goes | ⟨cycle, rfl, _⟩ | rfl
  · obtain ⟨next, advanced⟩ := goes chance
    exact ⟨next, advanced, ((advances_of_advance? advanced).brief rest brief).2⟩
  · cases planned
  · cases planned

namespace Run

variable {start middle finish : World} {steps earlier later : List (Step setup)}
  {multiplexer : Option Multiplexer} {demultiplexer : Option Demultiplexer} {managerAlive : Bool}

theorem not_spawned (run : Run setup start steps finish)
    (retired : start.state.worker = .retired) : ¬ Spawned steps := by
  rintro ⟨step, member, spawned⟩
  obtain ⟨first, last, rfl⟩ := List.append_of_mem member
  exact World.Stage.not_spawned_of_retired (run.cut.1.retired retired) spawned

theorem brief (run : Run setup start steps finish) (retired : start.state.worker = .retired)
    (rest : start.state.atRest = true) {state : State} :
    ∀ (index : Nat) (call : Call), start.calls.length ≤ index → finish.calls[index]? = some call →
      call.operation.Starts setup state → call.Brief := by
  have both : finish.state.worker = .retired ∧ finish.state.atRest = true ∧
      ∀ (index : Nat) (call : Call), start.calls.length ≤ index →
        finish.calls[index]? = some call → call.operation.Starts setup state → call.Brief := by
    refine run.keeps (fun world => world.state.worker = .retired ∧ world.state.atRest = true ∧
      ∀ (index : Nat) (call : Call), start.calls.length ≤ index →
        world.calls[index]? = some call → call.operation.Starts setup state → call.Brief) ?_ ?_
    · refine ⟨retired, rest, ?_⟩
      intro index call later found
      rw [List.getElem?_eq_none later] at found
      cases found
    · rintro step _ ⟨retired, rest, brief⟩
      refine ⟨step.happening.retired retired, step.happening.atRest retired rest, ?_⟩
      intro index call later found starts
      cases present : step.before.calls[index]? with
      | none =>
          rcases step.happening.call found with kept | ⟨operation, draw, onWorker, _, rfl⟩ |
            ⟨earlier, same, _⟩
          · cases present.symm.trans kept
          · rw [Call.make_operation] at starts
            exact starts.brief
          · cases present.symm.trans same
      | some earlier =>
          have before (same : call.operation = earlier.operation) : earlier.Brief :=
            brief index earlier later present (same ▸ starts)
          rcases step.happening.changes present with kept | ⟨⟨cycle, waiting, waits⟩, _, panicked⟩ |
            ⟨chance, next, _, moved, advances⟩
          · cases found.symm.trans kept
            exact before rfl
          · -- A brief call does not wait, so that nothing can panic under a wait of it.
            cases found.symm.trans panicked
            cases ((before rfl).2 _ (waits ▸ List.mem_cons_self)).1
          · cases found.symm.trans moved
            exact (advances.brief rest (before advances.operation)).1
  exact both.2.2

end Run

/-- Without a worker there is nothing left to do for one. -/
theorem World.Stage.quiet {made : List (Step setup)} {world : World} (stage : world.Stage made)
    (order : made.flatMap Step.posted = made.flatMap Step.taken ++ world.state.queue.jobs)
    (retired : world.state.worker = .retired)
    (done : world.activity = .gone ∨ ¬ Spawned made) :
    (world.activity = .gone ∧ Spawned made ∨ world.activity = .idle ∧ ¬ Spawned made) ∧
      world.state.queue.jobs = [] := by
  cases stage with
  | staffed unretired => exact absurd retired unretired
  | unmanned _ unspawned posted idle =>
      rw [posted] at order
      exact ⟨.inr ⟨idle, unspawned⟩, (List.append_eq_nil_iff.mp order.symm).2⟩
  | asked _ spawned _ stays | told _ spawned _ stays =>
      rcases done with gone | unspawned
      · exact absurd gone stays
      · exact absurd spawned unspawned
  | left _ spawned _ gone nothing => exact ⟨.inl ⟨gone, spawned⟩, nothing⟩

/-- A worker that has left has taken all that was ever posted. -/
theorem World.Stage.left_jobs {made : List (Step setup)} {world : World} (stage : world.Stage made)
    (order : made.flatMap Step.posted = made.flatMap Step.taken ++ world.state.queue.jobs)
    (retired : world.state.worker = .retired)
    (gone : world.activity = .gone) :
    ∃ polls, world.state.queue.jobs = [] ∧
      made.flatMap Step.taken = List.replicate polls .poll ++ [.exit] := by
  cases stage with
  | staffed unretired => exact absurd retired unretired
  | unmanned _ _ _ idle => cases gone.symm.trans idle
  | asked _ _ _ stays | told _ _ _ stays => exact absurd gone stays
  | left _ _ posted _ nothing =>
      rw [nothing, List.append_nil, posted] at order
      exact ⟨_, nothing, order.symm⟩

namespace Run

variable {start middle finish : World} {steps earlier later : List (Step setup)}
  {multiplexer : Option Multiplexer} {demultiplexer : Option Demultiplexer} {managerAlive : Bool}

/-- A channel that its worker has left, or that was retired before it had one, is settled. -/
theorem settled (before : Run setup (.new multiplexer demultiplexer managerAlive) earlier middle)
    (retired : middle.state.worker = .retired)
    (done : middle.activity = .gone ∨ ¬ Spawned earlier) : middle.Settled setup := by
  obtain ⟨quiet, nothing⟩ := before.stage.quiet before.jobs_of_new retired done
  have rest : middle.state.atRest = true := by
    refine before.atRest_of_quiet ?_ ?_
    · rcases quiet with ⟨gone, _⟩ | ⟨idle, _⟩
      · exact .inr gone
      · exact .inl idle
    · unfold World.pendingPolls
      rw [nothing]
      rcases quiet with ⟨gone, _⟩ | ⟨idle, _⟩
      · rw [gone]
        rfl
      · rw [idle]
        rfl
  constructor
  · intro more world run
    refine ⟨run.atRest retired rest, ?_, run.not_spawned retired⟩
    rcases quiet with ⟨gone, _⟩ | ⟨idle, unspawned⟩
    · rw [gone]
      exact run.keeps (fun world => world.activity = .gone) gone fun step _ before =>
        step.gone before
    · have never : ¬ Spawned (earlier ++ more) := by
        rw [Spawned.append]
        exact not_or.mpr ⟨unspawned, run.not_spawned retired⟩
      have whole := before.append run
      obtain ⟨⟨_, spawned⟩ | ⟨still, _⟩, _⟩ :=
        whole.stage.quiet whole.jobs_of_new (run.retired retired) (.inr never)
      · exact absurd spawned never
      · exact still.trans idle.symm
  · intro more world run step member index starts
    obtain ⟨call, found, ⟨_, _, result⟩ | ⟨unrested, _⟩⟩ :=
      run.start_of_retired retired member starts
    · exact ⟨call, found, result⟩
    · obtain ⟨first, last, rfl⟩ := List.append_of_mem member
      rw [run.cut.1.atRest retired rest] at unrested
      cases unrested
  · intro more world run index call later found starts
    have brief := run.brief retired rest index call later found starts
    refine ⟨brief.1, ?_⟩
    by_cases finished : call.sections = []
    · have known := before.retires (.new multiplexer demultiplexer managerAlive)
      have shut := run.shut (.start retired rest known.requires)
      have returned : call.hasReturned = true := by
        rw [Call.hasReturned, Call.isOver, finished, brief.1]
        rfl
      exact .inl ⟨finished, (shut.refused index call later found starts).of_returned returned⟩
    · exact .inr (brief.goes (run.atRest retired rest) finished)

theorem begins_at_most_once (run : Run setup start steps finish) (sound : start.Sound)
    (retired : start.state.worker = .retired) :
    steps.Pairwise fun step other => ∀ first last, step.Begins first → ¬ other.Begins last := by
  induction run with
  | nil world => exact .nil
  | cons step tail ih =>
      have known := sound.happening step.happening
      have slot := step.happening.retired retired
      refine List.pairwise_cons.mpr ⟨?_, ih known slot⟩
      intro other member first last begins again
      -- Nothing is posted any more when the first of them has begun.
      have unposted : step.after.state.taskPosted = false := by
        rw [begins.beginning.state]
      obtain ⟨between, _⟩ := tail.cycleSeq_between other member
      have newer : step.after.state.cycleSeq < last.cycle := by
        rw [again.beginning.cycle]
        omega
      rw [(tail.begins_posted known slot member (.inr again) newer).1] at unposted
      cases unposted

theorem posted_of_retired (run : Run setup start steps finish)
    (retired : start.state.worker = .retired) : ∀ step ∈ steps, .poll ∉ step.posted := by
  intro step member
  obtain ⟨first, last, rfl⟩ := List.append_of_mem member
  exact Step.not_poll_of_retired (run.cut.1.retired retired)

end Run

theorem World.Stage.posted {made : List (Step setup)} {world : World}
    (stage : world.Stage made) : ∃ polls, made.flatMap Step.posted = List.replicate polls .poll ∨
      made.flatMap Step.posted = List.replicate polls .poll ++ [.exit] := by
  cases stage with
  | staffed _ _ posted | asked _ _ posted => exact ⟨_, .inl posted⟩
  | unmanned _ _ posted => exact ⟨0, .inl posted⟩
  | told _ _ posted | left _ _ posted => exact ⟨_, .inr posted⟩

namespace Run

variable {middle finish : World} {earlier later : List (Step setup)}
  {multiplexer : Option Multiplexer} {demultiplexer : Option Demultiplexer} {managerAlive : Bool}

/-- All that can be posted behind a worker that has retired is its exit, once. -/
theorem length_posted_of_retired
    (before : Run setup (.new multiplexer demultiplexer managerAlive) earlier middle)
    (retired : middle.state.worker = .retired) (after : Run setup middle later finish) :
    (later.flatMap Step.posted).length ≤ 1 := by
  have exits : (later.flatMap Step.posted).count .exit = (later.flatMap Step.posted).length := by
    rw [List.count_eq_length]
    intro job member
    obtain ⟨step, present, posted⟩ := List.mem_flatMap.mp member
    cases job with
    | exit => rfl
    | poll => exact absurd posted (after.posted_of_retired retired step present)
  have all : ((earlier ++ later).flatMap Step.posted).count .exit ≤ 1 := by
    obtain ⟨polls, posted | posted⟩ := (before.append after).stage.posted
    · simp [posted, List.count_replicate]
    · simp [posted, List.count_replicate]
  rw [List.flatMap_append, List.count_append] at all
  omega

/-- The departure of a worker, from the moment at which a shutdown has retired it. No cycle is
posted again, and one more begins at most. The jobs are taken in the order of posting, the exit
after all others; when the worker has left it has taken them all. It makes a bounded number of
moves, and it can go on to leave unless a stop on its own thread waits for the cycle it is in; there
is no such stop without a start behind the shutdown, or a shutdown on the worker in a cycle. A
channel that its worker has left is at rest for good, and all that would start it are refused; so is
one that was shut down before it had a worker, and it never has one. -/
theorem departure
    (before : Run setup (.new multiplexer demultiplexer managerAlive) earlier middle)
    (retired : middle.state.worker = .retired) (after : Run setup middle later finish) :
    (∀ step ∈ later, .poll ∉ step.posted) ∧
    (later.Pairwise fun step other => ∀ first last, step.Begins first → ¬ other.Begins last) ∧
    (∃ polls, (earlier ++ later).flatMap Step.posted = List.replicate polls .poll ∨
      (earlier ++ later).flatMap Step.posted = List.replicate polls .poll ++ [.exit]) ∧
    (earlier ++ later).flatMap Step.posted =
      (earlier ++ later).flatMap Step.taken ++ finish.state.queue.jobs ∧
    (finish.activity = .gone → ∃ polls, finish.state.queue.jobs = [] ∧
      (earlier ++ later).flatMap Step.taken = List.replicate polls .poll ++ [.exit]) ∧
    later.countP Step.isMove + finish.movesLeft ≤ middle.movesLeft + 10 ∧
    (Spawned earlier → finish.Departs setup) ∧
    ((∀ step ∈ earlier ++ later, step.shutsDownInside = false) →
      (∀ step ∈ earlier ++ later, ¬ step.Revives) → ∀ index cycle, ¬ finish.Stuck index cycle) ∧
    (finish.activity = .gone ∨ ¬ Spawned earlier → finish.Settled setup) := by
  have whole := before.append after
  have stage := whole.stage
  have still := after.retired retired
  have sound := before.sound (.new multiplexer demultiplexer managerAlive)
  refine ⟨after.posted_of_retired retired, after.begins_at_most_once sound retired,
    stage.posted, whole.jobs_of_new, ?_, ?_, ?_, ?_, ?_⟩
  · intro gone
    exact stage.left_jobs whole.jobs_of_new still gone
  · have moves := after.movesLeft
    have posted := before.length_posted_of_retired retired after
    omega
  · intro spawned
    exact stage.departs still (Spawned.append.mpr (.inl spawned)) whole.not_join
  · intro outside unrevived index cycle stuck
    obtain ⟨closes, _⟩ := whole.closes (.new multiplexer demultiplexer managerAlive)
      (.new multiplexer demultiplexer managerAlive) outside unrevived
    obtain ⟨call, found, inside, rest, sections⟩ := stuck.waits
    exact closes.unwaiting call (List.mem_of_getElem? found) inside cycle
      (sections ▸ List.mem_cons_self)
  · rintro (gone | unspawned)
    · exact whole.settled still (.inl gone)
    · refine whole.settled still (.inr ?_)
      rw [Spawned.append]
      exact not_or.mpr ⟨unspawned, after.not_spawned retired⟩

end Run

/-! ### A start within a shutdown, and a stop behind one -/

namespace Trial

/-- Between the stop of a shutdown and the retirement of the worker, another thread turns the
channel on again, and the cycle that was stopped posts the next one. -/
def retire : List Action :=
  bind 0 1 ++ begin ++ [.invoke .shutdown draw false, .advance 1] ++
    [.invoke .start draw false, .advance 2] ++
    [.work (.compiled (.returned []) (.returned draw.nonce)), .work .check] ++
    [.advance 1, .advance 1]

/-- The worker comes to the cycle and then to the exit, and the shutdown joins it. -/
def depart : List Action :=
  [.advance 1] ++ begin ++ send ++ answer 204 ++ [.work .finish, .work .take, .advance 1]

end Trial

namespace Run

/-- The cycle that a start has posted within a shutdown is the last: it cannot post another. -/
theorem departure_restarting : ∃ earlier middle later finish,
    Run Trial.client Trial.channel earlier middle ∧ middle.state.worker = .retired ∧
      middle.state.stopped = false ∧ Run Trial.client middle later finish ∧
      finish.state.cycleSeq = middle.state.cycleSeq + 1 ∧ finish.activity = .gone ∧
      finish.state.queue.jobs = [] ∧
      (∃ polls, (earlier ++ later).flatMap Step.taken = List.replicate polls .poll ++ [.exit]) ∧
      finish.Settled Trial.client := by
  have seen : (Trial.channel.record? Trial.client Trial.retire).any (fun (_, middle) =>
      middle.state.worker = .retired && !middle.state.stopped &&
        (middle.record? Trial.client Trial.depart).any fun (_, finish) =>
          finish.activity = .gone &&
            finish.state.cycleSeq = middle.state.cycleSeq + 1) = true := by
    decide +kernel
  obtain ⟨⟨earlier, middle⟩, before, checked⟩ := (Option.any_eq_true _ _).mp seen
  simp only [Bool.and_eq_true, decide_eq_true_eq, Bool.not_eq_true'] at checked
  obtain ⟨⟨retired, running⟩, rest⟩ := checked
  obtain ⟨⟨later, finish⟩, after, ended⟩ := (Option.any_eq_true _ _).mp rest
  simp only [Bool.and_eq_true, decide_eq_true_eq] at ended
  obtain ⟨gone, begun⟩ := ended
  have first := Run.of_record before
  have second := Run.of_record after
  obtain ⟨_, _, _, _, left, _, _, _, settled⟩ := departure first retired second
  obtain ⟨polls, nothing, taken⟩ := left gone
  exact ⟨earlier, middle, later, finish, first, retired, running, second, begun, gone, nothing,
    ⟨polls, taken⟩, settled (.inl gone)⟩

/-- A worker that has been asked to leave may never do so: a stop on its own thread takes it for a
stranger and waits for the cycle that it is in. -/
theorem departure_stuck : ∃ earlier middle later finish,
    Run Trial.detached Trial.channel earlier middle ∧ middle.state.worker = .retired ∧
      Spawned earlier ∧ Run Trial.detached middle later finish ∧
      ∀ more world, Run Trial.detached finish more world →
        (∀ step ∈ more, step.action ≠ .repeatAbort 3 true) → world.activity ≠ .gone := by
  have seen : (Trial.channel.record? Trial.detached Trial.shutdown).any (fun (earlier, middle) =>
      middle.state.worker = .retired &&
        earlier.any (fun step => decide (.spawned ∈ step.events)) &&
        (middle.record? Trial.detached (Trial.startAgain ++ Trial.begin ++
          [.invoke .stop Trial.draw true, .advance 3])).any fun (_, finish) =>
            finish.activity ≠ .gone && finish.calls[3]?.any fun call => call.onWorker &&
              call.repeats? finish.state = some 1) = true := by
    decide +kernel
  obtain ⟨⟨earlier, middle⟩, before, checked⟩ := (Option.any_eq_true _ _).mp seen
  simp only [Bool.and_eq_true, decide_eq_true_eq, List.any_eq_true] at checked
  obtain ⟨⟨retired, spawned⟩, rest⟩ := checked
  obtain ⟨⟨later, finish⟩, after, ended⟩ := (Option.any_eq_true _ _).mp rest
  simp only [Bool.and_eq_true, decide_eq_true_eq] at ended
  obtain ⟨stays, waiting⟩ := ended
  obtain ⟨call, found, own⟩ := (Option.any_eq_true _ _).mp waiting
  simp only [Bool.and_eq_true, decide_eq_true_eq] at own
  refine ⟨earlier, middle, later, finish, .of_record before, retired, spawned, .of_record after, ?_⟩
  intro more world further unhurt
  rw [(further.stuck (.of_repeats? found own.1 own.2) unhurt).2]
  exact stays

end Run

end LongPoll.Channel
