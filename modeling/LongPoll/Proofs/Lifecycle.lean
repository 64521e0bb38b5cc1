import LongPoll.Proofs.Calls
import LongPoll.Proofs.Failure
import LongPoll.Proofs.Progress
import LongPoll.Proofs.Stop

set_option autoImplicit false

/-!
Who decides whether a channel runs. Starts and stops do, and the worker may turn the channel off on
its own: when a cycle lacks something, when its successor cannot be posted, and when a cycle fails
that no stop has hit. As long as nothing fails but exchanges that were asked to be aborted, it never
does, so that the last start or stop is the one that counts, however late a failure is noticed.
-/

namespace LongPoll.Channel

variable {setup : Setup}

/-! ### Starts and stops -/

/-- What a section makes of the flag that says whether the channel is stopped. A start for which no
thread can be had leaves it as it is. -/
def Section.decides? (state : State) (chance : Chance) : Section → Option Bool
  | .start => if state.worker = .unstarted ∧ chance.spawnFault.isSome then none else some false
  | .stop => some true
  | _ => none

def Step.decides? (step : Step setup) : Option Bool :=
  match step.action with
  | .advance _ chance => step.section?.bind fun (_, part) => part.decides? step.before.state chance
  | _ => none

/-- What the last start or stop has made of the flag; a new channel is stopped. -/
def lastDecision (steps : List (Step setup)) : Bool :=
  (steps.filterMap Step.decides?).getLast?.getD true

theorem lastDecision_concat (made : List (Step setup)) (step : Step setup) :
    lastDecision (made ++ [step]) = step.decides?.getD (lastDecision made) := by
  unfold lastDecision
  rw [List.filterMap_append]
  cases decides : step.decides? <;> simp [decides]

theorem Consistent.serves_equip {state : State} {activity : Activity}
    (consistent : Consistent state activity) (unretired : state.worker ≠ .retired) :
    state.equip.serves = true := by
  have running : state.equip.worker = .running := by
    cases slot : state.worker with
    | unstarted => exact if_pos slot
    | running => exact (if_neg (by rw [slot]; decide)).trans slot
    | retired => exact absurd slot unretired
  obtain ⟨opened, _⟩ := consistent.equip.serving running
  simp [State.serves, running, opened]

theorem Started.decides {channelId : String} {chance : Chance} {state next : State}
    {result : Except Fault Unit} (ends : Started channelId chance.spawnFault state next result)
    (served : state.equip.serves = true) :
    next.stopped = (Section.start.decides? state chance).getD state.stopped := by
  have turnsOn (able : state.worker = .unstarted → chance.spawnFault = none) :
      Section.start.decides? state chance = some false := by
    apply if_neg
    rintro ⟨unstarted, failed⟩
    rw [able unstarted] at failed
    cases failed
  cases ends with
  | unspawned first failed =>
      have nothing : Section.start.decides? state chance = none :=
        if_pos ⟨first, by rw [failed]; rfl⟩
      rw [nothing]
      rfl
  | alreadyRunning running able =>
      rw [turnsOn able]
      exact running
  | resumed stopped ahead able =>
      rw [turnsOn able]
      rfl
  | posted stopped unposted quiet _ able =>
      rw [turnsOn able]
      rfl
  | refused stopped unposted quiet unserved able =>
      rw [served] at unserved
      cases unserved

theorem Advances.decides {chance : Chance} {state next : State} {activity : Activity}
    {call after : Call} {events : List Event} {part : Section} {rest : List Section}
    (advances : Advances setup chance state call next after events)
    (consistent : Consistent state activity) (unretired : state.worker ≠ .retired)
    (sections : call.sections = part :: rest) :
    next.stopped = (part.decides? state chance).getD state.stopped := by
  cases advances with
  | start own started =>
      cases sections.symm.trans own
      exact started.decides (consistent.serves_equip unretired)
  | stopPanicking own | stopWaiting own | stopPassing own | await own | noServer own
  | serverFound own | bind own | setMultiplexer own | setDemultiplexer own | retire own
  | dismiss own | join own =>
      cases sections.symm.trans own
      rfl

/-! ### Channels that are never shut down -/

def Action.isShutdown : Action → Bool
  | .invoke .shutdown _ _ => true
  | _ => false

/-- The worker has not retired, and no call will retire it. -/
structure World.Staffed (world : World) : Prop where
  unretired : world.state.worker ≠ .retired
  staying : ∀ call ∈ world.calls, .retire ∉ call.sections

theorem World.Staffed.happening {before after : World} {action : Action} {events : List Event}
    (staffed : before.Staffed) (happening : Happening setup before action after events)
    (unshut : action.isShutdown = false) : after.Staffed := by
  constructor
  · intro retired
    cases happening with
    | work free turn => exact staffed.unretired (turn.worker.symm.trans retired)
    | advance found advances =>
        rcases advances.of_retired retired with before | ⟨⟨rest, sections⟩, _⟩
        · exact staffed.unretired before
        · exact staffed.staying _ (List.mem_of_getElem? found) (sections ▸ List.mem_cons_self)
    | _ => exact staffed.unretired retired
  · refine happening.each_call staffed.staying ?_ ?_ ?_
    · rintro operation draw onWorker rfl retires
      cases Call.make_retires retires
      cases unshut
    · intro call _ retires
      cases retires
    · intro index chance call next _ found advances retires
      exact staffed.staying call (List.mem_of_getElem? found) (advances.planned_mem rfl retires)

/-! ### Aborts -/

def Event.isClose : Event → Bool
  | .close .. => true
  | _ => false

namespace Step

def aborts (step : Step setup) : Bool := step.events.any Event.isClose

def begins (step : Step setup) : Bool :=
  step.before.activity = .taken && step.after.activity.exchanging?.isSome

/-- Whether an abort has been asked for after the step, if it is known whether one was before. -/
def asks (asked : Bool) (step : Step setup) : Bool := !step.begins && (asked || step.aborts)

theorem Begins.begins {step : Step setup} {capture : Capture} (begins : step.Begins capture) :
    step.begins = true := by
  unfold Step.begins
  rw [begins.1, begins.2]
  rfl

end Step

/-- Whether the HTTP client has been asked for an abort since the last cycle began. -/
def abortAsked (steps : List (Step setup)) : Bool := steps.foldl Step.asks false

theorem abortAsked_concat (made : List (Step setup)) (step : Step setup) :
    abortAsked (made ++ [step]) = step.asks (abortAsked made) := by
  simp [abortAsked, List.foldl_append]

/-- A stop has hit the cycle in progress, if there is one. -/
def World.Hit (world : World) : Prop :=
  ∀ capture, world.activity.exchanging? = some capture →
    capture.abortEpoch < world.state.abortRequests

/-- A stop has hit the cycle in progress if a call waits for that cycle. -/
def World.Awaited (world : World) : Prop :=
  ∀ call ∈ world.calls, ∀ cycle, .await cycle ∈ call.sections → cycle = world.state.cycleSeq →
    world.Hit

theorem isClose_rescheduleNotices (unposted : Option Fault) :
    (rescheduleNotices unposted).any Event.isClose = false := by
  cases unposted <;> rfl

theorem Turn.any_isClose {managerAlive : Bool} {state next : State} {activity after : Activity}
    {move : Move} {events : List Event}
    (turn : Turn setup managerAlive state activity move next after events) :
    events.any Event.isClose = false := by
  cases turn with
  | proceed proceeds => cases proceeds <;> rfl
  | settle settles => cases settles <;> rfl
  | drop hit rescheduled | finish rescheduled | cancel failed hit rescheduled =>
      exact isClose_rescheduleNotices _
  | fail failed unhit => cases managerAlive <;> rfl
  | reported => split <;> rfl
  | _ => rfl

namespace World

theorem Hit.of_stopped {world : World} (sound : world.Sound)
    (stopped : world.state.stopped = true) : world.Hit := by
  intro capture exchanging
  exact sound.consistent.hit capture exchanging stopped

theorem Hit.step {step : Step setup} (hit : step.before.Hit) (unbegun : step.begins = false) :
    step.after.Hit := by
  intro capture exchanging
  rcases step.exchanging? exchanging with kept | begins
  · exact Nat.lt_of_lt_of_le (hit capture kept) step.happening.abortRequests_le
  · rw [begins.begins] at unbegun
    cases unbegun

theorem Awaited.step {step : Step setup} (awaited : step.before.Awaited)
    (sound : step.before.Sound) : step.after.Awaited := by
  have kept {call : Call} (member : call ∈ step.before.calls) {cycle : Nat}
      (waits : .await cycle ∈ call.sections) (same : cycle = step.after.state.cycleSeq) :
      step.after.Hit := by
    have known := sound.awaiting call member cycle waits
    have past := step.happening.cycleSeq_le
    have last : cycle = step.before.state.cycleSeq := by omega
    have hit := awaited call member cycle waits last
    intro capture exchanging
    rcases step.exchanging? exchanging with before | begins
    · exact Nat.lt_of_lt_of_le (hit capture before) step.happening.abortRequests_le
    · -- A cycle that begins has a number for which nobody waits yet.
      have number := begins.beginning.cycle
      have reached := begins.beginning.cycleSeq
      omega
  refine step.happening.each_call ?_ ?_ ?_ ?_
  · intro call member cycle waits same
    exact kept member waits same
  · intro operation draw onWorker _ cycle waits
    cases Call.make_isPlanned _ waits
  · intro call _ cycle waits
    cases waits
  · intro index chance call next _ found advances cycle waits same
    rcases advances.section_mem waits with before | ⟨_, _, _, rest, stops⟩ | ⟨leaves | leaves, _⟩
    · exact kept (List.mem_of_getElem? found) before same
    · apply Hit.of_stopped (sound.happening step.happening)
      rw [show step.after.state = step.before.state.stop from advances.shown stops]
      rfl
    · cases leaves
    · cases leaves

end World

/-- Only stops ask for an abort, and those that wait for a cycle that a stop has hit. -/
theorem Step.hit_of_aborts {step : Step setup} (aborts : step.aborts = true)
    (sound : step.before.Sound) (awaited : step.before.Awaited) : step.after.Hit := by
  obtain ⟨before, action, after, events, happens⟩ := step
  have happening := Step.happening ⟨before, action, after, events, happens⟩
  have reached := sound.happening happening
  change Happening setup before action after events at happening
  change events.any Event.isClose = true at aborts
  change after.Sound at reached
  change after.Hit
  cases happening with
  | work free turn =>
      rw [turn.any_isClose] at aborts
      cases aborts
  | advance found advances =>
      cases advances with
      | stopPanicking | stopWaiting | stopPassing => exact World.Hit.of_stopped reached rfl
      | start sections started => split at aborts <;> cases aborts
      | _ => cases aborts
  | repeatAbort found sections waits =>
      apply awaited _ (List.mem_of_getElem? found) _ (sections ▸ List.mem_cons_self)
      exact (State.awaits_iff.mp waits).2.symm
  | repeatPanicking found sections waits =>
      apply awaited _ (List.mem_of_getElem? found) _ (sections ▸ List.mem_cons_self)
      exact (State.awaits_iff.mp waits).2.symm
  | invoke | dropManager => cases aborts

/-! ### Failures -/

theorem Turn.failure? {managerAlive : Bool} {state next : State} {activity after : Activity}
    {move : Move} {events : List Event} {capture : Capture} {fault : Fault}
    (turn : Turn setup managerAlive state activity move next after events)
    (failed : after.failure? = some (capture, fault)) :
    Breaks capture fault activity move ∨
    (∃ outcome, move = .processed outcome ∧ outcome.result = .error fault) ∨
    ∃ response, activity = .answered capture response ∧
      capture.session.receive response = .error fault := by
  rcases Activity.of_failure? failed with failing | undelivered
  · exact .inl (turn.breaks_of_failing failing)
  · right
    cases turn with
    | proceed proceeds =>
        cases proceeds with
        | unprocessed refused =>
            cases undelivered
            exact .inl ⟨_, rfl, refused⟩
        | _ => cases undelivered
    | settle settles =>
        cases settles with
        | unreadable received =>
            cases undelivered
            exact .inr ⟨_, rfl, received⟩
        | _ => cases undelivered
    | fail _ unhit => split at undelivered <;> cases undelivered
    | _ => cases undelivered

theorem Turn.answered {managerAlive : Bool} {state next : State} {activity : Activity}
    {move : Move} {events : List Event} {capture : Capture} {response : Response}
    (turn : Turn setup managerAlive state activity move next (.answered capture response) events) :
    ∃ request outcome, activity = .sending capture request ∧ move = .answered outcome ∧
      outcome.result = .ok response := by
  generalize reached : Activity.answered capture response = after at turn
  cases turn with
  | proceed proceeds =>
      cases proceeds with
      | answered returned =>
          cases reached
          exact ⟨_, _, rfl, rfl, returned⟩
      | _ => cases reached
  | settle settles => cases settles <;> cases reached
  | fail _ unhit => split at reached <;> cases reached
  | _ => cases reached

/-- Whether the collaborators, the sealing of the request among them, do their part in a step. An
exchange may fail if it has been asked to be aborted. -/
def Step.goesWell (asked : Bool) (step : Step setup) : Bool :=
  match step.action with
  | .work (.compiled outcome sealing) => outcome.result.isOk && sealing.result.isOk
  | .work (.answered outcome) =>
    match outcome.result with
    | .ok response => step.before.activity.capture?.all fun capture =>
        (capture.session.receive response).isOk
    | .error _ => asked
  | .work (.processed outcome) => outcome.result.isOk
  | _ => true

/-- A run without a shutdown in which nothing fails but exchanges that were asked to be aborted. -/
structure Untroubled (steps : List (Step setup)) : Prop where
  unshut : ∀ step ∈ steps, step.action.isShutdown = false
  /-- A server and both adapters have been bound before the first start. -/
  equipped : ∀ prior step later, steps = prior ++ step :: later → step.Runs .start →
    (∀ earlier ∈ prior, ¬ earlier.Runs .start) → step.before.state.furnished = true
  well : ∀ prior step later, steps = prior ++ step :: later →
    step.goesWell (abortAsked prior) = true

theorem Untroubled.of_append {first rest : List (Step setup)}
    (untroubled : Untroubled (first ++ rest)) : Untroubled first where
  unshut := fun step member => untroubled.unshut step (List.mem_append_left rest member)
  equipped := by
    rintro prior step later rfl
    exact untroubled.equipped prior step (later ++ rest) (by simp)
  well := by
    rintro prior step later rfl
    exact untroubled.well prior step (later ++ rest) (by simp)

/-- What holds after the steps made so far. -/
structure Smooth (made : List (Step setup)) (world : World) : Prop where
  sound : world.Sound
  staffed : world.Staffed
  awaited : world.Awaited
  asked : abortAsked made = true → world.Hit
  begun : world.state.stopped = false → ∃ earlier ∈ made, earlier.Runs .start
  furnished : (∃ earlier ∈ made, earlier.Runs .start) → world.state.furnished = true
  readable : ∀ capture response, world.activity = .answered capture response →
    (capture.session.receive response).isOk = true
  excused : ∀ capture fault, world.activity.failure? = some (capture, fault) →
    capture.abortEpoch < world.state.abortRequests

theorem Happening.keepsFurnished {before after : World} {action : Action} {events : List Event}
    (happening : Happening setup before action after events)
    (all : before.state.furnished = true) : after.state.furnished = true := by
  cases happening with
  | work free turn =>
      rw [turn.furnished_eq]
      exact all
  | advance found advances => exact advances.keepsFurnished all
  | _ => exact all

theorem Turn.stopped_eq {managerAlive : Bool} {state next : State} {activity after : Activity}
    {move : Move} {events : List Event}
    (turn : Turn setup managerAlive state activity move next after events)
    (consistent : Consistent state activity) (unretired : state.worker ≠ .retired)
    (furnished : state.stopped = false → state.furnished = true)
    (excused : ∀ capture fault, activity.failure? = some (capture, fault) →
      state.interrupted capture = true) : next.stopped = state.stopped := by
  cases running : state.stopped with
  | true => exact (turn.stopped running).1
  | false =>
      cases off : next.stopped with
      | false => rfl
      | true =>
          rcases turn.switchesOff consistent unretired running off with
            ⟨_, _, fault, missing⟩ | ⟨capture, fault, _, failed, unhit⟩
          · obtain ⟨capture, captured⟩ := State.capture_of_furnished (furnished running)
            rw [captured] at missing
            cases missing
          · rw [excused capture fault failed] at unhit
            cases unhit

namespace Smooth

variable {multiplexer : Option Multiplexer} {demultiplexer : Option Demultiplexer}
  {managerAlive : Bool} {made : List (Step setup)} {step : Step setup}

theorem new :
    Smooth ([] : List (Step setup)) (.new multiplexer demultiplexer managerAlive) where
  sound := .new multiplexer demultiplexer managerAlive
  staffed := by
    constructor
    · intro impossible
      cases impossible
    · intro call impossible
      cases impossible
  awaited := by intro call impossible; cases impossible
  asked := by intro impossible; cases impossible
  begun := by intro impossible; cases impossible
  furnished := by rintro ⟨earlier, impossible, _⟩; cases impossible
  readable := by intro capture response impossible; cases impossible
  excused := by intro capture fault impossible; cases impossible

theorem hit (smooth : Smooth made step.before) :
    abortAsked (made ++ [step]) = true → step.after.Hit := by
  rw [abortAsked_concat]
  intro asked
  obtain ⟨unbegun, known⟩ := Bool.and_eq_true_iff.mp asked
  rcases Bool.or_eq_true_iff.mp known with before | aborts
  · exact (smooth.asked before).step (by simpa using unbegun)
  · exact Step.hit_of_aborts aborts smooth.sound smooth.awaited

theorem runsStart (smooth : Smooth made step.before) (running : step.after.state.stopped = false) :
    ∃ earlier ∈ made ++ [step], earlier.Runs .start := by
  by_cases starts : step.Runs .start
  · exact ⟨step, List.mem_append_right made (List.mem_singleton_self step), starts⟩
  · cases before : step.before.state.stopped with
    | true =>
        rw [(Step.stopped starts before).1] at running
        cases running
    | false =>
        obtain ⟨earlier, member, started⟩ := smooth.begun before
        exact ⟨earlier, List.mem_append_left [step] member, started⟩

theorem keepsFurnished (smooth : Smooth made step.before)
    (equipped : step.Runs .start → (∀ earlier ∈ made, ¬ earlier.Runs .start) →
      step.before.state.furnished = true)
    (started : ∃ earlier ∈ made ++ [step], earlier.Runs .start) :
    step.after.state.furnished = true := by
  apply step.happening.keepsFurnished
  by_cases before : ∃ earlier ∈ made, earlier.Runs .start
  · exact smooth.furnished before
  · obtain ⟨earlier, member, starts⟩ := started
    rcases List.mem_append.mp member with old | last
    · exact absurd ⟨earlier, old, starts⟩ before
    · rw [List.mem_singleton.mp last] at starts
      apply equipped starts
      intro other old starts
      exact before ⟨other, old, starts⟩

theorem receives (smooth : Smooth made step.before)
    (well : step.goesWell (abortAsked made) = true) {capture : Capture} {response : Response}
    (answered : step.after.activity = .answered capture response) :
    (capture.session.receive response).isOk = true := by
  rcases step.happening.turn_or_kept with ⟨move, action, turn⟩ | kept
  · rw [answered] at turn
    obtain ⟨request, outcome, sending, rfl, returned⟩ := turn.answered
    simpa [Step.goesWell, action, sending, returned, Activity.capture?] using well
  · exact smooth.readable capture response (kept.symm.trans answered)

theorem fails (smooth : Smooth made step.before)
    (well : step.goesWell (abortAsked made) = true) {capture : Capture} {fault : Fault}
    (failed : step.after.activity.failure? = some (capture, fault)) :
    capture.abortEpoch < step.after.state.abortRequests := by
  rcases step.happening.turn_or_kept with ⟨move, action, turn⟩ | kept
  · rw [turn.abortRequests]
    rcases turn.failure? failed with breaks | ⟨outcome, rfl, refused⟩ |
      ⟨response, answered, unreadable⟩
    · generalize here : step.before.activity = activity at breaks
      cases breaks with
      | uncompiled failed | unsealed compiled failed =>
          simp [Step.goesWell, action, failed, Except.isOk, Except.toBool] at well
      | @unanswered request outcome failed =>
          -- The exchange was asked to be aborted, so that a stop has hit the cycle.
          have asked : abortAsked made = true := by
            simpa [Step.goesWell, action, failed] using well
          exact smooth.asked asked capture (by rw [here]; rfl)
    · simp [Step.goesWell, action, refused, Except.isOk, Except.toBool] at well
    · have readable := smooth.readable capture response answered
      rw [unreadable] at readable
      cases readable
  · rw [kept] at failed
    exact Nat.lt_of_lt_of_le (smooth.excused capture fault failed)
      step.happening.abortRequests_le

theorem concat (smooth : Smooth made step.before) (unshut : step.action.isShutdown = false)
    (equipped : step.Runs .start → (∀ earlier ∈ made, ¬ earlier.Runs .start) →
      step.before.state.furnished = true)
    (well : step.goesWell (abortAsked made) = true) : Smooth (made ++ [step]) step.after where
  sound := smooth.sound.happening step.happening
  staffed := smooth.staffed.happening step.happening unshut
  awaited := smooth.awaited.step smooth.sound
  asked := smooth.hit
  begun := smooth.runsStart
  furnished := smooth.keepsFurnished equipped
  readable := fun _ _ answered => smooth.receives well answered
  excused := fun _ _ failed => smooth.fails well failed

theorem interrupted (smooth : Smooth made step.before) {capture : Capture} {fault : Fault}
    (failed : step.before.activity.failure? = some (capture, fault)) :
    step.before.state.interrupted capture = true := by
  have hit := smooth.excused capture fault failed
  apply Bool.or_eq_true_iff.mpr
  right
  exact bne_iff_ne.mpr (by omega)

theorem stopped_eq (smooth : Smooth made step.before) {move : Move}
    (action : step.action = .work move) :
    step.after.state.stopped = step.before.state.stopped := by
  have turn := (action ▸ step.happening).turn
  apply turn.stopped_eq smooth.sound.consistent smooth.staffed.unretired
  · intro running
    exact smooth.furnished (smooth.begun running)
  · intro capture fault failed
    exact smooth.interrupted failed

theorem reports (smooth : Smooth made step.before) : step.reports = [] := by
  cases reports : step.reports with
  | nil => rfl
  | cons capture rest =>
      have reported : capture ∈ step.reports := reports ▸ List.mem_cons_self
      obtain ⟨fault, action, failed, _⟩ := Step.of_reports reported
      rcases Step.classifies action failed with ⟨_, _, quiet, _⟩ | ⟨unhit, _⟩
      · rw [quiet] at reported
        cases reported
      · rw [smooth.interrupted failed] at unhit
        cases unhit

theorem decides (smooth : Smooth made step.before) :
    step.after.state.stopped = step.decides?.getD step.before.state.stopped := by
  have staffed := smooth.staffed
  have sound := smooth.sound
  have kept (move : Move) (action : step.action = .work move) := smooth.stopped_eq action
  obtain ⟨before, action, after, events, happens⟩ := step
  have happening := Step.happening ⟨before, action, after, events, happens⟩
  change Happening setup before action after events at happening
  cases happening with
  | work free turn => exact kept _ rfl
  | advance found advances =>
      obtain ⟨part, rest, sections⟩ := List.exists_cons_of_ne_nil advances.sections_ne_nil
      simp only [Step.decides?, Step.section?, found, sections, Option.bind_some, List.head?_cons,
        Option.map_some]
      exact advances.decides sound.consistent staffed.unretired sections
  | invoke | repeatAbort | repeatPanicking | dropManager => rfl

end Smooth

theorem Run.smooth {multiplexer : Option Multiplexer} {demultiplexer : Option Demultiplexer}
    {managerAlive : Bool} {steps : List (Step setup)} {finish : World}
    (run : Run setup (.new multiplexer demultiplexer managerAlive) steps finish)
    (untroubled : Untroubled steps) :
    Smooth steps finish ∧ finish.state.stopped = lastDecision steps := by
  refine run.keeps_along (fun made world => Smooth made world ∧
    world.state.stopped = lastDecision made) ⟨.new, rfl⟩ ?_
  rintro made step later whole ⟨smooth, decided⟩
  have member : step ∈ steps := whole ▸ List.mem_append_right made List.mem_cons_self
  constructor
  · exact smooth.concat (untroubled.unshut step member) (untroubled.equipped made step later whole)
      (untroubled.well made step later whole)
  · rw [lastDecision_concat, ← decided]
    exact smooth.decides

/-- The last start or stop wins. In a run in which nothing fails but exchanges that were asked to be
aborted, a channel is stopped exactly if the last start or stop says so, at every point of the run.
The worker never turns it off, and the manager is told of no failure. -/
theorem Run.last_decision_wins {multiplexer : Option Multiplexer}
    {demultiplexer : Option Demultiplexer} {managerAlive : Bool} {steps : List (Step setup)}
    {finish : World} (run : Run setup (.new multiplexer demultiplexer managerAlive) steps finish)
    (untroubled : Untroubled steps) :
    finish.state.stopped = lastDecision steps ∧
    ∀ prior step later, steps = prior ++ step :: later →
      step.before.state.stopped = lastDecision prior ∧
      (∀ move, step.action = .work move →
        step.after.state.stopped = step.before.state.stopped) ∧
      step.reports = [] := by
  refine ⟨(run.smooth untroubled).2, ?_⟩
  rintro prior step later rfl
  obtain ⟨smooth, decided⟩ := run.cut.1.smooth untroubled.of_append
  exact ⟨decided, fun move => smooth.stopped_eq, smooth.reports⟩

/-! ### A failure that is noticed late -/

def Step.isUsual (step : Step setup) : Bool :=
  !step.action.isShutdown &&
    (step.before.state.furnished || !step.section?.any fun (_, part) => part = .start)

def goWell (asked : Bool) : List (Step setup) → Bool
  | [] => true
  | step :: rest => step.goesWell asked && goWell (step.asks asked) rest

theorem Step.goesWell_of_goWell {asked : Bool} {prior later : List (Step setup)}
    {step : Step setup} (well : goWell asked (prior ++ step :: later) = true) :
    step.goesWell (prior.foldl Step.asks asked) = true := by
  induction prior generalizing asked with
  | nil => exact (Bool.and_eq_true_iff.mp well).1
  | cons first rest ih => exact ih (Bool.and_eq_true_iff.mp well).2

theorem Untroubled.of_goWell {steps : List (Step setup)}
    (usual : steps.all Step.isUsual = true) (well : goWell false steps = true) :
    Untroubled steps where
  unshut := by
    intro step member
    have here := (Bool.and_eq_true_iff.mp (List.all_eq_true.mp usual step member)).1
    simpa using here
  equipped := by
    rintro prior step later rfl ⟨index, starts⟩ _
    have here := List.all_eq_true.mp usual step
      (List.mem_append_right prior List.mem_cons_self)
    simpa [Step.isUsual, Step.runsFor_iff.mp starts] using (Bool.and_eq_true_iff.mp here).2
  well := by
    rintro prior step later rfl
    exact Step.goesWell_of_goWell well

/-- Two threads stop and start the channel one after the other, while a request is outstanding. The
exchange that they have asked to be aborted fails only then. -/
def Trial.failLate : List Action :=
  bind 0 1 ++ begin ++ send ++ restart 1 ++ restart 3 ++
    [.work (.answered (.failed .aborted)), .work .fail] ++ begin

/-- A channel that was stopped and started twice during an exchange survives its failure, and goes
on with the next cycle. -/
theorem Run.last_decision_wins_restarting : ∃ steps finish,
    Run Trial.client Trial.channel steps finish ∧ Untroubled steps ∧
    steps.filterMap Step.decides? = [true, false, true, false, true, false] ∧
    steps.any (fun step => step.before.activity.failure?.isSome) = true ∧
    (∀ step ∈ steps, step.reports = []) ∧ finish.state.stopped = false ∧
    finish.state.cycleSeq = 2 := by
  have seen : (Trial.channel.record? Trial.client Trial.failLate).any (fun record =>
      record.1.all Step.isUsual && goWell false record.1 &&
        record.1.filterMap Step.decides? = [true, false, true, false, true, false] &&
        record.1.any (fun step => step.before.activity.failure?.isSome) &&
        record.2.state.cycleSeq = 2) = true := by
    decide +kernel
  obtain ⟨⟨steps, finish⟩, recorded, checked⟩ := (Option.any_eq_true _ _).mp seen
  simp only [Bool.and_eq_true, decide_eq_true_eq] at checked
  obtain ⟨⟨⟨⟨usual, well⟩, decisions⟩, fails⟩, cycles⟩ := checked
  have run := Run.of_record recorded
  have untroubled := Untroubled.of_goWell usual well
  obtain ⟨decided, points⟩ := Run.last_decision_wins run untroubled
  refine ⟨steps, finish, run, untroubled, decisions, fails, ?_, ?_, cycles⟩
  · intro step member
    obtain ⟨prior, later, whole⟩ := List.append_of_mem member
    exact (points prior step later whole).2.2
  · rw [decided]
    unfold lastDecision
    rw [decisions]
    rfl

end LongPoll.Channel
