import LongPoll.Proofs.Soundness

set_option autoImplicit false

/-!
The life of a cycle within a run. Every cycle that the worker is at was begun by one step before,
with the number after the last one, and nobody has been at it before that step. Stops are told by
whether they found the channel running.
-/

namespace LongPoll.Channel

variable {setup : Setup}

/-- The cycle that has not been classified and may still fail. -/
def Activity.fallible? (activity : Activity) : Option Capture :=
  activity.exchanging? <|> activity.delivering?

namespace Activity

variable {activity : Activity} {capture : Capture}

theorem exchanging_or_delivering (within : activity.fallible? = some capture) :
    activity.exchanging? = some capture ∨ activity.delivering? = some capture := by
  cases activity <;> first | exact .inl within | exact .inr within

theorem capture?_of_fallible? (within : activity.fallible? = some capture) :
    activity.capture? = some capture := by
  cases activity <;> first | exact within | cases within

theorem fallible?_of_failure? {fault : Fault}
    (failed : activity.failure? = some (capture, fault)) :
    activity.fallible? = some capture ∧ activity.capture? = some capture := by
  rcases Activity.of_failure? failed with rfl | rfl
  · exact ⟨rfl, rfl⟩
  · exact ⟨rfl, rfl⟩

end Activity

namespace Step

/-- The step is a section of the call at an index. -/
def RunsFor (step : Step setup) (index : Nat) (part : Section) : Prop :=
  ∃ chance call rest, step.action = .advance index chance ∧
    step.before.calls[index]? = some call ∧ call.sections = part :: rest

theorem RunsFor.advances {step : Step setup} {index : Nat} {part : Section}
    (runs : step.RunsFor index part) :
    ∃ chance call next, step.before.calls[index]? = some call ∧
      (∃ rest, call.sections = part :: rest) ∧ step.after.calls[index]? = some next ∧
      Advances setup chance step.before.state call step.after.state next step.events := by
  obtain ⟨chance, call, rest, action, found, sections⟩ := runs
  obtain ⟨bound, _⟩ := List.getElem?_eq_some_iff.mp found
  obtain ⟨next, advances, after⟩ := (action ▸ step.happening).advances found
  have own : step.after.calls[index]? = some next := by
    rw [after]
    exact List.getElem?_set_self bound
  exact ⟨chance, call, next, found, ⟨rest, sections⟩, own, advances⟩

def Runs (step : Step setup) (part : Section) : Prop := ∃ index, step.RunsFor index part

def runsFor (step : Step setup) (index : Nat) (part : Section) : Bool :=
  match step.action with
  | .advance moved _ => moved = index && step.before.calls[index]?.any fun call =>
      call.sections.head? = some part
  | _ => false

theorem of_runsFor {step : Step setup} {index : Nat} {part : Section}
    (runs : step.runsFor index part = true) : step.RunsFor index part := by
  unfold runsFor at runs
  split at runs
  · rename_i moved chance action
    obtain ⟨own, made⟩ := Bool.and_eq_true_iff.mp runs
    cases of_decide_eq_true own
    obtain ⟨call, found, first⟩ := (Option.any_eq_true _ _).mp made
    obtain ⟨rest, sections⟩ := List.head?_eq_some_iff.mp (of_decide_eq_true first)
    exact ⟨chance, call, rest, action, found, sections⟩
  · cases runs

/-- The section that the step is, with the call whose section it is. -/
def section? (step : Step setup) : Option (Nat × Section) :=
  match step.action with
  | .advance index _ =>
    (step.before.calls[index]?.bind fun call => call.sections.head?).map fun part => (index, part)
  | _ => none

theorem runsFor_iff {step : Step setup} {index : Nat} {part : Section} :
    step.RunsFor index part ↔ step.section? = some (index, part) := by
  unfold section?
  constructor
  · rintro ⟨chance, call, rest, action, found, sections⟩
    rw [action]
    simp [found, sections]
  · intro shown
    split at shown
    · rename_i moved chance action
      obtain ⟨found, first, same⟩ := Option.map_eq_some_iff.mp shown
      cases same
      obtain ⟨call, present, head⟩ := Option.bind_eq_some_iff.mp first
      obtain ⟨rest, sections⟩ := List.head?_eq_some_iff.mp head
      exact ⟨chance, call, rest, action, present, sections⟩
    · cases shown

/-- The step is the first section of a cycle. -/
def Begins (step : Step setup) (capture : Capture) : Prop :=
  step.before.activity = .taken ∧ step.after.activity = .compiling capture

/-- The step is the first section of a stop that finds the channel running. -/
def Hits (step : Step setup) : Prop := step.Runs .stop ∧ step.before.state.stopped = false

end Step

/-! ### What a step does to the cycle that the worker is at -/

namespace Turn

variable {managerAlive : Bool} {state next : State} {activity after : Activity} {move : Move}
  {events : List Event}

theorem exchanging? (turn : Turn setup managerAlive state activity move next after events)
    {capture : Capture} (within : after.exchanging? = some capture) :
    activity.exchanging? = some capture ∨ activity = .taken ∧ after = .compiling capture := by
  cases turn with
  | begin running captured =>
      cases within
      exact .inr ⟨rfl, rfl⟩
  | proceed proceeds => cases proceeds <;> exact .inl within
  | settle settles => cases settles <;> cases within
  | fail failed unhit => split at within <;> cases within
  | _ => cases within

theorem fallible? (turn : Turn setup managerAlive state activity move next after events)
    {capture : Capture} (within : after.fallible? = some capture) :
    activity.fallible? = some capture ∨ activity = .taken ∧ after = .compiling capture := by
  cases turn with
  | begin running captured =>
      cases within
      exact .inr ⟨rfl, rfl⟩
  | proceed proceeds => cases proceeds <;> first | exact .inl within | cases within
  | settle settles => cases settles <;> first | exact .inl within | cases within
  | fail failed unhit => split at within <;> cases within
  | _ => cases within

/-- A cycle begins on a running channel with all that it needs. -/
theorem begins (turn : Turn setup managerAlive state activity move next after events)
    {capture : Capture} (taken : activity = .taken) (compiling : after = .compiling capture) :
    state.stopped = false ∧ state.capture setup.config.channelId = .ok capture ∧
      next = { state with
        taskPosted := false, inProgress := true, cycleSeq := state.cycleSeq + 1 } ∧
      events = [.compile capture] := by
  cases turn with
  | begin running captured =>
      cases compiling
      exact ⟨running, captured, rfl, rfl⟩
  | proceed proceeds => cases proceeds <;> cases taken
  | cancel failed hit rescheduled => cases compiling
  | fail failed unhit => split at compiling <;> cases compiling
  | skip stopped | misconfigure running missing => cases compiling
  | _ => cases taken

theorem state_eq (turn : Turn setup managerAlive state activity move next after events)
    {capture : Capture} (before : activity.exchanging? = some capture)
    (within : after.exchanging? = some capture) : next = state := by
  cases turn with
  | begin running captured => cases before
  | proceed proceeds => rfl
  | settle settles => cases settles <;> cases within
  | fail failed unhit => split at within <;> cases within
  | reported => cases before
  | take next | leave next | skip stopped | misconfigure running missing
  | drop hit rescheduled | finish rescheduled | cancel failed hit rescheduled => cases within

end Turn

theorem Happening.undisturbed {before after : World} {action : Action} {events : List Event}
    {capture : Capture} (happening : Happening setup before action after events)
    (exchanging : before.activity.exchanging? = some capture)
    (within : after.activity.exchanging? = some capture) (running : before.state.stopped = false)
    (unstopped : ∀ index chance call rest, action = .advance index chance →
      before.calls[index]? = some call → call.sections ≠ .stop :: rest) :
    after.state.stopped = false ∧ after.state.abortRequests = before.state.abortRequests := by
  cases happening with
  | work free turn =>
      have same := turn.state_eq exchanging within
      rw [same]
      exact ⟨running, rfl⟩
  | advance found advances =>
      refine advances.running ?_ running
      intro rest sections
      exact unstopped _ _ _ rest rfl found sections
  | _ => exact ⟨running, rfl⟩

namespace Step

variable {step : Step setup}

theorem exchanging? (step : Step setup) {capture : Capture}
    (within : step.after.activity.exchanging? = some capture) :
    step.before.activity.exchanging? = some capture ∨ step.Begins capture := by
  rcases step.happening.turn_or_kept with ⟨move, _, turn⟩ | kept
  · exact turn.exchanging? within
  · exact .inl (kept ▸ within)

theorem fallible? (step : Step setup) {capture : Capture}
    (within : step.after.activity.fallible? = some capture) :
    step.before.activity.fallible? = some capture ∨ step.Begins capture := by
  rcases step.happening.turn_or_kept with ⟨move, _, turn⟩ | kept
  · exact turn.fallible? within
  · exact .inl (kept ▸ within)

/-- What a step finds and leaves when it begins a cycle. -/
structure Beginning (step : Step setup) (capture : Capture) : Prop where
  running : step.before.state.stopped = false
  captured : step.before.state.capture setup.config.channelId = .ok capture
  state : step.after.state = { step.before.state with
    taskPosted := false, inProgress := true, cycleSeq := step.before.state.cycleSeq + 1 }
  events : step.events = [.compile capture]

theorem Begins.beginning {capture : Capture} (begins : step.Begins capture) :
    step.Beginning capture := by
  obtain ⟨taken, compiling⟩ := begins
  rcases step.happening.turn_or_kept with ⟨move, _, turn⟩ | kept
  · obtain ⟨running, captured, state, events⟩ := turn.begins taken compiling
    exact ⟨running, captured, state, events⟩
  · rw [taken, compiling] at kept
    cases kept

namespace Beginning

variable {capture : Capture}

theorem cycle (beginning : step.Beginning capture) :
    capture.cycle = step.before.state.cycleSeq + 1 :=
  (State.capture_eq_ok beginning.captured).1

theorem abortEpoch (beginning : step.Beginning capture) :
    capture.abortEpoch = step.before.state.abortRequests :=
  (State.capture_eq_ok beginning.captured).2.1

theorem server (beginning : step.Beginning capture) :
    step.before.state.server = some capture.server :=
  (State.capture_eq_ok beginning.captured).2.2

theorem cycleSeq (beginning : step.Beginning capture) :
    step.after.state.cycleSeq = capture.cycle := by
  rw [beginning.state, beginning.cycle]

end Beginning

end Step

/-! ### Stops -/

namespace Step

variable {step : Step setup}

theorem Runs.stop (runs : step.Runs .stop) : step.after.state = step.before.state.stop := by
  obtain ⟨index, runs⟩ := runs
  obtain ⟨chance, call, next, _, ⟨rest, sections⟩, _, advances⟩ := runs.advances
  exact advances.shown sections

theorem Hits.abortRequests (hits : step.Hits) (busy : step.before.state.inProgress = true) :
    step.after.state.abortRequests = step.before.state.abortRequests + 1 := by
  obtain ⟨stops, running⟩ := hits
  rw [stops.stop]
  simp [State.stop, State.stopAborts, running, busy]

/-- Nothing but a stop turns a channel off within an exchange or is counted as one. -/
theorem unhit {capture : Capture} (unhit : ¬ step.Hits)
    (before : step.before.activity.exchanging? = some capture)
    (within : step.after.activity.exchanging? = some capture)
    (running : step.before.state.stopped = false) :
    step.after.state.stopped = false ∧
      step.after.state.abortRequests = step.before.state.abortRequests := by
  apply step.happening.undisturbed before within running
  intro index chance call rest action found sections
  exact unhit ⟨⟨index, chance, call, rest, action, found, sections⟩, running⟩

end Step

/-! ### Where cycles come from -/

/-- A view of the worker shows a cycle before and after each of the steps. -/
def Throughout (view : Activity → Option Capture) (capture : Capture)
    (steps : List (Step setup)) : Prop :=
  ∀ step ∈ steps,
    view step.before.activity = some capture ∧ view step.after.activity = some capture

namespace Run

variable {start finish : World} {steps : List (Step setup)}

theorem cycleSeq_le (run : Run setup start steps finish) :
    start.state.cycleSeq ≤ finish.state.cycleSeq := by
  induction run with
  | nil world => exact Nat.le_refl _
  | cons step tail ih => exact Nat.le_trans step.happening.cycleSeq_le ih

theorem cycleSeq_between (run : Run setup start steps finish) : ∀ step ∈ steps,
    start.state.cycleSeq ≤ step.before.state.cycleSeq ∧
      step.after.state.cycleSeq ≤ finish.state.cycleSeq := by
  intro step member
  obtain ⟨first, last, rfl⟩ := List.append_of_mem member
  obtain ⟨earlier, later⟩ := run.cut
  exact ⟨earlier.cycleSeq_le, later.cycleSeq_le⟩

theorem abortRequests_le (run : Run setup start steps finish) :
    start.state.abortRequests ≤ finish.state.abortRequests := by
  induction run with
  | nil world => exact Nat.le_refl _
  | cons step tail ih => exact Nat.le_trans step.happening.abortRequests_le ih

/-- A view of the worker that only the first section of a cycle brings up has been brought up by
one, and shown by every step since. -/
theorem since_begin (view : Activity → Option Capture) {capture : Capture}
    (brought : ∀ step : Step setup, view step.after.activity = some capture →
      view step.before.activity = some capture ∨ step.Begins capture)
    (run : Run setup start steps finish) (before : view start.activity ≠ some capture)
    (within : view finish.activity = some capture) :
    ∃ prior begin during, steps = prior ++ begin :: during ∧ begin.Begins capture ∧
      Throughout view capture during := by
  refine run.keeps_history (fun made world => view world.activity = some capture →
    ∃ prior begin during, made = prior ++ begin :: during ∧ begin.Begins capture ∧
      Throughout view capture during) ?_ ?_ within
  · intro impossible
    exact absurd impossible before
  · intro made step _ earlier after
    by_cases shown : view step.before.activity = some capture
    · obtain ⟨prior, begin, during, rfl, begins, throughout⟩ := earlier shown
      refine ⟨prior, begin, during ++ [step], by simp, begins, ?_⟩
      intro other member
      rcases List.mem_append.mp member with old | new
      · exact throughout other old
      · rw [List.mem_singleton.mp new]
        exact ⟨shown, after⟩
    · have begins := (brought step after).resolve_left shown
      refine ⟨made, step, [], rfl, begins, ?_⟩
      intro other impossible
      cases impossible

/-- A view that no step of a run brings up has been shown from its start. -/
theorem view_kept (view : Activity → Option Capture) {capture : Capture}
    (brought : ∀ step : Step setup, view step.after.activity = some capture →
      view step.before.activity = some capture ∨ step.Begins capture)
    (run : Run setup start steps finish) (unbegun : ∀ step ∈ steps, ¬ step.Begins capture)
    (within : view finish.activity = some capture) :
    view start.activity = some capture ∧ Throughout view capture steps := by
  induction run with
  | nil world =>
      refine ⟨within, ?_⟩
      intro step impossible
      cases impossible
  | cons step tail ih =>
      obtain ⟨after, throughout⟩ :=
        ih (fun other member => unbegun other (List.mem_cons_of_mem step member)) within
      have before := (brought step after).resolve_right (unbegun step List.mem_cons_self)
      refine ⟨before, ?_⟩
      intro other member
      rcases List.mem_cons.mp member with rfl | later
      · exact ⟨before, after⟩
      · exact throughout other later

theorem unbegun {capture : Capture} (run : Run setup start steps finish)
    (begun : capture.cycle ≤ start.state.cycleSeq) : ∀ step ∈ steps, ¬ step.Begins capture := by
  intro step member begins
  obtain ⟨earlier, _⟩ := run.cycleSeq_between step member
  have next := begins.beginning.cycle
  omega

theorem begins_once {prior later : List (Step setup)} {begin : Step setup} {capture : Capture}
    (run : Run setup start (prior ++ begin :: later) finish) (begins : begin.Begins capture) :
    ∀ step ∈ prior ++ later, ∀ other, step.Begins other → other.cycle ≠ capture.cycle := by
  obtain ⟨before, after⟩ := run.cut
  intro step member other again
  have number := begins.beginning.cycle
  have last := begins.beginning.cycleSeq
  have next := again.beginning.cycle
  have reached := again.beginning.cycleSeq
  rcases List.mem_append.mp member with earlier | since
  · obtain ⟨_, rest⟩ := before.cycleSeq_between step earlier
    omega
  · obtain ⟨rest, _⟩ := after.cycleSeq_between step since
    omega

/-- A cycle that comes up after a moment at which none could fail has a later number. -/
theorem fallible_later {capture : Capture} (run : Run setup start steps finish)
    (quiet : start.activity.fallible? ≠ some capture)
    (within : finish.activity.fallible? = some capture) :
    start.state.cycleSeq < capture.cycle := by
  obtain ⟨prior, begin, during, rfl, begins, _⟩ :=
    run.since_begin Activity.fallible? (fun step => step.fallible?) quiet within
  have earlier := run.cut.1.cycleSeq_le
  have next := begins.beginning.cycle
  omega

end Run

end LongPoll.Channel
