import LongPoll.Proofs.Lifecycle

set_option autoImplicit false

/-!
Which exchange an abort is meant for. A stop asks for it when it finds a cycle in progress, and
again whenever its wait runs out; by then the channel may have been started and stopped any number
of times. What a call waits for goes back to the one stop that it makes, and the cycle that this
stop has found stays in progress until its own exchange is over, so that no abort reaches a later
one.
-/

namespace LongPoll.Channel

variable {setup : Setup}

/-- The call whose part an action is. -/
def Action.call? : Action → Option Nat
  | .advance index _ | .repeatAbort index _ => some index
  | _ => none

def Event.isFirstClose : Event → Bool
  | .close _ repeated => !repeated
  | _ => false

/-! ### The counter of aborts -/

theorem Turn.countP_isFirstClose {managerAlive : Bool} {state next : State}
    {activity after : Activity} {move : Move} {events : List Event}
    (turn : Turn setup managerAlive state activity move next after events) :
    events.countP Event.isFirstClose = 0 := by
  apply List.countP_eq_zero.mpr
  intro event member first
  have unclosed := List.any_eq_false.mp turn.any_isClose event member
  cases event with
  | close cycle repeated => exact unclosed rfl
  | _ => cases first

theorem State.abortRequests_stop (state : State) : state.stop.abortRequests =
    state.abortRequests + (if state.stopAborts then 1 else 0) := by
  unfold stop
  split <;> rfl

theorem Advances.abortRequests {chance : Chance} {state next : State} {call after : Call}
    {events : List Event} (advances : Advances setup chance state call next after events) :
    next.abortRequests = state.abortRequests + events.countP Event.isFirstClose := by
  cases advances with
  | start sections started =>
      rw [started.abortRequests]
      split <;> rfl
  | stopPanicking sections aborts panics =>
      rw [State.abortRequests_stop, if_pos aborts]
      rfl
  | stopWaiting | stopPassing =>
      rw [State.abortRequests_stop]
      split <;> rfl
  | _ => rfl

theorem Step.abortRequests (step : Step setup) : step.after.state.abortRequests =
    step.before.state.abortRequests + step.events.countP Event.isFirstClose := by
  have happening := step.happening
  revert happening
  generalize step.before = before, step.action = action, step.after = after, step.events = events
  intro happening
  cases happening with
  | work free turn => rw [turn.abortRequests, turn.countP_isFirstClose, Nat.add_zero]
  | advance found advances => exact advances.abortRequests
  | _ => rfl

/-- The counter goes up by one with each abort that a stop asks for first. -/
theorem Run.abortRequests {start finish : World} {steps : List (Step setup)}
    (run : Run setup start steps finish) : finish.state.abortRequests =
      start.state.abortRequests + (steps.flatMap Step.events).countP Event.isFirstClose := by
  induction run with
  | nil world => rfl
  | cons step tail ih =>
      rw [ih, step.abortRequests, List.flatMap_cons, List.countP_append]
      omega

/-! ### The stop behind an abort -/

/-- The step is the first section of the stop of a call, and finds a cycle in progress. -/
structure Step.Finds (step : Step setup) (index cycle : Nat) : Prop where
  stops : step.RunsFor index .stop
  busy : step.before.state.inProgress = true
  number : step.before.state.cycleSeq = cycle

namespace Step

variable {step : Step setup} {index cycle : Nat}

/-- A call waits for the cycle that its stop has found. -/
theorem finds_of_await {call : Call} (found : step.after.calls[index]? = some call)
    (waits : .await cycle ∈ call.sections) :
    (∃ earlier, step.before.calls[index]? = some earlier ∧ .await cycle ∈ earlier.sections) ∨
      step.Finds index cycle := by
  rcases step.happening.call found with kept | ⟨_, _, _, _, rfl⟩ |
    ⟨earlier, present, _, rfl | ⟨chance, action, advances⟩⟩
  · exact .inl ⟨call, kept, waits⟩
  · cases Call.make_isPlanned _ waits
  · cases waits
  · rcases advances.section_mem waits with before | ⟨same, busy, _, rest, sections⟩ |
      ⟨leaves | leaves, _⟩
    · exact .inl ⟨earlier, present, before⟩
    · cases same
      exact .inr ⟨⟨chance, earlier, rest, action, present, sections⟩, busy, rfl⟩
    · cases leaves
    · cases leaves

/-- Who asks for an abort: a stop that finds the cycle in progress, or a call that waits for it. -/
inductive Closing (step : Step setup) (cycle : Nat) : Bool → Nat → Prop
  | first {index : Nat} (finds : step.Finds index cycle) : Closing step cycle false index
  | again {index : Nat} {closePanics : Bool} {call : Call}
      (action : step.action = .repeatAbort index closePanics)
      (found : step.before.calls[index]? = some call) (waits : .await cycle ∈ call.sections)
      (awaited : step.before.state.awaits cycle = true) : Closing step cycle true index

theorem closing_of_mem {repeated : Bool} (asked : .close cycle repeated ∈ step.events) :
    ∃ index, step.action.call? = some index ∧ step.Closing cycle repeated index := by
  obtain ⟨before, action, after, events, happens⟩ := step
  have happening := Step.happening ⟨before, action, after, events, happens⟩
  change Event.close cycle repeated ∈ events at asked
  change Happening setup before action after events at happening
  cases happening with
  | work free turn =>
      have unclosed := List.any_eq_false.mp turn.any_isClose _ asked
      exact absurd rfl unclosed
  | @advance index chance call next state events found advances =>
      refine ⟨index, rfl, ?_⟩
      -- The three ways in which a stop ends differ in what it leaves ahead of its call.
      have first {rest : List Section} (sections : call.sections = .stop :: rest)
          (aborts : before.state.stopAborts = true)
          (same : Event.close cycle repeated = .close before.state.cycleSeq false) :
          Closing ⟨before, .advance index chance, _, events, happens⟩ cycle repeated index := by
        cases same
        exact .first ⟨⟨chance, call, rest, rfl, found, sections⟩,
          (Bool.and_eq_true_iff.mp aborts).2, rfl⟩
      cases advances with
      | stopPanicking sections aborts panics =>
          exact first sections aborts (List.mem_singleton.mp asked)
      | stopWaiting sections | stopPassing sections =>
          split at asked
          · rename_i aborts
            exact first sections aborts (List.mem_singleton.mp asked)
          · cases asked
      | noServer => cases List.mem_singleton.mp asked
      | start sections started =>
          split at asked
          · cases List.mem_singleton.mp asked
          · cases asked
      | _ => cases asked
  | repeatAbort found sections awaited | repeatPanicking found sections awaited =>
      cases List.mem_singleton.mp asked
      exact ⟨_, rfl, .again rfl found (sections ▸ List.mem_cons_self) awaited⟩
  | invoke | dropManager => cases asked

theorem Closing.awaits {repeated : Bool} (closing : step.Closing cycle repeated index) :
    step.before.state.awaits cycle = true := by
  cases closing with
  | first finds => exact State.awaits_iff.mpr ⟨finds.busy, finds.number⟩
  | again action found waits awaited => exact awaited

/-- A call that has made its stop has none ahead of it. -/
theorem RunsFor.stop_not_mem {call : Call} (stops : step.RunsFor index .stop)
    (once : ∀ call ∈ step.before.calls, call.stops ≤ 1)
    (found : step.after.calls[index]? = some call) : .stop ∉ call.sections := by
  intro ahead
  obtain ⟨chance, before, next, present, ⟨rest, sections⟩, after, advances⟩ := stops.advances
  cases Option.some.inj (found.symm.trans after)
  have single := once before (List.mem_of_getElem? present)
  unfold Call.stops at single
  rw [sections, List.countP_cons_of_pos rfl] at single
  rcases advances.follows sections with ended | ⟨brought, left, unplanned⟩
  · rw [ended] at ahead
    cases ahead
  · rw [left] at ahead
    rcases List.mem_append.mp ahead with first | later
    · cases unplanned _ first
    · have another : 0 < rest.countP Section.isStop := List.countP_pos_iff.mpr ⟨_, later, rfl⟩
      omega

end Step

namespace Run

variable {multiplexer : Option Multiplexer} {demultiplexer : Option Demultiplexer}
  {managerAlive : Bool} {finish : World}

/-- Whoever waits for a cycle has made a stop that found it in progress. -/
theorem finds_of_await {steps : List (Step setup)}
    (run : Run setup (.new multiplexer demultiplexer managerAlive) steps finish) {index cycle : Nat}
    {call : Call} (found : finish.calls[index]? = some call)
    (waits : .await cycle ∈ call.sections) : ∃ stop ∈ steps, stop.Finds index cycle := by
  refine run.keeps_history (fun made world => ∀ call, world.calls[index]? = some call →
    .await cycle ∈ call.sections → ∃ stop ∈ made, stop.Finds index cycle) ?_ ?_ call found waits
  · intro call impossible
    cases impossible
  · intro made step _ earlier call found waits
    rcases step.finds_of_await found waits with ⟨before, present, ahead⟩ | finds
    · obtain ⟨stop, member, finds⟩ := earlier before present ahead
      exact ⟨stop, List.mem_append_left _ member, finds⟩
    · exact ⟨step, List.mem_append_right _ (List.mem_singleton.mpr rfl), finds⟩

theorem no_stop_after {later : List (Step setup)} {stop : Step setup} {index : Nat}
    (run : Run setup stop.after later finish) (stops : stop.RunsFor index .stop)
    (once : ∀ call ∈ stop.before.calls, call.stops ≤ 1) :
    ∀ step ∈ later, ¬ step.RunsFor index .stop := by
  rintro step member ⟨chance, call, rest, action, found, sections⟩
  obtain ⟨first, last, rfl⟩ := List.append_of_mem member
  obtain ⟨_, _, next, _, _, own, _⟩ := stops.advances
  obtain ⟨made, _⟩ := List.getElem?_eq_some_iff.mp own
  obtain ⟨left, present, ahead⟩ :=
    run.cut.1.planned_ahead found made (rfl : Section.stop.isPlanned = true)
      (sections ▸ List.mem_cons_self)
  exact stops.stop_not_mem once present ahead

/-- A call makes one stop in the whole of a run. -/
theorem stops_once {prior later : List (Step setup)} {stop : Step setup} {index : Nat}
    (run : Run setup (.new multiplexer demultiplexer managerAlive) (prior ++ stop :: later) finish)
    (stops : stop.RunsFor index .stop) : ∀ step ∈ prior ++ later, ¬ step.RunsFor index .stop := by
  intro step member
  obtain ⟨before, after⟩ := run.cut
  rcases List.mem_append.mp member with earlier | since
  · intro other
    obtain ⟨first, last, rfl⟩ := List.append_of_mem earlier
    rw [List.append_assoc] at run
    obtain ⟨start, rest⟩ := run.cut
    exact rest.no_stop_after other start.stops_le stop (by simp) stops
  · exact after.no_stop_after stops before.stops_le step since

/-- An exchange under way has been under way ever since the number of its cycle was reached. -/
theorem exchanging_since {start : World} {steps : List (Step setup)} {capture : Capture}
    (run : Run setup start steps finish)
    (number : start.state.cycleSeq = capture.cycle)
    (within : finish.activity.exchanging? = some capture) :
    start.activity.exchanging? = some capture :=
  (run.view_kept Activity.exchanging? (fun step => step.exchanging?)
    (run.unbegun (Nat.le_of_eq number.symm)) within).1

/-- A cycle is asked to be aborted by a call whose stop has found it in progress. -/
theorem finds_of_close {prior : List (Step setup)} {closing : Step setup} {cycle : Nat}
    {repeated : Bool}
    (run : Run setup (.new multiplexer demultiplexer managerAlive) prior closing.before)
    (asked : .close cycle repeated ∈ closing.events) :
    closing.before.state.awaits cycle = true ∧
      ∃ index first stop since, closing.action.call? = some index ∧
        prior ++ [closing] = first ++ stop :: since ∧ (repeated = false ↔ since = []) ∧
        stop.Finds index cycle := by
  obtain ⟨index, own, closes⟩ := Step.closing_of_mem asked
  refine ⟨closes.awaits, index, ?_⟩
  cases closes with
  | first finds => exact ⟨prior, closing, [], own, rfl, by simp, finds⟩
  | again action found waits awaited =>
      obtain ⟨stop, member, finds⟩ := run.finds_of_await found waits
      obtain ⟨first, since, rfl⟩ := List.append_of_mem member
      exact ⟨first, stop, since ++ [closing], own, by simp, by simp, finds⟩

theorem between {start : World} {prior first since : List (Step setup)} {stop closing : Step setup}
    (run : Run setup start prior closing.before)
    (split : prior ++ [closing] = first ++ stop :: since) :
    ∃ during, Run setup stop.before during closing.before := by
  rcases since.eq_nil_or_concat with rfl | ⟨during, last, rfl⟩
  · obtain ⟨_, same⟩ := List.append_inj' split rfl
    cases same
    exact ⟨[], .nil _⟩
  · have longer : first ++ stop :: during.concat last = (first ++ stop :: during) ++ [last] := by
      simp
    obtain ⟨rfl, _⟩ := List.append_inj' (split.trans longer) rfl
    exact ⟨stop :: during, .cons stop run.cut.2⟩

/-- Whoever asks for the abort of a cycle, at once or later, is a call whose one stop has found this
very cycle in progress. It still is when the abort is asked for, with the same exchange not over,
and every cycle begun since that stop has a later number. The counter shows how many stops have
asked; one that has found no cycle in progress never does. -/
theorem aborts_aimed {steps : List (Step setup)}
    (run : Run setup (.new multiplexer demultiplexer managerAlive) steps finish) :
    (∀ prior (closing : Step setup) later cycle repeated, steps = prior ++ closing :: later →
      .close cycle repeated ∈ closing.events →
      closing.before.state.inProgress = true ∧ closing.before.state.cycleSeq = cycle ∧
      ∃ index first, ∃ stop : Step setup, ∃ since, ∃ capture : Capture,
        closing.action.call? = some index ∧
        prior ++ [closing] = first ++ stop :: since ∧ (repeated = false ↔ since = []) ∧
        stop.RunsFor index .stop ∧
        (∀ step ∈ first ++ (since ++ later), ¬ step.RunsFor index .stop) ∧
        stop.before.state.inProgress = true ∧ stop.before.state.cycleSeq = cycle ∧
        stop.before.activity.exchanging? = some capture ∧
        closing.before.activity.exchanging? = some capture ∧ capture.cycle = cycle ∧
        ∀ step ∈ since ++ later, ∀ other, step.Begins other → cycle < other.cycle) ∧
    finish.state.abortRequests = (steps.flatMap Step.events).countP Event.isFirstClose ∧
    ∀ prior (stop : Step setup) later index, steps = prior ++ stop :: later →
      stop.RunsFor index .stop →
      stop.before.state.inProgress = false →
      ∀ step ∈ steps, step.action.call? = some index → step.aborts = false := by
  refine ⟨?_, run.abortRequests.trans (Nat.zero_add _), ?_⟩
  · rintro prior closing later cycle repeated rfl asked
    obtain ⟨before, _⟩ := run.cut
    obtain ⟨awaited, index, first, stop, since, own, split, once, finds⟩ :=
      before.finds_of_close asked
    obtain ⟨busy, number⟩ := State.awaits_iff.mp awaited
    obtain ⟨capture, exchanging, current⟩ :=
      (before.sound (.new ..)).consistent.inProgress_iff.mp busy
    have same : capture.cycle = cycle := current.trans number
    obtain ⟨during, path⟩ := before.between split
    have within := path.exchanging_since (finds.number.trans same.symm) exchanging
    have whole : prior ++ closing :: later = first ++ stop :: (since ++ later) := by
      rw [List.append_cons, split, List.append_assoc]
      rfl
    rw [whole] at run
    refine ⟨busy, number, index, first, stop, since, capture, own, split, once, finds.stops,
      run.stops_once finds.stops, finds.busy, finds.number, within, exchanging, same, ?_⟩
    intro step member other begins
    have past := stop.happening.cycleSeq_le
    have reached := (run.cut.2.cycleSeq_between step member).1
    have next := begins.beginning.cycle
    have found := finds.number
    omega
  · rintro prior stop later index rfl stops quiet step member own
    apply Bool.eq_false_iff.mpr
    intro aborts
    obtain ⟨event, closes, isClose⟩ := List.any_eq_true.mp aborts
    cases event with
    | close cycle repeated =>
        obtain ⟨made, rest, whole⟩ := List.append_of_mem member
        have reached := whole ▸ run
        obtain ⟨_, other, first, found, since, same, split, _, finds⟩ :=
          reached.cut.1.finds_of_close closes
        cases Option.some.inj (own.symm.trans same)
        have present : found ∈ prior ++ stop :: later := by
          rw [whole, List.append_cons, split]
          simp
        -- The call makes one stop only, so that the one found is the one given.
        have alone := run.stops_once stops found
        rcases List.mem_append.mp present with earlier | since
        · exact alone (List.mem_append_left _ earlier) finds.stops
        · rcases List.mem_cons.mp since with rfl | after
          · rw [finds.busy] at quiet
            cases quiet
          · exact alone (List.mem_append_right _ after) finds.stops
    | _ => cases isClose

/-- The stop of the first request is repeated after a start; the next cycle has another number. -/
theorem aborts_aimed_repeated : ∃ prior closing later finish,
    Run Trial.client Trial.channel (prior ++ closing :: later) finish ∧
      .close 1 true ∈ closing.events ∧ finish.state.cycleSeq = 2 ∧
      ((prior ++ closing :: later).flatMap Step.events).countP Event.isFirstClose = 1 ∧
      ∃ index first stop since, prior ++ [closing] = first ++ stop :: since ∧ since ≠ [] ∧
        stop.RunsFor index .stop ∧ stop.before.state.cycleSeq = 1 ∧
        ∀ step ∈ since ++ later, ∀ other, step.Begins other → 1 < other.cycle := by
  have seen : (Trial.channel.record? Trial.client
      (Trial.bind 0 1 ++ Trial.begin ++ Trial.send ++ Trial.restart 1 ++ [.repeatAbort 1] ++
        Trial.answer 204 ++ [.work .finish] ++ Trial.begin)).map (fun record =>
          ((record.1.drop 13).head?.any fun step => decide (.close 1 true ∈ step.events),
            record.2.state.cycleSeq, record.2.state.abortRequests)) = some (true, 2, 1) := by
    decide +kernel
  obtain ⟨⟨steps, finish⟩, recorded, shape⟩ := Option.map_eq_some_iff.mp seen
  obtain ⟨thirteenth, counters⟩ := Prod.mk.inj shape
  obtain ⟨number, counted⟩ := Prod.mk.inj counters
  obtain ⟨closing, first, found⟩ := (Option.any_eq_true _ _).mp thirteenth
  have asked : .close 1 true ∈ closing.events := of_decide_eq_true found
  obtain ⟨later, dropped⟩ := List.head?_eq_some_iff.mp first
  have run : Run Trial.client Trial.channel (steps.take 13 ++ closing :: later) finish := by
    rw [← dropped, List.take_append_drop 13 steps]
    exact Run.of_record recorded
  obtain ⟨aimed, total, _⟩ := Run.aborts_aimed run
  obtain ⟨_, _, index, prior, stop, since, _, _, split, once, stops, _, _, own, _, _, _, others⟩ :=
    aimed _ _ _ _ _ rfl asked
  refine ⟨_, closing, later, finish, run, asked, number, total.symm.trans counted, index, prior,
    stop, since, split, ?_, stops, own, others⟩
  intro empty
  cases once.mpr empty

end Run

end LongPoll.Channel
