import LongPoll.Proofs.Calls
import LongPoll.Proofs.Restart
import LongPoll.Proofs.Snapshot

set_option autoImplicit false

/-!
Exchanges around a binding. A call that binds a server stops the channel, binds and starts it, in
three sections that others can come between. The cycle that the stop found is over when the server is
bound; one that another call has started in the meantime is not, and the last start finds the channel
running. Every exchange later than that one goes to the server.
-/

namespace LongPoll.Channel

variable {setup : Setup}

/-! ### The order of a binding -/

/-- A call that binds a server does so before it starts the channel, and starts it right after. -/
def World.Rebinds (world : World) : Prop :=
  ∀ call ∈ world.calls, ∀ server session, .bind server session ∈ call.sections →
    ∃ first, call.sections = first ++ [.bind server session, .start] ∧ .start ∉ first

theorem Call.make_rebinds {draw : Draw} {operation : Operation} {onWorker : Bool}
    {server : PollServer} {session : Session}
    (binds : .bind server session ∈ (Call.make setup draw operation onWorker).sections) :
    (Call.make setup draw operation onWorker).sections =
      [.stop] ++ [.bind server session, .start] := by
  obtain ⟨sections, made, planned⟩ := Call.make_planned binds
  rw [made] at binds ⊢
  cases planned with
  | setServer found derived =>
      simp only [List.mem_cons, List.not_mem_nil, or_false, reduceCtorEq, false_or,
        Section.bind.injEq] at binds
      obtain ⟨rfl, rfl⟩ := binds
      rfl
  | _ => simp [restart] at binds

theorem World.Rebinds.happening {before after : World} {action : Action} {events : List Event}
    (rebinds : before.Rebinds) (happening : Happening setup before action after events) :
    after.Rebinds := by
  intro call member server session binds
  obtain ⟨index, present⟩ := List.mem_iff_getElem?.mp member
  rcases happening.call present with kept | ⟨operation, draw, onWorker, _, rfl⟩ |
    ⟨earlier, known, _, rfl | ⟨chance, _, advances⟩⟩
  · exact rebinds call (List.mem_of_getElem? kept) server session binds
  · exact ⟨[.stop], Call.make_rebinds binds, by simp⟩
  · cases binds
  · have ahead : .bind server session ∈ earlier.sections := advances.planned_mem rfl binds
    obtain ⟨first, sections, unstarted⟩ :=
      rebinds earlier (List.mem_of_getElem? known) server session ahead
    cases first with
    | nil =>
        -- The binding itself is run, and nothing but the start is left.
        rcases advances.follows sections with ended | ⟨brought, left, unplanned⟩
        · rw [ended] at binds
          cases binds
        · rw [left] at binds
          rcases List.mem_append.mp binds with new | last
          · cases unplanned _ new
          · simp at last
    | cons part rest =>
        rcases advances.follows sections with ended | ⟨brought, left, unplanned⟩
        · rw [ended] at binds
          cases binds
        · refine ⟨brought ++ rest, by rw [left]; simp, ?_⟩
          intro starts
          rcases List.mem_append.mp starts with new | old
          · cases unplanned _ new
          · exact unstarted (List.mem_cons_of_mem _ old)

theorem Run.rebinds {start finish : World} {steps : List (Step setup)}
    (run : Run setup start steps finish) (rebinds : start.Rebinds) : finish.Rebinds :=
  run.keeps World.Rebinds rebinds fun step _ before => before.happening step.happening

/-- A call does not start the channel as long as it has a server to bind. -/
theorem World.Rebinds.not_start {world : World} (rebinds : world.Rebinds) {index : Nat}
    {call : Call} {rest : List Section} (found : world.calls[index]? = some call)
    (starts : call.sections = .start :: rest) (server : PollServer) (session : Session) :
    .bind server session ∉ call.sections := by
  intro binds
  obtain ⟨first, sections, unstarted⟩ :=
    rebinds call (List.mem_of_getElem? found) server session binds
  rw [starts] at sections
  cases first with
  | nil => cases sections
  | cons part before =>
      cases sections
      exact unstarted List.mem_cons_self

/-! ### Cycles between the stop and the binding -/

theorem Run.switchesOn {start finish : World} {steps : List (Step setup)}
    (run : Run setup start steps finish) (stopped : start.state.stopped = true)
    (running : finish.state.stopped = false) :
    ∃ first step second, steps = first ++ step :: second ∧ step.Runs .start ∧
      step.before.state.stopped = true ∧ step.after.state.stopped = false := by
  induction run with
  | nil world =>
      rw [stopped] at running
      cases running
  | cons step tail ih =>
      cases here : step.after.state.stopped with
      | true =>
          obtain ⟨first, other, second, rfl, switches⟩ := ih here running
          exact ⟨step :: first, other, second, rfl, switches⟩
      | false =>
          refine ⟨[], step, _, rfl, ?_, stopped, here⟩
          apply Classical.byContradiction
          intro unstarted
          rw [(Step.stopped unstarted stopped).1] at here
          cases here

/-- Between the stop of a call and its binding another call has turned the channel on, and the cycle
has begun. -/
def Overtakes (between : List (Step setup)) (index : Nat) (capture : Capture) : Prop :=
  ∃ first begin second, between = first ++ begin :: second ∧ begin.Begins capture ∧
    ∃ start ∈ first, ∃ other, other ≠ index ∧ start.RunsFor other .start ∧
      start.before.state.stopped = true ∧ start.after.state.stopped = false

namespace Run

variable {finish : World} {between later : List (Step setup)} {stop bind : Step setup}
  {index : Nat} {server : PollServer} {session : Session} {capture : Capture}

/-- While a call is between its stop and its binding, only other calls start the channel. -/
theorem starts_elsewhere (path : Run setup stop.after between bind.before)
    (rebinds : stop.after.Rebinds) (made : index < stop.after.calls.length)
    (binds : bind.RunsFor index (.bind server session)) {start : Step setup}
    (member : start ∈ between) {other : Nat} (starts : start.RunsFor other .start) :
    other ≠ index := by
  rintro rfl
  obtain ⟨first, last, rfl⟩ := List.append_of_mem member
  obtain ⟨before, after⟩ := path.cut
  obtain ⟨_, ahead, _, _, present, still⟩ := binds
  obtain ⟨_, call, rest, _, found, sections⟩ := starts
  have placed : Run setup start.before (start :: last) bind.before := .cons start after
  obtain ⟨bound, _⟩ := List.getElem?_eq_some_iff.mp found
  have planned : (Section.bind server session).isPlanned = true := rfl
  obtain ⟨earlier, same, pending⟩ :=
    placed.planned_ahead present bound planned (still ▸ List.mem_cons_self)
  cases Option.some.inj (found.symm.trans same)
  exact (before.rebinds rebinds).not_start found sections server session pending

/-- A cycle in progress after a binding has captured the server, or is the one that was in progress
at the binding and has overtaken it. -/
theorem exchanging_since_bind (path : Run setup stop.after between bind.before)
    (run : Run setup bind.after later finish) (sound : stop.before.Sound)
    (rebinds : stop.before.Rebinds) (once : ∀ call ∈ stop.before.calls, call.stops ≤ 1)
    (stops : stop.StopsOutside index) (binds : bind.RunsFor index (.bind server session))
    (unbound : ∀ step ∈ later, ∀ server session, ¬ step.Runs (.bind server session))
    (within : finish.activity.exchanging? = some capture) :
    capture.server = server ∨
      bind.before.activity.exchanging? = some capture ∧ Overtakes between index capture := by
  have stopped_sound : stop.after.Sound := sound.happening stop.happening
  have bind_sound := path.sound stopped_sound
  by_cases newer : bind.before.state.cycleSeq < capture.cycle
  · left
    have fallible : finish.activity.fallible? = some capture := by
      unfold Activity.fallible?
      rw [within]
      rfl
    obtain ⟨_, _, _, same⟩ := run.begins_bound ⟨index, binds⟩
      (bind_sound.happening bind.happening) unbound fallible newer
    exact same
  · right
    have older : capture.cycle ≤ bind.before.state.cycleSeq := Nat.le_of_not_lt newer
    obtain ⟨after_bind, _⟩ := run.view_kept Activity.exchanging? (fun step => step.exchanging?)
      (run.unbegun (Nat.le_trans older bind.happening.cycleSeq_le)) within
    have at_bind : bind.before.activity.exchanging? = some capture := by
      rcases bind.exchanging? after_bind with kept | begins
      · exact kept
      · have number := begins.beginning.cycle
        omega
    refine ⟨at_bind, ?_⟩
    have state := Step.Runs.stop ⟨index, stops.stops⟩
    have number : stop.after.state.cycleSeq = stop.before.state.cycleSeq := by
      rw [state]
      rfl
    -- The call has got past its wait, so that the cycle it found is over.
    have others : capture.cycle ≠ stop.before.state.cycleSeq := by
      obtain ⟨made, kept, stopping⟩ := stops.stopping once
      obtain ⟨call, found, standing⟩ := path.stopping (Nat.le_of_eq number.symm) kept stopping
      obtain ⟨_, same, rest, _, present, sections⟩ := binds
      cases Option.some.inj (found.symm.trans present)
      cases standing with
      | panicked panicked ended =>
          rw [ended] at sections
          cases sections
      | waiting busy waits last =>
          rw [waits] at sections
          cases sections
      | passed past done =>
          exact bind_sound.consistent.not_awaits_iff.mp past capture at_bind
    have unseen : stop.after.activity.exchanging? ≠ some capture := by
      intro present
      have current := stopped_sound.consistent.current capture
        (Activity.capture?_of_exchanging? present)
      exact others (current.trans number)
    obtain ⟨first, begin, second, rfl, begins, _⟩ :=
      path.since_begin Activity.exchanging? (fun step => step.exchanging?) unseen at_bind
    refine ⟨first, begin, second, rfl, begins, ?_⟩
    have off : stop.after.state.stopped = true := by
      rw [state]
      rfl
    obtain ⟨prior, start, last, rfl, ⟨other, starts⟩, switches⟩ :=
      path.cut.1.switchesOn off begins.beginning.running
    refine ⟨start, by simp, other, ?_, starts, switches⟩
    have bound : index < stop.after.calls.length := by
      obtain ⟨_, kept, _⟩ := stops.stopping once
      exact (List.getElem?_eq_some_iff.mp kept).1
    exact path.starts_elsewhere (rebinds.happening stop.happening) bound binds (by simp) starts

theorem request_url {start : World} {steps : List (Step setup)} {request : FormPost}
    (run : Run setup start steps finish) (before : start.activity.request? = none)
    (holds : finish.activity.request? = some (capture, request)) :
    request.url = capture.server.url := by
  have unbuilt : start.activity.request? ≠ some (capture, request) := by
    rw [before]
    intro impossible
    cases impossible
  obtain ⟨step, _, outcome, sealing, body, nonce, _, _, _, rfl⟩ :=
    run.originates Activity.request? (Step.Compiles · capture request)
      (fun step => step.request?) unbuilt holds
  rfl

/-- Exchanges after a binding made by another thread than the worker's, at any later moment before
the next binding. The channel keeps the server that was bound. What is in flight and what is sent is
addressed to it, with one exception: the cycle that was in progress at the binding, if another call
had started the channel since the stop and the cycle had begun since. -/
theorem rebinding_outcome {multiplexer : Option Multiplexer}
    {demultiplexer : Option Demultiplexer} {managerAlive : Bool} {earlier : List (Step setup)}
    (run : Run setup (.new multiplexer demultiplexer managerAlive)
      (earlier ++ stop :: (between ++ bind :: later)) finish)
    (stops : stop.StopsOutside index) (binds : bind.RunsFor index (.bind server session))
    (unbound : ∀ step ∈ later, ∀ server session, ¬ step.Runs (.bind server session)) :
    finish.state.server = some server ∧
    (∀ capture request, finish.activity = .sending capture request →
      capture.server = server ∧ request.url = server.url ∨
        bind.before.activity.exchanging? = some capture ∧ Overtakes between index capture) ∧
    ∀ step ∈ later, ∀ capture request, .send capture request ∈ step.events →
      capture.server = server ∧ request.url = server.url ∨
        bind.before.activity.exchanging? = some capture ∧ Overtakes between index capture := by
  obtain ⟨before, tail⟩ := run.cut
  obtain ⟨path, after⟩ := tail.cut
  have sound := before.sound (.new multiplexer demultiplexer managerAlive)
  have rebinds : stop.before.Rebinds :=
    before.rebinds (by intro call impossible; cases impossible)
  have leads (world : World) (steps : List (Step setup)) (reached : Run setup bind.after steps world)
      (within : ∀ step ∈ steps, step ∈ later) (capture : Capture) (request : FormPost)
      (exchanging : world.activity.exchanging? = some capture)
      (holds : world.activity.request? = some (capture, request)) :
      capture.server = server ∧ request.url = server.url ∨
        bind.before.activity.exchanging? = some capture ∧ Overtakes between index capture := by
    have whole : Run setup (.new multiplexer demultiplexer managerAlive)
        (earlier ++ stop :: (between ++ bind :: steps)) world :=
      before.append (.cons stop (path.append (.cons bind reached)))
    have addressed := whole.request_url rfl holds
    rcases path.exchanging_since_bind reached sound rebinds before.stops_le stops binds
      (fun step member => unbound step (within step member)) exchanging with same | overtaken
    · left
      rw [same] at addressed
      exact ⟨same, addressed⟩
    · exact .inr overtaken
  refine ⟨?_, ?_, ?_⟩
  · rw [after.server unbound, Step.Runs.bind ⟨index, binds⟩]
    rfl
  · intro capture request sending
    apply leads finish later after (fun step member => member) capture request
    · rw [sending]
      rfl
    · rw [sending]
      rfl
  · intro step member capture request sent
    obtain ⟨first, last, rfl⟩ := List.append_of_mem member
    obtain ⟨reached, _⟩ := after.cut
    cases (step.arises sent rfl).2 with
    | send cleared =>
        apply leads step.before first reached (fun other earlier => by simp [earlier]) capture
          request
        · rw [cleared]
          rfl
        · rw [cleared]
          rfl

end Run

/-! ### A binding that waits, and one that is overtaken -/

namespace Trial

def second : PollServer := { server 2 with url := { (server 2).url with path := "/second" } }

/-- Another server is bound while the first request is in flight, and gets the next one. -/
def rebindInFlight : List Action :=
  bind 0 1 ++ begin ++ send ++ [.invoke (.setServer (.poll second)) draw false, .advance 1] ++
    answer 204 ++ [.work .finish, .advance 1, .advance 1, .advance 1] ++ begin ++ send

/-- Another server is bound while the first request is built. Before the call has got past its wait,
another thread starts the channel, and the next cycle begins. -/
def rebindOvertaken : List Action :=
  bind 0 1 ++ begin ++ [.invoke (.setServer (.poll second)) draw false, .advance 1,
      .invoke .start draw false, .advance 2] ++ send.take 2 ++ begin ++ send ++
    [.advance 1, .advance 1, .advance 1]

/-- The stop of a call outside the worker and its binding, each after so many more steps, if no
other binding follows. -/
def rebinding? (index first second : Nat) (steps : List (Step setup)) :
    Option (Step setup × Step setup × PollServer) :=
  match steps.drop first with
  | stop :: rest =>
    match rest.drop second with
    | bind :: later =>
      match bind.section? with
      | some (own, .bind server _) =>
        if own = index && stop.runsFor index .stop &&
            stop.before.calls[index]?.any (!·.onWorker) && later.all fun step =>
              match step.section? with
              | some (_, .bind ..) => false
              | _ => true
        then some (stop, bind, server) else none
      | _ => none
    | [] => none
  | [] => none

theorem of_rebinding? {index first second : Nat} {steps : List (Step setup)}
    {stop bind : Step setup} {server : PollServer}
    (found : rebinding? index first second steps = some (stop, bind, server)) :
    ∃ earlier between later session, steps = earlier ++ stop :: (between ++ bind :: later) ∧
      stop.StopsOutside index ∧ bind.RunsFor index (.bind server session) ∧
      ∀ step ∈ later, ∀ server session, ¬ step.Runs (.bind server session) := by
  unfold rebinding? at found
  split at found
  · rename_i opening rest dropped
    split at found
    · rename_i binding later left
      split at found
      · rename_i own bound session shown
        split at found
        · rename_i checked
          cases found
          simp only [Bool.and_eq_true, decide_eq_true_eq, List.all_eq_true] at checked
          obtain ⟨⟨⟨rfl, runs⟩, outside⟩, unbound⟩ := checked
          obtain ⟨call, present, elsewhere⟩ := (Option.any_eq_true _ _).mp outside
          refine ⟨steps.take first, rest.take second, later, session, ?_,
            ⟨Step.of_runsFor runs, call, present, by simpa using elsewhere⟩,
            Step.runsFor_iff.mpr shown, ?_⟩
          · rw [← left, List.take_append_drop, ← dropped, List.take_append_drop]
          · rintro step member server session ⟨other, binds⟩
            have clear := unbound step member
            rw [Step.runsFor_iff.mp binds] at clear
            cases clear
        · cases found
      · cases found
    · cases found
  · cases found

end Trial

theorem Activity.of_isExchange {activity : Activity} (sending : activity.isExchange = true) :
    ∃ capture request, activity = .sending capture request := by
  cases activity with
  | sending capture request => exact ⟨capture, request, rfl⟩
  | _ => cases sending

namespace Run

/-- The cycle that was in flight is over when the server is bound, and the next one is addressed to
the server. -/
theorem rebinding_outcome_waiting : ∃ earlier stop between bind later finish session capture
    request, Run Trial.client Trial.channel (earlier ++ stop :: (between ++ bind :: later)) finish ∧
    stop.StopsOutside 1 ∧ stop.before.state.inProgress = true ∧
    bind.RunsFor 1 (.bind Trial.second session) ∧
    (∀ step ∈ later, ∀ server session, ¬ step.Runs (.bind server session)) ∧
    finish.activity = .sending capture request ∧ request.url = Trial.second.url := by
  have seen : (Trial.channel.record? Trial.client Trial.rebindInFlight).any (fun record =>
      record.2.activity.isExchange && (Trial.rebinding? 1 10 4 record.1).any
        fun (stop, bind, server) => stop.before.state.inProgress &&
          bind.before.activity.exchanging? = none && server = Trial.second) = true := by
    decide +kernel
  obtain ⟨⟨steps, finish⟩, recorded, checked⟩ := (Option.any_eq_true _ _).mp seen
  obtain ⟨exchange, cut⟩ := Bool.and_eq_true_iff.mp checked
  obtain ⟨⟨stop, bind, server⟩, found, held⟩ := (Option.any_eq_true _ _).mp cut
  simp only [Bool.and_eq_true, decide_eq_true_eq] at held
  obtain ⟨⟨busy, quiet⟩, rfl⟩ := held
  obtain ⟨earlier, between, later, session, rfl, stops, binds, unbound⟩ :=
    Trial.of_rebinding? found
  obtain ⟨capture, request, sending⟩ := Activity.of_isExchange exchange
  obtain ⟨_, in_flight, _⟩ := rebinding_outcome (Run.of_record recorded) stops binds unbound
  rcases in_flight capture request sending with ⟨_, addressed⟩ | ⟨within, _⟩
  · exact ⟨earlier, stop, between, bind, later, finish, session, capture, request,
      Run.of_record recorded, stops, busy, binds, unbound, sending, addressed⟩
  · rw [quiet] at within
    cases within

/-- The call has returned without a fault while a request to the older server is in flight. -/
theorem rebinding_overtaken : ∃ earlier stop between bind later finish session call capture
    request, Run Trial.client Trial.channel (earlier ++ stop :: (between ++ bind :: later)) finish ∧
    stop.StopsOutside 1 ∧ bind.RunsFor 1 (.bind Trial.second session) ∧
    (∀ step ∈ later, ∀ server session, ¬ step.Runs (.bind server session)) ∧
    finish.calls[1]? = some call ∧ call.hasReturned = true ∧ call.result = .ok () ∧
    finish.activity = .sending capture request ∧ request.url ≠ Trial.second.url := by
  have seen : (Trial.channel.record? Trial.client Trial.rebindOvertaken).any (fun record =>
      record.2.activity.isExchange &&
        record.2.activity.request?.all (fun (_, request) => request.url ≠ Trial.second.url) &&
        record.2.calls[1]?.any (fun call => call.hasReturned && call.result.isOk) &&
        (Trial.rebinding? 1 7 10 record.1).any fun (_, _, server) =>
          server = Trial.second) = true := by
    decide +kernel
  obtain ⟨⟨steps, finish⟩, recorded, checked⟩ := (Option.any_eq_true _ _).mp seen
  simp only [Bool.and_eq_true] at checked
  obtain ⟨⟨⟨exchange, elsewhere⟩, over_with⟩, cut⟩ := checked
  obtain ⟨⟨stop, bind, server⟩, found, same⟩ := (Option.any_eq_true _ _).mp cut
  cases of_decide_eq_true same
  obtain ⟨earlier, between, later, session, rfl, stops, binds, unbound⟩ :=
    Trial.of_rebinding? found
  obtain ⟨capture, request, sending⟩ := Activity.of_isExchange exchange
  obtain ⟨call, present, ended⟩ := (Option.any_eq_true _ _).mp over_with
  obtain ⟨returned, ok⟩ := Bool.and_eq_true_iff.mp ended
  rw [sending] at elsewhere
  exact ⟨earlier, stop, between, bind, later, finish, session, call, capture, request,
    Run.of_record recorded, stops, binds, unbound, present, returned, Except.eq_ok_of_isOk ok,
    sending,
    of_decide_eq_true elsewhere⟩

end Run

end LongPoll.Channel
