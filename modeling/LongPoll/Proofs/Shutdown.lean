import LongPoll.Proofs.Calls
import LongPoll.Proofs.Queue
import LongPoll.Proofs.Restart
import LongPoll.Proofs.Snapshot

set_option autoImplicit false

/-!
What a shutdown leaves behind. It retires the worker, so that nothing can be posted any more; what
had been posted before is still ahead of the worker, and a start asks for a worker only if it has to
post. A channel at rest, with nothing posted and no cycle in progress, stays at rest once its worker
is retired; one that is not can be started once more.
-/

namespace LongPoll.Channel

variable {setup : Setup}

/-! ### Rest -/

namespace State

/-- The channel is stopped, and neither a posted cycle nor one in progress could take it on. -/
def atRest (state : State) : Bool := state.stopped && !state.taskPosted && !state.inProgress

def lastCycle (state : State) : Nat :=
  if state.taskPosted then state.cycleSeq + 1 else state.cycleSeq

variable {state : State}

theorem atRest_iff : state.atRest = true ↔
    state.stopped = true ∧ state.taskPosted = false ∧ state.inProgress = false := by
  simp [atRest, and_assoc]

theorem cycleSeq_le_lastCycle (state : State) : state.cycleSeq ≤ state.lastCycle := by
  unfold lastCycle
  split
  · exact Nat.le_succ _
  · exact Nat.le_refl _

theorem serves_of_retired (retired : state.worker = .retired) : state.serves = false := by
  simp [serves, retired]

theorem equip_of_retired (retired : state.worker = .retired) : state.equip = state := by
  have started : state.worker ≠ .unstarted := by
    rw [retired]
    decide
  unfold equip
  rw [if_neg started]

end State

def Setup.unavailable (setup : Setup) : Fault :=
  .workerUnavailable setup.config.channelId "poll worker is not running"

/-- Without a worker a start is refused by a channel at rest, and by no other. -/
theorem Started.of_retired {channelId : String} {spawnFault : Option String} {state next : State}
    {result : Except Fault Unit} (ends : Started channelId spawnFault state next result)
    (retired : state.worker = .retired) :
    (state.atRest = true ∧ next = state ∧
      result = .error (.workerUnavailable channelId "poll worker is not running")) ∨
    (state.atRest = false ∧ next = { state with stopped := false } ∧ result = .ok ()) := by
  have kept := State.equip_of_retired retired
  cases ends with
  | unspawned first failed =>
      rw [retired] at first
      cases first
  | alreadyRunning running =>
      right
      refine ⟨by simp [State.atRest, running], ?_, rfl⟩
      rw [kept, ← running]
  | resumed stopped ahead =>
      right
      rw [kept]
      refine ⟨?_, rfl, rfl⟩
      rcases ahead with posted | busy
      · simp [State.atRest, posted]
      · simp [State.atRest, busy]
  | posted stopped unposted quiet served =>
      rw [kept, State.serves_of_retired retired] at served
      cases served
  | refused stopped unposted quiet unserved =>
      left
      exact ⟨State.atRest_iff.mpr ⟨stopped, unposted, quiet⟩, kept, rfl⟩

theorem Rescheduled.of_retired {channelId : String} {state next : State}
    {unposted : Option Fault} (ends : Rescheduled channelId state next unposted)
    (retired : state.worker = .retired) :
    next = state ∨ next = { state with stopped := true } := by
  cases ends with
  | kept needless => exact .inl rfl
  | posted running free served =>
      rw [State.serves_of_retired retired] at served
      cases served
  | refused running free unserved => exact .inr rfl

/-! ### Steps without a worker -/

theorem Rescheduled.atRest {channelId : String} {state next : State} {unposted : Option Fault}
    (ends : Rescheduled channelId state next unposted) (rest : state.atRest = true) :
    next.atRest = true := by
  cases ends with
  | kept needless => exact rest
  | posted running free served | refused running free unserved =>
      rw [(State.atRest_iff.mp rest).1] at running
      cases running

namespace Turn

variable {managerAlive : Bool} {state next : State} {activity after : Activity} {move : Move}
  {events : List Event}

theorem atRest (turn : Turn setup managerAlive state activity move next after events)
    (rest : state.atRest = true) : next.atRest = true := by
  obtain ⟨stopped, unposted, quiet⟩ := State.atRest_iff.mp rest
  have settled : state.settle.atRest = true := State.atRest_iff.mpr ⟨stopped, unposted, rfl⟩
  cases turn with
  | begin running captured | misconfigure running missing =>
      rw [stopped] at running
      cases running
  | drop hit rescheduled | cancel failed hit rescheduled => exact rescheduled.atRest settled
  | finish rescheduled => exact rescheduled.atRest rest
  | settle settles => exact settled
  | fail failed unhit => exact State.atRest_iff.mpr ⟨rfl, unposted, rfl⟩
  | skip => exact State.atRest_iff.mpr ⟨stopped, rfl, quiet⟩
  | take | leave | proceed | reported => exact rest

theorem lastCycle_le (turn : Turn setup managerAlive state activity move next after events)
    (consistent : Consistent state activity) (retired : state.worker = .retired) :
    next.lastCycle ≤ state.lastCycle := by
  have rescheduled {other : State} {unposted : Option Fault}
      (slot : other.worker = .retired) (same : other.lastCycle = state.lastCycle)
      (ends : Rescheduled setup.config.channelId other next unposted) :
      next.lastCycle ≤ state.lastCycle := by
    rcases ends.of_retired slot with rfl | rfl
    · exact Nat.le_of_eq same
    · exact Nat.le_of_eq same
  cases turn with
  | skip | misconfigure => exact state.cycleSeq_le_lastCycle
  | begin running captured =>
      -- The counter rises as the flag falls, and only a cycle that was posted can be taken.
      have posted := consistent.posted_of_taken
      simp [State.lastCycle, posted]
  | drop hit ends | cancel failed hit ends =>
      have slot : state.settle.worker = .retired := retired
      exact rescheduled slot rfl ends
  | finish ends => exact rescheduled retired rfl ends
  | take | leave | proceed | settle | fail | reported => exact Nat.le_refl _

end Turn

namespace Advances

variable {chance : Chance} {state next : State} {call after : Call} {events : List Event}

theorem atRest (advances : Advances setup chance state call next after events)
    (retired : state.worker = .retired) (rest : state.atRest = true) : next.atRest = true := by
  obtain ⟨stopped, unposted, quiet⟩ := State.atRest_iff.mp rest
  cases advances with
  | start sections started =>
      rcases started.of_retired retired with ⟨_, rfl, _⟩ | ⟨unrested, _⟩
      · exact rest
      · rw [rest] at unrested
        cases unrested
  | stopPanicking | stopWaiting | stopPassing =>
      exact State.atRest_iff.mpr ⟨rfl, unposted, quiet⟩
  | _ => exact rest

theorem lastCycle (advances : Advances setup chance state call next after events)
    (retired : state.worker = .retired) : next.lastCycle = state.lastCycle := by
  cases advances with
  | start sections started =>
      rcases started.of_retired retired with ⟨_, rfl, _⟩ | ⟨_, rfl, _⟩
      · rfl
      · rfl
  | _ => rfl

end Advances

namespace Happening

variable {before after : World} {action : Action} {events : List Event}

theorem atRest (happening : Happening setup before action after events)
    (retired : before.state.worker = .retired) (rest : before.state.atRest = true) :
    after.state.atRest = true := by
  cases happening with
  | work free turn => exact turn.atRest rest
  | advance found advances => exact advances.atRest retired rest
  | _ => exact rest

theorem lastCycle_le (happening : Happening setup before action after events)
    (sound : before.Sound) (retired : before.state.worker = .retired) :
    after.state.lastCycle ≤ before.state.lastCycle := by
  cases happening with
  | work free turn => exact turn.lastCycle_le sound.consistent retired
  | advance found advances => exact Nat.le_of_eq (advances.lastCycle retired)
  | _ => exact Nat.le_refl _

end Happening

namespace Run

variable {start finish : World} {steps : List (Step setup)}

theorem retired (run : Run setup start steps finish) (retired : start.state.worker = .retired) :
    finish.state.worker = .retired :=
  run.keeps (fun world => world.state.worker = .retired) retired
    fun step _ before => step.happening.retired before

theorem atRest (run : Run setup start steps finish) (retired : start.state.worker = .retired)
    (rest : start.state.atRest = true) : finish.state.atRest = true := by
  have both : finish.state.worker = .retired ∧ finish.state.atRest = true := by
    refine run.keeps (fun world => world.state.worker = .retired ∧ world.state.atRest = true)
      ⟨retired, rest⟩ ?_
    rintro step _ ⟨retired, rest⟩
    exact ⟨step.happening.retired retired, step.happening.atRest retired rest⟩
  exact both.2

theorem lastCycle_le (run : Run setup start steps finish) (sound : start.Sound)
    (retired : start.state.worker = .retired) :
    finish.state.lastCycle ≤ start.state.lastCycle := by
  induction run with
  | nil world => exact Nat.le_refl _
  | cons step tail ih =>
      have later := ih (sound.happening step.happening) (step.happening.retired retired)
      exact Nat.le_trans later (step.happening.lastCycle_le sound retired)

/-- Without a worker, a cycle that has not begun is the one that has been posted. -/
theorem begins_posted (run : Run setup start steps finish) (sound : start.Sound)
    (retired : start.state.worker = .retired) {step : Step setup} (member : step ∈ steps)
    {capture : Capture} (acts : step.ActsFor capture)
    (newer : start.state.cycleSeq < capture.cycle) :
    start.state.taskPosted = true ∧ capture.cycle = start.state.cycleSeq + 1 := by
  obtain ⟨first, last, rfl⟩ := List.append_of_mem member
  obtain ⟨before, _⟩ := run.cut
  have known := before.sound sound
  have slot := before.retired retired
  -- No step without a worker raises the number of the last cycle, so that it bounds this one.
  have bounded := before.lastCycle_le sound retired
  have within : capture.cycle ≤ step.before.state.lastCycle := by
    rcases acts with ⟨_, within⟩ | begins
    · rw [known.consistent.current capture within]
      exact step.before.state.cycleSeq_le_lastCycle
    · rw [← begins.beginning.cycleSeq]
      exact Nat.le_trans step.after.state.cycleSeq_le_lastCycle
        (step.happening.lastCycle_le known slot)
  have last := Nat.le_trans within bounded
  unfold State.lastCycle at last
  split at last
  · rename_i posted
    exact ⟨posted, by omega⟩
  · omega

end Run

/-! ### Calls -/

namespace Advances

variable {chance : Chance} {state next : State} {call after : Call} {events : List Event}

theorem closed (advances : Advances setup chance state call next after events)
    (closed : state.queue.closed = true) : next.queue.closed = true := by
  cases advances with
  | start sections started => cases started <;> exact closed
  | dismiss sections => simp [JobQueue.post?, closed]
  | _ => exact closed

theorem bound_server (advances : Advances setup chance state call next after events)
    (bound : state.server ≠ none) : next.server ≠ none := by
  cases advances with
  | start sections started =>
      rw [started.server]
      exact bound
  | bind sections => nofun
  | _ => exact bound

end Advances

theorem Turn.closed {managerAlive : Bool} {state next : State} {activity after : Activity}
    {move : Move} {events : List Event}
    (turn : Turn setup managerAlive state activity move next after events)
    (closed : state.queue.closed = true) : next.queue.closed = true := by
  cases turn with
  | leave next => rfl
  | drop hit rescheduled | finish rescheduled | cancel failed hit rescheduled =>
      cases rescheduled <;> exact closed
  | _ => exact closed

namespace Happening

variable {before after : World} {action : Action} {events : List Event}

theorem closed (happening : Happening setup before action after events)
    (closed : before.state.queue.closed = true) : after.state.queue.closed = true := by
  cases happening with
  | work free turn => exact turn.closed closed
  | advance found advances => exact advances.closed closed
  | _ => exact closed

theorem bound_server (happening : Happening setup before action after events)
    (bound : before.state.server ≠ none) : after.state.server ≠ none := by
  cases happening with
  | work free turn =>
      rw [turn.server]
      exact bound
  | advance found advances => exact advances.bound_server bound
  | _ => exact bound

end Happening

/-! ### Retiring and joining the worker -/

structure World.Retires (world : World) : Prop where
  requires : world.Requires
  retires : ∀ (index : Nat) (call : Call), world.calls[index]? = some call →
    call.operation = .shutdown → call.Due .retire (world.state.worker = .retired)

namespace World.Retires

theorem new (multiplexer : Option Multiplexer) (demultiplexer : Option Demultiplexer)
    (managerAlive : Bool) : (World.new multiplexer demultiplexer managerAlive).Retires where
  requires := by
    intro index call impossible
    cases impossible
  retires := by
    intro index call impossible
    cases impossible

theorem happening {before after : World} {action : Action} {events : List Event}
    (retires : before.Retires) (happening : Happening setup before action after events) :
    after.Retires := by
  refine ⟨retires.requires.happening happening, ?_⟩
  intro index call found shutdown
  apply happening.due retires.requires found (fun world _ => world.state.worker = .retired)
  · rintro operation draw onWorker _ rfl
    rw [Call.make_operation] at shutdown
    subst shutdown
    exact List.mem_cons_of_mem _ (List.mem_singleton_self _)
  · intro earlier present same
    exact retires.retires index earlier present (same.trans shutdown)
  · intro wants
    rw [shutdown] at wants
    cases wants
  · exact happening.retired
  · rintro chance earlier advances (retired | ⟨rest, sections⟩)
    · exact happening.retired retired
    · exact (advances.shown sections).1

end World.Retires

theorem Run.retires {start finish : World} {steps : List (Step setup)}
    (run : Run setup start steps finish) (retires : start.Retires) : finish.Retires :=
  run.keeps World.Retires retires fun step _ before => before.happening step.happening

/-- A shutdown that is to join the worker does not return before the worker has left. -/
structure World.Joins (world : World) (index : Nat) : Prop where
  made : index < world.calls.length
  joins : ∀ call, world.calls[index]? = some call → call.operation = .shutdown →
    call.Due .join (world.state.queue.closed = true)

theorem World.Joins.happening {index : Nat} {before after : World} {action : Action}
    {events : List Event} (joins : before.Joins index) (requires : before.Requires)
    (happening : Happening setup before action after events) : after.Joins index := by
  refine ⟨Nat.lt_of_lt_of_le joins.made happening.length_le, ?_⟩
  intro call found shutdown
  apply happening.due requires found (fun world _ => world.state.queue.closed = true)
  · intro operation draw onWorker last
    exact absurd joins.made (last ▸ Nat.lt_irrefl index)
  · intro earlier present same
    exact joins.joins earlier present (same.trans shutdown)
  · intro wants
    rw [shutdown] at wants
    cases wants
  · exact happening.closed
  · rintro chance earlier advances (closed | ⟨rest, sections⟩)
    · exact happening.closed closed
    · exact happening.closed (advances.shown sections)

/-- The step retires the worker on behalf of a call that then joins it. -/
def Step.Dismisses (step : Step setup) (index : Nat) : Prop :=
  step.RunsFor index .retire ∧ step.before.state.worker = .running ∧
    ∀ call, step.before.calls[index]? = some call → call.onWorker = false

theorem Step.Dismisses.joins {step : Step setup} {index : Nat} (dismisses : step.Dismisses index)
    (joined : setup.config.joinWorkerOnDrop = true) : step.after.Joins index := by
  obtain ⟨runs, running, outside⟩ := dismisses
  obtain ⟨chance, call, next, found, ⟨rest, sections⟩, own, advances⟩ := runs.advances
  obtain ⟨bound, _⟩ := List.getElem?_eq_some_iff.mp own
  refine ⟨bound, ?_⟩
  intro other same _
  cases Option.some.inj (own.symm.trans same)
  left
  exact (advances.shown sections).2 running joined (outside call found)

theorem Run.joins {start finish : World} {steps : List (Step setup)} {index : Nat}
    (run : Run setup start steps finish) (requires : start.Requires) (joins : start.Joins index) :
    finish.Joins index := by
  have both : finish.Requires ∧ finish.Joins index := by
    refine run.keeps (fun world => world.Requires ∧ world.Joins index) ⟨requires, joins⟩ ?_
    rintro step _ ⟨requires, joins⟩
    exact ⟨requires.happening step.happening, joins.happening requires step.happening⟩
  exact both.2

/-! ### Starts that are refused -/

/-- An operation that would start a channel in the state, once it has stopped it. -/
inductive Operation.Starts (setup : Setup) (state : State) : Operation → Prop
  | start : Starts setup state .start
  | sync {type : TransportType} (bound : state.server ≠ none)
      (allowed : setup.config.supportedTypes.isSyncAllowed type = true) :
      Starts setup state (.sync type)
  | syncAll (bound : state.server ≠ none) : Starts setup state .syncAll
  | setServer {description : ServerDescription} {server : PollServer}
      (described : pollServer setup.config.channelId description = .ok server)
      (contributory :
        X25519.isContributory (X25519.agree setup.keys.agreement server.publicKey) = true) :
      Starts setup state (.setServer description)

theorem Session.exists_of_contributory {keys : ClientKeys} {serverKey : Key}
    (contributory : X25519.isContributory (X25519.agree keys.agreement serverKey) = true)
    (sessionKey : Key) (nonce : Nonce) :
    ∃ session, Session.make keys serverKey sessionKey nonce = .ok session := by
  have shared (secret clientPublic : Key) (contributes : X25519.isContributory secret = true) :
      ∃ wrapping, wrappingKey secret clientPublic serverKey = .ok wrapping :=
    ⟨_, if_pos contributes⟩
  obtain ⟨wrapping, derived⟩ := shared _ keys.agreementPublic contributory
  unfold Session.make
  rw [derived]
  exact ⟨_, rfl⟩

theorem Except.bind_eq_of_ok {ε α β : Type} {made : Except ε α} {value : α}
    (ok : made = .ok value) (next : α → Except ε β) : made >>= next = next value := by
  rw [ok]
  rfl

theorem Operation.Starts.start_mem {state : State} {draw : Draw} {operation : Operation}
    {onWorker : Bool} (starts : operation.Starts setup state) :
    .start ∈ (Call.make setup draw operation onWorker).sections := by
  have planned {sections : List Section} (ok : plan setup draw operation = .ok sections)
      (member : .start ∈ sections) :
      .start ∈ (Call.make setup draw operation onWorker).sections := by
    unfold Call.make
    rw [ok]
    exact member
  cases starts with
  | start => exact planned rfl (List.mem_singleton_self _)
  | syncAll bound => exact planned rfl (by simp [restart])
  | sync bound allowed =>
      refine planned (if_pos allowed) (by simp [restart])
  | @setServer description server described contributory =>
      obtain ⟨session, made⟩ :=
        Session.exists_of_contributory contributory draw.sessionKey draw.nonce
      have ok : plan setup draw (.setServer description) =
          .ok [.stop, .bind server session, .start] :=
        (Except.bind_eq_of_ok described _).trans (Except.bind_eq_of_ok made _)
      exact planned ok (by simp)

namespace Advances

variable {chance : Chance} {state next : State} {call after : Call} {events : List Event}

theorem refused (advances : Advances setup chance state call next after events)
    (retired : state.worker = .retired) (atRest : state.atRest = true)
    (kept : call.result = .error setup.unavailable ∨ ∃ rest, call.sections = .start :: rest) :
    after.result = .error setup.unavailable := by
  have start {rest : List Section} (sections : call.sections = .start :: rest) :
      after.result = .error setup.unavailable := by
    rcases (advances.of_start sections).of_retired retired with ⟨_, _, result⟩ | ⟨unrested, _⟩
    · exact result
    · rw [atRest] at unrested
      cases unrested
  rcases advances.result_or_start with same | ⟨rest, sections⟩
  · rcases kept with refused | ⟨rest, sections⟩
    · exact same.trans refused
    · exact start sections
  · exact start sections

end Advances

structure World.Shut (setup : Setup) (middle world : World) : Prop where
  retired : world.state.worker = .retired
  atRest : world.state.atRest = true
  requires : world.Requires
  bound : middle.state.server ≠ none → world.state.server ≠ none
  refused : ∀ (index : Nat) (call : Call), middle.calls.length ≤ index →
    world.calls[index]? = some call → call.operation.Starts setup middle.state →
      call.Due .start (call.result = .error setup.unavailable)

theorem World.Shut.start {middle : World} (retired : middle.state.worker = .retired)
    (atRest : middle.state.atRest = true) (requires : middle.Requires) :
    middle.Shut setup middle where
  retired := retired
  atRest := atRest
  requires := requires
  bound := id
  refused := by
    intro index call later found
    obtain ⟨bound, _⟩ := List.getElem?_eq_some_iff.mp found
    omega

theorem World.Shut.happening {middle before after : World} {action : Action} {events : List Event}
    (shut : middle.Shut setup before) (happening : Happening setup before action after events) :
    middle.Shut setup after where
  retired := happening.retired shut.retired
  atRest := happening.atRest shut.retired shut.atRest
  requires := shut.requires.happening happening
  bound := fun bound => happening.bound_server (shut.bound bound)
  refused := by
    intro index call later found starts
    apply happening.due shut.requires found
      (fun _ call => call.result = .error setup.unavailable)
    · rintro operation draw onWorker _ rfl
      rw [Call.make_operation] at starts
      exact starts.start_mem
    · intro earlier present same
      exact shut.refused index earlier later present (same ▸ starts)
    · -- The server that the channel is bound to is never taken away.
      intro wants
      apply shut.bound
      generalize call.operation = operation at starts wants
      cases starts with
      | sync bound | syncAll bound => exact bound
      | start | setServer => cases wants
    · exact id
    · intro chance earlier advances kept
      exact advances.refused shut.retired shut.atRest kept

namespace Run

variable {start middle finish : World} {steps earlier later : List (Step setup)}
  {multiplexer : Option Multiplexer} {demultiplexer : Option Demultiplexer} {managerAlive : Bool}

theorem shut (run : Run setup middle later finish) (shut : middle.Shut setup middle) :
    middle.Shut setup finish :=
  run.keeps (middle.Shut setup) shut fun step _ before => before.happening step.happening

theorem atRest_of_quiet
    (run : Run setup (.new multiplexer demultiplexer managerAlive) steps finish)
    (quiet : finish.activity = .idle ∨ finish.activity = .gone)
    (nothing : finish.pendingPolls = 0) : finish.state.atRest = true := by
  have consistent := (run.sound (.new multiplexer demultiplexer managerAlive)).consistent
  have unposted : finish.state.taskPosted = false := by
    have pending : finish.pendingPolls = if finish.state.taskPosted then 1 else 0 :=
      consistent.pending
    rw [nothing] at pending
    cases posted : finish.state.taskPosted with
    | false => rfl
    | true =>
        rw [posted] at pending
        cases pending
  have settled : finish.state.inProgress = false := by
    rw [consistent.position]
    rcases quiet with idle | gone
    · rw [idle]
      rfl
    · rw [gone]
      rfl
  refine State.atRest_iff.mpr ⟨?_, unposted, settled⟩
  cases running : finish.state.stopped with
  | true => rfl
  | false =>
      rcases run.awake_of_new running with posted | unfinished
      · rw [unposted] at posted
        cases posted
      · rcases quiet with idle | gone
        · rw [idle] at unfinished
          cases unfinished
        · rw [gone] at unfinished
          cases unfinished

theorem atRest_of_joined
    (run : Run setup (.new multiplexer demultiplexer managerAlive) steps finish)
    (joined : setup.config.joinWorkerOnDrop = true) {index : Nat} {call : Call}
    (found : finish.calls[index]? = some call) (shutdown : call.operation = .shutdown)
    (returned : call.hasReturned = true) {step : Step setup} (member : step ∈ steps)
    (dismisses : step.Dismisses index) :
    finish.activity = .gone ∧ finish.state.atRest = true := by
  obtain ⟨first, last, rfl⟩ := List.append_of_mem member
  obtain ⟨before, after⟩ := run.cut
  have requires : step.before.Requires :=
    (before.retires (.new multiplexer demultiplexer managerAlive)).requires
  have joins := after.joins (requires.happening step.happening) (dismisses.joins joined)
  have closed := (joins.joins call found shutdown).of_returned returned
  have orderly := run.orderly_of_new
  have gone := orderly.closed closed
  refine ⟨gone, run.atRest_of_quiet (.inr gone) ?_⟩
  unfold World.pendingPolls
  rw [List.count_eq_zero.mpr (orderly.gone gone), gone]
  rfl

theorem start_of_retired (run : Run setup middle later finish)
    (retired : middle.state.worker = .retired) {step : Step setup} (member : step ∈ later)
    {index : Nat} (starts : step.RunsFor index .start) :
    ∃ call, step.after.calls[index]? = some call ∧
      (step.before.state.atRest = true ∧ step.after.state.stopped = true ∧
          call.result = .error setup.unavailable ∨
        step.before.state.atRest = false ∧ step.after.state.stopped = false ∧
          call.result = .ok ()) := by
  obtain ⟨first, last, rfl⟩ := List.append_of_mem member
  have slot := run.cut.1.retired retired
  obtain ⟨chance, call, next, _, ⟨rest, sections⟩, own, advances⟩ := starts.advances
  refine ⟨next, own, ?_⟩
  rcases (advances.of_start sections).of_retired slot with ⟨rests, same, result⟩ |
    ⟨unrested, same, result⟩
  · rw [same]
    exact .inl ⟨rests, (State.atRest_iff.mp rests).1, result⟩
  · rw [same]
    exact .inr ⟨unrested, rfl, result⟩

/-- From the moment at which a shutdown has returned, the only cycle that can still begin is one
that had been posted by then, and a start is refused if the channel is at rest and runs it again if
it is not. A channel at rest is shut down for good: no cycle begins, and every call that would start
it finds no worker. It is at rest if the shutdown has joined the worker, and whenever the worker has
nothing left to do; without the join, or on the thread of the worker, a shutdown may return
before. -/
theorem shutdown_outcome {index : Nat} {call : Call}
    (before : Run setup (.new multiplexer demultiplexer managerAlive) earlier middle)
    (after : Run setup middle later finish) (found : middle.calls[index]? = some call)
    (shutdown : call.operation = .shutdown) (returned : call.hasReturned = true) :
    (∀ step ∈ later, ∀ capture, step.ActsFor capture → middle.state.cycleSeq < capture.cycle →
      middle.state.taskPosted = true ∧ capture.cycle = middle.state.cycleSeq + 1) ∧
    (∀ step ∈ later, ∀ index, step.RunsFor index .start →
      ∃ call, step.after.calls[index]? = some call ∧
        (step.before.state.atRest = true ∧ step.after.state.stopped = true ∧
            call.result = .error setup.unavailable ∨
          step.before.state.atRest = false ∧ step.after.state.stopped = false ∧
            call.result = .ok ())) ∧
    (middle.state.atRest = true →
      finish.state.atRest = true ∧ (∀ step ∈ later, ∀ capture, ¬ step.Begins capture) ∧
      ∀ (index : Nat) (call : Call), middle.calls.length ≤ index →
        finish.calls[index]? = some call → call.operation.Starts setup middle.state →
        call.hasReturned = true → call.result = .error setup.unavailable) ∧
    (setup.config.joinWorkerOnDrop = true → (∃ step ∈ earlier, step.Dismisses index) →
      middle.activity = .gone ∧ middle.state.atRest = true) ∧
    (middle.activity = .idle ∨ middle.activity = .gone → middle.pendingPolls = 0 →
      middle.state.atRest = true) := by
  have known := before.retires (.new multiplexer demultiplexer managerAlive)
  have retired : middle.state.worker = .retired :=
    (known.retires index call found shutdown).of_returned returned
  have sound := before.sound (.new multiplexer demultiplexer managerAlive)
  refine ⟨?_, ?_, ?_, ?_, before.atRest_of_quiet⟩
  · intro step member capture acts newer
    exact after.begins_posted sound retired member acts newer
  · intro step member index starts
    exact after.start_of_retired retired member starts
  · intro atRest
    have shut := after.shut (.start retired atRest known.requires)
    refine ⟨shut.atRest, ?_, ?_⟩
    · intro step member capture begins
      obtain ⟨first, last, rfl⟩ := List.append_of_mem member
      have still := after.cut.1.atRest retired atRest
      rw [State.atRest, begins.beginning.running] at still
      cases still
    · intro index call later found starts returned
      exact (shut.refused index call later found starts).of_returned returned
  · rintro joined ⟨step, member, dismisses⟩
    exact before.atRest_of_joined joined found shutdown returned member dismisses

end Run

/-! ### A shutdown with and without a join -/

namespace Trial

/-- A channel is bound and shut down while its first cycle is posted. -/
def shutdown : List Action :=
  bind 0 1 ++ [.invoke .shutdown draw false, .advance 1, .advance 1, .advance 1]

def startAgain : List Action := [.invoke .start draw false, .advance 2]

/-- A client that does not wait for its worker. -/
def detached : Setup := { client with config := { Config.testing with joinWorkerOnDrop := false } }

/-- Whether the first list of actions ends with the shutdown over and the second with the start
over, and whether something else holds of the runs. -/
def afterShutdown (setup : Setup) (first second : List Action)
    (holds : List (Step setup) → World → List (Step setup) → World → Bool) : Bool :=
  (channel.record? setup first).any fun (earlier, middle) =>
    (middle.record? setup second).any fun (later, finish) =>
      middle.calls[1]?.any (fun call => call.operation = .shutdown && call.hasReturned) &&
        middle.calls.length = 2 &&
        finish.calls[2]?.any (fun call => call.operation = .start && call.hasReturned) &&
        holds earlier middle later finish

theorem of_afterShutdown {first second : List Action}
    {holds : List (Step setup) → World → List (Step setup) → World → Bool}
    (shown : afterShutdown setup first second holds = true) :
    ∃ earlier middle later finish call other, Run setup channel earlier middle ∧
      Run setup middle later finish ∧ middle.calls[1]? = some call ∧
      call.operation = .shutdown ∧ call.hasReturned = true ∧ middle.calls.length = 2 ∧
      finish.calls[2]? = some other ∧ other.operation = .start ∧ other.hasReturned = true ∧
      holds earlier middle later finish = true := by
  obtain ⟨⟨earlier, middle⟩, before, rest⟩ := (Option.any_eq_true _ _).mp shown
  obtain ⟨⟨later, finish⟩, after, checked⟩ := (Option.any_eq_true _ _).mp rest
  simp only [Bool.and_eq_true, decide_eq_true_eq] at checked
  obtain ⟨⟨⟨down, two⟩, again⟩, holds⟩ := checked
  obtain ⟨call, found, made⟩ := (Option.any_eq_true _ _).mp down
  obtain ⟨other, last, started⟩ := (Option.any_eq_true _ _).mp again
  simp only [Bool.and_eq_true, decide_eq_true_eq] at made started
  exact ⟨earlier, middle, later, finish, call, other, .of_record before, .of_record after, found,
    made.1, made.2, two, last, started.1, started.2, holds⟩

end Trial

namespace Run

/-- A shutdown that has joined the worker is final. -/
theorem shutdown_outcome_joined : ∃ earlier middle later finish call other,
    Run Trial.client Trial.channel earlier middle ∧ Run Trial.client middle later finish ∧
    middle.calls[1]? = some call ∧ call.operation = .shutdown ∧ call.hasReturned = true ∧
    middle.activity = .gone ∧ middle.state.atRest = true ∧ finish.calls[2]? = some other ∧
    other.operation = .start ∧ other.result = .error Trial.client.unavailable := by
  have seen : Trial.afterShutdown Trial.client
      (Trial.shutdown ++ Trial.begin ++ [.work .take, .advance 1]) Trial.startAgain
      (fun earlier _ _ _ => earlier.any fun step => step.runsFor 1 .retire &&
        step.before.state.worker = .running &&
        step.before.calls[1]?.all fun call => !call.onWorker) = true := by
    decide +kernel
  obtain ⟨earlier, middle, later, finish, call, other, before, after, found, down, returned, two,
    last, starts, done, holds⟩ := Trial.of_afterShutdown seen
  obtain ⟨step, member, retires⟩ := List.any_eq_true.mp holds
  simp only [Bool.and_eq_true, decide_eq_true_eq] at retires
  obtain ⟨⟨runs, running⟩, outside⟩ := retires
  have dismisses : step.Dismisses 1 := by
    refine ⟨Step.of_runsFor runs, running, ?_⟩
    intro call found
    rw [found] at outside
    simpa using outside
  obtain ⟨_, _, final, joins, _⟩ := shutdown_outcome before after found down returned
  obtain ⟨gone, atRest⟩ := joins rfl ⟨step, member, dismisses⟩
  have refused := (final atRest).2.2 2 other (Nat.le_of_eq two) last
    (by rw [starts]; exact .start) done
  exact ⟨earlier, middle, later, finish, call, other, before, after, found, down, returned, gone,
    atRest, last, starts, refused⟩

/-- A shutdown that leaves a posted cycle behind is not final: a start runs the channel again, and
the cycle begins. -/
theorem revived_after_shutdown : ∃ earlier middle later finish call other,
    Run Trial.detached Trial.channel earlier middle ∧ Run Trial.detached middle later finish ∧
    middle.calls[1]? = some call ∧ call.operation = .shutdown ∧ call.hasReturned = true ∧
    middle.calls.length = 2 ∧ finish.calls[2]? = some other ∧ other.operation = .start ∧
    other.hasReturned = true ∧ other.result = .ok () ∧ finish.state.stopped = false ∧
    ∃ step ∈ later, ∃ capture, step.Begins capture := by
  have seen : Trial.afterShutdown Trial.detached Trial.shutdown
      (Trial.startAgain ++ Trial.begin) (fun _ _ later finish =>
        finish.calls[2]?.all (fun call => call.result.isOk) && !finish.state.stopped &&
          later.any fun step => step.events.any fun event =>
            event.compiledServer?.isSome) = true := by
    decide +kernel
  obtain ⟨earlier, middle, later, finish, call, other, before, after, found, down, returned, two,
    last, starts, done, holds⟩ := Trial.of_afterShutdown seen
  simp only [Bool.and_eq_true, Bool.not_eq_true'] at holds
  obtain ⟨⟨result, running⟩, compiles⟩ := holds
  obtain ⟨step, member, events⟩ := List.any_eq_true.mp compiles
  obtain ⟨event, among, asked⟩ := List.any_eq_true.mp events
  have ok : other.result = .ok () := by
    rw [last] at result
    cases ended : other.result with
    | ok value => rfl
    | error fault =>
        rw [Option.all_some, ended] at result
        cases result
  refine ⟨earlier, middle, later, finish, call, other, before, after, found, down, returned, two,
    last, starts, done, ok, running, step, member, ?_⟩
  cases event with
  | compile capture =>
      cases (step.arises among rfl).2 with
      | compile taken compiling => exact ⟨_, taken, compiling⟩
  | _ => cases asked

end Run

end LongPoll.Channel
