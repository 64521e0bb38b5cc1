import LongPoll.Proofs.Run
import LongPoll.Proofs.Section

set_option autoImplicit false

/-!
Everything that an action can do to a channel, listed once with what it requires. A step of the
worker is a turn, a section of a call an advance; the theorems at the end say that every action that
happens is one of these. Invariants and properties of runs are proved by cases on the lists.
-/

namespace LongPoll.Channel

variable {setup : Setup}

namespace Activity

/-- The cycle that the worker is in, with what it captured. -/
def capture? : Activity → Option Capture
  | compiling capture | built capture _ | cleared capture _ | sending capture _
  | answered capture _ | processing capture | delivered capture | failing capture _
  | undelivered capture _ | reporting capture => some capture
  | idle | taken | gone => none

/-- The cycle whose exchange is not over: it has begun and nothing has cleared the flag since. -/
def exchanging? : Activity → Option Capture
  | compiling capture | built capture _ | cleared capture _ | sending capture _
  | answered capture _ | failing capture _ => some capture
  | _ => none

/-- The cycle whose exchange is over and that may still fail to deliver the response. -/
def delivering? : Activity → Option Capture
  | processing capture | undelivered capture _ => some capture
  | _ => none

/-- The cycle that has failed and is not classified, with its fault. -/
def failure? : Activity → Option (Capture × Fault)
  | failing capture fault | undelivered capture fault => some (capture, fault)
  | _ => none

variable {activity : Activity} {capture : Capture}

theorem capture?_of_exchanging? (exchanging : activity.exchanging? = some capture) :
    activity.capture? = some capture := by
  cases activity <;> first | exact exchanging | cases exchanging

theorem exchanging?_of_delivering? (delivering : activity.delivering? = some capture) :
    activity.exchanging? = none := by
  cases activity <;> first | rfl | cases delivering

theorem of_failure? {fault : Fault} (failed : activity.failure? = some (capture, fault)) :
    activity = .failing capture fault ∨ activity = .undelivered capture fault := by
  cases activity <;> cases failed
  · exact .inl rfl
  · exact .inr rfl

end Activity

/-! ### Turns of the worker -/

/-- The turns within a cycle that leave the state as it is. -/
inductive Proceeds (state : State) : Activity → Move → Activity → List Event → Prop
  | compiled {capture : Capture} {outcome : Outcome Bytes} {sealing : Outcome Nonce} {body : Bytes}
      {nonce : Nonce} (built : outcome.result = .ok body) (sealed : sealing.result = .ok nonce) :
      Proceeds state (.compiling capture) (.compiled outcome sealing)
        (.built capture (capture.session.request capture.server.url nonce body)) []
  | uncompiled {capture : Capture} {outcome : Outcome Bytes} {sealing : Outcome Nonce}
      {fault : Fault} (failed : outcome.result = .error fault ∨
        ∃ body, outcome.result = .ok body ∧ sealing.result = .error fault) :
      Proceeds state (.compiling capture) (.compiled outcome sealing) (.failing capture fault) []
  | clear {capture : Capture} {request : FormPost} (unhit : state.interrupted capture = false) :
      Proceeds state (.built capture request) .check (.cleared capture request) []
  | send {capture : Capture} {request : FormPost} :
      Proceeds state (.cleared capture request) .send (.sending capture request)
        [.send capture request]
  | answered {capture : Capture} {request : FormPost} {outcome : Outcome Response}
      {response : Response} (returned : outcome.result = .ok response) :
      Proceeds state (.sending capture request) (.answered outcome) (.answered capture response) []
  | unanswered {capture : Capture} {request : FormPost} {outcome : Outcome Response}
      {fault : Fault} (failed : outcome.result = .error fault) :
      Proceeds state (.sending capture request) (.answered outcome) (.failing capture fault) []
  | processed {capture : Capture} {outcome : Outcome Unit} (returned : outcome.result = .ok ()) :
      Proceeds state (.processing capture) (.processed outcome) (.delivered capture) []
  | unprocessed {capture : Capture} {outcome : Outcome Unit} {fault : Fault}
      (failed : outcome.result = .error fault) :
      Proceeds state (.processing capture) (.processed outcome) (.undelivered capture fault) []

/-- What becomes of a response once its exchange is over. -/
inductive Settles (capture : Capture) (response : Response) : Activity → List Event → Prop
  | unreadable {fault : Fault} (received : capture.session.receive response = .error fault) :
      Settles capture response (.undelivered capture fault) []
  | empty (received : capture.session.receive response = .ok []) :
      Settles capture response (.delivered capture) [.notice .emptyPoll]
  | payload {payload : Bytes} (received : capture.session.receive response = .ok payload)
      (something : payload ≠ []) :
      Settles capture response (.processing capture) [.process capture payload]

/-- What the worker does by one move. -/
inductive Turn (setup : Setup) (managerAlive : Bool) :
    State → Activity → Move → State → Activity → List Event → Prop
  | take {state : State} {jobs : List Job} (next : state.queue.jobs = .poll :: jobs) :
      Turn setup managerAlive state .idle .take
        { state with queue := { state.queue with jobs } } .taken []
  | leave {state : State} {jobs : List Job} (next : state.queue.jobs = .exit :: jobs) :
      Turn setup managerAlive state .idle .take
        { state with queue := { jobs, closed := true } } .gone []
  | skip {state : State} (stopped : state.stopped = true) :
      Turn setup managerAlive state .taken .begin { state with taskPosted := false } .idle []
  | misconfigure {state : State} {fault : Fault} (running : state.stopped = false)
      (missing : state.capture setup.config.channelId = .error fault) :
      Turn setup managerAlive state .taken .begin
        { state with taskPosted := false, stopped := true } .idle [.notice (.cannotBegin fault)]
  | begin {state : State} {capture : Capture} (running : state.stopped = false)
      (captured : state.capture setup.config.channelId = .ok capture) :
      Turn setup managerAlive state .taken .begin
        { state with taskPosted := false, inProgress := true, cycleSeq := state.cycleSeq + 1 }
        (.compiling capture) [.compile capture]
  | proceed {state : State} {activity next : Activity} {move : Move} {events : List Event}
      (proceeds : Proceeds state activity move next events) :
      Turn setup managerAlive state activity move state next events
  | settle {state : State} {capture : Capture} {response : Response} {next : Activity}
      {events : List Event} (settles : Settles capture response next events) :
      Turn setup managerAlive state (.answered capture response) .settle state.settle next events
  | drop {state next : State} {capture : Capture} {request : FormPost} {unposted : Option Fault}
      (hit : state.interrupted capture = true)
      (rescheduled : Rescheduled setup.config.channelId state.settle next unposted) :
      Turn setup managerAlive state (.built capture request) .check next .idle
        (.notice .requestDropped :: rescheduleNotices unposted)
  | finish {state next : State} {capture : Capture} {unposted : Option Fault}
      (rescheduled : Rescheduled setup.config.channelId state next unposted) :
      Turn setup managerAlive state (.delivered capture) .finish next .idle
        (rescheduleNotices unposted)
  | cancel {state next : State} {activity : Activity} {capture : Capture} {fault : Fault}
      {unposted : Option Fault} (failed : activity.failure? = some (capture, fault))
      (hit : state.interrupted capture = true)
      (rescheduled : Rescheduled setup.config.channelId state.settle next unposted) :
      Turn setup managerAlive state activity .fail next .idle
        (.notice (.connectionAborted fault) :: rescheduleNotices unposted)
  | fail {state : State} {activity : Activity} {capture : Capture} {fault : Fault}
      (failed : activity.failure? = some (capture, fault))
      (unhit : state.interrupted capture = false) :
      Turn setup managerAlive state activity .fail { state.settle with stopped := true }
        (if managerAlive then .reporting capture else .idle)
        (.notice (.connectionFailed capture.server fault) ::
          if managerAlive then [.serverFailed capture] else [.notice .noManager])
  | reported {state : State} {capture : Capture} {panicked : Bool} :
      Turn setup managerAlive state (.reporting capture) (.reported panicked) state .idle
        (if panicked then [.notice .managerPanicked] else [])

theorem takeJob?_turn {managerAlive : Bool} {state : State} {progress : Progress}
    (taken : takeJob? state = some progress) :
    Turn setup managerAlive state .idle .take progress.state progress.activity
      progress.events := by
  unfold takeJob? at taken
  split at taken
  · cases taken
  · rename_i jobs next
    cases taken
    exact .take next
  · rename_i jobs next
    cases taken
    exact .leave next

theorem beginCycle_turn (managerAlive : Bool) (state : State) :
    Turn setup managerAlive state .taken .begin
      (beginCycle setup.config.channelId state).state
      (beginCycle setup.config.channelId state).activity
      (beginCycle setup.config.channelId state).events := by
  unfold beginCycle
  cases stopped : state.stopped with
  | true =>
      rw [State.begin_of_stopped setup.config.channelId stopped]
      exact .skip stopped
  | false =>
      cases captured : state.capture setup.config.channelId with
      | ok capture =>
          rw [State.begin_of_captured stopped captured]
          exact .begin stopped captured
      | error fault =>
          rw [State.begin_of_missing stopped captured]
          exact .misconfigure stopped captured

theorem checkStops_turn (managerAlive : Bool) (state : State) (capture : Capture)
    (request : FormPost) :
    Turn setup managerAlive state (.built capture request) .check
      (checkStops setup.config.channelId state capture request).state
      (checkStops setup.config.channelId state capture request).activity
      (checkStops setup.config.channelId state capture request).events := by
  unfold checkStops
  split
  · rename_i hit
    exact .drop hit (state.settle.rescheduled setup.config.channelId)
  · rename_i unhit
    exact .proceed (.clear (Bool.not_eq_true _ ▸ unhit))

theorem settleExchange_turn (managerAlive : Bool) (state : State) (capture : Capture)
    (response : Response) :
    Turn setup managerAlive state (.answered capture response) .settle
      (settleExchange state capture response).state
      (settleExchange state capture response).activity
      (settleExchange state capture response).events := by
  unfold settleExchange
  split
  · rename_i fault received
    exact .settle (.unreadable received)
  · rename_i received
    exact .settle (.empty received)
  · rename_i payload something received
    exact .settle (.payload received something)

theorem failCycle_turn (managerAlive : Bool) (state : State) {activity : Activity}
    {capture : Capture} {fault : Fault} (failed : activity.failure? = some (capture, fault)) :
    Turn setup managerAlive state activity .fail
      (failCycle setup.config.channelId managerAlive state capture fault).state
      (failCycle setup.config.channelId managerAlive state capture fault).activity
      (failCycle setup.config.channelId managerAlive state capture fault).events := by
  unfold failCycle
  split
  · rename_i hit
    exact .cancel failed hit (state.settle.rescheduled setup.config.channelId)
  · rename_i unhit
    have kept : state.interrupted capture = false := Bool.not_eq_true _ ▸ unhit
    cases managerAlive with
    | true => exact .fail failed kept
    | false => exact .fail failed kept

theorem turn_of_work? {managerAlive : Bool} {state : State} {activity : Activity} {move : Move}
    {progress : Progress} (works : work? setup managerAlive state activity move = some progress) :
    Turn setup managerAlive state activity move progress.state progress.activity
      progress.events := by
  unfold work? at works
  split at works
  · exact takeJob?_turn works
  · cases works
    exact beginCycle_turn managerAlive state
  · split at works
    · rename_i body nonce built sealed
      cases works
      exact .proceed (.compiled built sealed)
    · rename_i body fault built failed
      cases works
      exact .proceed (.uncompiled (.inr ⟨body, built, failed⟩))
    · rename_i fault failed
      cases works
      exact .proceed (.uncompiled (.inl failed))
  · cases works
    exact checkStops_turn managerAlive state _ _
  · cases works
    exact .proceed .send
  · split at works
    · rename_i response returned
      cases works
      exact .proceed (.answered returned)
    · rename_i fault failed
      cases works
      exact .proceed (.unanswered failed)
  · cases works
    exact settleExchange_turn managerAlive state _ _
  · split at works
    · rename_i returned
      cases works
      exact .proceed (.processed returned)
    · rename_i fault failed
      cases works
      exact .proceed (.unprocessed failed)
  · cases works
    exact .finish (state.rescheduled setup.config.channelId)
  · cases works
    exact failCycle_turn managerAlive state rfl
  · cases works
    exact failCycle_turn managerAlive state rfl
  · cases works
    exact .reported
  · cases works

namespace Turn

variable {managerAlive : Bool} {state next : State} {activity after : Activity} {move : Move}
  {events : List Event}

theorem worker (turn : Turn setup managerAlive state activity move next after events) :
    next.worker = state.worker := by
  cases turn with
  | drop hit rescheduled => exact rescheduled.worker
  | finish rescheduled => exact rescheduled.worker
  | cancel failed hit rescheduled => exact rescheduled.worker
  | _ => rfl

theorem abortRequests (turn : Turn setup managerAlive state activity move next after events) :
    next.abortRequests = state.abortRequests := by
  cases turn with
  | drop hit rescheduled => exact rescheduled.abortRequests
  | finish rescheduled => exact rescheduled.abortRequests
  | cancel failed hit rescheduled => exact rescheduled.abortRequests
  | _ => rfl

theorem server (turn : Turn setup managerAlive state activity move next after events) :
    next.server = state.server := by
  cases turn with
  | drop hit rescheduled => exact rescheduled.server
  | finish rescheduled => exact rescheduled.server
  | cancel failed hit rescheduled => exact rescheduled.server
  | _ => rfl

theorem cycleSeq_le (turn : Turn setup managerAlive state activity move next after events) :
    state.cycleSeq ≤ next.cycleSeq := by
  cases turn with
  | begin running captured => exact Nat.le_succ _
  | drop hit rescheduled => exact Nat.le_of_eq rescheduled.cycleSeq.symm
  | finish rescheduled => exact Nat.le_of_eq rescheduled.cycleSeq.symm
  | cancel failed hit rescheduled => exact Nat.le_of_eq rescheduled.cycleSeq.symm
  | _ => exact Nat.le_refl _

end Turn

/-! ### Sections of calls -/

/-- The sections that each operation is planned with. -/
inductive Planned (setup : Setup) (draw : Draw) : Operation → List Section → Prop
  | start : Planned setup draw .start [.start]
  | stop : Planned setup draw .stop [.stop]
  | sync {type : TransportType}
      (allowed : setup.config.supportedTypes.isSyncAllowed type = true) :
      Planned setup draw (.sync type) restart
  | syncAll : Planned setup draw .syncAll restart
  | setServer {description : ServerDescription} {server : PollServer} {session : Session}
      (found : pollServer setup.config.channelId description = .ok server)
      (derived : Session.make setup.keys server.publicKey draw.sessionKey draw.nonce =
        .ok session) :
      Planned setup draw (.setServer description) [.stop, .bind server session, .start]
  | setMultiplexer {multiplexer : Multiplexer} :
      Planned setup draw (.setMultiplexer multiplexer) [.setMultiplexer multiplexer]
  | setDemultiplexer {demultiplexer : Demultiplexer} :
      Planned setup draw (.setDemultiplexer demultiplexer) [.setDemultiplexer demultiplexer]
  | shutdown : Planned setup draw .shutdown [.stop, .retire]

theorem Except.exists_of_bind_eq_ok {ε α β : Type} {made : Except ε α} {next : α → Except ε β}
    {value : β} (bound : made >>= next = .ok value) :
    ∃ middle, made = .ok middle ∧ next middle = .ok value := by
  cases made with
  | error fault => cases bound
  | ok middle => exact ⟨middle, rfl, bound⟩

theorem Except.eq_ok_of_isOk {ε : Type} {result : Except ε Unit} (ok : result.isOk = true) :
    result = .ok () := by
  cases result with
  | error fault => cases ok
  | ok value => rfl

theorem planned_of_plan {draw : Draw} {operation : Operation} {sections : List Section}
    (planned : plan setup draw operation = .ok sections) :
    Planned setup draw operation sections := by
  cases operation with
  | start =>
      cases planned
      exact .start
  | stop =>
      cases planned
      exact .stop
  | sync type =>
      simp only [plan] at planned
      split at planned
      · rename_i allowed
        cases planned
        exact .sync allowed
      · cases planned
  | syncAll =>
      cases planned
      exact .syncAll
  | setServer description =>
      obtain ⟨server, found, followed⟩ := Except.exists_of_bind_eq_ok planned
      obtain ⟨session, derived, ended⟩ := Except.exists_of_bind_eq_ok followed
      cases ended
      exact .setServer found derived
  | setMultiplexer multiplexer =>
      cases planned
      exact .setMultiplexer
  | setDemultiplexer demultiplexer =>
      cases planned
      exact .setDemultiplexer
  | shutdown =>
      cases planned
      exact .shutdown

/-- A call that has a section ahead of it when it is made is planned. -/
theorem Call.make_planned {draw : Draw} {operation : Operation} {onWorker : Bool} {left : Section}
    (ahead : left ∈ (Call.make setup draw operation onWorker).sections) :
    ∃ sections, Call.make setup draw operation onWorker = { operation, onWorker, sections } ∧
      Planned setup draw operation sections := by
  unfold Call.make at ahead ⊢
  split at ahead
  · rename_i sections planned
    exact ⟨sections, rfl, planned_of_plan planned⟩
  · cases ahead

/-- What a call does by its next section. -/
inductive Advances (setup : Setup) (chance : Chance) (state : State) (call : Call) :
    State → Call → List Event → Prop
  | start {rest : List Section} {next : State} {result : Except Fault Unit}
      (sections : call.sections = .start :: rest)
      (started : Started setup.config.channelId chance.spawnFault state next result) :
      Advances setup chance state call next { call with sections := rest, result }
        (if state.worker = .unstarted ∧ chance.spawnFault = none then [.spawned] else [])
  | stopPanicking {rest : List Section} (sections : call.sections = .stop :: rest)
      (aborts : state.stopAborts = true) (panics : chance.closePanics = true) :
      Advances setup chance state call state.stop call.panic [.close state.cycleSeq false]
  | stopWaiting {rest : List Section} (sections : call.sections = .stop :: rest)
      (busy : state.inProgress = true)
      (outside : call.onWorker = true → state.worker ≠ .running) :
      Advances setup chance state call state.stop
        { call with sections := .await state.cycleSeq :: rest }
        (if state.stopAborts then [.close state.cycleSeq false] else [])
  | stopPassing {rest : List Section} (sections : call.sections = .stop :: rest)
      (free : state.inProgress = false ∨ call.onWorker = true ∧ state.worker = .running) :
      Advances setup chance state call state.stop { call with sections := rest }
        (if state.stopAborts then [.close state.cycleSeq false] else [])
  | await {cycle : Nat} {rest : List Section} (sections : call.sections = .await cycle :: rest)
      (settled : state.awaits cycle = false) :
      Advances setup chance state call state { call with sections := rest } []
  | noServer {rest : List Section} (sections : call.sections = .requireServer :: rest)
      (unbound : state.server = none) :
      Advances setup chance state call state { call with sections := [] }
        [.notice .noServerToSync]
  | serverFound {rest : List Section} {server : PollServer}
      (sections : call.sections = .requireServer :: rest) (bound : state.server = some server) :
      Advances setup chance state call state { call with sections := rest } []
  | bind {server : PollServer} {session : Session} {rest : List Section}
      (sections : call.sections = .bind server session :: rest) :
      Advances setup chance state call (state.bind server session) { call with sections := rest } []
  | setMultiplexer {multiplexer : Multiplexer} {rest : List Section}
      (sections : call.sections = .setMultiplexer multiplexer :: rest) :
      Advances setup chance state call { state with multiplexer := some multiplexer }
        { call with sections := rest } []
  | setDemultiplexer {demultiplexer : Demultiplexer} {rest : List Section}
      (sections : call.sections = .setDemultiplexer demultiplexer :: rest) :
      Advances setup chance state call { state with demultiplexer := some demultiplexer }
        { call with sections := rest } []
  | retire {rest leaving : List Section} (sections : call.sections = .retire :: rest)
      (leaves : ∀ left ∈ leaving, left = .dismiss ∨ left = .join)
      (joins : state.worker = .running → setup.config.joinWorkerOnDrop = true →
        call.onWorker = false → .join ∈ leaving) :
      Advances setup chance state call { state with worker := .retired }
        { call with sections := leaving ++ rest } []
  | dismiss {rest : List Section} (sections : call.sections = .dismiss :: rest) :
      Advances setup chance state call
        { state with queue := (state.queue.post? .exit).getD state.queue }
        { call with sections := rest } []
  | join {rest : List Section} (sections : call.sections = .join :: rest)
      (left : state.queue.closed = true) :
      Advances setup chance state call state { call with sections := rest } []

theorem stop_advances {state : State} {call : Call} {rest : List Section}
    (sections : call.sections = .stop :: rest) (chance : Chance) :
    Advances setup chance state call state.stop
      (if state.stopAborts && chance.closePanics then call.panic
        else { call with
          sections :=
            if state.stop.inProgress && !(call.onWorker && state.stop.worker = .running) then
              .await state.stop.cycleSeq :: rest
            else rest })
      (if state.stopAborts then [.close state.cycleSeq false] else []) := by
  by_cases panicking : (state.stopAborts && chance.closePanics) = true
  · obtain ⟨aborts, panics⟩ := Bool.and_eq_true_iff.mp panicking
    rw [if_pos panicking, if_pos aborts]
    exact .stopPanicking sections aborts panics
  · rw [if_neg panicking]
    split
    · rename_i waits
      obtain ⟨busy, outside⟩ := Bool.and_eq_true_iff.mp waits
      refine .stopWaiting sections busy ?_
      intro onWorker running
      have slot : state.stop.worker = .running := running
      rw [onWorker, slot] at outside
      exact absurd outside (by decide)
    · rename_i passes
      refine .stopPassing sections ?_
      have same : state.stop.inProgress = state.inProgress := rfl
      have slot : state.stop.worker = state.worker := rfl
      rw [same, slot] at passes
      by_cases busy : state.inProgress = true
      · right
        simpa [busy] using passes
      · left
        exact Bool.not_eq_true _ ▸ busy

theorem advances_of_advance? {state : State} {call : Call} {chance : Chance}
    {next : Call.Advance} (advanced : call.advance? setup state chance = some next) :
    Advances setup chance state call next.state next.call next.events := by
  unfold Call.advance? at advanced
  split at advanced
  · cases advanced
  · rename_i rest sections
    cases advanced
    exact .start sections (state.started setup.config.channelId chance.spawnFault)
  · rename_i rest sections
    cases advanced
    exact stop_advances sections chance
  · rename_i cycle rest sections
    split at advanced
    · cases advanced
    · rename_i settled
      cases advanced
      exact .await sections (Bool.not_eq_true _ ▸ settled)
  · rename_i rest sections
    split at advanced
    · rename_i unbound
      cases advanced
      exact .noServer sections (Option.isNone_iff_eq_none.mp unbound)
    · rename_i bound
      cases advanced
      obtain ⟨server, found⟩ := Option.ne_none_iff_exists'.mp
        (fun unbound => bound (Option.isNone_iff_eq_none.mpr unbound))
      exact .serverFound sections found
  · rename_i server session rest sections
    cases advanced
    exact .bind sections
  · rename_i multiplexer rest sections
    cases advanced
    exact .setMultiplexer sections
  · rename_i demultiplexer rest sections
    cases advanced
    exact .setDemultiplexer sections
  · rename_i rest sections
    cases advanced
    refine .retire sections ?_ ?_
    · intro left member
      split at member
      · rcases List.mem_cons.mp member with first | second
        · exact .inl first
        · split at second
          · exact .inr (List.mem_singleton.mp second)
          · cases second
      · cases member
    · intro running joined outside
      simp [running, joined, outside]
  · rename_i rest sections
    cases advanced
    exact .dismiss sections
  · rename_i rest sections
    split at advanced
    · rename_i left
      cases advanced
      exact .join sections left
    · cases advanced

/-- A section leaves behind it what came after it, a stop that waits, or a retiring worker. -/
theorem Advances.section_mem {chance : Chance} {state next : State} {call after : Call}
    {events : List Event} (advances : Advances setup chance state call next after events)
    {left : Section} (member : left ∈ after.sections) :
    left ∈ call.sections ∨
      (left = .await state.cycleSeq ∧ state.inProgress = true ∧
        (call.onWorker = true → state.worker ≠ .running) ∧
        ∃ rest, call.sections = .stop :: rest) ∨
      (left = .dismiss ∨ left = .join) ∧ next.worker = .retired := by
  cases advances with
  | stopPanicking sections aborts panics => cases member
  | noServer sections unbound => cases member
  | stopWaiting sections busy outside =>
      rcases List.mem_cons.mp member with waits | later
      · exact .inr (.inl ⟨waits, busy, outside, _, sections⟩)
      · exact .inl (sections ▸ List.mem_cons_of_mem _ later)
  | retire sections leaves =>
      rcases List.mem_append.mp member with leaving | later
      · exact .inr (.inr ⟨leaves left leaving, rfl⟩)
      · exact .inl (sections ▸ List.mem_cons_of_mem _ later)
  | start sections | stopPassing sections | await sections | serverFound sections
  | bind sections | setMultiplexer sections | setDemultiplexer sections | dismiss sections
  | join sections => exact .inl (sections ▸ List.mem_cons_of_mem _ member)

/-- What a section of a call does, apart from what it leaves ahead of the call. -/
def Section.Shown (setup : Setup) (chance : Chance) (state next : State) (call after : Call) :
    Section → Prop
  | .start => Started setup.config.channelId chance.spawnFault state next after.result
  | .stop => next = state.stop
  | .bind server session => next = state.bind server session
  | .retire => next.worker = .retired ∧ (state.worker = .running →
      setup.config.joinWorkerOnDrop = true → call.onWorker = false → .join ∈ after.sections)
  | .join => state.queue.closed = true
  | _ => True

/-- What becomes of a call by a section, with the rest of its sections behind. -/
def Section.Leaves (state : State) (call after : Call) (rest : List Section) : Section → Prop
  | .stop =>
    state.stopAborts = true ∧ after = call.panic ∨
    state.inProgress = true ∧ (call.onWorker = true → state.worker ≠ .running) ∧
      after = { call with sections := .await state.cycleSeq :: rest } ∨
    (state.inProgress = false ∨ call.onWorker = true ∧ state.worker = .running) ∧
      after = { call with sections := rest }
  | .start => ∃ result, after = { call with sections := rest, result }
  | .await cycle => state.awaits cycle = false ∧ after = { call with sections := rest }
  | .requireServer =>
    after = { call with sections := if state.server.isNone then [] else rest }
  | .retire => ∃ leaving, (∀ left ∈ leaving, left = .dismiss ∨ left = .join) ∧
      after = { call with sections := leaving ++ rest }
  | .bind .. | .setMultiplexer _ | .setDemultiplexer _ | .dismiss | .join =>
    after = { call with sections := rest }

namespace Advances

variable {chance : Chance} {state next : State} {call after : Call} {events : List Event}

theorem cycleSeq (advances : Advances setup chance state call next after events) :
    next.cycleSeq = state.cycleSeq := by
  cases advances with
  | start sections started => exact started.cycleSeq
  | _ => rfl

theorem inProgress (advances : Advances setup chance state call next after events) :
    next.inProgress = state.inProgress := by
  cases advances with
  | start sections started => exact started.inProgress
  | _ => rfl

/-- Each section that a call runs shows what it does. -/
theorem shown (advances : Advances setup chance state call next after events) {part : Section}
    {rest : List Section} (sections : call.sections = part :: rest) :
    part.Shown setup chance state next call after := by
  cases advances with
  | start same started =>
      cases sections.symm.trans same
      exact started
  | stopPanicking same | stopWaiting same | stopPassing same | bind same =>
      cases sections.symm.trans same
      rfl
  | retire same leaves joins =>
      cases sections.symm.trans same
      refine ⟨rfl, ?_⟩
      intro running joined outside
      exact List.mem_append_left _ (joins running joined outside)
  | join same left =>
      cases sections.symm.trans same
      exact left
  | await same | noServer same | serverFound same | setMultiplexer same | setDemultiplexer same
  | dismiss same =>
      cases sections.symm.trans same
      trivial

theorem leaves (advances : Advances setup chance state call next after events) {part : Section}
    {rest : List Section} (sections : call.sections = part :: rest) :
    part.Leaves state call after rest := by
  cases advances with
  | start same =>
      cases sections.symm.trans same
      exact ⟨_, rfl⟩
  | stopPanicking same aborts =>
      cases sections.symm.trans same
      exact .inl ⟨aborts, rfl⟩
  | stopWaiting same busy outside =>
      cases sections.symm.trans same
      exact .inr (.inl ⟨busy, outside, rfl⟩)
  | stopPassing same free =>
      cases sections.symm.trans same
      exact .inr (.inr ⟨free, rfl⟩)
  | await same settled =>
      cases sections.symm.trans same
      exact ⟨settled, rfl⟩
  | noServer same unbound | serverFound same bound =>
      cases sections.symm.trans same
      simp [Section.Leaves, *]
  | retire same leaves =>
      cases sections.symm.trans same
      exact ⟨_, leaves, rfl⟩
  | bind same | setMultiplexer same | setDemultiplexer same | dismiss same | join same =>
      cases sections.symm.trans same
      rfl

theorem abortRequests_le (advances : Advances setup chance state call next after events) :
    state.abortRequests ≤ next.abortRequests := by
  cases advances with
  | start sections started => exact Nat.le_of_eq started.abortRequests.symm
  | stopPanicking | stopWaiting | stopPassing => exact state.abortRequests_le_stop
  | _ => exact Nat.le_refl _

/-- Only a stop turns a running channel off from outside, or is counted as one. -/
theorem running (advances : Advances setup chance state call next after events)
    (unstopped : ∀ rest, call.sections ≠ .stop :: rest) (running : state.stopped = false) :
    next.stopped = false ∧ next.abortRequests = state.abortRequests := by
  cases advances with
  | start sections started => exact ⟨started.running running, started.abortRequests⟩
  | stopPanicking sections | stopWaiting sections | stopPassing sections =>
      exact absurd sections (unstopped _)
  | _ => exact ⟨running, rfl⟩

theorem retired (advances : Advances setup chance state call next after events)
    (retired : state.worker = .retired) : next.worker = .retired := by
  cases advances with
  | start sections started =>
      rcases started.worker with same | ⟨unstarted, _⟩
      · exact same.trans retired
      · rw [retired] at unstarted
        cases unstarted
  | retire sections leaves => rfl
  | _ => exact retired

end Advances

theorem Advances.of_retired {chance : Chance} {state next : State} {call after : Call}
    {events : List Event} (advances : Advances setup chance state call next after events)
    (retired : next.worker = .retired) :
    state.worker = .retired ∨
      (∃ rest, call.sections = .retire :: rest) ∧ next.stopped = state.stopped := by
  cases advances with
  | start sections started =>
      rcases started.worker with same | ⟨_, running⟩
      · exact .inl (same.symm.trans retired)
      · rw [running] at retired
        cases retired
  | retire sections leaves joins => exact .inr ⟨⟨_, sections⟩, rfl⟩
  | _ => exact .inl retired

theorem Advances.sections_ne_nil {chance : Chance} {state next : State} {call after : Call}
    {events : List Event} (advances : Advances setup chance state call next after events) :
    call.sections ≠ [] := by
  intro ended
  cases advances with
  | start sections | stopPanicking sections | stopWaiting sections | stopPassing sections
  | await sections | noServer sections | serverFound sections | bind sections
  | setMultiplexer sections | setDemultiplexer sections | retire sections | dismiss sections
  | join sections =>
      rw [ended] at sections
      cases sections

/-! ### Actions -/

/-- What an action does to the world in which it happens. -/
inductive Happening (setup : Setup) (world : World) : Action → World → List Event → Prop
  | invoke {operation : Operation} {draw : Draw} {onWorker : Bool}
      (allowed : onWorker = true → world.activity.inCollaborator = true ∧
        world.workerIsBusy = false) :
      Happening setup world (.invoke operation draw onWorker)
        { world with calls := world.calls ++ [.make setup draw operation onWorker] } []
  | advance {index : Nat} {chance : Chance} {call next : Call} {state : State}
      {events : List Event} (found : world.calls[index]? = some call)
      (advances : Advances setup chance world.state call state next events) :
      Happening setup world (.advance index chance)
        { world with state, calls := world.calls.set index next } events
  | repeatAbort {index cycle : Nat} {call : Call} {rest : List Section}
      (found : world.calls[index]? = some call) (sections : call.sections = .await cycle :: rest)
      (awaited : world.state.awaits cycle = true) :
      Happening setup world (.repeatAbort index false) world [.close cycle true]
  | repeatPanicking {index cycle : Nat} {call : Call} {rest : List Section}
      (found : world.calls[index]? = some call) (sections : call.sections = .await cycle :: rest)
      (awaited : world.state.awaits cycle = true) :
      Happening setup world (.repeatAbort index true)
        { world with calls := world.calls.set index call.panic } [.close cycle true]
  | dropManager : Happening setup world .dropManager { world with managerAlive := false } []
  | work {move : Move} {state : State} {activity : Activity} {events : List Event}
      (free : world.workerIsBusy = false)
      (turn : Turn setup world.managerAlive world.state world.activity move state activity
        events) :
      Happening setup world (.work move) { world with state, activity } events

theorem Call.repeats?_eq_some {state : State} {call : Call} {cycle : Nat}
    (repeats : call.repeats? state = some cycle) :
    ∃ rest, call.sections = .await cycle :: rest ∧ state.awaits cycle = true := by
  unfold Call.repeats? at repeats
  split at repeats
  · rename_i awaited rest sections
    split at repeats
    · rename_i awaits
      cases repeats
      exact ⟨rest, sections, awaits⟩
    · cases repeats
  · cases repeats

theorem Step.happening (step : Step setup) :
    Happening setup step.before step.action step.after step.events := by
  obtain ⟨before, action, after, events, happens⟩ := step
  cases action with
  | invoke operation draw onWorker =>
      simp only [World.act?] at happens
      split at happens
      · cases happens
      · rename_i allowed
        cases happens
        refine .invoke ?_
        intro inside
        simpa [inside] using allowed
  | advance index chance =>
      simp only [World.act?] at happens
      split at happens
      · cases happens
      · rename_i call found
        split at happens
        · cases happens
        · rename_i next advanced
          cases happens
          exact .advance found (advances_of_advance? advanced)
  | repeatAbort index closePanics =>
      simp only [World.act?] at happens
      split at happens
      · cases happens
      · rename_i call found
        split at happens
        · cases happens
        · rename_i cycle repeats
          cases happens
          obtain ⟨rest, sections, awaited⟩ := Call.repeats?_eq_some repeats
          cases closePanics with
          | true => exact .repeatPanicking found sections awaited
          | false => exact .repeatAbort found sections awaited
  | dropManager =>
      cases happens
      exact .dropManager
  | work move =>
      simp only [World.act?] at happens
      split at happens
      · cases happens
      · rename_i free
        split at happens
        · cases happens
        · rename_i progress works
          cases happens
          exact .work (Bool.not_eq_true _ ▸ free) (turn_of_work? works)

namespace Happening

variable {before after : World} {action : Action} {events : List Event}

/-- The worker makes a turn, or stays where it is. -/
theorem turn_or_kept (happening : Happening setup before action after events) :
    (∃ move, action = .work move ∧ Turn setup before.managerAlive before.state before.activity
      move after.state after.activity events) ∨ after.activity = before.activity := by
  cases happening with
  | work free turn => exact .inl ⟨_, rfl, turn⟩
  | _ => exact .inr rfl

theorem turn {move : Move} (happening : Happening setup before (.work move) after events) :
    Turn setup before.managerAlive before.state before.activity move after.state after.activity
      events := by
  cases happening with
  | work free turn => exact turn

theorem advances {index : Nat} {chance : Chance} {call : Call}
    (happening : Happening setup before (.advance index chance) after events)
    (found : before.calls[index]? = some call) :
    ∃ next, Advances setup chance before.state call after.state next events ∧
      after = { before with state := after.state, calls := before.calls.set index next } := by
  cases happening with
  | advance same advances =>
      cases Option.some.inj (found.symm.trans same)
      exact ⟨_, advances, rfl⟩

theorem cycleSeq_le (happening : Happening setup before action after events) :
    before.state.cycleSeq ≤ after.state.cycleSeq := by
  cases happening with
  | work free turn => exact turn.cycleSeq_le
  | advance found advances => exact Nat.le_of_eq advances.cycleSeq.symm
  | _ => exact Nat.le_refl _

theorem retired (happening : Happening setup before action after events)
    (retired : before.state.worker = .retired) : after.state.worker = .retired := by
  cases happening with
  | work free turn => exact turn.worker.trans retired
  | advance found advances => exact advances.retired retired
  | _ => exact retired

/-- Only a call that binds a server changes the server. -/
theorem server (happening : Happening setup before action after events)
    (unbound : ∀ index chance call server session rest, action = .advance index chance →
      before.calls[index]? = some call → call.sections ≠ .bind server session :: rest) :
    after.state.server = before.state.server := by
  cases happening with
  | work free turn => exact turn.server
  | advance found advances =>
      cases advances with
      | start sections started => exact started.server
      | bind sections => exact absurd sections (unbound _ _ _ _ _ _ rfl found)
      | _ => rfl
  | _ => rfl

theorem abortRequests_le (happening : Happening setup before action after events) :
    before.state.abortRequests ≤ after.state.abortRequests := by
  cases happening with
  | work free turn => exact Nat.le_of_eq turn.abortRequests.symm
  | advance found advances => exact advances.abortRequests_le
  | _ => exact Nat.le_refl _

/-- What holds of the calls there are, and of what one can become, holds of every call after an
action. -/
theorem each_call (happening : Happening setup before action after events) {holds : Call → Prop}
    (kept : ∀ call ∈ before.calls, holds call)
    (made : ∀ operation draw onWorker, action = .invoke operation draw onWorker →
      holds (.make setup draw operation onWorker))
    (panics : ∀ call ∈ before.calls, holds call.panic)
    (advanced : ∀ index chance call next, action = .advance index chance →
      before.calls[index]? = some call →
      Advances setup chance before.state call after.state next events → holds next) :
    ∀ call ∈ after.calls, holds call := by
  intro call member
  cases happening with
  | invoke allowed =>
      rcases List.mem_append.mp member with earlier | last
      · exact kept call earlier
      · rw [List.mem_singleton.mp last]
        exact made _ _ _ rfl
  | advance found advances =>
      rcases List.mem_or_eq_of_mem_set member with old | rfl
      · exact kept call old
      · exact advanced _ _ _ _ rfl found advances
  | repeatPanicking found sections awaited =>
      rcases List.mem_or_eq_of_mem_set member with old | rfl
      · exact kept call old
      · exact panics _ (List.mem_of_getElem? found)
  | repeatAbort | dropManager | work => exact kept call member

end Happening

end LongPoll.Channel
