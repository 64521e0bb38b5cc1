import LongPoll.Proofs.Failure

set_option autoImplicit false

/-!
What a cycle works on. Servers, sessions and adapters may be bound at any time, also from within a
cycle; everything a cycle asks of its collaborators still goes by what was bound together when it
began. A session is never bound without the server that it was derived for, so that no request
carries a session key that is wrapped for another server.
-/

namespace LongPoll

/-! ### Sessions and their servers -/

theorem Except.exists_of_map_eq_ok {ε α β : Type} {given : Except ε α} {build : α → β} {result : β}
    (mapped : given.map build = .ok result) :
    ∃ value, given = .ok value ∧ build value = result := by
  cases given with
  | error fault => cases mapped
  | ok value =>
      cases mapped
      exact ⟨value, rfl, rfl⟩

/-- A client with the given keys can derive the session for the server's key. -/
def Session.DerivedFor (session : Session) (keys : ClientKeys) (serverKey : Key) : Prop :=
  ∃ sessionKey nonce, Session.make keys serverKey sessionKey nonce = .ok session

theorem Session.DerivedFor.wrapped {session : Session} {keys : ClientKeys} {serverKey : Key}
    (derived : session.DerivedFor keys serverKey) :
    session.serverKey = serverKey ∧ ∃ wrapping nonce,
      wrappingKey (X25519.agree keys.agreement serverKey) keys.agreementPublic serverKey =
        .ok wrapping ∧
      session.wrappedKey = Sealed.encode wrapping nonce session.sessionKey.bytes := by
  obtain ⟨sessionKey, nonce, made⟩ := derived
  obtain ⟨wrapping, shared, rfl⟩ := Except.exists_of_map_eq_ok made
  exact ⟨rfl, wrapping, nonce, shared, rfl⟩

/-- A request goes to a server, with a session key that is wrapped for this server and a body that
is sealed under that session key. -/
structure FormPost.SealedFor (request : FormPost) (keys : ClientKeys) (server : PollServer)
    (session : Session) : Prop where
  url : request.url = server.url
  key : ∃ wrapping nonce,
    wrappingKey (X25519.agree keys.agreement server.publicKey) keys.agreementPublic
      server.publicKey = .ok wrapping ∧
    request.field? "requestKey" = some (Sealed.encode wrapping nonce session.sessionKey.bytes)
  body : ∃ nonce body,
    request.field? "requestData" = some (Sealed.encode session.sessionKey nonce body)

theorem Session.request_sealedFor {session : Session} {keys : ClientKeys} {server : PollServer}
    (derived : session.DerivedFor keys server.publicKey) (nonce : Nonce) (body : Bytes) :
    (session.request server.url nonce body).SealedFor keys server session where
  url := rfl
  key := by
    obtain ⟨_, wrapping, drawn, shared, wrapped⟩ := derived.wrapped
    refine ⟨wrapping, drawn, shared, ?_⟩
    unfold Session.request
    rw [FormPost.field?_set_other _ _ _ _ (by decide),
      FormPost.field?_set_other _ _ _ _ (by decide), FormPost.field?_set_same, wrapped]
  body := by
    refine ⟨nonce, body, ?_⟩
    unfold Session.request
    rw [FormPost.field?_set_other _ _ _ _ (by decide), FormPost.field?_set_same]
    rfl

namespace Channel

variable {setup : Setup}

/-- Neither a server nor a session is bound, or a session derived for the key of the server. -/
def State.Paired (state : State) (keys : ClientKeys) : Prop :=
  match state.server, state.session with
  | none, none => True
  | some server, some session => session.DerivedFor keys server.publicKey
  | _, _ => False

theorem State.Paired.of_same {state next : State} {keys : ClientKeys} (paired : state.Paired keys)
    (server : next.server = state.server) (session : next.session = state.session) :
    next.Paired keys := by
  unfold State.Paired
  rw [server, session]
  exact paired

theorem State.Paired.derived {state : State} {keys : ClientKeys} {server : PollServer}
    {session : Session} (paired : state.Paired keys) (bound : state.server = some server)
    (opened : state.session = some session) : session.DerivedFor keys server.publicKey := by
  unfold State.Paired at paired
  rw [bound, opened] at paired
  exact paired

theorem Started.session {channelId : String} {spawnFault : Option String} {state next : State}
    {result : Except Fault Unit} (ends : Started channelId spawnFault state next result) :
    next.session = state.session := by
  cases ends <;> rfl

theorem Turn.session {managerAlive : Bool} {state next : State} {activity after : Activity}
    {move : Move} {events : List Event}
    (turn : Turn setup managerAlive state activity move next after events) :
    next.session = state.session := by
  cases turn with
  | drop hit rescheduled | finish rescheduled | cancel failed hit rescheduled =>
      cases rescheduled <;> rfl
  | _ => rfl

/-- A server is bound together with a session for it, and so is every server that a call is to
bind. -/
structure World.Paired (world : World) (keys : ClientKeys) : Prop where
  state : world.state.Paired keys
  calls : ∀ call ∈ world.calls, ∀ server session, .bind server session ∈ call.sections →
    session.DerivedFor keys server.publicKey

theorem Call.make_derived {draw : Draw} {operation : Operation} {onWorker : Bool}
    {server : PollServer} {session : Session}
    (binds : .bind server session ∈ (Call.make setup draw operation onWorker).sections) :
    session.DerivedFor setup.keys server.publicKey := by
  obtain ⟨sections, made, planned⟩ := Call.make_planned binds
  rw [made] at binds
  cases planned with
  | setServer found derived =>
      simp only [List.mem_cons, List.not_mem_nil, or_false, reduceCtorEq, false_or,
        Section.bind.injEq] at binds
      obtain ⟨rfl, rfl⟩ := binds
      exact ⟨draw.sessionKey, draw.nonce, derived⟩
  | _ => simp [restart] at binds

theorem Advances.paired {chance : Chance} {state next : State} {call after : Call}
    {events : List Event} (advances : Advances setup chance state call next after events)
    (paired : state.Paired setup.keys)
    (derived : ∀ server session, .bind server session ∈ call.sections →
      session.DerivedFor setup.keys server.publicKey) : next.Paired setup.keys := by
  cases advances with
  | start sections started => exact paired.of_same started.server started.session
  | bind sections => exact derived _ _ (sections ▸ List.mem_cons_self)
  | _ => exact paired.of_same rfl rfl

theorem World.Paired.happening {before after : World} {action : Action} {events : List Event}
    (paired : before.Paired setup.keys) (happening : Happening setup before action after events) :
    after.Paired setup.keys := by
  constructor
  · cases happening with
    | work free turn => exact paired.state.of_same turn.server turn.session
    | advance found advances =>
        exact advances.paired paired.state (paired.calls _ (List.mem_of_getElem? found))
    | _ => exact paired.state
  · refine happening.each_call paired.calls ?_ ?_ ?_
    · intro operation draw onWorker _ server session binds
      exact Call.make_derived binds
    · intro call _ server session binds
      cases binds
    · intro index chance call next _ found advances server session binds
      exact paired.calls call (List.mem_of_getElem? found) server session
        (advances.planned_mem rfl binds)

/-! ### What belongs to a cycle -/

structure State.Provides (state : State) (capture : Capture) : Prop where
  server : state.server = some capture.server
  session : state.session = some capture.session
  multiplexer : state.multiplexer = some capture.multiplexer
  demultiplexer : state.demultiplexer = some capture.demultiplexer

theorem State.provides {channelId : String} {state : State} {capture : Capture}
    (captured : state.capture channelId = .ok capture) : state.Provides capture := by
  unfold State.capture at captured
  split at captured
  · rename_i server session bound opened
    split at captured
    · cases captured
    · cases captured
    · rename_i multiplexer demultiplexer compiles processes
      cases captured
      exact ⟨bound, opened, compiles, processes⟩
  · cases captured

/-- A collaborator is asked for something, or a server is named as failed. -/
def Event.isOfCycle : Event → Bool
  | .compile _ | .send .. | .process .. | .serverFailed _ | .notice (.connectionFailed ..) => true
  | _ => false

/-- How events of cycles come about: what the worker is at before and after them. -/
inductive Arises (activity after : Activity) : Event → Prop
  | compile {capture : Capture} (taken : activity = .taken)
      (compiling : after = .compiling capture) : Arises activity after (.compile capture)
  | send {capture : Capture} {request : FormPost} (cleared : activity = .cleared capture request) :
      Arises activity after (.send capture request)
  | process {capture : Capture} {response : Response} {payload : Bytes}
      (answered : activity = .answered capture response)
      (received : capture.session.receive response = .ok payload) (something : payload ≠ []) :
      Arises activity after (.process capture payload)
  | report {capture : Capture} {fault : Fault}
      (failed : activity.failure? = some (capture, fault)) :
      Arises activity after (.serverFailed capture)
  | log {capture : Capture} {fault : Fault} (failed : activity.failure? = some (capture, fault)) :
      Arises activity after (.notice (.connectionFailed capture.server fault))

theorem isOfCycle_of_mem_rescheduleNotices {unposted : Option Fault} {event : Event}
    (member : event ∈ rescheduleNotices unposted) : event.isOfCycle = false := by
  cases unposted with
  | none => cases member
  | some fault =>
      rw [List.mem_singleton.mp member]
      rfl

namespace Turn

variable {managerAlive : Bool} {state next : State} {activity after : Activity} {move : Move}
  {events : List Event}

theorem arises (turn : Turn setup managerAlive state activity move next after events)
    {event : Event} (member : event ∈ events) (own : event.isOfCycle = true) :
    Arises activity after event := by
  cases turn with
  | begin running captured =>
      cases List.mem_singleton.mp member
      exact .compile rfl rfl
  | proceed proceeds =>
      cases proceeds with
      | send =>
          cases List.mem_singleton.mp member
          exact .send rfl
      | _ => cases member
  | settle settles =>
      cases settles with
      | unreadable received => cases member
      | empty received =>
          cases List.mem_singleton.mp member
          cases own
      | payload received something =>
          cases List.mem_singleton.mp member
          exact .process rfl received something
  | fail failed unhit =>
      rcases List.mem_cons.mp member with rfl | told
      · exact .log failed
      · split at told
        · cases List.mem_singleton.mp told
          exact .report failed
        · cases List.mem_singleton.mp told
          cases own
  | drop hit rescheduled | cancel failed hit rescheduled =>
      rcases List.mem_cons.mp member with rfl | unposted
      · cases own
      · rw [isOfCycle_of_mem_rescheduleNotices unposted] at own
        cases own
  | finish rescheduled =>
      rw [isOfCycle_of_mem_rescheduleNotices member] at own
      cases own
  | misconfigure running missing =>
      cases List.mem_singleton.mp member
      cases own
  | reported =>
      split at member
      · cases List.mem_singleton.mp member
        cases own
      · cases member
  | take next | leave next | skip stopped => cases member

theorem settles {capture : Capture} {response : Response}
    (turn : Turn setup managerAlive state (.answered capture response) .settle next after events) :
    Settles capture response after events := by
  cases turn with
  | proceed proceeds => cases proceeds
  | settle settles => exact settles

theorem capture? (turn : Turn setup managerAlive state activity move next after events)
    {capture : Capture} (within : after.capture? = some capture) :
    activity.capture? = some capture ∨ activity = .taken ∧ after = .compiling capture := by
  cases turn with
  | begin running captured =>
      cases within
      exact .inr ⟨rfl, rfl⟩
  | proceed proceeds => cases proceeds <;> exact .inl within
  | settle settles => cases settles <;> exact .inl within
  | fail failed unhit =>
      split at within
      · cases within
        exact .inl (Activity.fallible?_of_failure? failed).2
      · cases within
  | _ => cases within

end Turn

theorem Advances.not_ofCycle {chance : Chance} {state next : State} {call after : Call}
    {events : List Event} (advances : Advances setup chance state call next after events)
    {event : Event} (member : event ∈ events) : event.isOfCycle = false := by
  cases advances with
  | start sections started =>
      split at member
      · cases List.mem_singleton.mp member
        rfl
      · cases member
  | stopWaiting sections busy outside | stopPassing sections free =>
      split at member
      · cases List.mem_singleton.mp member
        rfl
      · cases member
  | stopPanicking sections aborts panics | noServer sections unbound =>
      cases List.mem_singleton.mp member
      rfl
  | _ => cases member

/-! ### Where requests and responses come from -/

def Activity.request? : Activity → Option (Capture × FormPost)
  | .built capture request | .cleared capture request | .sending capture request =>
    some (capture, request)
  | _ => none

def Activity.response? : Activity → Option (Capture × Response)
  | .answered capture response => some (capture, response)
  | _ => none

namespace Turn

variable {managerAlive : Bool} {state next : State} {activity after : Activity} {move : Move}
  {events : List Event}

theorem request? (turn : Turn setup managerAlive state activity move next after events)
    {capture : Capture} {request : FormPost} (holds : after.request? = some (capture, request)) :
    activity.request? = some (capture, request) ∨
      ∃ outcome sealing body nonce, move = .compiled outcome sealing ∧
        outcome.result = .ok body ∧ sealing.result = .ok nonce ∧
        request = capture.session.request capture.server.url nonce body := by
  cases turn with
  | proceed proceeds =>
      cases proceeds with
      | compiled built sealed =>
          cases holds
          exact .inr ⟨_, _, _, _, rfl, built, sealed, rfl⟩
      | clear unhit | send => exact .inl holds
      | uncompiled failed | answered returned | unanswered failed | processed returned
      | unprocessed failed => cases holds
  | settle settles => cases settles <;> cases holds
  | fail failed unhit => split at holds <;> cases holds
  | _ => cases holds

theorem response? (turn : Turn setup managerAlive state activity move next after events)
    {capture : Capture} {response : Response}
    (holds : after.response? = some (capture, response)) :
    ∃ outcome request, move = .answered outcome ∧ activity = .sending capture request ∧
      outcome.result = .ok response := by
  cases turn with
  | proceed proceeds =>
      cases proceeds with
      | answered returned =>
          cases holds
          exact ⟨_, _, rfl, rfl, returned⟩
      | compiled | clear | send | uncompiled | unanswered | processed | unprocessed => cases holds
  | settle settles => cases settles <;> cases holds
  | fail failed unhit => split at holds <;> cases holds
  | _ => cases holds

end Turn

namespace Step

variable {step : Step setup} {capture : Capture}

/-- The worker acts for a cycle that it is in, or begins it. -/
def ActsFor (step : Step setup) (capture : Capture) : Prop :=
  (∃ move, step.action = .work move) ∧ step.before.activity.capture? = some capture ∨
    step.Begins capture

/-- The multiplexer has returned a body, which is sealed with the session of the cycle. -/
def Compiles (step : Step setup) (capture : Capture) (request : FormPost) : Prop :=
  ∃ outcome sealing body nonce, step.action = .work (.compiled outcome sealing) ∧
    outcome.result = .ok body ∧ sealing.result = .ok nonce ∧
    request = capture.session.request capture.server.url nonce body

def Answers (step : Step setup) (capture : Capture) (response : Response) : Prop :=
  ∃ outcome request, step.action = .work (.answered outcome) ∧
    step.before.activity = .sending capture request ∧ outcome.result = .ok response

theorem capture? (step : Step setup) (within : step.after.activity.capture? = some capture) :
    step.before.activity.capture? = some capture ∨ step.Begins capture := by
  rcases step.happening.turn_or_kept with ⟨move, _, turn⟩ | kept
  · exact turn.capture? within
  · exact .inl (kept ▸ within)

theorem request? (step : Step setup) {request : FormPost}
    (holds : step.after.activity.request? = some (capture, request)) :
    step.before.activity.request? = some (capture, request) ∨ step.Compiles capture request := by
  rcases step.happening.turn_or_kept with ⟨move, action, turn⟩ | kept
  · rcases turn.request? holds with earlier | ⟨outcome, sealing, body, nonce, rfl, built⟩
    · exact .inl earlier
    · exact .inr ⟨outcome, sealing, body, nonce, action, built⟩
  · exact .inl (kept ▸ holds)

theorem response? (step : Step setup) {response : Response}
    (holds : step.after.activity.response? = some (capture, response)) :
    step.before.activity.response? = some (capture, response) ∨ step.Answers capture response := by
  rcases step.happening.turn_or_kept with ⟨move, action, turn⟩ | kept
  · obtain ⟨outcome, request, rfl, sending, returned⟩ := turn.response? holds
    exact .inr ⟨outcome, request, action, sending, returned⟩
  · exact .inl (kept ▸ holds)

theorem arises {event : Event} (member : event ∈ step.events) (own : event.isOfCycle = true) :
    (∃ move, step.action = .work move) ∧
      Arises step.before.activity step.after.activity event := by
  have happening := step.happening
  generalize step.before = before, step.action = action, step.after = after,
    step.events = events at happening member ⊢
  cases happening with
  | work free turn => exact ⟨⟨_, rfl⟩, turn.arises member own⟩
  | advance found advances =>
      rw [advances.not_ofCycle member] at own
      cases own
  | repeatAbort | repeatPanicking =>
      cases List.mem_singleton.mp member
      cases own
  | invoke | dropManager => cases member

end Step

namespace Run

variable {start finish : World} {steps : List (Step setup)}

theorem originates {α : Type} (view : Activity → Option α) {value : α}
    (origin : Step setup → Prop)
    (brought : ∀ step : Step setup, view step.after.activity = some value →
      view step.before.activity = some value ∨ origin step)
    (run : Run setup start steps finish) (before : view start.activity ≠ some value)
    (within : view finish.activity = some value) : ∃ step ∈ steps, origin step := by
  refine run.keeps_history (fun made world => view world.activity = some value →
    ∃ step ∈ made, origin step) (fun impossible => absurd impossible before) ?_ within
  intro made step _ earlier after
  rcases brought step after with shown | brings
  · obtain ⟨other, member, brings⟩ := earlier shown
    exact ⟨other, List.mem_append_left _ member, brings⟩
  · exact ⟨step, List.mem_append_right _ (List.mem_singleton_self step), brings⟩

end Run

/-! ### What a cycle goes by -/

/-- The cycle that a step acts for has begun once, with all that it goes by bound together. -/
structure Step.BegunBy (step : Step setup) (earlier : List (Step setup)) (begin : Step setup)
    (capture : Capture) : Prop where
  acts : step.ActsFor capture
  begins : begin.Begins capture
  provides : begin.before.state.Provides capture
  once : ∃ prior during, earlier ++ [step] = prior ++ begin :: during ∧
    ∀ other ∈ prior ++ during, ∀ another, other.Begins another → another.cycle ≠ capture.cycle

/-- An event of a cycle goes by what is bound in a state. -/
inductive Event.GoesBy (keys : ClientKeys) (earlier : List (Step setup)) (bound : State)
    (capture : Capture) : Event → Prop
  | compile (multiplexer : bound.multiplexer = some capture.multiplexer) :
      GoesBy keys earlier bound capture (.compile capture)
  | send {request : FormPost} {server : PollServer} {session : Session}
      (goes : bound.server = some server) (opened : bound.session = some session)
      (addressed : request.SealedFor keys server session)
      (built : ∃ step ∈ earlier, step.Compiles capture request) :
      GoesBy keys earlier bound capture (.send capture request)
  | process {response : Response} {payload : Bytes} {session : Session}
      (demultiplexer : bound.demultiplexer = some capture.demultiplexer)
      (opened : bound.session = some session)
      (answered : ∃ step ∈ earlier, step.Answers capture response)
      (received : session.receive response = .ok payload) :
      GoesBy keys earlier bound capture (.process capture payload)
  | report (server : bound.server = some capture.server) :
      GoesBy keys earlier bound capture (.serverFailed capture)
  | log {server : PollServer} {fault : Fault} (failed : bound.server = some server) :
      GoesBy keys earlier bound capture (.notice (.connectionFailed server fault))

theorem Run.begunBy {start : World} {earlier : List (Step setup)} {step : Step setup}
    (run : Run setup start earlier step.before) (idle : start.activity = .idle)
    {capture : Capture} (acts : step.ActsFor capture) :
    ∃ begin, step.BegunBy earlier begin capture := by
  have longer : Run setup start (earlier ++ [step]) step.after :=
    run.append (.cons step (.nil step.after))
  -- A cycle that the worker is in was begun by an earlier step, any other by the step itself.
  rcases acts with ⟨works, within⟩ | begins
  · have before : start.activity.capture? ≠ some capture := by
      rw [idle]
      nofun
    obtain ⟨prior, begin, during, rfl, begins, _⟩ :=
      run.since_begin Activity.capture? (fun other => other.capture?) before within
    have whole : prior ++ begin :: during ++ [step] = prior ++ begin :: (during ++ [step]) := by
      simp
    exact ⟨begin, .inl ⟨works, within⟩, begins, State.provides begins.beginning.captured, prior,
      during ++ [step], whole, (whole ▸ longer).begins_once begins⟩
  · exact ⟨step, .inr begins, begins, State.provides begins.beginning.captured, earlier, [], rfl,
      longer.begins_once begins⟩

theorem World.Paired.new (multiplexer : Option Multiplexer)
    (demultiplexer : Option Demultiplexer) (managerAlive : Bool) :
    (World.new multiplexer demultiplexer managerAlive).Paired setup.keys where
  state := trivial
  calls := by
    intro call impossible
    cases impossible

namespace Run

variable {start finish : World} {steps : List (Step setup)}

theorem paired (run : Run setup start steps finish) (paired : start.Paired setup.keys) :
    finish.Paired setup.keys :=
  run.keeps (fun world => world.Paired setup.keys) paired
    fun step _ before => before.happening step.happening

theorem derived_of_begunBy {earlier : List (Step setup)} {step begin : Step setup}
    {capture : Capture} (run : Run setup start earlier step.before)
    (paired : start.Paired setup.keys) (begun : step.BegunBy earlier begin capture) :
    capture.session.DerivedFor setup.keys capture.server.publicKey := by
  have longer : Run setup start (earlier ++ [step]) step.after :=
    run.append (.cons step (.nil step.after))
  obtain ⟨prior, during, whole, _⟩ := begun.once
  have beginning : begin.before.Paired setup.keys := (whole ▸ longer).cut.1.paired paired
  exact beginning.state.derived begun.provides.server begun.provides.session

/-- An event of a cycle goes by what was bound when the cycle began. -/
theorem event_goesBy {earlier : List (Step setup)} {step : Step setup}
    (run : Run setup start earlier step.before) (idle : start.activity = .idle)
    (paired : start.Paired setup.keys) {event : Event} (member : event ∈ step.events)
    (own : event.isOfCycle = true) :
    ∃ begin capture, step.BegunBy earlier begin capture ∧
      event.GoesBy setup.keys earlier begin.before.state capture := by
  obtain ⟨works, arises⟩ := step.arises member own
  cases arises with
  | @compile capture taken compiling =>
      obtain ⟨begin, begun⟩ := run.begunBy idle (.inr ⟨taken, compiling⟩)
      exact ⟨begin, capture, begun, .compile begun.provides.multiplexer⟩
  | @send capture request cleared =>
      -- What is sent was sealed when the multiplexer returned, with the session of the capture.
      obtain ⟨begin, begun⟩ := run.begunBy idle (.inl ⟨works, by rw [cleared]; rfl⟩)
      have built : ∃ other ∈ earlier, other.Compiles capture request :=
        run.originates Activity.request? _ (fun other => other.request?)
          (by rw [idle]; nofun) (by rw [cleared]; rfl)
      obtain ⟨_, _, _, _, nonce, body, _, _, _, rfl⟩ := id built
      exact ⟨begin, capture, begun, .send begun.provides.server begun.provides.session
        (Session.request_sealedFor (run.derived_of_begunBy paired begun) body nonce) built⟩
  | @process capture response payload answered received something =>
      obtain ⟨begin, begun⟩ := run.begunBy idle (.inl ⟨works, by rw [answered]; rfl⟩)
      have returned : ∃ other ∈ earlier, other.Answers capture response :=
        run.originates Activity.response? _ (fun other => other.response?)
          (by rw [idle]; nofun) (by rw [answered]; rfl)
      exact ⟨begin, capture, begun, .process begun.provides.demultiplexer begun.provides.session
        returned received⟩
  | @report capture fault failed =>
      obtain ⟨begin, begun⟩ :=
        run.begunBy idle (.inl ⟨works, (Activity.fallible?_of_failure? failed).2⟩)
      exact ⟨begin, capture, begun, .report begun.provides.server⟩
  | @log capture fault failed =>
      obtain ⟨begin, begun⟩ :=
        run.begunBy idle (.inl ⟨works, (Activity.fallible?_of_failure? failed).2⟩)
      exact ⟨begin, capture, begun, .log begun.provides.server⟩

/-- However servers, sessions and adapters are rebound while cycles run, a session is bound only
together with the server that it was derived for, and each cycle goes by what was bound in the one
state in which it began: the multiplexer that is asked, the URL and the session of its request, the
session that decrypts its response, the demultiplexer that gets the payload, and the server that is
reported as failed. The key that a request to a server carries is wrapped for that server. -/
theorem cycle_snapshot {multiplexer : Option Multiplexer} {demultiplexer : Option Demultiplexer}
    {managerAlive : Bool}
    (run : Run setup (.new multiplexer demultiplexer managerAlive) steps finish) :
    finish.state.Paired setup.keys ∧
    ∀ earlier step later, steps = earlier ++ step :: later →
      (∀ event ∈ step.events, event.isOfCycle = true →
        ∃ begin capture, step.BegunBy earlier begin capture ∧
          event.GoesBy setup.keys earlier begin.before.state capture) ∧
      ∀ capture response, step.action = .work .settle →
        step.before.activity = .answered capture response →
        ∃ begin, step.BegunBy earlier begin capture ∧
          (∃ answer ∈ earlier, answer.Answers capture response) ∧
          Settles capture response step.after.activity step.events := by
  have fresh : (World.new multiplexer demultiplexer managerAlive).Paired setup.keys :=
    .new multiplexer demultiplexer managerAlive
  refine ⟨(run.paired fresh).state, ?_⟩
  rintro earlier step later rfl
  obtain ⟨before, _⟩ := run.cut
  refine ⟨fun event member own => before.event_goesBy rfl fresh member own, ?_⟩
  intro capture response action answered
  obtain ⟨begin, begun⟩ := before.begunBy rfl (.inl ⟨⟨_, action⟩, by rw [answered]; rfl⟩)
  refine ⟨begin, begun, ?_, ?_⟩
  · exact before.originates Activity.response? _ (fun other => other.response?) nofun
      (by rw [answered]; rfl)
  · have turn := (action ▸ step.happening).turn
    rw [answered] at turn
    exact turn.settles

/-- The manager is told of the first server while the second is bound already. -/
theorem cycle_snapshot_rebinding : ∃ earlier step later finish, ∃ begin : Step Trial.client,
    ∃ capture, Run Trial.client Trial.channel (earlier ++ step :: later) finish ∧
    finish.state.Paired Trial.client.keys ∧ .serverFailed capture ∈ step.events ∧
    step.before.state.server = some (Trial.server 2) ∧
    begin.Begins capture ∧ begin.before.state.server = some (Trial.server 1) := by
  have seen : (Trial.channel.record? Trial.client Trial.rebind).any (fun record =>
      record.1.any fun step => step.before.state.server = some (Trial.server 2) &&
        step.reports.any fun capture => capture.server = Trial.server 1) = true := by
    decide +kernel
  obtain ⟨⟨steps, finish⟩, recorded, checked⟩ := (Option.any_eq_true _ _).mp seen
  obtain ⟨step, member, shape⟩ := List.any_eq_true.mp checked
  obtain ⟨second, told⟩ := Bool.and_eq_true_iff.mp shape
  obtain ⟨capture, reported, first⟩ := List.any_eq_true.mp told
  obtain ⟨event, among, reports⟩ := List.mem_filterMap.mp reported
  obtain ⟨earlier, later, rfl⟩ := List.append_of_mem member
  have run := Run.of_record recorded
  obtain ⟨paired, snapshot⟩ := cycle_snapshot run
  cases event with
  | serverFailed other =>
      cases reports
      obtain ⟨begin, same, begun, goes⟩ := (snapshot earlier step later rfl).1 _ among rfl
      cases goes with
      | report server =>
          refine ⟨earlier, step, later, finish, begin, _, run, paired, among,
            of_decide_eq_true second, begun.begins, ?_⟩
          rw [server, of_decide_eq_true first]
  | _ => cases reports

end Run

end Channel
end LongPoll
