import LongPoll.Proofs.Shutdown

set_option autoImplicit false

/-!
Calls that change nothing. An operation is rejected by what it asks for alone, before its first
section, whatever the channel is at; a synchronization without a server ends in its first section.
Neither leaves a trace in the channel. A synchronization that is not rejected is one of everything.
-/

namespace LongPoll

theorem SupportedTypes.isSyncAllowed_eq_false_iff {types : SupportedTypes} {type : TransportType} :
    types.isSyncAllowed type = false ↔
      ∀ direction, types.direction? type = some direction → direction.isOutgoing = false := by
  unfold isSyncAllowed
  cases known : types.direction? type with
  | none => simp
  | some direction => simp

theorem wrappingKey_eq_error_iff {shared clientPublic serverPublic : Key} {fault : Fault} :
    wrappingKey shared clientPublic serverPublic = .error fault ↔
      X25519.isContributory shared = false ∧ fault = .nonContributoryKey := by
  unfold wrappingKey
  cases X25519.isContributory shared with
  | true => simp
  | false => simp [eq_comm]

theorem Session.make_eq_error_iff {keys : ClientKeys} {serverKey sessionKey : Key} {nonce : Nonce}
    {fault : Fault} : Session.make keys serverKey sessionKey nonce = .error fault ↔
      X25519.isContributory (X25519.agree keys.agreement serverKey) = false ∧
        fault = .nonContributoryKey := by
  have shared : wrappingKey (X25519.agree keys.agreement serverKey) keys.agreementPublic serverKey =
      .error fault ↔ _ := wrappingKey_eq_error_iff
  rw [← shared]
  unfold Session.make
  generalize wrappingKey (X25519.agree keys.agreement serverKey) keys.agreementPublic serverKey =
    derived
  cases derived with
  | ok wrapping => exact ⟨nofun, nofun⟩
  | error other => exact ⟨fun same => by cases same; rfl, fun same => by cases same; rfl⟩

namespace Channel

variable {setup : Setup}

/-! ### What is rejected -/

/-- Why an operation is rejected: the client sends nothing of the type, the server is for channels
of another kind, or the client has no part in the secret that it shares with the server. -/
inductive Operation.Rejected (setup : Setup) : Operation → Fault → Prop
  | sync {type : TransportType}
      (unsent : ∀ direction, setup.config.supportedTypes.direction? type = some direction →
        direction.isOutgoing = false) :
      Rejected setup (.sync type) (.syncNotAllowed setup.config.channelId type)
  | kind {description : ServerDescription} (other : description.kind ≠ .httpLongPoll) :
      Rejected setup (.setServer description)
        (.wrongServerKind setup.config.channelId .httpLongPoll description.kind)
  | key {description : ServerDescription} (tagged : description.kind = .httpLongPoll)
      (neutral : X25519.isContributory
        (X25519.agree setup.keys.agreement description.publicKey) = false) :
      Rejected setup (.setServer description) .nonContributoryKey

theorem plan_setServer_poll {draw : Draw} {server : PollServer} {fault : Fault} :
    plan setup draw (.setServer (.poll server)) = .error fault ↔
      Session.make setup.keys server.publicKey draw.sessionKey draw.nonce = .error fault := by
  have planned : plan setup draw (.setServer (.poll server)) =
      (Session.make setup.keys server.publicKey draw.sessionKey draw.nonce >>= fun session =>
        .ok [.stop, .bind server session, .start]) := Except.bind_eq_of_ok rfl _
  rw [planned]
  generalize Session.make setup.keys server.publicKey draw.sessionKey draw.nonce = made
  cases made with
  | ok session => exact ⟨nofun, nofun⟩
  | error other => exact ⟨fun same => by cases same; rfl, fun same => by cases same; rfl⟩

theorem plan_eq_error_iff {draw : Draw} {operation : Operation} {fault : Fault} :
    plan setup draw operation = .error fault ↔ operation.Rejected setup fault := by
  constructor
  · intro rejected
    cases operation with
    | sync type =>
        simp only [plan] at rejected
        split at rejected
        · cases rejected
        · rename_i refused
          cases rejected
          exact .sync (SupportedTypes.isSyncAllowed_eq_false_iff.mp (Bool.not_eq_true _ ▸ refused))
    | setServer description =>
        cases description with
        | poll server =>
            obtain ⟨neutral, rfl⟩ := Session.make_eq_error_iff.mp (plan_setServer_poll.mp rejected)
            exact .key rfl neutral
        | http endpoint | tcp endpoint =>
            cases rejected
            refine .kind ?_
            intro same
            cases same
    | start | stop | syncAll | setMultiplexer | setDemultiplexer | shutdown => cases rejected
  · intro rejected
    cases rejected with
    | sync unsent =>
        have refused := SupportedTypes.isSyncAllowed_eq_false_iff.mpr unsent
        simp [plan, refused]
    | @kind description other =>
        cases description with
        | poll server => exact absurd rfl other
        | http endpoint | tcp endpoint => rfl
    | @key description tagged neutral =>
        cases description with
        | poll server =>
            exact plan_setServer_poll.mpr (Session.make_eq_error_iff.mpr ⟨neutral, rfl⟩)
        | http endpoint | tcp endpoint => cases tagged

theorem Call.make_of_rejected {draw : Draw} {operation : Operation} {onWorker : Bool}
    {fault : Fault} (rejected : operation.Rejected setup fault) :
    Call.make setup draw operation onWorker =
      { operation, onWorker, sections := [], result := .error fault } := by
  unfold Call.make
  rw [plan_eq_error_iff.mpr rejected]

theorem Call.make_result_of_accepted {draw : Draw} {operation : Operation} {onWorker : Bool}
    (accepted : ∀ fault, ¬ operation.Rejected setup fault) :
    (Call.make setup draw operation onWorker).result = .ok () := by
  unfold Call.make
  split
  · rfl
  · rename_i fault refused
    exact absurd (plan_eq_error_iff.mp refused) (accepted fault)

theorem Operation.Rejected.unique {operation : Operation} {fault other : Fault}
    (rejected : operation.Rejected setup fault) (again : operation.Rejected setup other) :
    fault = other := by
  cases rejected with
  | sync unsent =>
      cases again
      rfl
  | kind different =>
      cases again with
      | kind _ => rfl
      | key tagged _ => exact absurd tagged different
  | key tagged _ =>
      cases again with
      | kind different => exact absurd tagged different
      | key _ _ => rfl

/-- What a call may have come to: the fault that it was rejected with, or what its start has
brought. -/
def Call.Answers (setup : Setup) (call : Call) : Prop :=
  (∃ fault, call.operation.Rejected setup fault ∧ call.result = .error fault) ∨
    (∀ fault, ¬ call.operation.Rejected setup fault) ∧
      (call.result = .ok () ∨
        ∃ reason, call.result = .error (.workerUnavailable setup.config.channelId reason))

theorem Started.result {channelId : String} {spawnFault : Option String} {state next : State}
    {result : Except Fault Unit} (ends : Started channelId spawnFault state next result) :
    result = .ok () ∨ ∃ reason, result = .error (.workerUnavailable channelId reason) := by
  cases ends with
  | unspawned | refused => exact .inr ⟨_, rfl⟩
  | alreadyRunning | resumed | posted => exact .inl rfl

namespace Call.Answers

theorem make {draw : Draw} {operation : Operation} {onWorker : Bool} :
    (Call.make setup draw operation onWorker).Answers setup := by
  by_cases rejected : ∃ fault, operation.Rejected setup fault
  · obtain ⟨fault, rejected⟩ := rejected
    left
    rw [Call.make_of_rejected rejected]
    exact ⟨fault, rejected, rfl⟩
  · have accepted : ∀ fault, ¬ operation.Rejected setup fault := fun fault refused =>
      rejected ⟨fault, refused⟩
    right
    rw [Call.make_operation]
    exact ⟨accepted, .inl (Call.make_result_of_accepted accepted)⟩

theorem advances {chance : Chance} {state next : State} {call after : Call} {events : List Event}
    (answers : call.Answers setup) (ahead : ∀ fault, call.operation.Rejected setup fault →
      call.sections = []) (advances : Advances setup chance state call next after events) :
    after.Answers setup := by
  have accepted (fault : Fault) : ¬ call.operation.Rejected setup fault :=
    fun rejected => advances.sections_ne_nil (ahead fault rejected)
  have result : call.result = .ok () ∨
      ∃ reason, call.result = .error (.workerUnavailable setup.config.channelId reason) := by
    rcases answers with ⟨fault, rejected, _⟩ | ⟨_, result⟩
    · exact absurd rejected (accepted fault)
    · exact result
  right
  rw [advances.operation]
  refine ⟨accepted, ?_⟩
  cases advances with
  | start sections started => exact started.result
  | _ => exact result

end Call.Answers

/-- Rejected calls are over, and every call shows what becomes of its operation. -/
structure World.Answers (setup : Setup) (world : World) : Prop where
  finished : ∀ call ∈ world.calls, ∀ fault, call.operation.Rejected setup fault → call.sections = []
  answers : ∀ call ∈ world.calls, call.Answers setup

theorem World.Answers.happening {before after : World} {action : Action} {events : List Event}
    (answers : before.Answers setup) (happening : Happening setup before action after events) :
    after.Answers setup := by
  constructor
  · refine happening.each_call answers.finished ?_ ?_ ?_
    · intro operation draw onWorker _ fault rejected
      rw [Call.make_operation] at rejected
      rw [Call.make_of_rejected rejected]
    · intro call _ fault _
      rfl
    · intro index chance call next _ found advances fault rejected
      rw [advances.operation] at rejected
      exact absurd (answers.finished call (List.mem_of_getElem? found) fault rejected)
        advances.sections_ne_nil
  · refine happening.each_call answers.answers ?_ answers.answers ?_
    · intro operation draw onWorker _
      exact .make
    · intro index chance call next _ found advances
      have member := List.mem_of_getElem? found
      exact (answers.answers call member).advances (answers.finished call member) advances

theorem Run.answers {multiplexer : Option Multiplexer} {demultiplexer : Option Demultiplexer}
    {managerAlive : Bool} {steps : List (Step setup)} {finish : World}
    (run : Run setup (.new multiplexer demultiplexer managerAlive) steps finish) :
    finish.Answers setup := by
  refine run.keeps (World.Answers setup) ⟨?_, ?_⟩
    fun step _ before => before.happening step.happening
  · intro call impossible
    cases impossible
  · intro call impossible
    cases impossible

namespace Call.Answers

variable {call : Call}

theorem rejected_iff (answers : call.Answers setup) {fault : Fault}
    (own : ∀ reason, fault ≠ .workerUnavailable setup.config.channelId reason) :
    call.result = .error fault ↔ call.operation.Rejected setup fault := by
  constructor
  · intro shown
    rcases answers with ⟨other, rejected, result⟩ | ⟨_, ok | ⟨reason, unavailable⟩⟩
    · rw [shown] at result
      cases result
      exact rejected
    · rw [shown] at ok
      cases ok
    · rw [shown] at unavailable
      cases unavailable
      exact absurd rfl (own reason)
  · intro rejected
    rcases answers with ⟨other, refused, result⟩ | ⟨accepted, _⟩
    · rw [rejected.unique refused]
      exact result
    · exact absurd rejected (accepted fault)

end Call.Answers

/-! ### Steps that leave no trace -/

/-- The step is made for the call at an index: it makes the call, runs a section of it or repeats
its abort. -/
def Step.IsOf (step : Step setup) (index : Nat) : Prop :=
  match step.action with
  | .invoke .. => step.before.calls.length = index
  | .advance moved _ | .repeatAbort moved _ => moved = index
  | .dropManager | .work _ => False

/-- The step leaves the channel and its worker as they are, asks nothing of a collaborator, and
concerns no call but its own. -/
structure Step.Inert (step : Step setup) (index : Nat) : Prop where
  state : step.after.state = step.before.state
  activity : step.after.activity = step.before.activity
  managerAlive : step.after.managerAlive = step.before.managerAlive
  events : ∀ event ∈ step.events, ∃ entry, event = .notice entry
  calls : ∀ other, other ≠ index → step.after.calls[other]? = step.before.calls[other]?

namespace Happening

variable {before after : World} {action : Action} {events : List Event} {index : Nat} {call : Call}

theorem made (happening : Happening setup before action after events)
    (fresh : before.calls[index]? = none) (found : after.calls[index]? = some call) :
    ∃ operation draw onWorker, index = before.calls.length ∧
      call = .make setup draw operation onWorker := by
  rcases happening.call found with kept | made | ⟨earlier, present, _⟩
  · cases fresh.symm.trans kept
  · exact made
  · cases fresh.symm.trans present

theorem operation (happening : Happening setup before action after events) {earlier : Call}
    (present : before.calls[index]? = some earlier) (found : after.calls[index]? = some call) :
    call.operation = earlier.operation := by
  rcases happening.call found with kept | ⟨_, _, _, last, _⟩ | ⟨other, same, kept, _⟩
  · cases kept.symm.trans present
    rfl
  · obtain ⟨bound, _⟩ := List.getElem?_eq_some_iff.mp present
    exact absurd bound (last ▸ Nat.lt_irrefl _)
  · cases same.symm.trans present
    exact kept

end Happening

namespace Step

variable {step : Step setup} {index other : Nat}

theorem IsOf.unique (own : step.IsOf index) (again : step.IsOf other) : index = other := by
  unfold IsOf at own again
  cases action : step.action with
  | invoke | advance | repeatAbort =>
      rw [action] at own again
      exact own.symm.trans again
  | dropManager | work =>
      rw [action] at own
      cases own

theorem kept_elsewhere (elsewhere : ¬ step.IsOf index) :
    step.after.calls[index]? = step.before.calls[index]? := by
  obtain ⟨before, action, after, events, happens⟩ := step
  have happening : Happening setup before action after events :=
    Step.happening ⟨before, action, after, events, happens⟩
  change after.calls[index]? = before.calls[index]?
  cases happening with
  | invoke allowed =>
      have other : before.calls.length ≠ index := elsewhere
      by_cases old : index < before.calls.length
      · exact List.getElem?_append_left old
      · rw [List.getElem?_eq_none (Nat.le_of_not_lt old), List.getElem?_eq_none]
        rw [List.length_append, List.length_singleton]
        omega
  | advance found advances => exact List.getElem?_set_ne elsewhere
  | repeatPanicking found sections awaited => exact List.getElem?_set_ne elsewhere
  | repeatAbort | dropManager | work => rfl

theorem IsOf.bound (own : step.IsOf index) : index < step.after.calls.length := by
  obtain ⟨before, action, after, events, happens⟩ := step
  have happening : Happening setup before action after events :=
    Step.happening ⟨before, action, after, events, happens⟩
  change index < after.calls.length
  cases happening with
  | invoke allowed =>
      have last : before.calls.length = index := own
      rw [List.length_append, List.length_singleton]
      omega
  | @advance moved chance call next state events found advances =>
      cases (own : moved = index)
      rw [List.length_set]
      exact (List.getElem?_eq_some_iff.mp found).1
  | @repeatAbort moved cycle call rest found sections awaited =>
      cases (own : moved = index)
      exact (List.getElem?_eq_some_iff.mp found).1
  | @repeatPanicking moved cycle call rest found sections awaited =>
      cases (own : moved = index)
      rw [List.length_set]
      exact (List.getElem?_eq_some_iff.mp found).1
  | dropManager | work => cases own

theorem inert_of_fresh (own : step.IsOf index) (fresh : step.before.calls[index]? = none) :
    step.Inert index := by
  have calls (other : Nat) (elsewhere : other ≠ index) :=
    kept_elsewhere fun again => elsewhere (own.unique again).symm
  obtain ⟨before, action, after, events, happens⟩ := step
  have happening : Happening setup before action after events :=
    Step.happening ⟨before, action, after, events, happens⟩
  change before.calls[index]? = none at fresh
  cases happening with
  | invoke allowed =>
      refine ⟨rfl, rfl, rfl, ?_, calls⟩
      intro event impossible
      cases impossible
  | @advance moved chance call next state events found advances =>
      cases (own : moved = index)
      cases fresh.symm.trans found
  | @repeatAbort moved cycle call rest found sections awaited =>
      cases (own : moved = index)
      cases fresh.symm.trans found
  | @repeatPanicking moved cycle call rest found sections awaited =>
      cases (own : moved = index)
      cases fresh.symm.trans found
  | dropManager | work => cases own

end Step

/-! ### Calls that leave no trace -/

/-- The call is rejected, or it is a synchronization that has found no server. -/
def Call.Futile (made : List (Step setup)) (index : Nat) (call : Call) : Prop :=
  (∃ fault, call.operation.Rejected setup fault) ∨
    call.operation.requiresServer = true ∧
      ∀ step ∈ made, step.RunsFor index .requireServer → step.before.state.server = none

/-- The call has not begun or is over, and nothing has come of it. -/
structure Call.Untouched (made : List (Step setup)) (index : Nat) (call : Call) : Prop where
  unhurt : call.panicked = false
  sections : call.sections = [] ∨ call.sections = restart
  result : (∃ fault, call.operation.Rejected setup fault) ∨ call.result = .ok ()
  inert : ∀ step ∈ made, step.IsOf index → step.Inert index

namespace Call

variable {made : List (Step setup)} {index : Nat} {call : Call}

theorem Futile.prior {step : Step setup} (futile : call.Futile (made ++ [step]) index) :
    call.Futile made index := by
  rcases futile with rejected | ⟨wants, unbound⟩
  · exact .inl rejected
  · exact .inr ⟨wants, fun other member => unbound other (List.mem_append_left _ member)⟩

theorem make_of_wanting {draw : Draw} {operation : Operation} {onWorker : Bool}
    (wants : operation.requiresServer = true)
    (accepted : ∀ fault, ¬ operation.Rejected setup fault) :
    Call.make setup draw operation onWorker = { operation, onWorker, sections := restart } := by
  cases operation with
  | sync type =>
      have allowed : setup.config.supportedTypes.isSyncAllowed type = true := by
        cases refused : setup.config.supportedTypes.isSyncAllowed type with
        | true => rfl
        | false =>
            exact absurd (.sync (SupportedTypes.isSyncAllowed_eq_false_iff.mp refused))
              (accepted _)
      have planned : plan setup draw (.sync type) = .ok restart := if_pos allowed
      unfold Call.make
      rw [planned]
  | syncAll => rfl
  | start | stop | setServer | setMultiplexer | setDemultiplexer | shutdown => cases wants

theorem Futile.make {operation : Operation} {draw : Draw} {onWorker : Bool}
    (futile : (Call.make setup draw operation onWorker).Futile made index)
    (inert : ∀ step ∈ made, step.IsOf index → step.Inert index) :
    (Call.make setup draw operation onWorker).Untouched made index := by
  unfold Futile at futile
  rw [make_operation] at futile
  by_cases rejected : ∃ fault, operation.Rejected setup fault
  · obtain ⟨fault, rejected⟩ := rejected
    rw [make_of_rejected rejected]
    exact ⟨rfl, .inl rfl, .inl ⟨fault, rejected⟩, inert⟩
  · rcases futile with refused | ⟨wants, _⟩
    · exact absurd refused rejected
    · rw [make_of_wanting wants fun fault refused => rejected ⟨fault, refused⟩]
      exact ⟨rfl, .inr rfl, .inr rfl, inert⟩

end Call

namespace Call.Untouched

variable {made : List (Step setup)} {index : Nat} {step : Step setup} {call : Call}

theorem concat (untouched : call.Untouched made index)
    (inert : step.IsOf index → step.Inert index) : call.Untouched (made ++ [step]) index where
  unhurt := untouched.unhurt
  sections := untouched.sections
  result := untouched.result
  inert := by
    intro other member own
    rcases List.mem_append.mp member with earlier | last
    · exact untouched.inert other earlier own
    · cases List.mem_singleton.mp last
      exact inert own

theorem finished (untouched : call.Untouched made index) :
    { call with sections := [] }.Untouched made index where
  unhurt := untouched.unhurt
  sections := .inl rfl
  result := untouched.result
  inert := untouched.inert

/-- A call that is over has no step left, and the only section that a synchronization runs without
a server is its last. -/
theorem step_of (untouched : call.Untouched made index)
    (finished : ∀ fault, call.operation.Rejected setup fault → call.sections = [])
    (found : step.before.calls[index]? = some call) (own : step.IsOf index)
    (futile : call.Futile (made ++ [step]) index) :
    step.Inert index ∧ step.after.calls[index]? = some { call with sections := [] } := by
  have calls (other : Nat) (elsewhere : other ≠ index) :=
    Step.kept_elsewhere fun again => elsewhere (own.unique again).symm
  obtain ⟨bound, _⟩ := List.getElem?_eq_some_iff.mp found
  have unawaited {cycle : Nat} {rest : List Section}
      (sections : call.sections = .await cycle :: rest) : False := by
    rcases untouched.sections with ended | ahead
    · rw [ended] at sections
      cases sections
    · rw [ahead] at sections
      cases sections
  obtain ⟨before, action, after, events, happens⟩ := step
  have happening : Happening setup before action after events :=
    Step.happening ⟨before, action, after, events, happens⟩
  change before.calls[index]? = some call at found
  cases happening with
  | invoke allowed =>
      have last : before.calls.length = index := own
      change index < before.calls.length at bound
      omega
  | @advance moved chance other next state events present advances =>
      cases (own : moved = index)
      cases Option.some.inj (found.symm.trans present)
      have ahead : call.sections = restart :=
        untouched.sections.resolve_left advances.sections_ne_nil
      have unbound : before.state.server = none := by
        rcases futile with ⟨fault, rejected⟩ | ⟨_, unbound⟩
        · exact absurd (finished fault rejected) advances.sections_ne_nil
        · exact unbound _ (List.mem_append_right _ (List.mem_singleton_self _))
            ⟨chance, call, _, rfl, found, ahead⟩
      cases advances with
      | noServer sections unbound =>
          refine ⟨⟨rfl, rfl, rfl, ?_, calls⟩, List.getElem?_set_self bound⟩
          intro event member
          exact ⟨_, List.mem_singleton.mp member⟩
      | serverFound sections server => cases unbound.symm.trans server
      | start sections | stopPanicking sections | stopWaiting sections | stopPassing sections
      | await sections | bind sections | setMultiplexer sections | setDemultiplexer sections
      | retire sections | dismiss sections | join sections =>
          rw [ahead] at sections
          cases sections
  | @repeatAbort moved cycle other rest present sections awaited =>
      cases (own : moved = index)
      cases Option.some.inj (found.symm.trans present)
      exact (unawaited sections).elim
  | @repeatPanicking moved cycle other rest present sections awaited =>
      cases (own : moved = index)
      cases Option.some.inj (found.symm.trans present)
      exact (unawaited sections).elim
  | dropManager | work => cases own

end Call.Untouched

/-- What the steps made so far have to do with the calls. -/
structure World.Traced (made : List (Step setup)) (world : World) : Prop where
  answers : world.Answers setup
  bound : ∀ step ∈ made, ∀ index, step.IsOf index → index < world.calls.length
  untouched : ∀ (index : Nat) (call : Call), world.calls[index]? = some call →
    call.Futile made index → call.Untouched made index

theorem World.Traced.concat {made : List (Step setup)} {step : Step setup}
    (traced : step.before.Traced made) : step.after.Traced (made ++ [step]) where
  answers := traced.answers.happening step.happening
  bound := by
    intro other member index own
    rcases List.mem_append.mp member with earlier | last
    · exact Nat.lt_of_lt_of_le (traced.bound other earlier index own) step.happening.length_le
    · cases List.mem_singleton.mp last
      exact own.bound
  untouched := by
    intro index call found futile
    by_cases own : step.IsOf index
    · cases present : step.before.calls[index]? with
      | none =>
          -- The call is new, so that no earlier step can have been made for it.
          obtain ⟨operation, draw, onWorker, last, rfl⟩ := step.happening.made present found
          refine (futile.prior.make ?_).concat fun own => Step.inert_of_fresh own present
          intro other earlier own
          exact absurd (traced.bound other earlier index own) (last ▸ Nat.lt_irrefl _)
      | some earlier =>
          have same := step.happening.operation present found
          have futile : earlier.Futile (made ++ [step]) index := by
            unfold Call.Futile at futile ⊢
            rwa [← same]
          have untouched := traced.untouched index earlier present futile.prior
          obtain ⟨inert, finished⟩ := untouched.step_of
            (traced.answers.finished earlier (List.mem_of_getElem? present)) present own futile
          cases found.symm.trans finished
          exact (untouched.concat fun _ => inert).finished
    · rw [Step.kept_elsewhere own] at found
      exact (traced.untouched index call found futile.prior).concat fun again => absurd again own

theorem Run.traced {multiplexer : Option Multiplexer} {demultiplexer : Option Demultiplexer}
    {managerAlive : Bool} {steps : List (Step setup)} {finish : World}
    (run : Run setup (.new multiplexer demultiplexer managerAlive) steps finish) :
    finish.Traced steps := by
  refine run.keeps_history World.Traced ?_ fun made step _ traced => traced.concat
  refine ⟨?_, ?_, ?_⟩
  · have nothing : Run setup _ [] _ := .nil (.new multiplexer demultiplexer managerAlive)
    exact nothing.answers
  · intro step impossible
    cases impossible
  · intro index call impossible
    cases impossible

/-! ### Synchronizations of one type -/

/-- A synchronization that is not rejected, as one of everything. -/
def Operation.widened (setup : Setup) : Operation → Operation
  | .sync type =>
    if setup.config.supportedTypes.isSyncAllowed type then .syncAll else .sync type
  | operation => operation

def Call.widened (setup : Setup) (call : Call) : Call :=
  { call with operation := call.operation.widened setup }

def World.widened (setup : Setup) (world : World) : World :=
  { world with calls := world.calls.map (Call.widened setup) }

def Action.widened (setup : Setup) : Action → Action
  | .invoke operation draw onWorker => .invoke (operation.widened setup) draw onWorker
  | action => action

theorem Operation.plan_widened {draw : Draw} {operation : Operation} :
    plan setup draw (operation.widened setup) = plan setup draw operation := by
  cases operation with
  | sync type =>
      by_cases allowed : setup.config.supportedTypes.isSyncAllowed type = true
      · rw [show (Operation.sync type).widened setup = .syncAll from if_pos allowed]
        exact (if_pos allowed).symm
      · rw [show (Operation.sync type).widened setup = .sync type from if_neg allowed]
  | start | stop | syncAll | setServer | setMultiplexer | setDemultiplexer | shutdown => rfl

theorem Call.make_widened {draw : Draw} {operation : Operation} {onWorker : Bool} :
    Call.make setup draw (operation.widened setup) onWorker =
      (Call.make setup draw operation onWorker).widened setup := by
  unfold Call.make
  rw [Operation.plan_widened]
  cases plan setup draw operation <;> rfl

theorem Call.advance?_widened {state : State} {call : Call} {chance : Chance} :
    (call.widened setup).advance? setup state chance =
      (call.advance? setup state chance).map fun next =>
        { next with call := next.call.widened setup } := by
  -- What a call does is in its sections: its operation is never asked for again.
  obtain ⟨operation, onWorker, sections, result, panicked⟩ := call
  unfold Call.advance? Call.widened
  cases sections with
  | nil => rfl
  | cons part rest =>
      cases part with
      | stop =>
          simp only [Option.map_some, Call.panic]
          split <;> rfl
      | await cycle =>
          dsimp only
          split <;> rfl
      | requireServer =>
          dsimp only
          split <;> rfl
      | join =>
          dsimp only
          split <;> rfl
      | start | bind | setMultiplexer | setDemultiplexer | retire | dismiss => rfl

theorem World.workerIsBusy_widened {world : World} :
    (world.widened setup).workerIsBusy = world.workerIsBusy := by
  unfold World.workerIsBusy World.widened
  rw [List.any_map]
  rfl

/-- Both synchronizations can do the same at any time, and with the same effect. -/
theorem World.act?_widened {world : World} {action : Action} :
    (world.widened setup).act? setup (action.widened setup) =
      (world.act? setup action).map fun (after, events) => (after.widened setup, events) := by
  have calls (index : Nat) : (world.widened setup).calls[index]? =
      world.calls[index]?.map (Call.widened setup) := List.getElem?_map
  have state : (world.widened setup).state = world.state := rfl
  have activity : (world.widened setup).activity = world.activity := rfl
  have managerAlive : (world.widened setup).managerAlive = world.managerAlive := rfl
  cases action with
  | invoke operation draw onWorker =>
      simp only [Action.widened, World.act?, workerIsBusy_widened, activity, Call.make_widened]
      cases onWorker && (!world.activity.inCollaborator || world.workerIsBusy) with
      | true => rfl
      | false => simp [World.widened]
  | advance index chance =>
      simp only [Action.widened, World.act?, calls, state]
      cases world.calls[index]? with
      | none => rfl
      | some call =>
          simp only [Option.map_some, Call.advance?_widened]
          cases call.advance? setup world.state chance with
          | none => rfl
          | some next => simp [World.widened, List.map_set]
  | repeatAbort index closePanics =>
      simp only [Action.widened, World.act?, calls, state]
      cases world.calls[index]? with
      | none => rfl
      | some call =>
          have same : (call.widened setup).repeats? world.state = call.repeats? world.state := rfl
          simp only [Option.map_some, same]
          cases call.repeats? world.state with
          | none => rfl
          | some cycle =>
              cases closePanics with
              | true => simp [World.widened, List.map_set, Call.widened, Call.panic]
              | false => rfl
  | dropManager => rfl
  | work move =>
      simp only [Action.widened, World.act?, workerIsBusy_widened, activity, state, managerAlive]
      cases world.workerIsBusy with
      | true => rfl
      | false =>
          simp only [Bool.false_eq_true, if_false]
          cases work? setup world.managerAlive world.state world.activity move <;> rfl

def Step.widened (step : Step setup) : Step setup where
  before := step.before.widened setup
  action := step.action.widened setup
  after := step.after.widened setup
  events := step.events
  happens := by
    rw [World.act?_widened, step.happens]
    rfl

theorem Run.widened {start finish : World} {steps : List (Step setup)}
    (run : Run setup start steps finish) :
    Run setup (start.widened setup) (steps.map Step.widened) (finish.widened setup) := by
  induction run with
  | nil world => exact .nil (world.widened setup)
  | cons step tail ih => exact .cons step.widened ih

namespace Run

variable {multiplexer : Option Multiplexer} {demultiplexer : Option Demultiplexer}
  {managerAlive : Bool} {steps : List (Step setup)} {finish : World}

theorem rejected (run : Run setup (.new multiplexer demultiplexer managerAlive) steps finish)
    {index : Nat} {call : Call} (found : finish.calls[index]? = some call) {fault : Fault}
    (rejected : call.operation.Rejected setup fault) :
    call.hasReturned = true ∧ call.result = .error fault ∧
      ∀ step ∈ steps, step.IsOf index → step.Inert index := by
  have untouched := run.traced.untouched index call found (.inl ⟨fault, rejected⟩)
  have member := List.mem_of_getElem? found
  have finished := run.answers.finished call member fault rejected
  refine ⟨?_, ?_, untouched.inert⟩
  · rw [Call.hasReturned, Call.isOver, finished, untouched.unhurt]
    rfl
  · rcases run.answers.answers call member with ⟨other, again, result⟩ | ⟨accepted, _⟩
    · rw [rejected.unique again]
      exact result
    · exact absurd rejected (accepted fault)

theorem unserved (run : Run setup (.new multiplexer demultiplexer managerAlive) steps finish)
    {index : Nat} {call : Call} (found : finish.calls[index]? = some call)
    (wants : call.operation.requiresServer = true)
    (accepted : ∀ fault, ¬ call.operation.Rejected setup fault)
    (unbound : ∀ step ∈ steps, step.RunsFor index .requireServer →
      step.before.state.server = none) :
    call.result = .ok () ∧
      (call.hasReturned = true ∨
        ∀ chance, ∃ next, call.advance? setup finish.state chance = some next) ∧
      ∀ step ∈ steps, step.IsOf index → step.Inert index := by
  have untouched := run.traced.untouched index call found (.inr ⟨wants, unbound⟩)
  refine ⟨?_, ?_, untouched.inert⟩
  · rcases untouched.result with ⟨fault, rejected⟩ | ok
    · exact absurd rejected (accepted fault)
    · exact ok
  · rcases untouched.sections with finished | ahead
    · left
      rw [Call.hasReturned, Call.isOver, finished, untouched.unhurt]
      rfl
    · -- No call waits for the section in which it looks for a server.
      rcases Call.advance?_or_waits ahead with goes | ⟨_, waits, _⟩ | waits
      · exact .inr goes
      · cases waits
      · cases waits

/-- Calls that are rejected leave no trace. At any moment and on any thread, a synchronization is
rejected for its type, and a server for its kind or else for its key. Such a call returns its fault
at once, and its steps change nothing but the call itself, ask nothing of a collaborator and abort
nothing. So do those of a synchronization that finds no server, which returns without a fault and
never waits. Any other synchronization of one type is one of everything: with that in its place all
steps are the same, and nothing more can happen or less. -/
theorem rejected_calls_leave_no_trace
    (run : Run setup (.new multiplexer demultiplexer managerAlive) steps finish) :
    (∀ (index : Nat) (call : Call), finish.calls[index]? = some call →
      (∀ type, call.operation = .sync type →
        (call.result = .error (.syncNotAllowed setup.config.channelId type) ↔
          ∀ direction, setup.config.supportedTypes.direction? type = some direction →
            direction.isOutgoing = false)) ∧
      (∀ description, call.operation = .setServer description →
        (call.result =
            .error (.wrongServerKind setup.config.channelId .httpLongPoll description.kind) ↔
          description.kind ≠ .httpLongPoll) ∧
        (call.result = .error .nonContributoryKey ↔ description.kind = .httpLongPoll ∧
          X25519.isContributory
            (X25519.agree setup.keys.agreement description.publicKey) = false)) ∧
      (∀ fault, call.operation.Rejected setup fault →
        call.hasReturned = true ∧ call.result = .error fault ∧
          ∀ step ∈ steps, step.IsOf index → step.Inert index) ∧
      (call.operation.requiresServer = true → (∀ fault, ¬ call.operation.Rejected setup fault) →
        (∀ step ∈ steps, step.RunsFor index .requireServer → step.before.state.server = none) →
        call.result = .ok () ∧
          (call.hasReturned = true ∨
            ∀ chance, ∃ next, call.advance? setup finish.state chance = some next) ∧
          ∀ step ∈ steps, step.IsOf index → step.Inert index)) ∧
    Run setup (.new multiplexer demultiplexer managerAlive) (steps.map Step.widened)
      (finish.widened setup) ∧
    ∀ action, (finish.widened setup).act? setup (action.widened setup) =
      (finish.act? setup action).map fun (after, events) => (after.widened setup, events) := by
  refine ⟨?_, run.widened, fun action => World.act?_widened⟩
  intro index call found
  have answers := run.answers.answers call (List.mem_of_getElem? found)
  refine ⟨?_, ?_, fun fault => run.rejected found, run.unserved found⟩
  · intro type sync
    rw [answers.rejected_iff (by intro reason same; cases same), sync]
    constructor
    · rintro ⟨unsent⟩
      exact unsent
    · exact .sync
  · intro description binds
    rw [answers.rejected_iff (by intro reason same; cases same),
      answers.rejected_iff (by intro reason same; cases same), binds]
    constructor
    · constructor
      · intro rejected
        cases rejected with
        | kind other => exact other
      · exact .kind
    · constructor
      · intro rejected
        cases rejected with
        | key tagged neutral => exact ⟨tagged, neutral⟩
      · rintro ⟨tagged, neutral⟩
        exact .key tagged neutral

/-- The multiplexer asks for a server with a key that nobody shares a secret with, in the middle of
the first cycle. A synchronization has found no server before. -/
theorem rejected_calls_leave_no_trace_compiling : ∃ steps finish early late,
    Run Trial.client Trial.channel steps finish ∧ finish.state.phase = .inFlight ∧
      finish.calls[0]? = some early ∧ early.operation = .syncAll ∧ early.result = .ok () ∧
      (∀ step ∈ steps, step.IsOf 0 → step.Inert 0) ∧ finish.calls[2]? = some late ∧
      late.onWorker = true ∧ late.hasReturned = true ∧ late.result = .error .nonContributoryKey ∧
      ∀ step ∈ steps, step.IsOf 2 → step.Inert 2 := by
  have seen : (Trial.channel.record? Trial.client
      ([.invoke .syncAll Trial.draw false, .advance 0] ++ Trial.bind 1 1 ++ Trial.begin ++
        [.invoke (.setServer (.poll { Trial.server 2 with publicKey := .uniform 0 })) Trial.draw
          true])).any (fun (steps, finish) => finish.state.phase = .inFlight &&
            steps.all (fun step => step.section? ≠ some (0, .requireServer) ||
              step.before.state.server = none) &&
            finish.calls[0]?.any (fun call => call.operation = .syncAll) &&
            finish.calls[2]?.any fun call => call.onWorker && call.operation =
              .setServer (.poll { Trial.server 2 with publicKey := .uniform 0 })) = true := by
    decide +kernel
  obtain ⟨⟨steps, finish⟩, recorded, checked⟩ := (Option.any_eq_true _ _).mp seen
  simp only [Bool.and_eq_true, decide_eq_true_eq] at checked
  obtain ⟨⟨⟨running, unserved⟩, syncs⟩, binds⟩ := checked
  obtain ⟨early, first, syncAll⟩ := (Option.any_eq_true _ _).mp syncs
  obtain ⟨late, last, made⟩ := (Option.any_eq_true _ _).mp binds
  simp only [Bool.and_eq_true, decide_eq_true_eq] at syncAll made
  have run := Run.of_record recorded
  obtain ⟨each, _, _⟩ := rejected_calls_leave_no_trace run
  have unbound (step : Step Trial.client) (member : step ∈ steps)
      (runs : step.RunsFor 0 .requireServer) : step.before.state.server = none := by
    have shown := List.all_eq_true.mp unserved step member
    simpa [Step.runsFor_iff.mp runs] using shown
  obtain ⟨_, _, _, ends⟩ := each 0 early first
  obtain ⟨ok, _, inert⟩ := ends (by rw [syncAll]; rfl) (by rw [syncAll]; rintro fault ⟨⟩) unbound
  have neutral : X25519.isContributory
      (X25519.agree Trial.client.keys.agreement (.uniform 0)) = false := by
    decide +kernel
  obtain ⟨_, _, rejects, _⟩ := each 2 late last
  have rejected : late.operation.Rejected Trial.client .nonContributoryKey := by
    rw [made.2]
    exact .key rfl neutral
  obtain ⟨returned, fault, quiet⟩ := rejects _ rejected
  exact ⟨steps, finish, early, late, run, running, first, syncAll, ok, inert, last, made.1,
    returned, fault, quiet⟩

end Run

end Channel
end LongPoll
