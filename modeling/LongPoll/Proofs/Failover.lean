import LongPoll.Proofs.Departure
import LongPoll.Proofs.Lifecycle
import LongPoll.Proofs.Rejection

set_option autoImplicit false

/-!
What the manager does while it is told of a server that has failed. The failure is classified before
the report, so that the channel is at rest under the manager: its calls on the thread of the worker
find the channel just as another thread would find it after the cycle. The two are compared call by
call, and the first cycle of a channel that the manager has bound to another server goes there.
-/

namespace LongPoll.Channel

variable {setup : Setup}

/-! ### Calls of the manager -/

/-- A collaborator makes a call on the thread of the worker, or one that it has made goes on. -/
def Step.onWorker (step : Step setup) : Bool :=
  match step.action with
  | .invoke _ _ onWorker => onWorker
  | .advance index _ => step.before.calls[index]?.any Call.onWorker
  | _ => false

def Step.makesCall (step : Step setup) : Bool :=
  match step.action with
  | .invoke .. => true
  | _ => false

theorem mem_drop_iff {calls : List Call} {first : Nat} {call : Call} :
    call ∈ calls.drop first ↔ ∃ index, first ≤ index ∧ calls[index]? = some call := by
  rw [List.mem_iff_getElem?]
  simp only [List.getElem?_drop]
  constructor
  · rintro ⟨offset, found⟩
    exact ⟨first + offset, Nat.le_add_right _ _, found⟩
  · rintro ⟨index, own, found⟩
    exact ⟨index - first, by rwa [Nat.add_sub_cancel' own]⟩

/-- A call on the thread of the worker that nothing can make wait once the exchange is over. -/
structure Call.Unhindered (call : Call) : Prop where
  onWorker : call.onWorker = true
  unhurt : call.panicked = false
  unwaiting : ∀ part ∈ call.sections, part.isPlanned = true ∨ part = .dismiss
  retires : .retire ∈ call.sections → call.operation = .shutdown ∧
    (call.sections = [.stop, .retire] ∨ call.sections = [.retire])

/-- On a channel without an exchange a section gives way to the next, unless it retires the
worker. -/
theorem Advances.passes {chance : Chance} {state next : State} {call after : Call}
    {events : List Event} (advances : Advances setup chance state call next after events)
    (quiet : state.inProgress = false) (stays : ∀ rest, call.sections ≠ .retire :: rest) :
    after.panicked = call.panicked ∧
      (after.sections = [] ∨ ∃ part, call.sections = part :: after.sections) := by
  cases advances with
  | stopPanicking sections aborts =>
      simp [State.stopAborts, quiet] at aborts
  | stopWaiting sections busy =>
      rw [quiet] at busy
      cases busy
  | retire sections => exact absurd sections (stays _)
  | noServer => exact ⟨rfl, .inl rfl⟩
  | start sections | stopPassing sections | await sections | serverFound sections | bind sections
  | setMultiplexer sections | setDemultiplexer sections | dismiss sections | join sections =>
      exact ⟨rfl, .inr ⟨_, sections⟩⟩

namespace Call.Unhindered

theorem make {draw : Draw} {operation : Operation} :
    (Call.make setup draw operation true).Unhindered where
  onWorker := Call.make_onWorker
  unhurt := by
    unfold Call.make
    split <;> rfl
  unwaiting := fun part ahead => .inl (Call.make_isPlanned part ahead)
  retires := by
    intro retires
    obtain rfl := Call.make_retires retires
    exact ⟨rfl, .inl rfl⟩

variable {state : State} {call : Call} {chance : Chance}

theorem goes (unhindered : call.Unhindered) (ahead : call.sections ≠ []) :
    ∃ next, call.advance? setup state chance = some next := by
  cases sections : call.sections with
  | nil => exact absurd sections ahead
  | cons part rest =>
      have planned := unhindered.unwaiting part (sections ▸ List.mem_cons_self)
      rcases Call.advance?_or_waits sections with goes | ⟨cycle, rfl, _⟩ | rfl
      · exact goes chance
      · rcases planned with planned | impossible
        · cases planned
        · cases impossible
      · rcases planned with planned | impossible
        · cases planned
        · cases impossible

theorem advance? {next : Call.Advance} (unhindered : call.Unhindered)
    (quiet : state.inProgress = false)
    (advanced : call.advance? setup state chance = some next) : next.call.Unhindered := by
  by_cases retires : ∃ rest, call.sections = .retire :: rest
  · obtain ⟨rest, sections⟩ := retires
    obtain ⟨shutdown, own | own⟩ := unhindered.retires (sections ▸ List.mem_cons_self)
    · cases sections.symm.trans own
    · -- On the thread of the worker a shutdown asks it to leave at most, and does not join it.
      obtain rfl : rest = [] := List.tail_eq_of_cons_eq (sections.symm.trans own)
      rw [advance?_of_retire sections] at advanced
      cases advanced
      have leaving {part : Section} (ahead : part ∈ (if state.worker = .running then .dismiss ::
          (if setup.config.joinWorkerOnDrop && !call.onWorker then [.join] else [])
          else []) ++ []) : part = .dismiss := by
        rw [unhindered.onWorker] at ahead
        by_cases running : state.worker = .running
        · simpa [running] using ahead
        · simp [running] at ahead
      refine ⟨unhindered.onWorker, unhindered.unhurt, fun part ahead => .inr (leaving ahead), ?_⟩
      intro impossible
      cases leaving impossible
  · have advances := advances_of_advance? advanced
    generalize next.state = after, next.call = called, next.events = events at advances
    have stays : ∀ rest, call.sections ≠ .retire :: rest := fun rest own => retires ⟨rest, own⟩
    obtain ⟨panicked, ends | ⟨part, sections⟩⟩ := advances.passes quiet stays
    · refine ⟨advances.onWorker.trans unhindered.onWorker, panicked.trans unhindered.unhurt, ?_, ?_⟩
      · rw [ends]
        nofun
      · rw [ends]
        nofun
    · have before {left : Section} (ahead : left ∈ called.sections) : left ∈ call.sections :=
        sections ▸ List.mem_cons_of_mem _ ahead
      refine ⟨advances.onWorker.trans unhindered.onWorker, panicked.trans unhindered.unhurt,
        fun left ahead => unhindered.unwaiting left (before ahead), ?_⟩
      intro later
      obtain ⟨shutdown, own | own⟩ := unhindered.retires (before later)
      · exact ⟨advances.operation.trans shutdown,
          .inr (List.tail_eq_of_cons_eq (sections.symm.trans own))⟩
      · exact absurd own (stays [])

end Call.Unhindered

/-- The manager is being told of a failure. It has made the calls from an index on, one after
another. -/
structure World.Callback (first : Nat) (world : World) : Prop where
  reporting : ∃ capture, world.activity = .reporting capture
  quiet : world.state.inProgress = false
  bound : first ≤ world.calls.length
  latest : ∀ (index : Nat) (call : Call), world.calls[index]? = some call →
    call.onWorker = true → call.sections ≠ [] → first ≤ index ∧ index + 1 = world.calls.length
  own : ∀ (index : Nat) (call : Call), world.calls[index]? = some call → first ≤ index →
    call.Unhindered

/-- What the manager can do: it makes a call, or the last that it has made goes on. -/
inductive InCallback (setup : Setup) (first : Nat) (before : World) :
    Action → World → List Event → Prop
  | invoke {operation : Operation} {draw : Draw} (free : before.workerIsBusy = false) :
      InCallback setup first before (.invoke operation draw true)
        { before with calls := before.calls ++ [.make setup draw operation true] } []
  | advance {index : Nat} {chance : Chance} {call : Call} {next : Call.Advance}
      (found : before.calls[index]? = some call) (own : first ≤ index)
      (latest : index + 1 = before.calls.length) (unhindered : call.Unhindered)
      (advanced : call.advance? setup before.state chance = some next) :
      InCallback setup first before (.advance index chance)
        { before with state := next.state, calls := before.calls.set index next.call } next.events

theorem World.over_of_free {world : World} (free : world.workerIsBusy = false) {call : Call}
    (member : call ∈ world.calls) (inside : call.onWorker = true) : call.sections = [] := by
  have quiet := List.any_eq_false.mp free call member
  simpa [inside, Call.isOver] using quiet

theorem Step.inCallback {step : Step setup} {first : Nat} (callback : step.before.Callback first)
    (inside : step.onWorker = true) :
    InCallback setup first step.before step.action step.after step.events := by
  unfold Step.onWorker at inside
  cases action : step.action with
  | invoke operation draw onWorker =>
      rw [action] at inside
      obtain rfl : onWorker = true := inside
      have happening := action ▸ step.happening
      generalize step.after = after, step.events = events at happening
      cases happening with
      | invoke allowed => exact .invoke (allowed rfl).2
  | advance index chance =>
      rw [action] at inside
      obtain ⟨call, found, onWorker⟩ := (Option.any_eq_true _ _).mp inside
      obtain ⟨other, next, same, advanced, after, events⟩ := step.advanced action
      obtain rfl : call = other := Option.some.inj (found.symm.trans same)
      have ahead : call.sections ≠ [] := (advances_of_advance? advanced).sections_ne_nil
      obtain ⟨own, latest⟩ := callback.latest index call found onWorker ahead
      rw [after, events]
      exact .advance found own latest (callback.own index call found own) advanced
  | repeatAbort | dropManager | work =>
      rw [action] at inside
      cases inside

theorem World.Callback.goes {first : Nat} {before after : World} {action : Action}
    {events : List Event} (callback : before.Callback first)
    (goes : InCallback setup first before action after events) : after.Callback first := by
  cases goes with
  | @invoke operation draw free =>
      refine ⟨callback.reporting, callback.quiet, ?_, ?_, ?_⟩
      · simp only [List.length_append, List.length_singleton]
        exact Nat.le_succ_of_le callback.bound
      · intro index call found inside ahead
        rcases getElem?_concat_eq_some found with old | ⟨rfl, rfl⟩
        · exact absurd (over_of_free free (List.mem_of_getElem? old) inside) ahead
        · exact ⟨callback.bound, by simp⟩
      · intro index call found own
        rcases getElem?_concat_eq_some found with old | ⟨rfl, rfl⟩
        · exact callback.own index call old own
        · exact .make
  | @advance index chance call next found own latest unhindered advanced =>
      have quiet := (advances_of_advance? advanced).inProgress.trans callback.quiet
      refine ⟨callback.reporting, quiet, ?_, ?_, ?_⟩
      · simpa using callback.bound
      · intro other shown present inside ahead
        rw [List.length_set]
        rcases getElem?_set_eq_some present with ⟨_, old⟩ | ⟨rfl, rfl⟩
        · exact callback.latest other shown old inside ahead
        · exact ⟨own, latest⟩
      · intro other shown present mine
        rcases getElem?_set_eq_some present with ⟨_, old⟩ | ⟨rfl, rfl⟩
        · exact callback.own other shown old mine
        · exact unhindered.advance? callback.quiet advanced

/-! ### The same calls from another thread -/

/-- What another thread does to make the same call. -/
def Action.outside : Action → Action
  | .invoke operation draw _ => .invoke operation draw false
  | action => action

/-- A call of the manager and the same call of another thread. The two can only differ once they
have asked the worker to leave: another thread then joins it. -/
inductive Call.Mirrors (inside outside : Call) : Prop
  | same (same : outside = { inside with onWorker := false })
  | joins (shutdown : inside.operation = .shutdown)
      (left : inside.sections = [.dismiss] ∨ inside.sections = [])
      (joins : outside =
        { inside with onWorker := false, sections := inside.sections ++ [.join] })

/-- The same channel, with the calls from an index on made by another thread. -/
structure World.Mirrors (first : Nat) (inside outside : World) : Prop where
  state : outside.state = inside.state
  managerAlive : outside.managerAlive = inside.managerAlive
  length : outside.calls.length = inside.calls.length
  older : ∀ index, index < first → outside.calls[index]? = inside.calls[index]?
  own : ∀ (index : Nat) (call : Call), first ≤ index → inside.calls[index]? = some call →
    ∃ other, outside.calls[index]? = some other ∧ call.Mirrors other

structure Step.Mirrors (first : Nat) (inside outside : Step setup) : Prop where
  action : outside.action = inside.action.outside
  events : outside.events = inside.events
  before : World.Mirrors first inside.before outside.before
  after : World.Mirrors first inside.after outside.after

/-- Two sequences of steps that mirror each other one by one. -/
inductive Lockstep (first : Nat) : List (Step setup) → List (Step setup) → Prop
  | nil : Lockstep first [] []
  | cons {inside outside : Step setup} {rest others : List (Step setup)}
      (mirrors : inside.Mirrors first outside) (tail : Lockstep first rest others) :
      Lockstep first (inside :: rest) (outside :: others)

theorem Call.make_outside {draw : Draw} {operation : Operation} :
    Call.make setup draw operation false =
      { Call.make setup draw operation true with onWorker := false } := by
  unfold Call.make
  cases plan setup draw operation <;> rfl

/-- On a channel without an exchange it makes no difference to a call which thread has made it,
unless it retires the worker. -/
theorem Call.advance?_outside {state : State} {call : Call} {chance : Chance}
    (quiet : state.inProgress = false) (stays : ∀ rest, call.sections ≠ .retire :: rest) :
    ({ call with onWorker := false } : Call).advance? setup state chance =
      (call.advance? setup state chance).map fun next =>
        { next with call := { next.call with onWorker := false } } := by
  obtain ⟨operation, onWorker, sections, result, panicked⟩ := call
  unfold Call.advance?
  cases sections with
  | nil => rfl
  | cons part rest =>
      cases part with
      | retire => exact absurd rfl (stays rest)
      | stop => simp [State.stop, State.stopAborts, quiet]
      | await cycle | requireServer | join =>
          dsimp only
          split <;> rfl
      | start | bind | setMultiplexer | setDemultiplexer | dismiss => rfl

theorem Call.retire_outside {state : State} {call : Call} {chance : Chance}
    {next : Call.Advance} (sections : call.sections = [.retire])
    (shutdown : call.operation = .shutdown) (inside : call.onWorker = true)
    (advanced : call.advance? setup state chance = some next) :
    ∃ other, ({ call with onWorker := false } : Call).advance? setup state chance = some other ∧
      other.state = next.state ∧ other.events = next.events ∧ next.call.Mirrors other.call := by
  have outside : ({ call with onWorker := false } : Call).sections = [.retire] := sections
  rw [advance?_of_retire sections] at advanced
  rw [advance?_of_retire outside]
  cases advanced
  refine ⟨_, rfl, rfl, rfl, ?_⟩
  by_cases joins : state.worker = .running ∧ setup.config.joinWorkerOnDrop = true
  · refine .joins shutdown (.inl ?_) ?_
    · simp [joins, inside]
    · simp [joins, inside]
  · refine .same ?_
    by_cases running : state.worker = .running
    · have detached : setup.config.joinWorkerOnDrop = false := by simpa [running] using joins
      simp [running, detached]
    · simp [running]

theorem Call.Mirrors.advance? {state : State} {inside outside : Call} {chance : Chance}
    {next : Call.Advance} (mirrors : inside.Mirrors outside) (unhindered : inside.Unhindered)
    (quiet : state.inProgress = false)
    (advanced : inside.advance? setup state chance = some next) :
    ∃ other, outside.advance? setup state chance = some other ∧ other.state = next.state ∧
      other.events = next.events ∧ next.call.Mirrors other.call := by
  cases mirrors with
  | same same =>
      subst same
      by_cases retires : ∃ rest, inside.sections = .retire :: rest
      · obtain ⟨rest, sections⟩ := retires
        obtain ⟨shutdown, own | own⟩ := unhindered.retires (sections ▸ List.mem_cons_self)
        · cases sections.symm.trans own
        · exact retire_outside own shutdown unhindered.onWorker advanced
      · have stays : ∀ rest, inside.sections ≠ .retire :: rest := fun rest own =>
          retires ⟨rest, own⟩
        rw [advance?_outside quiet stays, advanced]
        exact ⟨_, rfl, rfl, rfl, .same rfl⟩
  | joins shutdown left joins =>
      subst joins
      obtain ⟨operation, onWorker, sections, result, panicked⟩ := inside
      rcases left with rfl | rfl
      · cases advanced
        exact ⟨_, rfl, rfl, rfl, .joins shutdown (.inr rfl) rfl⟩
      · cases advanced

namespace World.Mirrors

variable {first : Nat} {before after outside : World} {action : Action} {events : List Event}

theorem goes (mirrors : World.Mirrors first before outside) (callback : before.Callback first)
    (goes : InCallback setup first before action after events) :
    ∃ next, outside.act? setup action.outside = some (next, events) ∧
      next.activity = outside.activity ∧ World.Mirrors first after next := by
  cases goes with
  | @invoke operation draw free =>
      refine ⟨{ outside with
        calls := outside.calls ++ [.make setup draw operation false] }, rfl, rfl,
        mirrors.state, mirrors.managerAlive, ?_, ?_, ?_⟩
      · simp [mirrors.length]
      · intro index older
        have inside : index < before.calls.length := Nat.lt_of_lt_of_le older callback.bound
        rw [List.getElem?_append_left inside,
          List.getElem?_append_left (mirrors.length.symm ▸ inside)]
        exact mirrors.older index older
      · intro index call own found
        rcases getElem?_concat_eq_some found with old | ⟨rfl, rfl⟩
        · obtain ⟨other, present, same⟩ := mirrors.own index call own old
          obtain ⟨bound, _⟩ := List.getElem?_eq_some_iff.mp present
          exact ⟨other, (List.getElem?_append_left bound).trans present, same⟩
        · refine ⟨.make setup draw operation false, ?_, .same Call.make_outside⟩
          rw [← mirrors.length]
          exact List.getElem?_concat_length
  | @advance index chance call next found own latest unhindered advanced =>
      obtain ⟨other, present, same⟩ := mirrors.own index call own found
      obtain ⟨moved, goes, state, events, still⟩ :=
        same.advance? unhindered callback.quiet advanced
      refine ⟨{ outside with state := moved.state, calls := outside.calls.set index moved.call },
        ?_, rfl, state, mirrors.managerAlive, ?_, ?_, ?_⟩
      · simp only [Action.outside, World.act?, present, mirrors.state, goes, events]
      · simp [mirrors.length]
      · intro place older
        have elsewhere : index ≠ place := by omega
        rw [List.getElem?_set_ne elsewhere, List.getElem?_set_ne elsewhere]
        exact mirrors.older place older
      · intro place shown mine seen
        rcases getElem?_set_eq_some seen with ⟨elsewhere, old⟩ | ⟨rfl, rfl⟩
        · obtain ⟨twin, there, alike⟩ := mirrors.own place shown mine old
          exact ⟨twin, (List.getElem?_set_ne elsewhere).trans there, alike⟩
        · obtain ⟨bound, _⟩ := List.getElem?_eq_some_iff.mp present
          exact ⟨moved.call, List.getElem?_set_self bound, still⟩

/-- Between two calls of the manager those made by another thread are over, unless one is a
shutdown. -/
theorem finished (mirrors : World.Mirrors first before outside) (callback : before.Callback first)
    (free : before.workerIsBusy = false)
    (unshut : ∀ call ∈ before.calls.drop first, call.operation ≠ .shutdown) :
    ∀ call ∈ outside.calls.drop first, call.isOver = true := by
  intro call member
  obtain ⟨index, own, found⟩ := mem_drop_iff.mp member
  obtain ⟨bound, _⟩ := List.getElem?_eq_some_iff.mp found
  obtain ⟨inside, present⟩ : ∃ inside, before.calls[index]? = some inside :=
    ⟨_, List.getElem?_eq_getElem (mirrors.length ▸ bound)⟩
  have finished := World.over_of_free free (List.mem_of_getElem? present)
    (callback.own index inside present own).onWorker
  obtain ⟨other, same, alike⟩ := mirrors.own index inside own present
  obtain rfl : call = other := Option.some.inj (found.symm.trans same)
  cases alike with
  | same same =>
      rw [same, Call.isOver, finished]
      rfl
  | joins shutdown => exact absurd shutdown (unshut inside (mem_drop_iff.mpr ⟨index, own, present⟩))

end World.Mirrors

theorem Lockstep.exists_mirror {first : Nat} {inside others : List (Step setup)}
    (lockstep : Lockstep first inside others) {other : Step setup} (member : other ∈ others) :
    ∃ step ∈ inside, step.Mirrors first other := by
  induction lockstep with
  | nil => cases member
  | cons mirrors tail ih =>
      rcases List.mem_cons.mp member with rfl | later
      · exact ⟨_, List.mem_cons_self, mirrors⟩
      · obtain ⟨step, among, same⟩ := ih later
        exact ⟨step, List.mem_cons_of_mem _ among, same⟩

/-- The manager makes a call although it has shut the channel down in the same callback. -/
def Step.behindShutdown (first : Nat) (step : Step setup) : Bool :=
  step.makesCall && (step.before.calls.drop first).any fun call => call.operation = .shutdown

/-- A thread makes a call when those that it has made from an index on are over. -/
def Step.InTurn (first : Nat) (step : Step setup) : Prop :=
  step.makesCall = true → ∀ call ∈ step.before.calls.drop first, call.isOver = true

theorem Step.Mirrors.inTurn {first : Nat} {inside outside : Step setup}
    (mirrors : inside.Mirrors first outside) (callback : inside.before.Callback first)
    (alone : inside.onWorker = true) (last : inside.behindShutdown first = false) :
    outside.InTurn first := by
  intro makes
  have goes := inside.inCallback callback alone
  unfold makesCall at makes
  unfold behindShutdown makesCall at last
  rw [mirrors.action] at makes
  generalize inside.action = made, inside.after = after, inside.events = events
    at goes makes last
  cases goes with
  | invoke free =>
      apply mirrors.before.finished callback free
      intro call member shutdown
      exact List.any_eq_false.mp last call member (decide_eq_true shutdown)
  | advance => cases makes

namespace Run

variable {start finish : World} {inside : List (Step setup)} {first : Nat}

theorem callback_at (run : Run setup start inside finish) (callback : start.Callback first)
    (alone : ∀ step ∈ inside, step.onWorker = true) :
    ∀ step ∈ inside, step.before.Callback first ∧ step.after.Callback first :=
  run.keeps_at (World.Callback first) callback fun step member before =>
    before.goes (step.inCallback before (alone step member))

theorem callback (run : Run setup start inside finish) (callback : start.Callback first)
    (alone : ∀ step ∈ inside, step.onWorker = true) : finish.Callback first :=
  run.keeps (World.Callback first) callback fun step member before =>
    before.goes (step.inCallback before (alone step member))

/-- Another thread can make all calls of a callback after the cycle, and to the same effect. -/
theorem lockstep (run : Run setup start inside finish) (callback : start.Callback first)
    (alone : ∀ step ∈ inside, step.onWorker = true) {outside : World}
    (mirrors : World.Mirrors first start outside) :
    ∃ others apart, Run setup outside others apart ∧ Lockstep first inside others ∧
      World.Mirrors first finish apart ∧ apart.activity = outside.activity := by
  induction run generalizing outside with
  | nil world => exact ⟨[], outside, .nil outside, .nil, mirrors, rfl⟩
  | cons step tail ih =>
      have goes := step.inCallback callback (alone step List.mem_cons_self)
      obtain ⟨next, happens, activity, still⟩ := mirrors.goes callback goes
      obtain ⟨others, apart, run, lockstep, ended, kept⟩ := ih (callback.goes goes)
        (fun other later => alone other (List.mem_cons_of_mem _ later)) still
      let twin : Step setup := ⟨outside, step.action.outside, next, step.events, happens⟩
      exact ⟨twin :: others, apart, .cons twin run, .cons ⟨rfl, rfl, mirrors, still⟩ lockstep,
        ended, kept.trans activity⟩

end Run

/-! ### Binding another server -/

/-- How far a call has come that binds a server and starts the channel. -/
inductive Call.Binds (state : State) (call : Call) (server : PollServer) (session : Session) : Prop
  | ahead (sections : call.sections = [.stop, .bind server session, .start])
  | stopped (sections : call.sections = [.bind server session, .start])
      (off : state.stopped = true)
  | bound (sections : call.sections = [.start]) (off : state.stopped = true)
      (server : state.server = some server) (session : state.session = some session)
  | started (sections : call.sections = []) (server : state.server = some server)
      (session : state.session = some session)
      (goesOn : state.worker ≠ .retired →
        state.stopped = false ∧ state.taskPosted = true ∧ call.result = .ok ())

theorem Call.make_setServer {draw : Draw} {description : ServerDescription} {onWorker : Bool}
    (accepted : ∀ fault, ¬ (Operation.setServer description).Rejected setup fault) :
    ∃ server session, description.poll? = some server ∧
      session.DerivedFor setup.keys server.publicKey ∧
      (Call.make setup draw (.setServer description) onWorker).sections =
        [.stop, .bind server session, .start] := by
  unfold Call.make
  cases planned : plan setup draw (.setServer description) with
  | error fault => exact absurd (plan_eq_error_iff.mp planned) (accepted fault)
  | ok sections =>
      cases planned_of_plan planned with
      | @setServer _ server session found derived =>
          refine ⟨server, session, ?_, ⟨_, _, derived⟩, rfl⟩
          unfold pollServer at found
          split at found
          · cases found
          · rename_i other described
            cases found
            exact described

theorem Started.goesOn {channelId : String} {spawnFault : Option String} {state next : State}
    {activity : Activity} {result : Except Fault Unit} (consistent : Consistent state activity)
    (busy : activity ≠ .idle) (quiet : state.inProgress = false) (off : state.stopped = true)
    (ends : Started channelId spawnFault state next result) (unretired : next.worker ≠ .retired) :
    next.stopped = false ∧ next.taskPosted = true ∧ result = .ok () := by
  cases ends with
  | unspawned first => exact absurd first (consistent.started_worker busy)
  | alreadyRunning running =>
      rw [off] at running
      cases running
  | resumed _ ahead =>
      -- No cycle is in progress, so that the start has found one posted.
      rcases ahead with posted | busy
      · exact ⟨rfl, posted, rfl⟩
      · rw [quiet] at busy
        cases busy
  | posted => exact ⟨rfl, rfl, rfl⟩
  | refused _ _ _ unserved =>
      have before : state.worker ≠ .retired := by
        intro retired
        rw [State.equip_of_retired retired] at unretired
        exact unretired retired
      rw [consistent.serves_equip before] at unserved
      cases unserved

theorem Call.Binds.advances {state next : State} {activity : Activity} {call after : Call}
    {chance : Chance} {events : List Event} {server : PollServer} {session : Session}
    (binds : call.Binds state server session) (consistent : Consistent state activity)
    (busy : activity ≠ .idle) (quiet : state.inProgress = false)
    (advances : Advances setup chance state call next after events) :
    after.Binds next server session := by
  cases binds with
  | ahead sections =>
      obtain rfl : next = state.stop := advances.shown sections
      rcases advances.leaves sections with ⟨aborts, _⟩ | ⟨waits, _⟩ | ⟨_, rfl⟩
      · simp [State.stopAborts, quiet] at aborts
      · rw [quiet] at waits
        cases waits
      · exact .stopped rfl rfl
  | stopped sections off =>
      obtain rfl : next = state.bind server session := advances.shown sections
      obtain rfl := advances.leaves sections
      exact .bound rfl off rfl rfl
  | bound sections off bound opened =>
      have started := advances.of_start sections
      obtain ⟨result, rfl⟩ := advances.leaves sections
      exact .started rfl (started.server.trans bound) (started.session.trans opened)
        (started.goesOn consistent busy quiet off)
  | started sections => exact absurd sections advances.sections_ne_nil

/-- If the last call of the manager is to bind a server, it is on the way to it. -/
def World.BindsLast (setup : Setup) (first : Nat) (world : World) : Prop :=
  ∀ (index : Nat) (call : Call) (description : ServerDescription), first ≤ index →
    index + 1 = world.calls.length → world.calls[index]? = some call →
    call.operation = .setServer description →
    (∀ fault, ¬ call.operation.Rejected setup fault) →
    ∃ server session, description.poll? = some server ∧
      session.DerivedFor setup.keys server.publicKey ∧ call.Binds world.state server session

theorem World.BindsLast.goes {first : Nat} {before after : World} {action : Action}
    {events : List Event} (binds : before.BindsLast setup first)
    (consistent : Consistent before.state before.activity) (callback : before.Callback first)
    (goes : InCallback setup first before action after events) : after.BindsLast setup first := by
  intro index call description own latest found operation accepted
  cases goes with
  | @invoke made draw free =>
      rcases getElem?_concat_eq_some found with old | ⟨rfl, rfl⟩
      · obtain ⟨bound, _⟩ := List.getElem?_eq_some_iff.mp old
        simp only [List.length_append, List.length_singleton] at latest
        omega
      · rw [Call.make_operation] at operation accepted
        subst operation
        obtain ⟨server, session, described, derived, sections⟩ := Call.make_setServer accepted
        exact ⟨server, session, described, derived, .ahead sections⟩
  | @advance moved chance earlier next present mine still unhindered advanced =>
      rw [List.length_set] at latest
      obtain rfl : index = moved := by omega
      rcases getElem?_set_eq_some found with ⟨elsewhere, _⟩ | ⟨_, rfl⟩
      · exact absurd rfl elsewhere
      · have advances := advances_of_advance? advanced
        rw [advances.operation] at operation accepted
        obtain ⟨server, session, described, derived, far⟩ :=
          binds index earlier description own still present operation accepted
        obtain ⟨capture, reporting⟩ := callback.reporting
        have busy : before.activity ≠ .idle := by
          rw [reporting]
          nofun
        exact ⟨server, session, described, derived,
          far.advances consistent busy callback.quiet advances⟩

/-! ### The next request -/

theorem Step.session {step : Step setup}
    (unbound : ∀ server session, ¬ step.Runs (.bind server session)) :
    step.after.state.session = step.before.state.session := by
  have happening := step.happening
  unfold Runs RunsFor at unbound
  generalize step.before = before, step.action = action, step.after = after,
    step.events = events at happening unbound
  cases happening with
  | work free turn => exact turn.session
  | advance found advances =>
      cases advances with
      | start sections started => exact started.session
      | bind sections => exact absurd ⟨_, _, _, _, rfl, found, sections⟩ (unbound _ _)
      | _ => rfl
  | _ => rfl

theorem Run.session {start finish : World} {steps : List (Step setup)}
    (run : Run setup start steps finish)
    (unbound : ∀ step ∈ steps, ∀ server session, ¬ step.Runs (.bind server session)) :
    finish.state.session = start.state.session :=
  run.keeps (fun world => world.state.session = start.state.session) rfl
    fun step member same => (step.session (unbound step member)).trans same

/-- The steps of the worker from a posted cycle to its request. -/
def requestMoves (body : Bytes) (nonce : Nonce) : List Move :=
  [.take, .begin, .compiled (.returned body) (.returned nonce), .check, .send]

theorem Run.work {state next : State} {activity after : Activity} {calls : List Call}
    {managerAlive : Bool} {move : Move} {moves : List Move} {events : List Event} {finish : World}
    (free : World.workerIsBusy { state, activity, calls, managerAlive } = false)
    (works : work? setup managerAlive state activity move =
      some { state := next, activity := after, events })
    (tail : ∃ steps, Run setup { state := next, activity := after, calls, managerAlive } steps
      finish ∧ steps.map Step.action = moves.map .work) :
    ∃ steps, Run setup { state, activity, calls, managerAlive } steps finish ∧
      steps.map Step.action = (move :: moves).map .work := by
  obtain ⟨steps, run, actions⟩ := tail
  let step : Step setup := {
    before := { state, activity, calls, managerAlive }
    action := .work move
    after := { state := next, activity := after, calls, managerAlive }
    events
    happens := by simp [World.act?, free, works] }
  exact ⟨step :: steps, .cons step run, congrArg (Action.work move :: ·) actions⟩

theorem World.sends_next {world : World} (idle : world.activity = .idle)
    (free : world.workerIsBusy = false) (next : world.state.queue.jobs = [.poll])
    (running : world.state.stopped = false) (furnished : world.state.furnished = true)
    (body : Bytes) (nonce : Nonce) :
    ∃ steps finish capture request, Run setup world steps finish ∧
      steps.map Step.action = (requestMoves body nonce).map .work ∧
      finish.activity = .sending capture request ∧ world.state.Provides capture := by
  obtain ⟨state, activity, calls, managerAlive⟩ := world
  obtain rfl : activity = .idle := idle
  obtain ⟨capture, captured⟩ : ∃ capture, state.capture setup.config.channelId = .ok capture :=
    State.capture_of_furnished furnished
  let taken : State := { state with queue := { state.queue with jobs := [] } }
  let begun : State :=
    { taken with taskPosted := false, inProgress := true, cycleSeq := taken.cycleSeq + 1 }
  let request := capture.session.request capture.server.url nonce body
  have takes : work? setup managerAlive state .idle .take =
      some { state := taken, activity := .taken } := by
    change takeJob? state = _
    have jobs : state.queue.jobs = [.poll] := next
    simp only [takeJob?, jobs, taken]
  have begins : work? setup managerAlive taken .taken .begin = some
      { state := begun, activity := .compiling capture, events := [.compile capture] } := by
    have same : taken.capture setup.config.channelId = .ok capture := captured
    have on : taken.stopped = false := running
    change some (beginCycle setup.config.channelId taken) = _
    rw [beginCycle, State.begin_of_captured on same]
  have unhit : begun.interrupted capture = false := by
    obtain ⟨_, epoch, _⟩ := State.capture_eq_ok captured
    have on : begun.stopped = false := running
    have asked : begun.abortRequests = capture.abortEpoch := epoch.symm
    simp [State.interrupted, on, asked]
  have checks : work? setup managerAlive begun (.built capture request) .check =
      some { state := begun, activity := .cleared capture request } := by
    change some (checkStops setup.config.channelId begun capture request) = _
    rw [checkStops, if_neg (by simp [unhit])]
  obtain ⟨steps, run, actions⟩ : ∃ steps, Run setup { state, calls, managerAlive } steps
      { state := begun, activity := .sending capture request, calls, managerAlive } ∧
      steps.map Step.action = (requestMoves body nonce).map .work :=
    Run.work free takes <| Run.work free begins <| Run.work free rfl <| Run.work free checks <|
      Run.work free rfl ⟨[], .nil _, rfl⟩
  exact ⟨steps, _, capture, request, run, actions, rfl, State.provides captured⟩

/-- A channel is on and bound to a server, and its worker goes there next: one cycle is posted, it
can get to its request, and every request goes to the server as long as no other is bound. -/
structure World.GoesOnWith (setup : Setup) (world : World) (server : PollServer)
    (session : Session) : Prop where
  phase : world.state.phase = .scheduled
  bound : world.state.server = some server
  opened : world.state.session = some session
  derived : session.DerivedFor setup.keys server.publicKey
  posted : world.state.taskPosted = true
  queue : world.state.queue.jobs = [.poll]
  reaches : ∀ body nonce, ∃ steps finish capture request, Run setup world steps finish ∧
    steps.map Step.action = (requestMoves body nonce).map .work ∧
    finish.activity = .sending capture request ∧ capture.server = server ∧
    capture.session = session
  requests : ∀ steps (step : Step setup), Run setup world steps step.before →
    (∀ other ∈ steps, ∀ server session, ¬ other.Runs (.bind server session)) →
    ∀ capture request, .send capture request ∈ step.events →
      capture.server = server ∧ request.SealedFor setup.keys server session

theorem Consistent.jobs_of_posted {state : State} (consistent : Consistent state .idle)
    (running : state.worker = .running) (posted : state.taskPosted = true) :
    state.queue.jobs = [.poll] := by
  obtain ⟨_, unasked, _⟩ := consistent.serving running
  have polls : state.queue.jobs = List.replicate state.queue.jobs.length .poll := by
    refine List.eq_replicate_iff.mpr ⟨rfl, ?_⟩
    intro job member
    cases job with
    | poll => rfl
    | exit => exact absurd member unasked
  have one := consistent.pending
  rw [posted, polls, List.count_replicate_self] at one
  have length : state.queue.jobs.length = 1 := by
    simpa [Activity.heldPolls] using one
  rw [polls, length]
  rfl

theorem Run.request_bound {start : World} {steps : List (Step setup)} {step : Step setup}
    (run : Run setup start steps step.before) (idle : start.activity = .idle)
    (paired : start.Paired setup.keys)
    (unbound : ∀ other ∈ steps, ∀ server session, ¬ other.Runs (.bind server session))
    {capture : Capture} {request : FormPost} (sent : .send capture request ∈ step.events)
    {server : PollServer} {session : Session} (bound : start.state.server = some server)
    (opened : start.state.session = some session) :
    capture.server = server ∧ request.SealedFor setup.keys server session := by
  obtain ⟨begin, _, begun, goes⟩ := run.event_goesBy idle paired sent rfl
  obtain ⟨⟨move, action⟩, _⟩ := step.arises sent rfl
  cases goes with
  | @send _ found derived goes own sealed =>
      obtain ⟨prior, during, whole, _⟩ := begun.once
      have longer : Run setup start (steps ++ [step]) step.after :=
        run.append (.cons step (.nil step.after))
      have kept : ∀ other ∈ prior, ∀ server session, ¬ other.Runs (.bind server session) := by
        intro other early
        have among : other ∈ steps ++ [step] := whole ▸ List.mem_append_left _ early
        rcases List.mem_append.mp among with old | last
        · exact unbound other old
        · rintro server session ⟨index, chance, _, _, advances, _⟩
          rw [List.mem_singleton.mp last, action] at advances
          cases advances
      -- The cycle of the request has taken the binding that it began under.
      have path := (whole ▸ longer).cut.1
      have same := (path.server kept).trans bound
      have alike := (path.session kept).trans opened
      cases Option.some.inj (goes.symm.trans same)
      cases Option.some.inj (own.symm.trans alike)
      exact ⟨Option.some.inj (begun.provides.server.symm.trans same), sealed⟩

/-! ### The whole callback -/

/-- The manager is told when the cycle has settled everything, and finds no call under way on the
thread of the worker. -/
theorem Step.callback_of_reports {step : Step setup} {capture : Capture}
    (reported : .serverFailed capture ∈ step.events) :
    step.after.activity = .reporting capture ∧ step.after.workerIsBusy = false ∧
      step.after.Callback step.after.calls.length := by
  have told : capture ∈ step.reports := List.mem_filterMap.mpr ⟨_, reported, rfl⟩
  obtain ⟨fault, action, failed, _⟩ := Step.of_reports told
  have settled : step.after.state = { step.before.state.settle with stopped := true } ∧
      step.after.activity = .reporting capture := by
    rcases Step.classifies action failed with ⟨_, _, untold, _⟩ | ⟨_, state, ends, reports⟩
    · rw [untold] at told
      cases told
    · cases alive : step.before.managerAlive with
      | true =>
          rw [alive] at ends
          exact ⟨state, ends⟩
      | false =>
          rw [reports, alive] at told
          cases told
  have free : step.after.workerIsBusy = false := by
    have happening := action ▸ step.happening
    generalize step.after = after, step.events = events at happening
    cases happening with
    | work free turn => exact free
  refine ⟨settled.2, free, ⟨capture, settled.2⟩, ?_, Nat.le_refl _, ?_, ?_⟩
  · rw [settled.1]
    rfl
  · intro index call found inside ahead
    exact absurd (World.over_of_free free (List.mem_of_getElem? found) inside) ahead
  · intro index call found own
    rw [List.getElem?_eq_none own] at found
    cases found

theorem Step.of_reported {step : Step setup} {panicked : Bool}
    (ends : step.action = .work (.reported panicked)) :
    step.before.workerIsBusy = false ∧ step.after = { step.before with activity := .idle } ∧
      step.events = if panicked then [.notice .managerPanicked] else [] := by
  have happening := ends ▸ step.happening
  generalize step.after = after, step.events = events at happening
  cases happening with
  | work free turn =>
      refine ⟨free, ?_⟩
      generalize step.before = before at turn
      obtain ⟨state, activity, calls, managerAlive⟩ := before
      change Turn setup managerAlive state activity _ _ _ _ at turn
      cases turn with
      | proceed proceeds => cases proceeds
      | reported => exact ⟨rfl, rfl⟩

namespace Run

variable {multiplexer : Option Multiplexer} {demultiplexer : Option Demultiplexer}
  {managerAlive : Bool} {earlier inside : List (Step setup)} {report ended : Step setup}
  {capture : Capture} {panicked : Bool}

theorem furnished_of_reports
    (before : Run setup (.new multiplexer demultiplexer managerAlive) earlier report.before)
    (reported : .serverFailed capture ∈ report.events) : report.after.state.furnished = true := by
  have told : capture ∈ report.reports := List.mem_filterMap.mpr ⟨_, reported, rfl⟩
  obtain ⟨fault, action, failed, _⟩ := Step.of_reports told
  have within := (Activity.fallible?_of_failure? failed).2
  obtain ⟨begin, begun⟩ := before.begunBy rfl (.inl ⟨⟨_, action⟩, within⟩)
  have sound := before.sound (.new multiplexer demultiplexer managerAlive)
  -- The cycle that fails has begun, and from the first cycle on nothing is missing.
  have number := sound.consistent.current capture within
  have first := begun.begins.beginning.cycle
  have fresh : Furnished (World.new multiplexer demultiplexer managerAlive).state := nofun
  exact report.happening.keepsFurnished (before.furnished fresh (by omega))

theorem bindsLast (during : Run setup report.after inside ended.before)
    (sound : report.after.Sound) (callback : report.after.Callback report.after.calls.length)
    (alone : ∀ step ∈ inside, step.onWorker = true) :
    ended.before.BindsLast setup report.after.calls.length := by
  refine during.keeps (World.BindsLast setup report.after.calls.length) ?_ ?_
  · intro index call description own latest
    omega
  · intro step member binds
    have called := (during.callback_at callback alone step member).1
    exact binds.goes (during.sound_at sound step member).1.consistent called
      (step.inCallback called (alone step member))

theorem staffed {start finish : World} {steps : List (Step setup)}
    (run : Run setup start steps finish) (staffed : start.Staffed)
    (unshut : ∀ step ∈ steps, step.action.isShutdown = false) : finish.Staffed :=
  run.keeps World.Staffed staffed fun step member before =>
    before.happening step.happening (unshut step member)

theorem running_of_unshut
    (before : Run setup (.new multiplexer demultiplexer managerAlive) earlier report.before)
    (reported : .serverFailed capture ∈ report.events)
    (during : Run setup report.after inside ended.before)
    (alone : ∀ step ∈ inside, step.onWorker = true)
    (unshut : ∀ step ∈ earlier ++ inside, step.action.isShutdown = false) :
    ended.before.state.worker = .running := by
  obtain ⟨_, _, callback⟩ := Step.callback_of_reports reported
  obtain ⟨cycle, reporting⟩ := (during.callback callback alone).reporting
  have told : capture ∈ report.reports := List.mem_filterMap.mpr ⟨_, reported, rfl⟩
  obtain ⟨_, action, _⟩ := Step.of_reports told
  have fresh : (World.new multiplexer demultiplexer managerAlive).Staffed := by
    constructor
    · intro retired
      cases retired
    · intro call impossible
      cases impossible
  have first := before.staffed fresh fun step member =>
    unshut step (List.mem_append_left _ member)
  have second := during.staffed (first.happening report.happening (by rw [action]; rfl))
    fun step member => unshut step (List.mem_append_right _ member)
  have whole := before.append (.cons report during)
  have sound := whole.sound (.new multiplexer demultiplexer managerAlive)
  have started := sound.consistent.started_worker (by rw [reporting]; nofun)
  cases slot : ended.before.state.worker with
  | running => rfl
  | unstarted => exact absurd slot started
  | retired => exact absurd slot second.unretired

theorem goesOnWith
    (before : Run setup (.new multiplexer demultiplexer managerAlive) earlier report.before)
    (reported : .serverFailed capture ∈ report.events)
    (during : Run setup report.after inside ended.before)
    (alone : ∀ step ∈ inside, step.onWorker = true)
    (ends : ended.action = .work (.reported panicked)) {call : Call}
    {description : ServerDescription} (latest : ended.before.calls.getLast? = some call)
    (called : report.after.calls.length < ended.before.calls.length)
    (operation : call.operation = .setServer description)
    (accepted : ∀ fault, ¬ call.operation.Rejected setup fault)
    (unshut : ∀ step ∈ earlier ++ inside, step.action.isShutdown = false) :
    ∃ server session, description.poll? = some server ∧ call.result = .ok () ∧
      ended.after.GoesOnWith setup server session := by
  obtain ⟨reporting, _, callback⟩ := Step.callback_of_reports reported
  obtain ⟨free, after, _⟩ := Step.of_reported ends
  have ending := during.callback callback alone
  have told := (before.sound (.new multiplexer demultiplexer managerAlive)).happening
    report.happening
  have whole := before.append (.cons report during)
  have paired := (whole.paired (.new multiplexer demultiplexer managerAlive)).happening
    ended.happening
  have sound := (during.sound told).happening ended.happening
  have furnished := during.keeps (fun world => world.state.furnished = true)
    (before.furnished_of_reports reported) fun step _ all => step.happening.keepsFurnished all
  have running := before.running_of_unshut reported during alone unshut
  rw [List.getLast?_eq_getElem?] at latest
  have member := List.mem_of_getElem? latest
  obtain ⟨server, session, described, derived, far⟩ := during.bindsLast told callback alone
    _ call description (by omega) (by omega) latest operation accepted
  have unhindered := ending.own _ call latest (by omega)
  -- The callback ends when its last call is over, which has then started the channel.
  have finished := World.over_of_free free member unhindered.onWorker
  cases far with
  | ahead other | stopped other | bound other => cases finished.symm.trans other
  | started _ bound opened goesOn =>
      obtain ⟨on, posted, result⟩ := goesOn (by rw [running]; decide)
      refine ⟨server, session, described, result, ?_⟩
      generalize ended.after = finish at after paired sound
      subst after
      have queue := sound.consistent.jobs_of_posted running posted
      have phase : ended.before.state.phase = .scheduled := by
        simp [State.phase, on, ending.quiet]
      refine ⟨phase, bound, opened, derived, posted, queue, ?_, ?_⟩
      · intro body nonce
        obtain ⟨steps, last, cycle, request, run, actions, sending, provides⟩ :=
          @World.sends_next setup { ended.before with activity := .idle } rfl free queue on
            furnished body nonce
        exact ⟨steps, last, cycle, request, run, actions, sending,
          Option.some.inj (provides.server.symm.trans bound),
          Option.some.inj (provides.session.symm.trans opened)⟩
      · intro steps step run unbound cycle request sent
        exact run.request_bound rfl paired unbound sent bound opened

/-- What the manager does when it is told of a failed server. It finds the exchange over, so that
none of its calls waits and all have returned when the report ends, even if the manager panics; the
report then changes nothing. The calls have had the results and the effects, step by step, that
they would have had if another thread had made them one after another behind the cycle, before the
worker took its next job; only a shutdown has to join the worker then. A manager that has bound the
channel to another server, and done nothing after that, leaves it on: one cycle is posted, even if
one had been left behind by a restart, and the next request goes to the new server, with its
session. -/
theorem failover
    (before : Run setup (.new multiplexer demultiplexer managerAlive) earlier report.before)
    (reported : .serverFailed capture ∈ report.events)
    (during : Run setup report.after inside ended.before)
    (alone : ∀ step ∈ inside, step.onWorker = true)
    (last : ∀ step ∈ inside, step.behindShutdown report.after.calls.length = false)
    (ends : ended.action = .work (.reported panicked)) :
    ended.after = { ended.before with activity := .idle } ∧
    ended.events = (if panicked then [.notice .managerPanicked] else []) ∧
    (∀ step ∈ inside, ∀ (index : Nat) (call : Call), report.after.calls.length ≤ index →
      step.after.calls[index]? = some call → call.sections ≠ [] →
      ∀ chance, (step.after.act? setup (.advance index chance)).isSome = true) ∧
    (∀ call ∈ ended.after.calls.drop report.after.calls.length, call.hasReturned = true) ∧
    (∃ quiet : Step setup, quiet.before = report.after ∧ quiet.action = ended.action ∧
      quiet.events = ended.events ∧ quiet.after = { report.after with activity := .idle } ∧
      ∃ others apart, Run setup quiet.after others apart ∧
        Lockstep report.after.calls.length inside others ∧
        (∀ other ∈ others, other.InTurn report.after.calls.length) ∧
        World.Mirrors report.after.calls.length ended.after apart ∧
        apart.activity = ended.after.activity) ∧
    ∀ call description, ended.after.calls.getLast? = some call →
      report.after.calls.length < ended.after.calls.length →
      call.operation = .setServer description →
      (∀ fault, ¬ call.operation.Rejected setup fault) →
      (∀ step ∈ earlier ++ inside, step.action.isShutdown = false) →
      ∃ server session, description.poll? = some server ∧ call.result = .ok () ∧
        ended.after.GoesOnWith setup server session := by
  obtain ⟨reporting, free, callback⟩ := Step.callback_of_reports reported
  obtain ⟨finished, after, events⟩ := Step.of_reported ends
  have ending := during.callback callback alone
  have sound := (before.sound (.new multiplexer demultiplexer managerAlive)).happening
    report.happening
  refine ⟨after, events, ?_, ?_, ?_, ?_⟩
  · intro step member index call own found ahead chance
    have called := (during.callback_at callback alone step member).2
    exact World.act?_advance found ((called.own index call found own).goes ahead)
  · intro call member
    rw [after] at member
    obtain ⟨index, own, found⟩ := mem_drop_iff.mp member
    have unhindered := ending.own index call found own
    have done := World.over_of_free finished (List.mem_of_getElem? found) unhindered.onWorker
    rw [Call.hasReturned, Call.isOver, done, unhindered.unhurt]
    rfl
  · have happens : report.after.act? setup ended.action =
        some ({ report.after with activity := .idle }, ended.events) := by
      rw [ends, events]
      simp [World.act?, free, reporting, work?]
    -- The other run lets the report end at once, and makes the calls behind it.
    let quiet : Step setup := ⟨report.after, ended.action, _, ended.events, happens⟩
    have mirrors : World.Mirrors report.after.calls.length report.after quiet.after := by
      refine ⟨rfl, rfl, rfl, fun _ _ => rfl, ?_⟩
      intro index call own found
      rw [List.getElem?_eq_none own] at found
      cases found
    obtain ⟨others, apart, run, lockstep, alike, idle⟩ := during.lockstep callback alone mirrors
    refine ⟨quiet, rfl, rfl, rfl, rfl, others, apart, run, lockstep, ?_, ?_, ?_⟩
    · intro other member
      obtain ⟨step, among, same⟩ := lockstep.exists_mirror member
      exact same.inTurn (during.callback_at callback alone step among).1 (alone step among)
        (last step among)
    · rw [after]
      exact ⟨alike.state, alike.managerAlive, alike.length, alike.older, alike.own⟩
    · rw [after, idle]
  · intro call description latest called operation accepted unshut
    have calls : ended.after.calls = ended.before.calls := by rw [after]
    rw [calls] at latest called
    exact before.goesOnWith reported during alone ends latest called operation accepted unshut

end Run

/-! ### A failover behind a restart -/

namespace Trial

/-- The server's answer cannot be read. Before the failure is classified another thread restarts the
channel, so that a cycle is posted. -/
def failRestarted : List Action := bind 0 1 ++ begin ++ send ++ answer 500 ++ restart 1

def failOver : List Action :=
  [.invoke (.setServer (.poll (server 2))) draw true, .advance 3, .advance 3, .advance 3]

end Trial

/-- The cycle that is left over goes to the server that the manager has bound, although the manager
panics then. -/
theorem Run.failover_restarted : ∃ earlier inside capture,
    ∃ report ended : Step Trial.client, Run Trial.client Trial.channel earlier report.before ∧
    .serverFailed capture ∈ report.events ∧ report.after.state.queue.jobs = [.poll] ∧
    Run Trial.client report.after inside ended.before ∧
    ended.action = .work (.reported true) ∧
    (∃ session, ended.after.GoesOnWith Trial.client (Trial.server 2) session) ∧
    ∃ others apart, Run Trial.client { report.after with activity := .idle } others apart ∧
      apart.state = ended.after.state := by
  have seen : (Trial.channel.record? Trial.client Trial.failRestarted).any
      (fun (earlier, ready) => earlier.all (fun step => !step.action.isShutdown) &&
        (ready.act? Trial.client (.work .fail)).any fun fails =>
          fails.2.any (fun event => event.failedServer?.isSome) &&
          fails.1.state.queue.jobs = [.poll] && fails.1.calls.length = 3 &&
          (fails.1.record? Trial.client Trial.failOver).any fun (inside, done) =>
            inside.all (fun step => step.onWorker && !step.behindShutdown 3 &&
              !step.action.isShutdown) &&
            done.calls.length = 4 && done.calls.getLast?.any (fun call =>
              call.operation = .setServer (.poll (Trial.server 2))) &&
            (done.act? Trial.client (.work (.reported true))).isSome) = true := by
    decide +kernel
  have shared : X25519.isContributory
      (X25519.agree Trial.client.keys.agreement (Trial.server 2).publicKey) = true := by
    decide +kernel
  obtain ⟨⟨earlier, ready⟩, recorded, checked⟩ := (Option.any_eq_true _ _).mp seen
  obtain ⟨unshut, fails⟩ := Bool.and_eq_true_iff.mp checked
  obtain ⟨⟨told, events⟩, failed, found⟩ := (Option.any_eq_true _ _).mp fails
  simp only [Bool.and_eq_true, decide_eq_true_eq] at found
  obtain ⟨⟨⟨reports, left⟩, length⟩, acts⟩ := found
  obtain ⟨⟨inside, done⟩, called, shape⟩ := (Option.any_eq_true _ _).mp acts
  simp only [Bool.and_eq_true, decide_eq_true_eq] at shape
  obtain ⟨⟨⟨own, total⟩, latest⟩, ends⟩ := shape
  obtain ⟨call, last, binds⟩ := (Option.any_eq_true _ _).mp latest
  obtain ⟨⟨finish, notices⟩, ended⟩ := Option.isSome_iff_exists.mp ends
  obtain ⟨event, member, names⟩ := List.any_eq_true.mp reports
  obtain ⟨capture, reported⟩ : ∃ capture, .serverFailed capture ∈ events := by
    cases event with
    | serverFailed capture => exact ⟨capture, member⟩
    | _ => cases names
  let report : Step Trial.client := ⟨ready, .work .fail, told, events, failed⟩
  let closing : Step Trial.client := ⟨done, .work (.reported true), finish, notices, ended⟩
  have each (step : Step Trial.client) (among : step ∈ inside) :
      step.onWorker = true ∧ step.behindShutdown 3 = false ∧
        step.action.isShutdown = false := by
    simpa [and_assoc] using List.all_eq_true.mp own step among
  have before : Run Trial.client Trial.channel earlier report.before := .of_record recorded
  have during : Run Trial.client report.after inside closing.before := .of_record called
  have told : .serverFailed capture ∈ report.events := reported
  have ends : closing.action = .work (.reported true) := rfl
  have first : report.after.calls.length = 3 := length
  obtain ⟨_, _, _, _, ⟨quiet, _, _, _, idle, others, apart, run, _, _, mirrors, _⟩, binding⟩ :=
    Run.failover before told during (fun step among => (each step among).1)
      (fun step among => first ▸ (each step among).2.1) ends
  have calls : closing.after.calls = done.calls := by
    rw [(Step.of_reported ends).2.1]
  have accepted (fault : Fault) : ¬ call.operation.Rejected Trial.client fault := by
    rw [of_decide_eq_true binds]
    intro rejected
    cases rejected with
    | kind other => exact other rfl
    | key _ neutral => cases shared.symm.trans neutral
  obtain ⟨server, session, described, _, goesOn⟩ := binding call _ (calls ▸ last)
    (by rw [first, calls, total]; decide) (of_decide_eq_true binds) accepted (by
      intro step among
      rcases List.mem_append.mp among with early | late
      · simpa using List.all_eq_true.mp unshut step early
      · exact (each step late).2.2)
  cases described
  exact ⟨earlier, inside, capture, report, closing, before, told, left, during, ends,
    ⟨session, goesOn⟩, others, apart, idle ▸ run, mirrors.state⟩

end LongPoll.Channel
