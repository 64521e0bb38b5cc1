import LongPoll.Proofs.History

set_option autoImplicit false

/-!
Why a running channel goes on. As long as it is not stopped, a cycle is posted or the worker is in
one that will look at the flags once more. What a cycle needs is never taken away from a channel,
and a worker that has not retired takes what is posted, so that a channel is turned off by a stop or
by a cycle that fails, and in no other way.
-/

namespace LongPoll.Channel

variable {setup : Setup}

/-- The cycle that has a section under the lock ahead of it. -/
def Activity.unfinished? : Activity → Option Capture
  | .compiling capture | .built capture _ | .cleared capture _ | .sending capture _
  | .answered capture _ | .processing capture | .delivered capture | .failing capture _
  | .undelivered capture _ => some capture
  | .idle | .taken | .reporting _ | .gone => none

/-- A running channel has a next cycle posted, or is in one that can post it. -/
def Awake (state : State) (activity : Activity) : Prop :=
  state.stopped = false → state.taskPosted = true ∨ activity.unfinished?.isSome = true

/-- Whether a channel has all that a cycle captures. -/
def State.furnished (state : State) : Bool :=
  state.server.isSome && state.session.isSome && state.multiplexer.isSome &&
    state.demultiplexer.isSome

namespace Awake

variable {channelId : String} {state next : State} {activity after : Activity}

theorem rescheduled {unposted : Option Fault}
    (rescheduled : Rescheduled channelId state next unposted) : Awake next activity := by
  intro running
  cases rescheduled with
  | kept needless =>
      rcases needless with stopped | posted
      · rw [stopped] at running
        cases running
      · exact .inl posted
  | posted unstopped free served => exact .inl rfl
  | refused unstopped free unserved => cases running

theorem started {spawnFault : Option String} {result : Except Fault Unit}
    (awake : Awake state activity) (consistent : Consistent state activity)
    (ends : Started channelId spawnFault state next result) : Awake next activity := by
  intro running
  cases ends with
  | unspawned first failed => exact awake running
  | alreadyRunning unstopped => exact awake unstopped
  | resumed stopped ahead =>
      rcases ahead with posted | busy
      · exact .inl posted
      · right
        rw [consistent.position] at busy
        cases activity <;> first | rfl | cases busy
  | posted stopped unposted quiet served => exact .inl rfl
  | refused stopped unposted quiet unserved =>
      rw [show state.equip.stopped = state.stopped from rfl, stopped] at running
      cases running

theorem turn {managerAlive : Bool} {move : Move} {events : List Event}
    (awake : Awake state activity)
    (turn : Turn setup managerAlive state activity move next after events) :
    Awake next after := by
  intro running
  cases turn with
  | take jobs => exact .inl ((awake running).resolve_right (by intro impossible; cases impossible))
  | leave jobs => exact .inl ((awake running).resolve_right (by intro impossible; cases impossible))
  | skip stopped =>
      have unstopped : state.stopped = false := running
      rw [stopped] at unstopped
      cases unstopped
  | misconfigure unstopped missing => cases running
  | begin unstopped captured => exact .inr rfl
  | proceed proceeds =>
      cases proceeds <;> exact .inr rfl
  | settle settles => cases settles <;> exact .inr rfl
  | drop hit rescheduled => exact Awake.rescheduled rescheduled running
  | finish rescheduled => exact Awake.rescheduled rescheduled running
  | cancel failed hit rescheduled => exact Awake.rescheduled rescheduled running
  | fail failed unhit => cases running
  | reported =>
      exact .inl ((awake running).resolve_right (by intro impossible; cases impossible))

theorem advances {chance : Chance} {call called : Call} {events : List Event}
    (awake : Awake state activity) (consistent : Consistent state activity)
    (advances : Advances setup chance state call next called events) : Awake next activity := by
  cases advances with
  | start sections started => exact awake.started consistent started
  | stopPanicking | stopWaiting | stopPassing =>
      intro running
      cases running
  | _ => exact awake

theorem happening {before after : World} {action : Action} {events : List Event}
    (awake : Awake before.state before.activity) (sound : before.Sound)
    (happening : Happening setup before action after events) :
    Awake after.state after.activity := by
  cases happening with
  | work free turn => exact awake.turn turn
  | advance found advances => exact awake.advances sound.consistent advances
  | _ => exact awake

end Awake

theorem Run.awake {start finish : World} {steps : List (Step setup)}
    (run : Run setup start steps finish) (sound : start.Sound)
    (awake : Awake start.state start.activity) : Awake finish.state finish.activity := by
  have both : finish.Sound ∧ Awake finish.state finish.activity := by
    refine run.keeps (fun world => world.Sound ∧ Awake world.state world.activity)
      ⟨sound, awake⟩ ?_
    rintro step _ ⟨sound, awake⟩
    exact ⟨sound.happening step.happening, awake.happening sound step.happening⟩
  exact both.2

/-! ### What a cycle needs -/

namespace State

variable {channelId : String} {state : State}

theorem furnished_of_capture {capture : Capture}
    (captured : state.capture channelId = .ok capture) : state.furnished = true := by
  unfold State.capture at captured
  split at captured
  · rename_i server session bound opened
    split at captured
    · cases captured
    · cases captured
    · rename_i multiplexer demultiplexer compiles processes
      simp [State.furnished, bound, opened, compiles, processes]
  · cases captured

theorem capture_of_furnished (furnished : state.furnished = true) :
    ∃ capture, state.capture channelId = .ok capture := by
  unfold State.furnished at furnished
  simp only [Bool.and_eq_true, Option.isSome_iff_exists] at furnished
  obtain ⟨⟨⟨⟨server, bound⟩, session, opened⟩, multiplexer, compiles⟩, demultiplexer,
    processes⟩ := furnished
  unfold State.capture
  rw [bound, opened, compiles, processes]
  exact ⟨_, rfl⟩

end State

/-- Everything that a cycle captures has been bound before the first cycle. -/
def Furnished (state : State) : Prop := 0 < state.cycleSeq → state.furnished = true

theorem Rescheduled.furnished {channelId : String} {state next : State} {unposted : Option Fault}
    (ends : Rescheduled channelId state next unposted) : next.furnished = state.furnished := by
  cases ends <;> rfl

theorem Turn.furnished_eq {managerAlive : Bool} {state next : State} {activity after : Activity}
    {move : Move} {events : List Event}
    (turn : Turn setup managerAlive state activity move next after events) :
    next.furnished = state.furnished := by
  cases turn with
  | drop hit rescheduled | finish rescheduled | cancel failed hit rescheduled =>
      exact rescheduled.furnished
  | _ => rfl

/-- What a cycle needs may be replaced, but is never taken away. -/
theorem Advances.keepsFurnished {chance : Chance} {state next : State} {call after : Call}
    {events : List Event} (advances : Advances setup chance state call next after events)
    (all : state.furnished = true) : next.furnished = true := by
  cases advances with
  | start sections started => cases started <;> exact all
  | bind sections =>
      simp only [State.furnished, Bool.and_eq_true] at all
      simp [State.furnished, State.bind, all.2, all.1.2]
  | setMultiplexer sections =>
      simp only [State.furnished, Bool.and_eq_true] at all
      simp [State.furnished, all.2, all.1.1.2, all.1.1.1]
  | setDemultiplexer sections =>
      simp only [State.furnished, Bool.and_eq_true] at all
      simp [State.furnished, all.1.2, all.1.1.2, all.1.1.1]
  | _ => exact all

theorem Turn.furnished {managerAlive : Bool} {state next : State} {activity after : Activity}
    {move : Move} {events : List Event}
    (turn : Turn setup managerAlive state activity move next after events)
    (furnished : Furnished state) : Furnished next := by
  intro begun
  rw [turn.furnished_eq]
  cases turn with
  | begin running captured => exact State.furnished_of_capture captured
  | drop hit rescheduled | finish rescheduled | cancel failed hit rescheduled =>
      rw [rescheduled.cycleSeq] at begun
      exact furnished begun
  | _ => exact furnished begun

theorem Advances.furnished {chance : Chance} {state next : State} {call after : Call}
    {events : List Event} (advances : Advances setup chance state call next after events)
    (furnished : Furnished state) : Furnished next := by
  intro begun
  rw [advances.cycleSeq] at begun
  exact advances.keepsFurnished (furnished begun)

theorem Happening.furnished {before after : World} {action : Action} {events : List Event}
    (happening : Happening setup before action after events)
    (furnished : Furnished before.state) : Furnished after.state := by
  cases happening with
  | work free turn => exact turn.furnished furnished
  | advance found advances => exact advances.furnished furnished
  | _ => exact furnished

theorem Run.furnished {start finish : World} {steps : List (Step setup)}
    (run : Run setup start steps finish) (furnished : Furnished start.state) :
    Furnished finish.state :=
  run.keeps (fun world => Furnished world.state) furnished
    fun step _ before => step.happening.furnished before

/-! ### What turns a channel off -/

namespace Step

def SwitchesOff (step : Step setup) : Prop :=
  step.before.state.stopped = false ∧ step.after.state.stopped = true

def Fails (step : Step setup) (capture : Capture) : Prop :=
  step.action = .work .fail ∧
    ∃ fault, step.before.activity.failure? = some (capture, fault)

/-- The step is the first section of a cycle for which something is missing. -/
def Misconfigures (step : Step setup) : Prop :=
  step.action = .work .begin ∧ step.before.activity = .taken ∧
    ∃ fault, step.before.state.capture setup.config.channelId = .error fault

end Step

theorem Rescheduled.stopped_eq {channelId : String} {state next : State}
    {unposted : Option Fault} (rescheduled : Rescheduled channelId state next unposted)
    (served : state.serves = true) : next.stopped = state.stopped := by
  cases rescheduled with
  | kept needless => rfl
  | posted running free _ => rfl
  | refused running free unserved =>
      rw [served] at unserved
      cases unserved

theorem Turn.switchesOff {managerAlive : Bool} {state next : State} {activity after : Activity}
    {move : Move} {events : List Event}
    (turn : Turn setup managerAlive state activity move next after events)
    (consistent : Consistent state activity) (unretired : state.worker ≠ .retired)
    (running : state.stopped = false) (off : next.stopped = true) :
    (move = .begin ∧ activity = .taken ∧
      ∃ fault, state.capture setup.config.channelId = .error fault) ∨
    ∃ capture fault, move = .fail ∧ activity.failure? = some (capture, fault) ∧
      state.interrupted capture = false := by
  have served (within : activity ≠ .idle) : state.serves = true :=
    consistent.serves within unretired
  cases turn with
  | misconfigure _ missing => exact .inl ⟨rfl, rfl, _, missing⟩
  | fail failed unhit => exact .inr ⟨_, _, rfl, failed, unhit⟩
  | drop hit rescheduled =>
      have same : next.stopped = state.stopped :=
        rescheduled.stopped_eq (served (by intro impossible; cases impossible))
      rw [same, running] at off
      cases off
  | finish rescheduled =>
      have same : next.stopped = state.stopped :=
        rescheduled.stopped_eq (served (by intro impossible; cases impossible))
      rw [same, running] at off
      cases off
  | cancel failed hit rescheduled =>
      have same : next.stopped = state.stopped :=
        rescheduled.stopped_eq (served (by rintro rfl; cases failed))
      rw [same, running] at off
      cases off
  | _ =>
      have same : state.stopped = true := off
      rw [running] at same
      cases same

/-- A channel whose worker has not retired is only turned off by a stop, by a cycle for which
something is missing, or by one that fails without having been stopped. -/
theorem Step.SwitchesOff.cause {step : Step setup} (switches : step.SwitchesOff)
    (sound : step.before.Sound) (unretired : step.before.state.worker ≠ .retired) :
    step.Runs .stop ∨ step.Misconfigures ∨
      ∃ capture, step.Fails capture ∧ step.before.state.interrupted capture = false := by
  obtain ⟨before, action, after, events, happens⟩ := step
  have happening := Step.happening ⟨before, action, after, events, happens⟩
  obtain ⟨running, off⟩ := switches
  change Happening setup before action after events at happening
  change before.state.stopped = false at running
  change after.state.stopped = true at off
  cases happening with
  | work free turn =>
      right
      rcases turn.switchesOff sound.consistent unretired running off with
        ⟨rfl, taken, missing⟩ | ⟨capture, fault, rfl, failed, unhit⟩
      · exact .inl ⟨rfl, taken, missing⟩
      · exact .inr ⟨capture, ⟨rfl, fault, failed⟩, unhit⟩
  | @advance index chance call next state _ found advances =>
      left
      by_cases stops : ∃ rest, call.sections = .stop :: rest
      · obtain ⟨rest, sections⟩ := stops
        exact ⟨index, chance, call, rest, rfl, found, sections⟩
      · have still := (advances.running (fun rest sections => stops ⟨rest, sections⟩) running).1
        rw [show state.stopped = true from off] at still
        cases still
  | _ =>
      have same : before.state.stopped = true := off
      rw [running] at same
      cases same

theorem Run.switchesOff {start finish : World} {steps : List (Step setup)}
    (run : Run setup start steps finish) (running : start.state.stopped = false)
    (off : finish.state.stopped = true) :
    ∃ first step second, steps = first ++ step :: second ∧ step.SwitchesOff := by
  induction run with
  | nil world =>
      rw [running] at off
      cases off
  | cons step tail ih =>
      cases here : step.after.state.stopped with
      | true => exact ⟨[], step, _, rfl, running, here⟩
      | false =>
          obtain ⟨first, other, second, rfl, switches⟩ := ih here off
          exact ⟨step :: first, other, second, rfl, switches⟩

end LongPoll.Channel
