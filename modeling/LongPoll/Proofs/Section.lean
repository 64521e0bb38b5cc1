import LongPoll.Channel.World

set_option autoImplicit false

/-!
What the sections under the lock make of a state. Posting, starting and rescheduling each end in one
of a few ways, which are listed once; proofs about them go through the list and never open the
definitions again.
-/

namespace LongPoll.Channel

namespace State

def withPoll (state : State) : State :=
  { state with
    queue := { state.queue with jobs := state.queue.jobs ++ [.poll] }
    taskPosted := true }

/-- Whether there is a worker that takes jobs. -/
def serves (state : State) : Bool := state.worker = .running && !state.queue.closed

theorem running_of_serves {state : State} (served : state.serves = true) :
    state.worker = .running := by
  simp only [serves, Bool.and_eq_true, decide_eq_true_eq] at served
  exact served.1

theorem post_of_serves (channelId : String) {state : State} (served : state.serves = true) :
    state.post channelId = (state.withPoll, .ok ()) := by
  simp only [serves, Bool.and_eq_true, decide_eq_true_eq, Bool.not_eq_true'] at served
  obtain ⟨slot, opened⟩ := served
  simp [post, JobQueue.post?, withPoll, slot, opened]

theorem post_of_not_serves (channelId : String) {state : State} (unserved : state.serves = false) :
    state.post channelId = ({ state with stopped := true },
      .error (.workerUnavailable channelId "poll worker is not running")) := by
  cases slot : state.worker with
  | unstarted => simp [post, slot]
  | retired => simp [post, slot]
  | running =>
      have closed : state.queue.closed = true := by simpa [serves, slot] using unserved
      simp [post, JobQueue.post?, slot, closed]

theorem abortRequests_le_stop (state : State) :
    state.abortRequests ≤ state.stop.abortRequests := by
  unfold stop
  split
  · exact Nat.le_succ _
  · exact Nat.le_refl _

theorem capture_eq_ok {channelId : String} {state : State} {capture : Capture}
    (captured : state.capture channelId = .ok capture) :
    capture.cycle = state.cycleSeq + 1 ∧ capture.abortEpoch = state.abortRequests ∧
      state.server = some capture.server := by
  unfold State.capture at captured
  split at captured
  · rename_i server session bound opened
    split at captured
    · cases captured
    · cases captured
    · cases captured
      exact ⟨rfl, rfl, bound⟩
  · cases captured

theorem begin_of_stopped (channelId : String) {state : State} (stopped : state.stopped = true) :
    state.begin channelId = ({ state with taskPosted := false }, .skipped) :=
  if_pos stopped

theorem begin_of_captured {channelId : String} {state : State} {capture : Capture}
    (running : state.stopped = false) (captured : state.capture channelId = .ok capture) :
    state.begin channelId =
      ({ state with taskPosted := false, inProgress := true, cycleSeq := state.cycleSeq + 1 },
        .begun capture) := by
  have taken : { state with taskPosted := false }.capture channelId = .ok capture := captured
  unfold begin
  rw [if_neg (by simp [running])]
  simp only [taken]

theorem begin_of_missing {channelId : String} {state : State} {fault : Fault}
    (running : state.stopped = false) (missing : state.capture channelId = .error fault) :
    state.begin channelId =
      ({ state with taskPosted := false, stopped := true }, .misconfigured fault) := by
  have taken : { state with taskPosted := false }.capture channelId = .error fault := missing
  unfold begin
  rw [if_neg (by simp [running])]
  simp only [taken]

end State

/-- The ways in which a start ends. Only for the first is there no thread to be had. -/
inductive Started (channelId : String) (spawnFault : Option String) (state : State) :
    State → Except Fault Unit → Prop
  | unspawned {reason : String} (first : state.worker = .unstarted)
      (failed : spawnFault = some reason) :
      Started channelId spawnFault state state (.error (.workerUnavailable channelId reason))
  | alreadyRunning (running : state.stopped = false)
      (able : state.worker = .unstarted → spawnFault = none) :
      Started channelId spawnFault state state.equip (.ok ())
  | resumed (stopped : state.stopped = true)
      (ahead : state.taskPosted = true ∨ state.inProgress = true)
      (able : state.worker = .unstarted → spawnFault = none) :
      Started channelId spawnFault state { state.equip with stopped := false } (.ok ())
  | posted (stopped : state.stopped = true) (unposted : state.taskPosted = false)
      (quiet : state.inProgress = false) (served : state.equip.serves = true)
      (able : state.worker = .unstarted → spawnFault = none) :
      Started channelId spawnFault state
        { state.equip with stopped := false }.withPoll (.ok ())
  | refused (stopped : state.stopped = true) (unposted : state.taskPosted = false)
      (quiet : state.inProgress = false) (unserved : state.equip.serves = false)
      (able : state.worker = .unstarted → spawnFault = none) :
      Started channelId spawnFault state state.equip
        (.error (.workerUnavailable channelId "poll worker is not running"))

theorem State.started (channelId : String) (spawnFault : Option String) (state : State) :
    Started channelId spawnFault state (state.start channelId spawnFault).1
      (state.start channelId spawnFault).2 := by
  unfold State.start
  split
  · rename_i reason first
    exact .unspawned first rfl
  · rename_i spawnFault _ _ possible
    have able : state.worker = .unstarted → spawnFault = none := by
      intro unstarted
      cases failed : spawnFault with
      | none => rfl
      | some reason => exact absurd failed (possible reason unstarted)
    cases running : state.stopped with
    | false =>
        have same : state.equip.stopped = false := running
        simp only [same, Bool.not_false, if_true]
        exact .alreadyRunning running able
    | true =>
        have same : state.equip.stopped = true := running
        simp only [same, Bool.not_true, Bool.false_eq_true, if_false]
        split
        · rename_i ahead
          exact .resumed running (Bool.or_eq_true_iff.mp ahead) able
        · rename_i nothing
          obtain ⟨unposted, quiet⟩ := Bool.or_eq_false_iff.mp (Bool.not_eq_true _ ▸ nothing)
          have sameService : { state.equip with stopped := false }.serves = state.equip.serves := rfl
          cases served : state.equip.serves with
          | true =>
              rw [State.post_of_serves channelId (sameService.trans served)]
              exact .posted running unposted quiet served able
          | false =>
              rw [State.post_of_not_serves channelId (sameService.trans served)]
              have unchanged : { state.equip with stopped := true } = state.equip := by
                rw [← same]
              rw [unchanged]
              exact .refused running unposted quiet served able

namespace Started

variable {channelId : String} {spawnFault : Option String} {state next : State}
  {result : Except Fault Unit}

theorem cycleSeq (ends : Started channelId spawnFault state next result) :
    next.cycleSeq = state.cycleSeq := by
  cases ends <;> rfl

theorem inProgress (ends : Started channelId spawnFault state next result) :
    next.inProgress = state.inProgress := by
  cases ends <;> rfl

theorem abortRequests (ends : Started channelId spawnFault state next result) :
    next.abortRequests = state.abortRequests := by
  cases ends <;> rfl

theorem running (ends : Started channelId spawnFault state next result)
    (running : state.stopped = false) : next.stopped = false := by
  cases ends with
  | unspawned first failed => exact running
  | alreadyRunning _ => exact running
  | resumed stopped ahead => rfl
  | posted stopped unposted quiet served => rfl
  | refused stopped unposted quiet unserved =>
      rw [stopped] at running
      cases running

theorem server (ends : Started channelId spawnFault state next result) :
    next.server = state.server := by
  cases ends <;> rfl

/-- A start creates the worker of a channel that has none, and never another. -/
theorem worker (ends : Started channelId spawnFault state next result) :
    next.worker = state.worker ∨ state.worker = .unstarted ∧ next.worker = .running := by
  have equipped : state.equip.worker = state.worker ∨
      state.worker = .unstarted ∧ state.equip.worker = .running := by
    by_cases unstarted : state.worker = .unstarted
    · exact .inr ⟨unstarted, if_pos unstarted⟩
    · exact .inl (if_neg unstarted)
  cases ends with
  | unspawned first failed => exact .inl rfl
  | alreadyRunning running => exact equipped
  | resumed stopped ahead => exact equipped
  | posted stopped unposted quiet served => exact equipped
  | refused stopped unposted quiet unserved => exact equipped

/-- A start for which a thread can be had leaves the channel with a worker. -/
theorem equipped (ends : Started channelId spawnFault state next result)
    (possible : spawnFault = none) : next.worker ≠ .unstarted := by
  have created : state.equip.worker ≠ .unstarted := by
    by_cases unstarted : state.worker = .unstarted
    · rw [show state.equip.worker = .running from if_pos unstarted]
      decide
    · rw [show state.equip.worker = state.worker from if_neg unstarted]
      exact unstarted
  cases ends with
  | unspawned first failed =>
      rw [possible] at failed
      cases failed
  | alreadyRunning running => exact created
  | resumed stopped ahead => exact created
  | posted stopped unposted quiet served => exact created
  | refused stopped unposted quiet unserved => exact created

end Started

/-- The ways in which the last section of a cycle posts the next one. -/
inductive Rescheduled (channelId : String) (state : State) : State → Option Fault → Prop
  | kept (needless : state.stopped = true ∨ state.taskPosted = true) :
      Rescheduled channelId state state none
  | posted (running : state.stopped = false) (unposted : state.taskPosted = false)
      (served : state.serves = true) : Rescheduled channelId state state.withPoll none
  | refused (running : state.stopped = false) (unposted : state.taskPosted = false)
      (unserved : state.serves = false) :
      Rescheduled channelId state { state with stopped := true }
        (some (.workerUnavailable channelId "poll worker is not running"))

theorem State.rescheduled (channelId : String) (state : State) :
    Rescheduled channelId state (state.reschedule channelId).1
      (state.reschedule channelId).2 := by
  unfold State.reschedule
  split
  · rename_i needless
    exact .kept (Bool.or_eq_true_iff.mp needless)
  · rename_i needed
    obtain ⟨running, unposted⟩ := Bool.or_eq_false_iff.mp (Bool.not_eq_true _ ▸ needed)
    cases served : state.serves with
    | true =>
        rw [State.post_of_serves channelId served]
        exact .posted running unposted served
    | false =>
        rw [State.post_of_not_serves channelId served]
        exact .refused running unposted served

namespace Rescheduled

variable {channelId : String} {state next : State} {unposted : Option Fault}

theorem cycleSeq (ends : Rescheduled channelId state next unposted) :
    next.cycleSeq = state.cycleSeq := by
  cases ends <;> rfl

theorem inProgress (ends : Rescheduled channelId state next unposted) :
    next.inProgress = state.inProgress := by
  cases ends <;> rfl

theorem abortRequests (ends : Rescheduled channelId state next unposted) :
    next.abortRequests = state.abortRequests := by
  cases ends <;> rfl

theorem worker (ends : Rescheduled channelId state next unposted) :
    next.worker = state.worker := by
  cases ends <;> rfl

theorem server (ends : Rescheduled channelId state next unposted) :
    next.server = state.server := by
  cases ends <;> rfl

theorem stopped (ends : Rescheduled channelId state next unposted)
    (stopped : state.stopped = true) : next.stopped = true := by
  cases ends with
  | kept needless => exact stopped
  | posted running free served => exact stopped
  | refused running free unserved => rfl

end Rescheduled

end LongPoll.Channel
