import LongPoll.Channel.World

set_option autoImplicit false

/-!
Runs of a channel. A step is an action that happens, with the worlds before and after it, and a
run is a chain of steps. Which thread acts next is left open, so that the runs of a new channel are
all interleavings of its callers with its worker. A run can be cut at any step, and what every step
keeps holds at its end.
-/

namespace LongPoll.Channel

/-- An action that happens, between two worlds. -/
structure Step (setup : Setup) where
  before : World
  action : Action
  after : World
  events : List Event
  happens : before.act? setup action = some (after, events)

inductive Run (setup : Setup) : World → List (Step setup) → World → Prop
  | nil (world : World) : Run setup world [] world
  | cons (step : Step setup) {rest : List (Step setup)} {finish : World}
      (tail : Run setup step.after rest finish) : Run setup step.before (step :: rest) finish

variable {setup : Setup} {start middle finish : World}

namespace Run

theorem append {first second : List (Step setup)} (left : Run setup start first middle)
    (right : Run setup middle second finish) : Run setup start (first ++ second) finish := by
  induction left with
  | nil world => exact right
  | cons step tail ih => exact .cons step (ih right)

theorem split {first second : List (Step setup)}
    (run : Run setup start (first ++ second) finish) :
    ∃ middle, Run setup start first middle ∧ Run setup middle second finish := by
  induction first generalizing start with
  | nil => exact ⟨start, .nil start, run⟩
  | cons step rest ih =>
      cases run with
      | cons _ tail =>
          obtain ⟨middle, left, right⟩ := ih tail
          exact ⟨middle, .cons step left, right⟩

/-- A run cut around one of its steps. -/
theorem cut {first second : List (Step setup)} {step : Step setup}
    (run : Run setup start (first ++ step :: second) finish) :
    Run setup start first step.before ∧ Run setup step.after second finish := by
  obtain ⟨middle, left, right⟩ := run.split
  cases right with
  | cons _ tail => exact ⟨left, tail⟩

theorem finish_of_nil (run : Run setup start [] finish) : finish = start := by
  cases run
  rfl

/-- What every step of a run keeps holds at its end. -/
theorem keeps {steps : List (Step setup)} (run : Run setup start steps finish)
    (motive : World → Prop) (holds : motive start)
    (kept : ∀ step ∈ steps, motive step.before → motive step.after) : motive finish := by
  induction run with
  | nil world => exact holds
  | cons step tail ih =>
      apply ih (kept step List.mem_cons_self holds)
      intro other member
      exact kept other (List.mem_cons_of_mem step member)

theorem keeps_at {steps : List (Step setup)} (run : Run setup start steps finish)
    (motive : World → Prop) (holds : motive start)
    (kept : ∀ step ∈ steps, motive step.before → motive step.after) :
    ∀ step ∈ steps, motive step.before ∧ motive step.after := by
  intro step member
  obtain ⟨first, second, rfl⟩ := List.append_of_mem member
  obtain ⟨left, _⟩ := run.cut
  have before : motive step.before := left.keeps motive holds fun other earlier =>
    kept other (List.mem_append_left _ earlier)
  exact ⟨before, kept step member before⟩

/-- What holds of the steps made so far and of the world they lead to, step by step; each step is
known by its place in the run. -/
theorem keeps_along {steps : List (Step setup)} (run : Run setup start steps finish)
    (motive : List (Step setup) → World → Prop) (holds : motive [] start)
    (kept : ∀ made step later, steps = made ++ step :: later → motive made step.before →
      motive (made ++ [step]) step.after) : motive steps finish := by
  suffices every : ∀ {first last middle}, Run setup middle last finish → steps = first ++ last →
      motive first middle → motive steps finish from every run rfl holds
  clear run
  intro first last middle rest
  induction rest generalizing first with
  | nil world =>
      intro whole holds
      rw [whole, List.append_nil]
      exact holds
  | cons step tail ih =>
      intro whole holds
      apply ih (whole.trans (List.append_cons first step _))
      exact kept first step _ whole holds

theorem keeps_history {steps : List (Step setup)} (run : Run setup start steps finish)
    (motive : List (Step setup) → World → Prop) (holds : motive [] start)
    (kept : ∀ made, ∀ step ∈ steps, motive made step.before → motive (made ++ [step]) step.after) :
    motive steps finish := by
  apply run.keeps_along motive holds
  intro made step later whole
  exact kept made step (whole ▸ List.mem_append_right made List.mem_cons_self)

/-- The worker is where it was, or some step has taken it on. -/
theorem stays_or_leaves {steps : List (Step setup)} (run : Run setup start steps finish)
    {activity : Activity} (within : start.activity = activity) :
    finish.activity = activity ∨ ∃ waiting leaving rest, steps = waiting ++ leaving :: rest ∧
      (∀ step ∈ waiting, step.after.activity = activity) ∧
      leaving.before.activity = activity ∧ leaving.after.activity ≠ activity := by
  induction run with
  | nil world => exact .inl within
  | cons step tail ih =>
      by_cases stays : step.after.activity = activity
      · rcases ih stays with still | ⟨waiting, leaving, rest, rfl, kept, before, after⟩
        · exact .inl still
        · refine .inr ⟨step :: waiting, leaving, rest, rfl, ?_, before, after⟩
          intro other member
          rcases List.mem_cons.mp member with rfl | later
          · exact stays
          · exact kept other later
      · refine .inr ⟨[], step, _, rfl, ?_, within, stays⟩
        intro other impossible
        cases impossible

end Run

/-- The steps that a list of actions makes one after another, if all of them can happen. -/
def World.record? (setup : Setup) : World → List Action → Option (List (Step setup) × World)
  | world, [] => some ([], world)
  | world, action :: rest =>
    match happens : world.act? setup action with
    | none => none
    | some (after, events) =>
      (after.record? setup rest).map fun (steps, finish) =>
        ({ before := world, action, after, events, happens } :: steps, finish)

theorem Run.of_record {actions : List Action} {steps : List (Step setup)}
    (recorded : start.record? setup actions = some (steps, finish)) :
    Run setup start steps finish := by
  induction actions generalizing start steps with
  | nil =>
      cases recorded
      exact .nil _
  | cons action rest ih =>
      unfold World.record? at recorded
      split at recorded
      · cases recorded
      · rename_i after events happens
        obtain ⟨⟨tail, last⟩, found, same⟩ := Option.map_eq_some_iff.mp recorded
        cases same
        exact .cons ⟨start, action, after, events, happens⟩ (ih found)

/-! ### A channel to try runs on -/

namespace Trial

def client : Setup where
  config := .testing
  keys := { agreement := .uniform 1, signing := .uniform 2 }

def server (port : UInt16) : PollServer where
  host := "poll.test"
  port := port
  url := { scheme := "http", authority := none, path := "/", query := none, fragment := none }
  publicKey := .uniform 9

def draw : Draw where
  sessionKey := .uniform 3
  nonce := ⟨List.replicate 12 4, rfl⟩

def channel : World := .new (some ⟨1⟩) (some ⟨2⟩) true

def bind (call : Nat) (port : UInt16) : List Action :=
  [.invoke (.setServer (.poll (server port))) draw false,
    .advance call, .advance call, .advance call]

/-- A thread that stops the channel, without waiting for the stop, and one that starts it. -/
def restart (call : Nat) : List Action :=
  [.invoke .stop draw false, .advance call, .invoke .start draw false, .advance (call + 1)]

def begin : List Action := [.work .take, .work .begin]

def send : List Action :=
  [.work (.compiled (.returned []) (.returned draw.nonce)), .work .check, .work .send]

def answer (status : Nat) : List Action :=
  [.work (.answered (.returned { status })), .work .settle]

/-- The server's answer cannot be read, while a thread binds the channel to another server; the
worker then goes on as far as it can. -/
def rebind : List Action :=
  bind 0 1 ++ begin ++ send ++ answer 500 ++ bind 1 2 ++
    [.work .fail, .work (.reported false), .work .take, .work .begin]

end Trial

end LongPoll.Channel
