import LongPoll.Proofs.Calls
import LongPoll.Proofs.Snapshot

set_option autoImplicit false

/-!
What the collaborators of a channel are asked for and what they answer, in the order in which it
happens. A cycle asks for a request, sends it, and hands on what the response holds, each once and
before the next cycle does anything; a response that has arrived is handed on whatever stops,
restarts and rebinds the channel meanwhile.
-/

namespace LongPoll

/-- What a response holds for the demultiplexer: the plaintext of a successful response with a
body, unless it is empty. -/
def Response.payload? (response : Response) (session : Session) : Option Bytes :=
  if 200 ≤ response.status ∧ response.status < 300 ∧ response.status ≠ 204 ∧
      response.body ≠ [] then
    match session.decode response.body with
    | .ok payload => if payload = [] then none else some payload
    | .error _ => none
  else none

theorem Response.payload?_eq_some_iff {response : Response} {session : Session} {payload : Bytes} :
    response.payload? session = some payload ↔
      session.receive response = .ok payload ∧ payload ≠ [] := by
  have success : response.isSuccess = true ↔ 200 ≤ response.status ∧ response.status < 300 := by
    simp [Response.isSuccess]
  have empty : response.isEmptyPoll = true ↔ response.status = 204 ∨ response.body = [] := by
    simp [Response.isEmptyPoll]
  unfold Response.payload? Session.receive
  generalize session.decode response.body = decoded
  cases succeeds : response.isSuccess with
  | false =>
      have fails : ¬ (200 ≤ response.status ∧ response.status < 300) := by
        rw [← success, succeeds]
        decide
      rw [if_neg (fun fits => fails ⟨fits.1, fits.2.1⟩)]
      simp
  | true =>
      obtain ⟨least, most⟩ := success.mp succeeds
      cases elapsed : response.isEmptyPoll with
      | true =>
          have nothing := empty.mp elapsed
          rw [if_neg (fun fits => nothing.elim fits.2.2.1 fits.2.2.2)]
          simp
      | false =>
          have something : ¬ (response.status = 204 ∨ response.body = []) := by
            rw [← empty, elapsed]
            decide
          obtain ⟨status, body⟩ := not_or.mp something
          rw [if_pos ⟨least, most, status, body⟩]
          cases decoded with
          | error fault => simp
          | ok plaintext =>
              by_cases blank : plaintext = []
              · simp [blank]
              · simp only [blank, Bool.not_true, Bool.false_eq_true, if_false, Option.some.injEq,
                  Except.ok.injEq]
                constructor
                · rintro rfl
                  exact ⟨rfl, blank⟩
                · exact And.left

namespace Channel

variable {setup : Setup}

/-! ### What is said -/

structure Moment where
  cycle : Nat
  stage : Nat

namespace Moment

/-- In a cycle before, or at a stage before of the same cycle. -/
def Before (first second : Moment) : Prop :=
  first.cycle < second.cycle ∨ first.cycle = second.cycle ∧ first.stage < second.stage

def AtMost (first second : Moment) : Prop :=
  first.cycle < second.cycle ∨ first.cycle = second.cycle ∧ first.stage ≤ second.stage

variable {first second third : Moment}

theorem AtMost.trans (left : first.AtMost second) (right : second.AtMost third) :
    first.AtMost third := by
  unfold AtMost at left right ⊢
  omega

theorem AtMost.before (left : first.AtMost second) (right : second.Before third) :
    first.Before third := by
  unfold AtMost at left
  unfold Before at right ⊢
  omega

end Moment

/-- What passes between a cycle and its collaborators. -/
inductive Talk
  /-- The multiplexer is asked for a request. -/
  | asked (capture : Capture)
  | sent (capture : Capture)
  /-- The HTTP client comes back, with a response or a fault. -/
  | returned (capture : Capture) (result : Except Fault Response)
  /-- The demultiplexer is given a payload. -/
  | processed (capture : Capture) (payload : Bytes)

namespace Talk

def capture : Talk → Capture
  | asked capture | sent capture | returned capture _ | processed capture _ => capture

def stage : Talk → Nat
  | asked _ => 0
  | sent _ => 1
  | returned .. => 2
  | processed .. => 3

def moment (talk : Talk) : Moment := ⟨talk.capture.cycle, talk.stage⟩

def sent? : Talk → Option Capture
  | sent capture => some capture
  | _ => none

def returned? : Talk → Option (Capture × Except Fault Response)
  | returned capture result => some (capture, result)
  | _ => none

def processed? : Talk → Option (Capture × Bytes)
  | processed capture payload => some (capture, payload)
  | _ => none

end Talk

def Event.talk? : Event → Option Talk
  | .compile capture => some (.asked capture)
  | .send capture _ => some (.sent capture)
  | .process capture payload => some (.processed capture payload)
  | _ => none

/-- The end of an exchange, for which there is no event. -/
def endedExchange : Activity → Action → List Talk
  | .sending capture _, .work (.answered outcome) => [.returned capture outcome.result]
  | _, _ => []

def Step.talk (step : Step setup) : List Talk :=
  step.events.filterMap Event.talk? ++ endedExchange step.before.activity step.action

/-- Everything that passes in a list of steps, in order. -/
def conversation (steps : List (Step setup)) : List Talk := steps.flatMap Step.talk

/-- What an exchange holds for the demultiplexer that its cycle has captured. -/
def payloadOf? : Capture × Except Fault Response → Option (Capture × Bytes)
  | (capture, .ok response) => (response.payload? capture.session).map fun payload =>
      (capture, payload)
  | (_, .error _) => none

namespace Activity

def outstanding? : Activity → Option Capture
  | sending capture _ => some capture
  | _ => none

/-- What has arrived for the demultiplexer and has not been handed on. -/
def held? : Activity → Option (Capture × Bytes)
  | answered capture response => payloadOf? (capture, .ok response)
  | _ => none

def stage : Activity → Nat
  | compiling _ | built .. | cleared .. => 0
  | sending .. => 1
  | answered .. => 2
  | _ => 3

end Activity

/-- What is said between two activities of the worker. -/
inductive Speaks : Activity → Activity → List Talk → Prop
  | asks {capture : Capture} : Speaks .taken (.compiling capture) [.asked capture]
  | sends {capture : Capture} {request : FormPost} :
      Speaks (.cleared capture request) (.sending capture request) [.sent capture]
  | returns {capture : Capture} {request : FormPost} {response : Response}
      {result : Except Fault Response} (arrived : result = .ok response) :
      Speaks (.sending capture request) (.answered capture response) [.returned capture result]
  | breaks {capture : Capture} {request : FormPost} {fault : Fault}
      {result : Except Fault Response} (failed : result = .error fault) :
      Speaks (.sending capture request) (.failing capture fault) [.returned capture result]
  | delivers {capture : Capture} {response : Response} {payload : Bytes}
      (held : response.payload? capture.session = some payload) :
      Speaks (.answered capture response) (.processing capture) [.processed capture payload]
  | discards {capture : Capture} {response : Response} {after : Activity}
      (nothing : response.payload? capture.session = none) (last : after.stage = 3) :
      Speaks (.answered capture response) after []
  | silent {activity after : Activity} (quiet : activity.stage = 0 ∨ activity.stage = 3)
      (stays : after.stage = 0 ∨ after.stage = 3) (onward : activity.stage ≤ after.stage) :
      Speaks activity after []
  | rests {activity : Activity} : Speaks activity activity []

theorem talk?_rescheduleNotices (unposted : Option Fault) :
    (rescheduleNotices unposted).filterMap Event.talk? = [] := by
  cases unposted <;> rfl

theorem endedExchange_of_stage {activity : Activity} {action : Action}
    (quiet : activity.stage = 0 ∨ activity.stage = 3) : endedExchange activity action = [] := by
  cases activity with
  | sending => rcases quiet with impossible | impossible <;> cases impossible
  | _ => rfl

theorem Activity.stage_of_failure? {activity : Activity} {capture : Capture} {fault : Fault}
    (failed : activity.failure? = some (capture, fault)) : activity.stage = 3 := by
  rcases Activity.of_failure? failed with rfl | rfl
  · rfl
  · rfl

theorem Settles.speaks {capture : Capture} {response : Response} {after : Activity}
    {events : List Event} (settles : Settles capture response after events) :
    Speaks (.answered capture response) after (events.filterMap Event.talk? ++ []) := by
  have nothing (other : ∀ payload, capture.session.receive response = .ok payload → payload = []) :
      response.payload? capture.session = none := by
    cases held : response.payload? capture.session with
    | none => rfl
    | some payload =>
        obtain ⟨received, something⟩ := Response.payload?_eq_some_iff.mp held
        exact absurd (other payload received) something
  cases settles with
  | payload received something =>
      exact .delivers (Response.payload?_eq_some_iff.mpr ⟨received, something⟩)
  | unreadable failed =>
      refine .discards (nothing ?_) rfl
      intro payload received
      rw [failed] at received
      cases received
  | empty blank =>
      refine .discards (nothing ?_) rfl
      intro payload received
      rw [blank] at received
      cases received
      rfl

theorem Turn.speaks {managerAlive : Bool} {state next : State} {activity after : Activity}
    {move : Move} {events : List Event}
    (turn : Turn setup managerAlive state activity move next after events) :
    Speaks activity after
      (events.filterMap Event.talk? ++ endedExchange activity (.work move)) := by
  have silent {before after : Activity} {events : List Event}
      (nothing : events.filterMap Event.talk? = [])
      (quiet : before.stage = 0 ∨ before.stage = 3) (stays : after.stage = 0 ∨ after.stage = 3)
      (onward : before.stage ≤ after.stage) :
      Speaks before after
        (events.filterMap Event.talk? ++ endedExchange before (.work move)) := by
    rw [nothing, endedExchange_of_stage quiet]
    exact .silent quiet stays onward
  cases turn with
  | begin running captured => exact .asks
  | proceed proceeds =>
      cases proceeds with
      | send => exact .sends
      | answered returned => exact .returns returned
      | unanswered failed => exact .breaks failed
      | compiled built sealed | clear unhit => exact .silent (.inl rfl) (.inl rfl) (Nat.le_refl _)
      | uncompiled failed => exact .silent (.inl rfl) (.inr rfl) (Nat.zero_le _)
      | processed returned | unprocessed failed =>
          exact .silent (.inr rfl) (.inr rfl) (Nat.le_refl _)
  | settle settles => exact settles.speaks
  | drop hit rescheduled =>
      exact silent (talk?_rescheduleNotices _) (.inl rfl) (.inr rfl) (Nat.zero_le _)
  | finish rescheduled =>
      exact silent (talk?_rescheduleNotices _) (.inr rfl) (.inr rfl) (Nat.le_refl _)
  | cancel failed hit rescheduled =>
      have last := Activity.stage_of_failure? failed
      exact silent (talk?_rescheduleNotices _) (.inr last) (.inr rfl) (Nat.le_of_eq last)
  | fail failed unhit =>
      have last := Activity.stage_of_failure? failed
      cases managerAlive with
      | true => exact silent rfl (.inr last) (.inr rfl) (Nat.le_of_eq last)
      | false => exact silent rfl (.inr last) (.inr rfl) (Nat.le_of_eq last)
  | reported => exact silent (by split <;> rfl) (.inr rfl) (.inr rfl) (Nat.le_refl _)
  | take | leave | skip | misconfigure => exact .silent (.inr rfl) (.inr rfl) (Nat.le_refl _)

theorem Happening.speaks {before after : World} {action : Action} {events : List Event}
    (happening : Happening setup before action after events) :
    Speaks before.activity after.activity
      (events.filterMap Event.talk? ++ endedExchange before.activity action) := by
  have outside (called : ∀ move, action ≠ .work move) :
      endedExchange before.activity action = [] := by
    unfold endedExchange
    split
    · exact absurd rfl (called _)
    · rfl
  cases happening with
  | work free turn => exact turn.speaks
  | advance found advances =>
      have nothing : events.filterMap Event.talk? = [] := by
        apply List.filterMap_eq_nil_iff.mpr
        intro event member
        have other := advances.not_ofCycle member
        cases event <;> first | rfl | cases other
      rw [nothing, outside (by intro move same; cases same)]
      exact .rests
  | invoke | repeatAbort | repeatPanicking | dropManager =>
      rw [outside (by intro move same; cases same)]
      exact .rests

/-! ### What has been said by the end of a run -/

theorem Activity.outstanding?_of_stage {activity : Activity} (other : activity.stage ≠ 1) :
    activity.outstanding? = none := by
  cases activity <;> first | rfl | exact absurd rfl other

theorem Activity.held?_of_stage {activity : Activity} (other : activity.stage ≠ 2) :
    activity.held? = none := by
  cases activity <;> first | rfl | exact absurd rfl other

namespace Speaks

variable {activity after : Activity} {talk : List Talk}

theorem outstanding? (speaks : Speaks activity after talk) :
    activity.outstanding?.toList ++ talk.filterMap Talk.sent? =
      (talk.filterMap Talk.returned?).map Prod.fst ++ after.outstanding?.toList := by
  cases speaks with
  | asks | sends | returns | breaks | delivers => rfl
  | discards nothing last =>
      have settled : after.outstanding? = none :=
        Activity.outstanding?_of_stage (by rw [last]; decide)
      rw [settled]
      rfl
  | silent quiet stays onward =>
      rw [Activity.outstanding?_of_stage (by omega), Activity.outstanding?_of_stage (by omega)]
      rfl
  | rests => exact List.append_nil _

/-- What arrives for the demultiplexer is handed on or stays at hand. -/
theorem held? (speaks : Speaks activity after talk) :
    activity.held?.toList ++ (talk.filterMap Talk.returned?).filterMap payloadOf? =
      talk.filterMap Talk.processed? ++ after.held?.toList := by
  cases speaks with
  | asks | sends => rfl
  | @returns capture request response result arrived =>
      rw [arrived]
      change [(capture, .ok response)].filterMap payloadOf? =
        (payloadOf? (capture, .ok response)).toList
      cases arrives : payloadOf? (capture, .ok response) with
      | none => simp [arrives]
      | some payload => simp [arrives]
  | @breaks capture request fault result failed =>
      rw [failed]
      rfl
  | @delivers capture response payload held =>
      have holds : payloadOf? (capture, .ok response) = some (capture, payload) := by
        simp [payloadOf?, held]
      change (payloadOf? (capture, .ok response)).toList ++ [] = [(capture, payload)] ++ []
      rw [holds]
      rfl
  | @discards capture response after nothing last =>
      have empty : payloadOf? (capture, .ok response) = none := by simp [payloadOf?, nothing]
      have settled : after.held? = none := Activity.held?_of_stage (by rw [last]; decide)
      change (payloadOf? (capture, .ok response)).toList ++ [] = [] ++ after.held?.toList
      rw [empty, settled]
      rfl
  | silent quiet stays onward =>
      rw [Activity.held?_of_stage (by omega), Activity.held?_of_stage (by omega)]
      rfl
  | rests => exact List.append_nil _

end Speaks

/-! ### The order of what is said -/

/-- What is said comes after what the worker has been at, and no later than what it comes to. -/
theorem Speaks.between {activity after : Activity} {talk : List Talk} {first last : Nat}
    (speaks : Speaks activity after talk)
    (before : ∀ capture, activity.capture? = some capture → capture.cycle = first)
    (reached : ∀ capture, after.capture? = some capture → capture.cycle = last)
    (begins : ∀ capture, activity = .taken → after = .compiling capture → first < last)
    (grows : first ≤ last) :
    Moment.AtMost ⟨first, activity.stage⟩ ⟨last, after.stage⟩ ∧
    talk.Pairwise (fun first second => first.moment.Before second.moment) ∧
    ∀ said ∈ talk, Moment.Before ⟨first, activity.stage⟩ said.moment ∧
      said.moment.AtMost ⟨last, after.stage⟩ := by
  have onward (stages : activity.stage ≤ after.stage) :
      Moment.AtMost ⟨first, activity.stage⟩ ⟨last, after.stage⟩ := by
    rcases Nat.lt_or_eq_of_le grows with less | same
    · exact .inl less
    · exact .inr ⟨same, stages⟩
  have one {said : Talk} (later : Moment.Before ⟨first, activity.stage⟩ said.moment)
      (number : said.capture.cycle = last) (stage : said.stage ≤ after.stage) :
      [said].Pairwise (fun first second => first.moment.Before second.moment) ∧
      ∀ other ∈ [said], Moment.Before ⟨first, activity.stage⟩ other.moment ∧
        other.moment.AtMost ⟨last, after.stage⟩ := by
    refine ⟨List.pairwise_singleton _ _, ?_⟩
    intro other member
    cases List.mem_singleton.mp member
    exact ⟨later, .inr ⟨number, stage⟩⟩
  have none_said : ([] : List Talk).Pairwise
        (fun first second => first.moment.Before second.moment) ∧
      ∀ other ∈ ([] : List Talk), Moment.Before ⟨first, activity.stage⟩ other.moment ∧
        other.moment.AtMost ⟨last, after.stage⟩ := by
    refine ⟨List.Pairwise.nil, ?_⟩
    intro other impossible
    cases impossible
  cases speaks with
  | @asks capture =>
      have number : capture.cycle = last := reached capture rfl
      have less := begins capture rfl rfl
      exact ⟨.inl less, one (.inl (Nat.lt_of_lt_of_eq less number.symm)) number (Nat.le_refl _)⟩
  | @sends capture request =>
      have own : capture.cycle = first := before capture rfl
      exact ⟨onward (Nat.zero_le _),
        one (.inr ⟨own.symm, Nat.zero_lt_one⟩) (reached capture rfl) (Nat.le_refl _)⟩
  | @returns capture request response result arrived =>
      have own : capture.cycle = first := before capture rfl
      exact ⟨onward (Nat.le_succ 1),
        one (.inr ⟨own.symm, Nat.lt_succ_self 1⟩) (reached capture rfl) (Nat.le_refl _)⟩
  | @breaks capture request fault result failed =>
      have own : capture.cycle = first := before capture rfl
      exact ⟨onward (by change 1 ≤ 3; decide),
        one (.inr ⟨own.symm, Nat.lt_succ_self 1⟩) (reached capture rfl) (Nat.le_succ 2)⟩
  | @delivers capture response payload held =>
      have own : capture.cycle = first := before capture rfl
      exact ⟨onward (Nat.le_succ 2),
        one (.inr ⟨own.symm, Nat.lt_succ_self 2⟩) (reached capture rfl) (Nat.le_refl _)⟩
  | discards nothing ended =>
      exact ⟨onward (by rw [ended]; exact Nat.le_succ 2), none_said⟩
  | silent quiet stays stages => exact ⟨onward stages, none_said⟩
  | rests => exact ⟨onward (Nat.le_refl _), none_said⟩

def World.moment (world : World) : Moment := ⟨world.state.cycleSeq, world.activity.stage⟩

namespace Step

variable {step : Step setup}

theorem speaks (step : Step setup) :
    Speaks step.before.activity step.after.activity step.talk :=
  step.happening.speaks

theorem handed (step : Step setup) {said : Talk} (member : said ∈ step.talk) {capture : Capture}
    {payload : Bytes} (hands : said.processed? = some (capture, payload)) :
    .process capture payload ∈ step.events := by
  rcases List.mem_append.mp member with talks | ended
  · obtain ⟨event, present, spoken⟩ := List.mem_filterMap.mp talks
    cases event with
    | process other handed =>
        cases spoken
        cases hands
        exact present
    | compile | send =>
        cases spoken
        cases hands
    | spawned | close | serverFailed | notice => cases spoken
  · unfold endedExchange at ended
    split at ended
    · cases List.mem_singleton.mp ended
      cases hands
    · cases ended

theorem talk_between (step : Step setup) (sound : step.before.Sound) :
    step.before.moment.AtMost step.after.moment ∧
    step.talk.Pairwise (fun first second => first.moment.Before second.moment) ∧
    ∀ said ∈ step.talk, step.before.moment.Before said.moment ∧
      said.moment.AtMost step.after.moment := by
  refine step.speaks.between sound.consistent.current
    (sound.happening step.happening).consistent.current ?_ step.happening.cycleSeq_le
  intro capture taken compiling
  have begins : step.Begins capture := ⟨taken, compiling⟩
  rw [begins.beginning.cycleSeq, begins.beginning.cycle]
  exact Nat.lt_succ_self _

end Step

namespace Run

variable {start finish : World} {steps : List (Step setup)}

theorem conversation_ordered (run : Run setup start steps finish) (sound : start.Sound) :
    (conversation steps).Pairwise fun first second => first.moment.Before second.moment := by
  have all : finish.Sound ∧
      ((conversation steps).Pairwise fun first second => first.moment.Before second.moment) ∧
      ∀ said ∈ conversation steps, said.moment.AtMost finish.moment := by
    refine run.keeps_history (fun made world => world.Sound ∧
      ((conversation made).Pairwise fun first second => first.moment.Before second.moment) ∧
      ∀ said ∈ conversation made, said.moment.AtMost world.moment)
      ⟨sound, List.Pairwise.nil, by intro said impossible; cases impossible⟩ ?_
    -- What has been said lies at or before the moment of the world, what is said next after it.
    rintro made step _ ⟨sound, ordered, earlier⟩
    obtain ⟨onward, within, between⟩ := step.talk_between sound
    have whole : conversation (made ++ [step]) = conversation made ++ step.talk := by
      simp [conversation]
    rw [whole]
    refine ⟨sound.happening step.happening, List.pairwise_append.mpr ⟨ordered, within, ?_⟩, ?_⟩
    · intro first old second new
      exact (earlier first old).before (between second new).1
    · intro said member
      rcases List.mem_append.mp member with old | new
      · exact (earlier said old).trans onward
      · exact (between said new).2
  exact all.2.1

theorem outstanding? (run : Run setup start steps finish) :
    start.activity.outstanding?.toList ++ (conversation steps).filterMap Talk.sent? =
      ((conversation steps).filterMap Talk.returned?).map Prod.fst ++
        finish.activity.outstanding?.toList := by
  induction run with
  | nil world => exact List.append_nil _
  | cons step tail ih =>
      simp only [conversation, List.flatMap_cons, List.filterMap_append, List.map_append] at ih ⊢
      rw [← List.append_assoc, step.speaks.outstanding?, List.append_assoc, ih, List.append_assoc]

theorem held? (run : Run setup start steps finish) :
    start.activity.held?.toList ++
        ((conversation steps).filterMap Talk.returned?).filterMap payloadOf? =
      (conversation steps).filterMap Talk.processed? ++ finish.activity.held?.toList := by
  induction run with
  | nil world => exact List.append_nil _
  | cons step tail ih =>
      simp only [conversation, List.flatMap_cons, List.filterMap_append] at ih ⊢
      rw [← List.append_assoc, step.speaks.held?, List.append_assoc, ih, List.append_assoc]

theorem processed_begun (run : Run setup start steps finish) (idle : start.activity = .idle)
    (paired : start.Paired setup.keys) {capture : Capture} {payload : Bytes}
    (processed : (capture, payload) ∈ (conversation steps).filterMap Talk.processed?) :
    ∃ begin ∈ steps, begin.Begins capture ∧
      begin.before.state.demultiplexer = some capture.demultiplexer := by
  obtain ⟨said, among, hands⟩ := List.mem_filterMap.mp processed
  obtain ⟨step, member, talks⟩ := List.mem_flatMap.mp among
  have handed := step.handed talks hands
  obtain ⟨earlier, later, rfl⟩ := List.append_of_mem member
  obtain ⟨begin, same, begun, goes⟩ := run.cut.1.event_goesBy idle paired handed rfl
  cases goes with
  | process demultiplexer opened answered received =>
      obtain ⟨prior, during, whole, _⟩ := begun.once
      have present : begin ∈ earlier ++ [step] := whole ▸ by simp
      refine ⟨begin, ?_, begun.begins, demultiplexer⟩
      rcases List.mem_append.mp present with old | new
      · exact List.mem_append_left _ old
      · rw [List.mem_singleton.mp new]
        exact List.mem_append_right _ List.mem_cons_self

end Run

/-! ### Handing on -/

theorem Activity.of_held? {activity : Activity} {capture : Capture} {payload : Bytes}
    (held : activity.held? = some (capture, payload)) :
    ∃ response, activity = .answered capture response ∧
      response.payload? capture.session = some payload := by
  cases activity with
  | answered own response =>
      obtain ⟨found, holds, same⟩ := Option.map_eq_some_iff.mp held
      cases same
      exact ⟨response, rfl, holds⟩
  | _ => cases held

theorem Turn.hands {managerAlive : Bool} {state next : State} {after : Activity} {move : Move}
    {events : List Event} {capture : Capture} {response : Response} {payload : Bytes}
    (turn : Turn setup managerAlive state (.answered capture response) move next after events)
    (held : response.payload? capture.session = some payload) :
    events = [.process capture payload] := by
  obtain ⟨received, something⟩ := Response.payload?_eq_some_iff.mp held
  cases turn with
  | proceed proceeds => cases proceeds
  | cancel failed hit rescheduled | fail failed unhit => cases failed
  | settle settles =>
      cases settles with
      | payload found something =>
          cases found.symm.trans received
          rfl
      | unreadable failed =>
          rw [received] at failed
          cases failed
      | empty blank =>
          rw [received] at blank
          cases blank
          exact absurd rfl something

/-- What is at hand can be handed on at once, and the worker does nothing else before. -/
theorem World.Yields.hands {world : World} (yields : world.Yields) {capture : Capture}
    {payload : Bytes} (held : world.activity.held? = some (capture, payload)) :
    (∃ after, world.act? setup (.work .settle) = some (after, [.process capture payload])) ∧
    ∀ move after events, world.act? setup (.work move) = some (after, events) →
      events = [.process capture payload] := by
  obtain ⟨response, answered, holds⟩ := Activity.of_held? held
  have forced (move : Move) (after : World) (events : List Event)
      (happens : world.act? setup (.work move) = some (after, events)) :
      events = [.process capture payload] := by
    have turn := (Step.mk world (.work move) after events happens).happening.turn
    rw [answered] at turn
    exact turn.hands holds
  have free : world.workerIsBusy = false := yields.free (by rw [answered]; rfl)
  refine ⟨?_, forced⟩
  have possible : world.act? setup (.work .settle) =
      some ({ world with
        state := (settleExchange world.state capture response).state
        activity := (settleExchange world.state capture response).activity },
        (settleExchange world.state capture response).events) := by
    simp [World.act?, free, work?, answered]
  exact ⟨_, (forced _ _ _ possible) ▸ possible⟩

/-! ### Delivery -/

/-- Whatever stops, restarts and rebinds a channel, its responses are delivered once and in order.
Each cycle asks for a request, sends it, has an answer and hands on a payload at most once, in this
order and before the next cycle asks; the answers come in the order of sending; and what is handed
on, together with what has just arrived, is exactly what the answers hold, in their order, each to
the demultiplexer that its cycle began with. What has just arrived is handed on before the worker
does anything else. -/
theorem Run.responses_delivered {finish : World} {steps : List (Step setup)}
    {multiplexer : Option Multiplexer} {demultiplexer : Option Demultiplexer}
    {managerAlive : Bool}
    (run : Run setup (.new multiplexer demultiplexer managerAlive) steps finish) :
    (conversation steps).Pairwise (fun first second => first.moment.Before second.moment) ∧
    (conversation steps).filterMap Talk.sent? =
      ((conversation steps).filterMap Talk.returned?).map Prod.fst ++
        finish.activity.outstanding?.toList ∧
    ((conversation steps).filterMap Talk.returned?).filterMap payloadOf? =
      (conversation steps).filterMap Talk.processed? ++ finish.activity.held?.toList ∧
    (∀ capture payload, (capture, payload) ∈ (conversation steps).filterMap Talk.processed? →
      ∃ begin ∈ steps, begin.Begins capture ∧
        begin.before.state.demultiplexer = some capture.demultiplexer) ∧
    ∀ capture payload, finish.activity.held? = some (capture, payload) →
      (∃ after, finish.act? setup (.work .settle) = some (after, [.process capture payload])) ∧
      ∀ move after events, finish.act? setup (.work move) = some (after, events) →
        events = [.process capture payload] := by
  have fresh : (World.new multiplexer demultiplexer managerAlive).Sound :=
    .new multiplexer demultiplexer managerAlive
  refine ⟨run.conversation_ordered fresh, run.outstanding?, run.held?, ?_, ?_⟩
  · intro capture payload processed
    exact run.processed_begun rfl (.new multiplexer demultiplexer managerAlive) processed
  · intro capture payload held
    exact (run.yields (.new _ _ _)).hands held

/-- A channel is bound to a second server while the first has a request; the response of the first
still arrives, and the worker hands it on. -/
def Trial.overtake : List Action :=
  bind 0 1 ++ begin ++ send ++ [.invoke (.setServer (.poll (server 2))) draw false, .advance 1,
    .work (.answered (.returned {
      status := 200, body := Sealed.encode draw.sessionKey draw.nonce [120] })),
    .work .settle, .advance 1, .advance 1, .advance 1, .work (.processed (.returned ()))]

/-- The payload of the first server goes to the demultiplexer, after the channel has been stopped
for the second. -/
theorem Run.responses_delivered_overtaken : ∃ steps finish capture begin,
    Run Trial.client Trial.channel steps finish ∧ finish.state.server = some (Trial.server 2) ∧
    (conversation steps).filterMap Talk.processed? = [(capture, [120])] ∧
    ((conversation steps).filterMap Talk.returned?).filterMap payloadOf? = [(capture, [120])] ∧
    capture.server = Trial.server 1 ∧ begin ∈ steps ∧ begin.Begins capture := by
  have seen : (Trial.channel.record? Trial.client Trial.overtake).any (fun record =>
      record.2.state.server = some (Trial.server 2) && record.2.activity.held? = none &&
      ((conversation record.1).filterMap Talk.processed?).map (fun (capture, payload) =>
        (capture.server, payload)) = [(Trial.server 1, [120])]) = true := by
    decide +kernel
  obtain ⟨⟨steps, finish⟩, recorded, checked⟩ := (Option.any_eq_true _ _).mp seen
  simp only [Bool.and_eq_true, decide_eq_true_eq] at checked
  obtain ⟨⟨second, settled⟩, handed⟩ := checked
  have run := Run.of_record recorded
  obtain ⟨_, _, exactly, begun, _⟩ := responses_delivered run
  obtain ⟨⟨capture, payload⟩, processed, same⟩ := List.map_eq_singleton_iff.mp handed
  obtain ⟨first, text⟩ := Prod.mk.inj same
  cases text
  obtain ⟨begin, member, begins, _⟩ := begun capture [120] (processed ▸ List.mem_singleton_self _)
  rw [processed, settled] at exactly
  exact ⟨steps, finish, capture, begin, run, second, processed, exactly, first, member, begins⟩

end Channel
end LongPoll
