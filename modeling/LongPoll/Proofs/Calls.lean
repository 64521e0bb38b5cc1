import LongPoll.Proofs.Soundness

set_option autoImplicit false

/-!
The life of a call. A call runs its sections one after another; one that is ahead of it stays so
until it runs, unless the call panics or ends for want of a server. What a section leaves behind it
can so be told of every call that has returned. Only within a collaborator does the worker wait for
a call.
-/

namespace LongPoll.Channel

variable {setup : Setup}

theorem getElem?_set_eq_some {calls : List Call} {moved index : Nat} {next call : Call}
    (found : (calls.set moved next)[index]? = some call) :
    moved ≠ index ∧ calls[index]? = some call ∨ index = moved ∧ call = next := by
  by_cases same : moved = index
  · obtain ⟨_, set⟩ := List.getElem?_eq_some_iff.mp found
    subst same
    exact .inr ⟨rfl, by simpa using set.symm⟩
  · rw [List.getElem?_set_ne same] at found
    exact .inl ⟨same, found⟩

theorem getElem?_concat_eq_some {calls : List Call} {index : Nat} {last call : Call}
    (found : (calls ++ [last])[index]? = some call) :
    calls[index]? = some call ∨ index = calls.length ∧ call = last := by
  by_cases old : index < calls.length
  · rw [List.getElem?_append_left old] at found
    exact .inl found
  · obtain ⟨bound, made⟩ := List.getElem?_eq_some_iff.mp found
    have same : index = calls.length := by
      rw [List.length_append, List.length_singleton] at bound
      omega
    subst same
    exact .inr ⟨rfl, by simpa using made.symm⟩

namespace Advances

variable {chance : Chance} {state next : State} {call after : Call} {events : List Event}

theorem operation (advances : Advances setup chance state call next after events) :
    after.operation = call.operation := by
  cases advances <;> rfl

theorem onWorker (advances : Advances setup chance state call next after events) :
    after.onWorker = call.onWorker := by
  cases advances <;> rfl

/-- A section that is ahead of a call stays so until it runs, unless the call ends before. -/
theorem ahead (advances : Advances setup chance state call next after events) {part : Section}
    (ahead : part ∈ call.sections) :
    part ∈ after.sections ∨ (∃ rest, call.sections = part :: rest) ∨ after.panicked = true ∨
      state.server = none ∧ .requireServer ∈ call.sections := by
  have first_or_later {other : Section} {rest : List Section}
      (sections : call.sections = other :: rest) :
      part ∈ rest ∨ ∃ rest, call.sections = part :: rest := by
    rw [sections] at ahead
    rcases List.mem_cons.mp ahead with rfl | later
    · exact .inr ⟨rest, sections⟩
    · exact .inl later
  cases advances with
  | stopPanicking sections aborts panics => exact .inr (.inr (.inl rfl))
  | noServer sections unbound =>
      exact .inr (.inr (.inr ⟨unbound, sections ▸ List.mem_cons_self⟩))
  | stopWaiting sections busy outside =>
      rcases first_or_later sections with later | first
      · exact .inl (List.mem_cons_of_mem _ later)
      · exact .inr (.inl first)
  | retire sections leaves joins =>
      rcases first_or_later sections with later | first
      · exact .inl (List.mem_append_right _ later)
      · exact .inr (.inl first)
  | start sections | stopPassing sections | await sections | serverFound sections
  | bind sections | setMultiplexer sections | setDemultiplexer sections | dismiss sections
  | join sections =>
      rcases first_or_later sections with later | first
      · exact .inl later
      · exact .inr (.inl first)

/-- A section gives way to what comes up with it and is followed by the rest, unless it ends the
call. -/
theorem follows (advances : Advances setup chance state call next after events) {part : Section}
    {rest : List Section} (sections : call.sections = part :: rest) :
    after.sections = [] ∨ ∃ brought, after.sections = brought ++ rest ∧
      ∀ left ∈ brought, left.isPlanned = false := by
  cases advances with
  | stopPanicking | noServer => exact .inl rfl
  | stopWaiting own busy outside =>
      cases sections.symm.trans own
      refine .inr ⟨[.await state.cycleSeq], rfl, ?_⟩
      intro left member
      rw [List.mem_singleton.mp member]
      rfl
  | retire own leaves joins =>
      cases sections.symm.trans own
      refine .inr ⟨_, rfl, ?_⟩
      intro left member
      rcases leaves left member with rfl | rfl <;> rfl
  | start own | stopPassing own | await own | serverFound own | bind own | setMultiplexer own
  | setDemultiplexer own | dismiss own | join own =>
      cases sections.symm.trans own
      refine .inr ⟨[], rfl, ?_⟩
      intro left impossible
      cases impossible

theorem panicked (advances : Advances setup chance state call next after events)
    (panicked : call.panicked = true) : after.panicked = true := by
  cases advances with
  | stopPanicking => rfl
  | _ => exact panicked

theorem result_or_start (advances : Advances setup chance state call next after events) :
    after.result = call.result ∨ ∃ rest, call.sections = .start :: rest := by
  cases advances with
  | start sections started => exact .inr ⟨_, sections⟩
  | _ => exact .inl rfl

end Advances

namespace Happening

variable {before after : World} {action : Action} {events : List Event}

theorem length_le (happening : Happening setup before action after events) :
    before.calls.length ≤ after.calls.length := by
  cases happening with
  | invoke allowed => simp
  | advance found advances => simp
  | repeatPanicking found sections awaited => simp
  | _ => exact Nat.le_refl _

/-- How a call comes to be what it is after an action. -/
theorem call (happening : Happening setup before action after events) {index : Nat} {call : Call}
    (found : after.calls[index]? = some call) :
    before.calls[index]? = some call ∨
    (∃ operation draw onWorker, index = before.calls.length ∧
      call = .make setup draw operation onWorker) ∨
    ∃ earlier, before.calls[index]? = some earlier ∧ call.operation = earlier.operation ∧
      (call = earlier.panic ∨ ∃ chance, action = .advance index chance ∧
        Advances setup chance before.state earlier after.state call events) := by
  cases happening with
  | @invoke operation draw onWorker allowed =>
      rcases getElem?_concat_eq_some found with kept | ⟨last, made⟩
      · exact .inl kept
      · exact .inr (.inl ⟨operation, draw, onWorker, last, made⟩)
  | @advance moved chance earlier next state events present advances =>
      rcases getElem?_set_eq_some found with ⟨_, kept⟩ | ⟨rfl, rfl⟩
      · exact .inl kept
      · exact .inr (.inr ⟨earlier, present, advances.operation, .inr ⟨chance, rfl, advances⟩⟩)
  | @repeatPanicking moved cycle earlier rest present sections awaited =>
      rcases getElem?_set_eq_some found with ⟨_, kept⟩ | ⟨rfl, rfl⟩
      · exact .inl kept
      · exact .inr (.inr ⟨earlier, present, rfl, .inl rfl⟩)
  | repeatAbort | dropManager | work => exact .inl found

/-- What becomes of a call: it stays, panics under a wait, or runs its next section. -/
theorem changes (happening : Happening setup before action after events) {index : Nat}
    {earlier : Call} (present : before.calls[index]? = some earlier) :
    after.calls[index]? = some earlier ∨
    (∃ cycle rest, earlier.sections = .await cycle :: rest) ∧
      action = .repeatAbort index true ∧ after.calls[index]? = some earlier.panic ∨
    ∃ chance call, action = .advance index chance ∧ after.calls[index]? = some call ∧
      Advances setup chance before.state earlier after.state call events := by
  obtain ⟨bound, _⟩ := List.getElem?_eq_some_iff.mp present
  cases happening with
  | invoke allowed => exact .inl ((List.getElem?_append_left bound).trans present)
  | @advance moved chance other next state events found advances =>
      by_cases own : moved = index
      · subst own
        cases Option.some.inj (present.symm.trans found)
        exact .inr (.inr ⟨chance, next, rfl, List.getElem?_set_self bound, advances⟩)
      · exact .inl ((List.getElem?_set_ne own).trans present)
  | @repeatPanicking moved cycle other rest found sections awaited =>
      by_cases own : moved = index
      · subst own
        cases Option.some.inj (present.symm.trans found)
        exact .inr (.inl ⟨⟨cycle, rest, sections⟩, rfl, List.getElem?_set_self bound⟩)
      · exact .inl ((List.getElem?_set_ne own).trans present)
  | repeatAbort | dropManager | work => exact .inl present

/-- A planned section that is ahead of a call has been ahead of it before. -/
theorem planned_ahead (happening : Happening setup before action after events) {index : Nat}
    {call : Call} (found : after.calls[index]? = some call) (made : index < before.calls.length)
    {part : Section} (planned : part.isPlanned = true) (ahead : part ∈ call.sections) :
    ∃ earlier, before.calls[index]? = some earlier ∧ part ∈ earlier.sections := by
  rcases happening.call found with kept | ⟨_, _, _, last, _⟩ |
    ⟨earlier, present, _, rfl | ⟨chance, _, advances⟩⟩
  · exact ⟨call, kept, ahead⟩
  · rw [last] at made
    exact absurd made (Nat.lt_irrefl _)
  · cases ahead
  · exact ⟨earlier, present, advances.planned_mem planned ahead⟩

end Happening

theorem Run.planned_ahead {start finish : World} {steps : List (Step setup)}
    (run : Run setup start steps finish) {index : Nat} {call : Call}
    (found : finish.calls[index]? = some call) (made : index < start.calls.length)
    {part : Section} (planned : part.isPlanned = true) (ahead : part ∈ call.sections) :
    ∃ earlier, start.calls[index]? = some earlier ∧ part ∈ earlier.sections := by
  induction run with
  | nil world => exact ⟨call, found, ahead⟩
  | cons step tail ih =>
      have length := step.happening.length_le
      obtain ⟨later, present, still⟩ := ih found (Nat.lt_of_lt_of_le made length)
      exact step.happening.planned_ahead present made planned still

/-- A call can run its next section, unless that waits. -/
theorem Call.advance?_or_waits {state : State} {call : Call} {part : Section}
    {rest : List Section} (sections : call.sections = part :: rest) :
    (∀ chance, ∃ next, call.advance? setup state chance = some next) ∨
      (∃ cycle, part = .await cycle ∧ state.awaits cycle = true) ∨ part = .join := by
  unfold Call.advance?
  rw [sections]
  cases part with
  | await cycle =>
      cases awaited : state.awaits cycle with
      | true => exact .inr (.inl ⟨cycle, rfl, awaited⟩)
      | false =>
          left
          intro chance
          dsimp only
          rw [awaited]
          exact ⟨_, rfl⟩
  | join => exact .inr (.inr rfl)
  | requireServer =>
      left
      intro chance
      cases state.server.isNone with
      | true => exact ⟨_, rfl⟩
      | false => exact ⟨_, rfl⟩
  | start | stop | bind | setMultiplexer | setDemultiplexer | retire | dismiss =>
      exact .inl fun chance => ⟨_, rfl⟩

/-! ### Sections that are due -/

/-- Whether an operation does nothing on a channel without a server. -/
def Operation.requiresServer : Operation → Bool
  | .sync _ | .syncAll => true
  | _ => false

theorem Call.make_operation {draw : Draw} {operation : Operation} {onWorker : Bool} :
    (Call.make setup draw operation onWorker).operation = operation := by
  unfold Call.make
  split <;> rfl

theorem Call.make_onWorker {draw : Draw} {operation : Operation} {onWorker : Bool} :
    (Call.make setup draw operation onWorker).onWorker = onWorker := by
  unfold Call.make
  split <;> rfl

theorem Call.make_requiresServer {draw : Draw} {operation : Operation} {onWorker : Bool}
    (requires : .requireServer ∈ (Call.make setup draw operation onWorker).sections) :
    operation.requiresServer = true := by
  obtain ⟨sections, made, planned⟩ := Call.make_planned requires
  rw [made] at requires
  cases planned with
  | sync | syncAll => rfl
  | _ => simp at requires

/-- Only a shutdown retires the worker. -/
theorem Call.make_retires {draw : Draw} {operation : Operation} {onWorker : Bool}
    (retires : .retire ∈ (Call.make setup draw operation onWorker).sections) :
    operation = .shutdown := by
  obtain ⟨sections, made, planned⟩ := Call.make_planned retires
  rw [made] at retires
  cases planned with
  | shutdown => rfl
  | _ => simp [restart] at retires

/-- Only a call that requires a server ends without one. -/
def World.Requires (world : World) : Prop :=
  ∀ (index : Nat) (call : Call), world.calls[index]? = some call →
    .requireServer ∈ call.sections → call.operation.requiresServer = true

theorem World.Requires.happening {before after : World} {action : Action} {events : List Event}
    (requires : before.Requires) (happening : Happening setup before action after events) :
    after.Requires := by
  intro index call found ahead
  rcases happening.call found with kept | ⟨operation, draw, onWorker, _, rfl⟩ |
    ⟨earlier, present, same, rfl | ⟨chance, _, advances⟩⟩
  · exact requires index call kept ahead
  · rw [Call.make_operation]
    exact Call.make_requiresServer ahead
  · cases ahead
  · rw [same]
    exact requires index earlier present (advances.planned_mem rfl ahead)

/-- A call has a section ahead of it, has panicked, or shows what the section has done. -/
def Call.Due (call : Call) (part : Section) (done : Prop) : Prop :=
  part ∈ call.sections ∨ call.panicked = true ∨ done

/-- A section that is due stays so, as long as what it does lasts and no call ends for want of a
server. -/
theorem Happening.due {before after : World} {action : Action} {events : List Event}
    (happening : Happening setup before action after events) (requires : before.Requires)
    {index : Nat} {call : Call} (found : after.calls[index]? = some call) {part : Section}
    (done : World → Call → Prop)
    (made : ∀ operation draw onWorker, index = before.calls.length →
      call = .make setup draw operation onWorker → part ∈ call.sections)
    (due : ∀ earlier, before.calls[index]? = some earlier → earlier.operation = call.operation →
      earlier.Due part (done before earlier))
    (served : call.operation.requiresServer = true → before.state.server ≠ none)
    (kept : done before call → done after call)
    (lasts : ∀ chance earlier, Advances setup chance before.state earlier after.state call events →
      done before earlier ∨ (∃ rest, earlier.sections = part :: rest) → done after call) :
    call.Due part (done after call) := by
  rcases happening.call found with same | ⟨operation, draw, onWorker, last, built⟩ |
    ⟨earlier, present, same, rfl | ⟨chance, _, advances⟩⟩
  · rcases due call same rfl with ahead | panicked | shown
    · exact .inl ahead
    · exact .inr (.inl panicked)
    · exact .inr (.inr (kept shown))
  · exact .inl (made operation draw onWorker last built)
  · exact .inr (.inl rfl)
  · rcases due earlier present same.symm with ahead | panicked | shown
    · -- The section stays ahead, runs now, or is lost to a panic; a server is there if needed.
      rcases advances.ahead ahead with later | first | panicked | ⟨unbound, wanted⟩
      · exact .inl later
      · exact .inr (.inr (lasts chance earlier advances (.inr first)))
      · exact .inr (.inl panicked)
      · have wants := requires index earlier present wanted
        rw [← same] at wants
        exact absurd unbound (served wants)
    · exact .inr (.inl (advances.panicked panicked))
    · exact .inr (.inr (lasts chance earlier advances (.inl shown)))

theorem Call.Due.of_returned {call : Call} {part : Section} {done : Prop}
    (due : call.Due part done) (returned : call.hasReturned = true) : done := by
  obtain ⟨ended, unhurt⟩ := Bool.and_eq_true_iff.mp returned
  rcases due with ahead | panicked | shown
  · rw [List.isEmpty_iff.mp ended] at ahead
    cases ahead
  · rw [panicked] at unhurt
    cases unhurt
  · exact shown

/-! ### Calls on the thread of the worker -/

/-- Only a collaborator that has the thread of the worker can keep it busy with a call. -/
def World.Yields (world : World) : Prop :=
  world.workerIsBusy = true → world.activity.inCollaborator = true

theorem World.Yields.new (multiplexer : Option Multiplexer) (demultiplexer : Option Demultiplexer)
    (managerAlive : Bool) : (World.new multiplexer demultiplexer managerAlive).Yields := nofun

theorem World.Yields.happening {before after : World} {action : Action} {events : List Event}
    (yields : before.Yields) (happening : Happening setup before action after events) :
    after.Yields := by
  intro busy
  obtain ⟨call, member, inside⟩ := List.any_eq_true.mp busy
  have kept {other : Call} (present : other ∈ before.calls)
      (inside : (other.onWorker && !other.isOver) = true) :
      before.activity.inCollaborator = true :=
    yields (List.any_eq_true.mpr ⟨other, present, inside⟩)
  cases happening with
  | @invoke operation draw onWorker allowed =>
      rcases List.mem_append.mp member with earlier | made
      · exact kept earlier inside
      · rw [List.mem_singleton.mp made] at inside
        have onThread := (Bool.and_eq_true_iff.mp inside).1
        unfold Call.make at onThread
        split at onThread
        · exact (allowed onThread).1
        · exact (allowed onThread).1
  | @advance index chance earlier next state events found advances =>
      rcases List.mem_or_eq_of_mem_set member with old | rfl
      · exact kept old inside
      · apply kept (List.mem_of_getElem? found)
        have going := advances.sections_ne_nil
        rw [← advances.onWorker, (Bool.and_eq_true_iff.mp inside).1]
        simpa [Call.isOver] using going
  | repeatPanicking found sections awaited =>
      rcases List.mem_or_eq_of_mem_set member with old | rfl
      · exact kept old inside
      · cases (Bool.and_eq_true_iff.mp inside).2
  | work free turn =>
      have busy_before : before.workerIsBusy = true :=
        List.any_eq_true.mpr ⟨call, member, inside⟩
      rw [free] at busy_before
      cases busy_before
  | repeatAbort | dropManager => exact kept member inside

theorem Run.yields {start finish : World} {steps : List (Step setup)}
    (run : Run setup start steps finish) (yields : start.Yields) : finish.Yields :=
  run.keeps World.Yields yields fun step _ before => before.happening step.happening

/-- Whatever the worker is at within a cycle, only a collaborator can keep it there. -/
theorem World.Yields.free {world : World} (yields : world.Yields)
    (own : world.activity.inCollaborator = false) : world.workerIsBusy = false := by
  cases busy : world.workerIsBusy with
  | false => rfl
  | true =>
      rw [yields busy] at own
      cases own

end LongPoll.Channel
