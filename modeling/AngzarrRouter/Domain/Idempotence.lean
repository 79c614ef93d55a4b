import AngzarrRouter.Domain.Replayed

open calls calls.MutCall
open angzarr_router.error angzarr_router.context angzarr_router.rebuild

namespace angzarr_router.domain

variable {S : Type}

theorem Emit.continues_eq_nowhere_iff {emit : Emit S} :
    emit.continues = .Nowhere ↔ emit.next = Option.none := by
  unfold Emit.continues
  cases emit.next <;> simp

/-- What the check makes of the second run's answer. -/
def Emit.judge (again : Emit S) : Outcome NotIdempotent Unit :=
  match again.events.isEmpty, again.continues with
  | false, _ => .err (.EmittedAgain again.events)
  | true, .Somewhere => .err .ContinuedAgain
  | true, .Nowhere => .ok ()

/-- A second run passes if it emits nothing and continues nowhere. -/
theorem Emit.judge_eq_ok_iff {again : Emit S} :
    again.judge = .ok () ↔ again.events = [] ∧ again.continues = .Nowhere := by
  unfold Emit.judge
  cases hevents : again.events with
  | nil => cases hnext : again.continues <;> simp
  | cons event rest => simp

theorem Emit.judge_eq_emitted_iff {again : Emit S} {events : List Any} :
    again.judge = .err (.EmittedAgain events) ↔ again.events = events ∧ events ≠ [] := by
  unfold Emit.judge
  cases hevents : again.events with
  | nil => cases hnext : again.continues <;> simp +contextual [eq_comm]
  | cons event rest => simp +contextual [eq_comm]

theorem Emit.judge_eq_continued_iff {again : Emit S} :
    again.judge = .err .ContinuedAgain ↔ again.events = [] ∧ again.continues = .Somewhere := by
  unfold Emit.judge
  cases hevents : again.events with
  | nil => cases hnext : again.continues <;> simp
  | cons event rest => simp

theorem Emit.judge_ne_failed {again : Emit S} {error : CodedError} :
    again.judge ≠ .err (.Failed error) := by
  unfold Emit.judge
  cases hevents : again.events with
  | nil => cases hnext : again.continues <;> simp
  | cons event rest => simp

namespace DomainDispatch

section

variable [AngzarrProto] [BuildProfile]

/-- `decide`'s loop on an emit, started on a state and folding under the cover
its context carries. -/
def run_emit (self : DomainDispatch S) (ctx : CommandContext) (emit : Emit S) (state : S) :
    MutCall S CodedError (List Any) :=
  self.run_turn ctx ctx.cover (ctx.event_meta self.rules_version) ctx.next_sequence ⟨[], emit, state⟩

/-- The second step of such a run comes back, and answers `again`. -/
def SecondStep (self : DomainDispatch S) (ctx : CommandContext) (emit : Emit S) (state : S)
    (again : Emit S) : Prop :=
  ∃ middle last,
    self.TurnStep ctx ctx.cover (ctx.event_meta self.rules_version) ctx.next_sequence
      ⟨[], emit, state⟩ middle ∧
    self.TurnStep ctx ctx.cover (ctx.event_meta self.rules_version) ctx.next_sequence middle last ∧
    last.emit = again

/-- What one run of a step leaves, with its events as they will be persisted
first in the decision. -/
def fold_first (self : DomainDispatch S) (ctx : CommandContext) (first : Emit S) (state : S) :
    MutCall S CodedError Unit :=
  self.rebuilder.apply_emitted state first.events ctx.cover ctx.next_sequence
    (ctx.event_meta self.rules_version)

variable {self : DomainDispatch S} {ctx : CommandContext} {step : StepFn S} {state after : S}
  {first again : Emit S}

/-- Nothing to fold leaves the state as it is. -/
theorem fold_turn_of_no_events (state : S) (answered : List Any) (next : Option (StepFn S))
    (hroom : U64Room ctx.next_sequence answered.length) :
    self.fold_turn ctx.cover (ctx.event_meta self.rules_version) ctx.next_sequence
      ⟨answered, .mk [] next, state⟩ = (state, .ok ()) := by
  have hturn : U64Room ctx.next_sequence
      (Turn.emitted ⟨answered, Emit.mk [] next, state⟩ : List Any).length := by
    simpa [Turn.emitted, Emit.events] using hroom
  rw [self.fold_turn_of_room _ _ _ hturn]
  exact self.rebuilder.apply_pages_nil state ctx.cover .Emitted

theorem fold_turn_first (emit : Emit S) :
    self.fold_turn ctx.cover (ctx.event_meta self.rules_version) ctx.next_sequence
      ⟨[], emit, state⟩ = self.fold_first ctx emit state := by
  simp only [fold_turn, List.length_nil, u64_add_of_room (U64Room.zero _), fold_first]
  simp

/-- A step pushed onto an emit adds nothing to its own fold. -/
theorem fold_first_push (emit : Emit S) :
    self.fold_first ctx (emit.push step) state = self.fold_first ctx emit state := by
  obtain ⟨events, next⟩ := emit
  rfl

/-- A fold that comes back had room for its numbers. -/
theorem room_of_fold_first {emit : Emit S} (hfold : self.fold_first ctx emit state = (after, .ok ())) :
    U64Room ctx.next_sequence emit.events.length := by
  by_contra hroom
  rw [fold_first, self.rebuilder.apply_emitted_of_not_room _ _ _ _ hroom] at hfold
  cases hfold

/-- The run of a step added to no events is of what the step answers. -/
theorem run_emit_then_step (step : StepFn S) (state : S) :
    self.run_emit ctx (Emit.none.then_step step) state =
      MutCall.andThen (state, call_handler (step state ctx)) fun state first =>
        self.run_emit ctx first state := by
  have hfold := self.fold_turn_of_no_events state [] (some step) (U64Room.zero ctx.next_sequence)
  rw [run_emit, Emit.then_step, Emit.none, Emit.of, Emit.push, Emit.push_next,
    run_turn_eq_fold_turn, hfold, andThen_ok, Emit.next, decide_next, decide_answer_eq_call_handler]
  rfl

/-- The run of an emit that continues nowhere is its own fold. -/
theorem run_emit_of_nowhere (hnext : first.next = none) :
    self.run_emit ctx first state =
      (self.fold_first ctx first state).andThen fun after _ => (after, .ok first.events) := by
  rw [run_emit, run_turn_eq_fold_turn, fold_turn_first, hnext]
  rfl

/-- The run of such an emit with a step added goes on from its fold. -/
theorem run_emit_push_of_nowhere (hnext : first.next = none) :
    self.run_emit ctx (first.push step) state =
      (self.fold_first ctx first state).andThen fun after _ =>
        MutCall.andThen (after, call_handler (step after ctx)) fun after again =>
          self.run_turn ctx ctx.cover (ctx.event_meta self.rules_version) ctx.next_sequence
            ⟨first.events, again, after⟩ := by
  have hpush : (first.push step).next = some step := by
    obtain ⟨events, next⟩ := first
    obtain rfl : next = none := hnext
    rfl
  have hemitted : Turn.emitted ⟨[], first.push step, state⟩ = first.events := by
    obtain ⟨events, next⟩ := first
    rfl
  rw [run_emit, run_turn_eq_fold_turn, fold_turn_first, fold_first_push, hpush, hemitted]
  congr 1
  funext after _
  exact self.decide_answer_eq_call_handler ..

/-- A run that has answered events and has none to add, and nowhere to go on to,
ends with them. -/
theorem run_turn_of_nothing (answered : List Any)
    (hroom : U64Room ctx.next_sequence answered.length) (hevents : again.events = [])
    (hnext : again.next = none) :
    self.run_turn ctx ctx.cover (ctx.event_meta self.rules_version) ctx.next_sequence
      ⟨answered, again, state⟩ = (state, .ok answered) := by
  obtain ⟨events, next⟩ := again
  obtain rfl : events = [] := hevents
  obtain rfl : next = none := hnext
  have hfold := self.fold_turn_of_no_events state answered none hroom
  have hends : self.TurnEnds ctx ctx.cover (ctx.event_meta self.rules_version) ctx.next_sequence
      ⟨answered, .mk [] none, state⟩ _ := .answered hfold rfl
  rw [hends.run_turn_eq, Turn.emitted, Emit.events, List.append_nil]

/-- The first turn of a step added twice answers what the step does, with the
step still to come. -/
theorem turnStep_twice_iff {middle : Turn S} :
    self.TurnStep ctx ctx.cover (ctx.event_meta self.rules_version) ctx.next_sequence
        ⟨[], (Emit.none.then_step step).then_step step, state⟩ middle ↔
      ∃ first, step state ctx = .ok first ∧ middle = ⟨[], first.push step, state⟩ := by
  let run_twice : StepFn S := fun state ctx => Emit.push_answer step (step state ctx)
  have htwice : (Emit.none.then_step step).then_step step = Emit.mk [] (some run_twice) := rfl
  have hanswer : run_twice state ctx = (step state ctx).map (Emit.push step) :=
    Emit.push_answer_eq_map step _
  have hfold := self.fold_turn_of_no_events state [] (some run_twice)
    (U64Room.zero ctx.next_sequence)
  rw [htwice]
  constructor
  · rintro ⟨hcame, hnext, hanswered⟩
    obtain rfl := Option.some.inj hnext
    obtain ⟨rfl, _⟩ := Prod.mk.inj (hfold.symm.trans hcame)
    rw [hanswer, Outcome.map_eq_ok_iff] at hanswered
    obtain ⟨first, hfirst, rfl⟩ := hanswered
    exact ⟨first, hfirst, rfl⟩
  · rintro ⟨first, hfirst, rfl⟩
    refine .continued hfold rfl ?_
    rw [hanswer, hfirst, Outcome.map_ok]

/-- The second step of a step added twice runs where the first run, which
continues nowhere, left its events folded. -/
theorem secondStep_iff
    (hfirst : ∀ first, step state ctx = .ok first → first.continues = .Nowhere) :
    self.SecondStep ctx ((Emit.none.then_step step).then_step step) state again ↔
      ∃ first after, step state ctx = .ok first ∧
        self.fold_first ctx first state = (after, .ok ()) ∧ step after ctx = .ok again := by
  have hpush {first : Emit S} (hran : step state ctx = .ok first) :
      (first.push step).next = some step := by
    obtain ⟨events, next⟩ := first
    obtain rfl : next = none := Emit.continues_eq_nowhere_iff.mp (hfirst _ hran)
    rfl
  constructor
  · rintro ⟨middle, last, hone, htwo, rfl⟩
    obtain ⟨first, hran, rfl⟩ := turnStep_twice_iff.mp hone
    obtain ⟨hcame, hnext, hanswer⟩ := htwo
    obtain rfl := Option.some.inj ((hpush hran).symm.trans hnext)
    rw [fold_turn_first, fold_first_push] at hcame
    exact ⟨first, _, hran, hcame, hanswer⟩
  · rintro ⟨first, after, hran, hcame, hanswer⟩
    refine ⟨_, _, turnStep_twice_iff.mpr ⟨first, hran, rfl⟩, .continued ?_ (hpush hran) hanswer, rfl⟩
    rw [fold_turn_first, fold_first_push, hcame]

/-- A step added twice runs as what it answers first, with it added. -/
theorem run_emit_twice (step : StepFn S) (state : S) :
    self.run_emit ctx ((Emit.none.then_step step).then_step step) state =
      MutCall.andThen (state, call_handler (step state ctx)) fun state first =>
        self.run_emit ctx (first.push step) state := by
  let run_twice : StepFn S := fun state ctx => Emit.push_answer step (step state ctx)
  have htwice : (Emit.none.then_step step).then_step step = Emit.none.then_step run_twice := rfl
  have hanswer : run_twice state ctx = (step state ctx).map (Emit.push step) :=
    Emit.push_answer_eq_map step _
  rw [htwice, run_emit_then_step, hanswer]
  cases step state ctx <;> rfl

/-- How the check goes: which of its two runs and its fold come back, and what
the second run answers. -/
inductive Checks (self : DomainDispatch S) (ctx : CommandContext) (step : StepFn S) (state : S) :
    Outcome NotIdempotent Unit → Prop where
  | first_failed {error : CodedError} (hran : call_handler (step state ctx) = .err error) :
      Checks self ctx step state (.err (.Failed error))
  | unfolded {first : Emit S} {after : S} {error : CodedError} (hran : step state ctx = .ok first)
      (hfold : self.fold_first ctx first state = (after, .err error)) :
      Checks self ctx step state (.err (.Failed error))
  | unnumbered {first : Emit S} {after : S} (hran : step state ctx = .ok first)
      (hfold : self.fold_first ctx first state = (after, .panic)) : Checks self ctx step state .panic
  | second_failed {first : Emit S} {after : S} {error : CodedError}
      (hran : step state ctx = .ok first)
      (hfold : self.fold_first ctx first state = (after, .ok ()))
      (hagain : call_handler (step after ctx) = .err error) :
      Checks self ctx step state (.err (.Failed error))
  | came_back {first again : Emit S} {after : S} {result : Outcome NotIdempotent Unit}
      (hran : step state ctx = .ok first)
      (hfold : self.fold_first ctx first state = (after, .ok ())) (hagain : step after ctx = .ok again)
      (hjudge : again.judge = result) : Checks self ctx step state result

/-- The check runs a step, folds what it emits, and judges a second run. -/
theorem check_eq_judge :
    self.check_step_idempotent state ctx step =
      ((call_handler (step state ctx)).map_err .Failed >>= fun first =>
        ((self.fold_first ctx first state).map_err .Failed).owned >>= fun folded =>
          (call_handler (step folded.1 ctx)).map_err .Failed >>= Emit.judge) := rfl

/-- Where both runs and the fold come back, the check judges the second run. -/
theorem check_of_came_back (hran : step state ctx = .ok first)
    (hfold : self.fold_first ctx first state = (after, .ok ())) (hagain : step after ctx = .ok again) :
    self.check_step_idempotent state ctx step = again.judge := by
  simp only [check_eq_judge, hran, call_handler_ok, Outcome.map_err_ok, Outcome.ok_bind, hfold,
    map_err_ok, owned_ok, hagain]

/-- It answers as the two runs do. -/
theorem checks (self : DomainDispatch S) (ctx : CommandContext) (step : StepFn S) (state : S) :
    self.Checks ctx step state (self.check_step_idempotent state ctx step) := by
  rw [check_eq_judge]
  cases hran : step state ctx with
  | err error => exact .first_failed (by rw [hran]; rfl)
  | panic => exact .first_failed (by rw [hran]; rfl)
  | ok first =>
    simp only [call_handler_ok, Outcome.map_err_ok, Outcome.ok_bind]
    rcases hfold : self.fold_first ctx first state with ⟨after, ⟨⟩ | error | _⟩
    · simp only [map_err_ok, owned_ok, Outcome.ok_bind]
      cases hagain : step after ctx with
      | err error => exact .second_failed hran hfold (by rw [hagain]; rfl)
      | panic => exact .second_failed hran hfold (by rw [hagain]; rfl)
      | ok again => exact .came_back hran hfold hagain rfl
    · exact .unfolded hran hfold
    · exact .unnumbered hran hfold

/-- What the check answers is what one way it can go answers. -/
theorem checks_of_eq {result : Outcome NotIdempotent Unit}
    (hcheck : self.check_step_idempotent state ctx step = result) :
    self.Checks ctx step state result := by
  rw [← hcheck]
  exact self.checks ctx step state

/-- `check_step_idempotent` tells the truth about `decide`'s loop, on a step
whose first run continues nowhere. It passes exactly the steps that run once to
the end, and a second time to no events and nowhere: then running twice is
running once, to the same events and the same state. A failure it answers is
the failure of running twice, and events it answers are those of the second
run. -/
theorem check_step_idempotent_agrees_with_decide (self : DomainDispatch S) (state : S)
    (ctx : CommandContext) (step : StepFn S)
    (hfirst : ∀ first, step state ctx = .ok first → first.continues = .Nowhere) :
    (self.check_step_idempotent state ctx step = .ok () ↔
      (∃ last events, self.run_emit ctx (Emit.none.then_step step) state = (last, .ok events)) ∧
      ∃ again, self.SecondStep ctx ((Emit.none.then_step step).then_step step) state again ∧
        again.events = [] ∧ again.continues = .Nowhere) ∧
    (self.check_step_idempotent state ctx step = .ok () → ∃ last events,
      self.run_emit ctx (Emit.none.then_step step) state = (last, .ok events) ∧
      self.run_emit ctx ((Emit.none.then_step step).then_step step) state = (last, .ok events)) ∧
    (∀ error, self.check_step_idempotent state ctx step = .err (.Failed error) → ∃ last,
      self.run_emit ctx ((Emit.none.then_step step).then_step step) state = (last, .err error)) ∧
    (∀ events, self.check_step_idempotent state ctx step = .err (.EmittedAgain events) →
      ∃ again, self.SecondStep ctx ((Emit.none.then_step step).then_step step) state again ∧
        again.events = events) ∧
    (self.check_step_idempotent state ctx step = .err .ContinuedAgain →
      ∃ again, self.SecondStep ctx ((Emit.none.then_step step).then_step step) state again ∧
        again.events = [] ∧ again.continues = .Somewhere) := by
  have hsecond {first again : Emit S} {after : S} (hran : step state ctx = .ok first)
      (hfold : self.fold_first ctx first state = (after, .ok ())) (hagain : step after ctx = .ok again) :
      self.SecondStep ctx ((Emit.none.then_step step).then_step step) state again :=
    (secondStep_iff hfirst).mpr ⟨first, after, hran, hfold, hagain⟩
  have honce {first : Emit S} {after : S} (hran : step state ctx = .ok first)
      (hfold : self.fold_first ctx first state = (after, .ok ())) :
      self.run_emit ctx (Emit.none.then_step step) state = (after, .ok first.events) := by
    have hnext := Emit.continues_eq_nowhere_iff.mp (hfirst first hran)
    rw [run_emit_then_step, hran, call_handler_ok, andThen_ok, run_emit_of_nowhere hnext, hfold,
      andThen_ok]
  have htwice {first : Emit S} (hran : step state ctx = .ok first) :
      self.run_emit ctx ((Emit.none.then_step step).then_step step) state =
        (self.fold_first ctx first state).andThen fun after _ =>
          MutCall.andThen (after, call_handler (step after ctx)) fun after again =>
            self.run_turn ctx ctx.cover (ctx.event_meta self.rules_version) ctx.next_sequence
              ⟨first.events, again, after⟩ := by
    have hnext := Emit.continues_eq_nowhere_iff.mp (hfirst first hran)
    rw [run_emit_twice, hran, call_handler_ok, andThen_ok, run_emit_push_of_nowhere hnext]
  refine ⟨⟨fun hcheck => ?_, fun hruns => ?_⟩, fun hcheck => ?_, fun error hcheck => ?_,
    fun events hcheck => ?_, fun hcheck => ?_⟩
  · cases checks_of_eq hcheck with
    | @came_back first again after _ hran hfold hagain hjudge =>
      exact ⟨⟨after, first.events, honce hran hfold⟩, again, hsecond hran hfold hagain,
        Emit.judge_eq_ok_iff.mp hjudge⟩
  · obtain ⟨_, again, hagain, hnothing⟩ := hruns
    obtain ⟨first, after, hran, hfold, hanswer⟩ := (secondStep_iff hfirst).mp hagain
    rw [check_of_came_back hran hfold hanswer, Emit.judge_eq_ok_iff]
    exact hnothing
  · cases checks_of_eq hcheck with
    | @came_back first again after _ hran hfold hagain hjudge =>
      obtain ⟨hevents, hnowhere⟩ := Emit.judge_eq_ok_iff.mp hjudge
      refine ⟨after, first.events, honce hran hfold, ?_⟩
      rw [htwice hran, hfold, andThen_ok, hagain, call_handler_ok, andThen_ok]
      exact run_turn_of_nothing _ (room_of_fold_first hfold) hevents
        (Emit.continues_eq_nowhere_iff.mp hnowhere)
  · cases checks_of_eq hcheck with
    | first_failed hran =>
      refine ⟨state, ?_⟩
      rw [run_emit_twice, hran, andThen_err]
    | @unfolded first after _ hran hfold =>
      refine ⟨after, ?_⟩
      rw [htwice hran, hfold, andThen_err]
    | @second_failed first after _ hran hfold hagain =>
      refine ⟨after, ?_⟩
      rw [htwice hran, hfold, andThen_ok, hagain, andThen_err]
    | came_back _ _ _ hjudge => exact absurd hjudge Emit.judge_ne_failed
  · cases checks_of_eq hcheck with
    | came_back hran hfold hagain hjudge =>
      exact ⟨_, hsecond hran hfold hagain, (Emit.judge_eq_emitted_iff.mp hjudge).1⟩
  · cases checks_of_eq hcheck with
    | came_back hran hfold hagain hjudge =>
      exact ⟨_, hsecond hran hfold hagain, Emit.judge_eq_continued_iff.mp hjudge⟩

end

end DomainDispatch

open declared

/-- Puts one on an empty shelf. -/
def shelf.opens : StepFn Nat := fun count _ =>
  .ok (if count = 0 then .of [shelf.added] else .none)

theorem check_step_idempotent_agrees_with_decide_shelf : ∃ last events,
    shelf.dispatch.run_emit (command_context (shelf.add 0)) (Emit.none.then_step shelf.opens) 0 =
      (last, .ok events) ∧
    shelf.dispatch.run_emit (command_context (shelf.add 0))
      ((Emit.none.then_step shelf.opens).then_step shelf.opens) 0 = (last, .ok events) := by
  have hfirst : ∀ first, shelf.opens 0 (command_context (shelf.add 0)) = .ok first →
      first.continues = .Nowhere := by
    intro first hran
    obtain rfl := Outcome.ok.inj hran
    rfl
  exact (shelf.dispatch.check_step_idempotent_agrees_with_decide 0 (command_context (shelf.add 0))
    shelf.opens hfirst).2.1 rfl

end angzarr_router.domain
