import AngzarrRouter.Domain.Replayed
import AngzarrRouter.Rebuild.Failures

open calls calls.MutCall
open angzarr_router.error angzarr_router.context angzarr_router.rebuild

namespace angzarr_router.error

/-- What a coordinator acts on: an error that carries a refusal, asks for a
re-run, or travels under a business status. -/
def CodedError.Refuses (self : CodedError) : Prop :=
  self.refusal.isSome ∨ self.grpc = .Aborted ∨ (BusinessStatus.try_from self.grpc).isOk

instance (error : CodedError) : Decidable error.Refuses := by
  unfold CodedError.Refuses
  infer_instance

namespace CodedError

variable [AngzarrProto]

/-- What Translate can be handed is a refusal. -/
theorem refuses_of_as_refusal {self : CodedError} {refusal : hpb.Refusal}
    (hrefusal : self.as_refusal = some refusal) : self.Refuses := by
  left
  unfold as_refusal at hrefusal
  split at hrefusal
  · rename_i hcarried _
    simp [hcarried]
  · cases hrefusal

/-- The router's own keys, under the statuses declared for them, do not. -/
theorem not_refuses_of_keyed {reason : AngzarrReason} {number : Int}
    (extras : List (String × String))
    (hsurface : AngzarrProto.surface reason = some (.GrpcStatus number))
    (hbug : number = 13 ∨ number = 15) : ¬ (keyed reason extras).Refuses := by
  obtain rfl | rfl := hbug
  · simp [Refuses, keyed, coded, hsurface, GrpcCode.of_surface, GrpcCode.from_wire,
      BusinessStatus.try_from, Except.isOk, Except.toBool]
  · simp [Refuses, keyed, coded, hsurface, GrpcCode.of_surface, GrpcCode.from_wire,
      BusinessStatus.try_from, Except.isOk, Except.toBool]

variable (hdeclared : AngzarrProto.DeclaresBugs)

include hdeclared

/-- A bug refuses nothing. -/
theorem not_refuses_of_bug (code : String) (details : List (String × String)) :
    ¬ (bug code details).Refuses :=
  not_refuses_of_keyed _ hdeclared.unhandled_handler_error (.inl rfl)

/-- Nor does an error that nothing classifies. -/
theorem not_refuses_of_unhandled : ¬ unhandled.Refuses :=
  not_refuses_of_keyed _ hdeclared.unhandled_handler_error (.inl rfl)

/-- Nor does a panic. -/
theorem not_refuses_of_panicked : ¬ panicked.Refuses := not_refuses_of_bug hdeclared _ _

/-- A fact's failure never does: what would is answered as the bug it is. -/
theorem not_refuses_of_as_fact_failure (self : CodedError) : ¬ self.as_fact_failure.Refuses := by
  unfold as_fact_failure
  simp only
  split
  · rename_i hplain
    simpa [Refuses, not_or, and_assoc, and_comm, and_left_comm] using hplain
  · exact not_refuses_of_bug hdeclared _ _

/-- Nor does a fold's failure, whatever its cause is. -/
theorem not_refuses_of_fold_failed (origin : PageOrigin) (place : FoldAt) (state_type_url : String)
    (cause : Option pb.Diagnostic) :
    ¬ (fold_failed origin.reason place state_type_url cause).Refuses := by
  have hsurface : AngzarrProto.surface origin.reason = some (.GrpcStatus 13) := by
    cases origin with
    | Persisted => exact hdeclared.fold_failed
    | Emitted => exact hdeclared.fold_failed_emitted
  cases cause with
  | none => exact not_refuses_of_keyed _ hsurface (.inl rfl)
  | some cause => exact not_refuses_of_keyed _ hsurface (.inl rfl)

/-- So nothing that rebuilding or folding raises does. -/
theorem not_refuses_of_raises {S : Type} {rebuilder : Rebuilder S} {error : CodedError}
    (hraises : rebuilder.Raises error) : ¬ error.Refuses := by
  cases hraises with
  | folding origin place cause => exact not_refuses_of_fold_failed hdeclared origin place _ cause
  | corrupt type_url => exact not_refuses_of_keyed _ hdeclared.persisted_event_corrupt (.inr rfl)

end CodedError

end angzarr_router.error

namespace angzarr_router.domain

variable {S : Type}

/-- The input is in its book's Fact arm. -/
def IsFact (req : hpb.HandleRequest) : Prop :=
  ∃ fact, (req.input.bind (·.page)).bind (·.body) = some (.Fact fact)

namespace DomainDispatch

section

variable [AngzarrProto]

/-- A fact is routed to no command's handler. -/
theorem not_isFact_of_route_command (self : DomainDispatch S) {req : hpb.HandleRequest}
    {thunk : HandlerFn S} {any : Any}
    (hroute : self.route (req.input.bind (·.page)) .default = .ok (.Command thunk, any)) :
    ¬ IsFact req := by
  rintro ⟨fact, hbody⟩
  simp only [route, hbody] at hroute
  split at hroute <;> cases hroute

/-- Routing fails for a type that no handler is registered for. -/
theorem route_err (self : DomainDispatch S) {page : Option pb.CommandPage} {untyped : Any}
    {error : CodedError} (hroute : self.route page untyped = .err error) :
    ∃ type_url, error = .unknown_type .NoFactHandler type_url ∨
      error = .unknown_type .UnknownCommandType type_url := by
  unfold route at hroute
  split at hroute
  · simp only at hroute
    split at hroute
    · cases hroute
    · cases hroute
      exact ⟨_, .inl rfl⟩
  · simp only at hroute
    split at hroute
    · cases hroute
    · cases hroute
      exact ⟨_, .inr rfl⟩

variable [BuildProfile]

/-- A coded error that a command's handler, or a continuation step its decision
ran with every fold before it done, returned. -/
inductive Returned (self : DomainDispatch S) (req : hpb.HandleRequest) : CodedError → Prop where
  | handler {thunk : HandlerFn S} {any : Any} {state : S} {error : CodedError}
      (hstarts : self.Starts req (.Command thunk) any state)
      (hthunk : thunk any state (command_context req) = .err (.Coded error)) :
      Returned self req error
  | step {thunk : HandlerFn S} {turn : Turn S} {state : S} {step : StepFn S} {error : CodedError}
      (hpasses : self.Passes req (.Command thunk) turn)
      (hfold : self.folds_at req turn = (state, .ok ())) (hnext : turn.emit.next = some step)
      (hstep : step state (command_context req) = .err (.Coded error)) :
      Returned self req error

theorem Returned.not_isFact {self : DomainDispatch S} {req : hpb.HandleRequest} {error : CodedError}
    (hreturned : self.Returned req error) : ¬ IsFact req := by
  cases hreturned with
  | handler hstarts _ => exact self.not_isFact_of_route_command hstarts.1
  | step hpasses _ _ _ =>
    obtain ⟨_, _, _, hstarts, _⟩ := hpasses
    exact self.not_isFact_of_route_command hstarts.1

/-- What a command's handler or step returns is answered unchanged. -/
theorem Returned.dispatch_eq {self : DomainDispatch S} {req : hpb.HandleRequest}
    {error : CodedError} (hreturned : self.Returned req error) :
    self.dispatch req = .err error := by
  cases hreturned with
  | handler hstarts hthunk => exact self.dispatch_of_handler_err hstarts hthunk
  | step hpasses hfold hnext hstep =>
    exact self.dispatch_of_ends hpasses (.failed hfold hnext hstep)

/-- What fails a turn's fold is raised by the rebuilder. -/
theorem raises_of_folds_at_err (self : DomainDispatch S) {req : hpb.HandleRequest} {turn : Turn S}
    {state : S} {error : CodedError} (hfold : self.folds_at req turn = (state, .err error)) :
    self.rebuilder.Raises error := by
  have hcame : (self.folds_at req turn).2 ≠ .panic := by simp [hfold]
  have hroom := self.room_of_fold_turn_ne_panic _ _ _ hcame
  rw [folds_at, self.fold_turn_of_room _ _ _ hroom] at hfold
  exact self.rebuilder.raises_of_apply_pages_err hfold

/-- An error that refuses is a command's, as its handler or step returned it:
what a failed decision is answered with refuses only if what failed it did. -/
theorem returned_of_failure_refuses (self : DomainDispatch S) (req : hpb.HandleRequest)
    (hdeclared : AngzarrProto.DeclaresBugs) {dispatched : Dispatched S} {failure : HandlerError}
    (hrefuses : (dispatched.failure (map_handler_error failure)).Refuses)
    (hreturned : ∀ thunk error, dispatched = .Command thunk → failure = .Coded error →
      self.Returned req error) :
    self.Returned req (dispatched.failure (map_handler_error failure)) := by
  cases dispatched with
  | Command thunk =>
    cases failure with
    | Coded error => exact hreturned thunk error rfl rfl
    | Other text => exact absurd hrefuses (CodedError.not_refuses_of_unhandled hdeclared)
  | Fact thunk => exact absurd hrefuses (CodedError.not_refuses_of_as_fact_failure hdeclared _)

omit [BuildProfile] in
theorem not_refuses_of_failure (hdeclared : AngzarrProto.DeclaresBugs) (dispatched : Dispatched S)
    {error : CodedError} (hplain : ¬ error.Refuses) : ¬ (dispatched.failure error).Refuses := by
  cases dispatched with
  | Command thunk => exact hplain
  | Fact thunk => exact CodedError.not_refuses_of_as_fact_failure hdeclared error

/-- An answer that refuses was returned by a command's handler or step. -/
theorem returned_of_refuses (self : DomainDispatch S) (hdeclared : AngzarrProto.DeclaresBugs)
    {req : hpb.HandleRequest} {error : CodedError} (hdispatch : self.dispatch req = .err error)
    (hrefuses : error.Refuses) : self.Returned req error := by
  obtain ⟨error, hroute⟩ | ⟨dispatched, any, error, hroute, hrebuild⟩ |
    ⟨dispatched, any, hroute, hfactory⟩ | ⟨dispatched, any, state, hstarts, hrun⟩ :=
      self.request_cases req
  · rw [self.dispatch_of_unrouted hroute] at hdispatch
    cases hdispatch
    obtain ⟨type_url, rfl | rfl⟩ := self.route_err hroute
    · exact absurd hrefuses (CodedError.not_refuses_of_keyed _ hdeclared.no_fact_handler (.inl rfl))
    · exact absurd hrefuses
        (CodedError.not_refuses_of_keyed _ hdeclared.unknown_command_type (.inl rfl))
  · rw [self.dispatch_of_unrebuilt hroute hrebuild] at hdispatch
    cases hdispatch
    exact absurd hrefuses
      (CodedError.not_refuses_of_raises hdeclared (self.rebuilder.raises_of_rebuild_err hrebuild))
  · rw [self.dispatch_of_factory_panic hroute hfactory] at hdispatch
    cases hdispatch
  obtain ⟨failure, hthunk⟩ | hthunk | ⟨turn, result, hpasses, hends⟩ := hrun
  · rw [self.dispatch_of_handler_err hstarts hthunk] at hdispatch
    cases hdispatch
    refine self.returned_of_failure_refuses req hdeclared hrefuses ?_
    rintro thunk error rfl rfl
    exact .handler hstarts hthunk
  · rw [self.dispatch_of_handler_panic hstarts hthunk] at hdispatch
    cases hdispatch
    exact absurd hrefuses (not_refuses_of_failure hdeclared dispatched
      (CodedError.not_refuses_of_panicked hdeclared))
  rw [self.dispatch_of_ends hpasses hends] at hdispatch
  cases hends with
  | unnumbered => cases hdispatch
  | unfolded hfold =>
    cases hdispatch
    exact absurd hrefuses (not_refuses_of_failure hdeclared dispatched
      (CodedError.not_refuses_of_raises hdeclared (self.raises_of_folds_at_err hfold)))
  | answered => exact absurd hdispatch (self.respond_ne_err _ _ error)
  | failed hfold hnext hstep =>
    cases hdispatch
    refine self.returned_of_failure_refuses req hdeclared hrefuses ?_
    rintro thunk error rfl rfl
    exact .step hpasses hfold hnext hstep
  | panicked =>
    cases hdispatch
    exact absurd hrefuses (not_refuses_of_failure hdeclared dispatched
      (CodedError.not_refuses_of_panicked hdeclared))

/-- No re-run, bug or failed fact reaches a policy's Translate: what can be handed
to it is an error that a command's handler or one of its steps returned. -/
theorem returned_of_as_refusal (self : DomainDispatch S) (hdeclared : AngzarrProto.DeclaresBugs)
    {req : hpb.HandleRequest} {error : CodedError} {refusal : hpb.Refusal}
    (hdispatch : self.dispatch req = .err error) (hrefusal : error.as_refusal = some refusal) :
    ¬ IsFact req ∧ self.Returned req error := by
  have hreturned :=
    self.returned_of_refuses hdeclared hdispatch (CodedError.refuses_of_as_refusal hrefusal)
  exact ⟨hreturned.not_isFact, hreturned⟩

/-- Only a command's handler or one of its steps refuses or asks for a re-run:
an answer that does is, field for field, the error it returned, and the input
is no fact. What it returns is answered unchanged. An applier, a batched fold
or a codec never makes such an answer, whatever it fails with: its failure goes
out as a fold's, at most as the flattened cause. -/
theorem only_a_commands_handler_refuses (self : DomainDispatch S)
    (hdeclared : AngzarrProto.DeclaresBugs) (req : hpb.HandleRequest) :
    (∀ error, self.dispatch req = .err error → error.Refuses →
      ¬ IsFact req ∧ self.Returned req error) ∧
    (∀ error, self.Returned req error → self.dispatch req = .err error) ∧
    (∀ book error, self.rebuilder.rebuild book = .err error →
      self.rebuilder.Raises error ∧ ¬ error.Refuses) ∧
    (∀ turn state error, self.folds_at req turn = (state, .err error) →
      self.rebuilder.Raises error ∧ ¬ error.Refuses) := by
  refine ⟨fun error hdispatch hrefuses => ?_, fun error hreturned => hreturned.dispatch_eq,
    fun book error hrebuild => ?_, fun turn state error hfold => ?_⟩
  · have hreturned := self.returned_of_refuses hdeclared hdispatch hrefuses
    exact ⟨hreturned.not_isFact, hreturned⟩
  · have hraises := self.rebuilder.raises_of_rebuild_err hrebuild
    exact ⟨hraises, CodedError.not_refuses_of_raises hdeclared hraises⟩
  · have hraises := self.raises_of_folds_at_err hfold
    exact ⟨hraises, CodedError.not_refuses_of_raises hdeclared hraises⟩

end

end DomainDispatch

open DomainDispatch declared

/-- A full shelf, as a typed refusal. -/
def shelf.full : CodedError :=
  .refused .FailedPrecondition { type_url := "/shop.Full", value := [] }

/-- Refuses once its first event is folded in. -/
def shelf.refuses : DomainDispatch Nat :=
  (DomainDispatch.new shelf.rebuilder).on_command "shop.Add" fun _ _ _ =>
    .ok ((Emit.of [shelf.added]).then_step fun _ _ => .err (.Coded shelf.full))

theorem only_a_commands_handler_refuses_shelf :
    shelf.full.Refuses ∧ ¬ IsFact (shelf.add 1) ∧ shelf.refuses.Returned (shelf.add 1) shelf.full := by
  have hrefuses : shelf.full.Refuses := .inl rfl
  have hdispatch : shelf.refuses.dispatch (shelf.add 1) = .err shelf.full := rfl
  have honly := shelf.refuses.only_a_commands_handler_refuses declares_bugs (shelf.add 1)
  exact ⟨hrefuses, honly.1 shelf.full hdispatch hrefuses⟩

end angzarr_router.domain
