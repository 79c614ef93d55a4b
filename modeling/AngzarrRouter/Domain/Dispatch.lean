import AngzarrRouter.Domain.Run
import AngzarrRouter.Rebuild.Pages

open calls calls.MutCall
open angzarr_router.error angzarr_router.context angzarr_router.rebuild

namespace angzarr_router.domain

variable {S : Type}

/-- The handler an input was routed to. -/
def Dispatched.thunk : Dispatched S → HandlerFn S
  | .Command thunk => thunk
  | .Fact thunk => thunk

/-- What answers a failed decision: a command's error as it is, a fact's as the
bug it is. -/
def Dispatched.failure [AngzarrProto] : Dispatched S → CodedError → CodedError
  | .Command _, error => error
  | .Fact _, error => error.as_fact_failure

namespace DomainDispatch

/-- The answer to a decision that ended in `state` with `events`. -/
def respond (self : DomainDispatch S) (state : S) (events : List Any) :
    Outcome CodedError hpb.HandleResponse :=
  ((self.rebuilder.encode_state state).map_err Empty.elim).map fun state =>
    { events, state, rules_version := self.rules_version }

/-- An answer is the events, with the state encoded. -/
theorem respond_eq_ok_iff (self : DomainDispatch S) {state : S} {events : List Any}
    {resp : hpb.HandleResponse} :
    self.respond state events = .ok resp ↔
      self.rebuilder.encode_state state = .ok resp.state ∧ resp.events = events ∧
        resp.rules_version = self.rules_version := by
  unfold respond
  cases hencode : self.rebuilder.encode_state state with
  | ok encoded =>
    obtain ⟨events', state', version'⟩ := resp
    simp only [Outcome.map_err_ok, Outcome.map_ok, Outcome.ok.injEq, hpb.HandleResponse.mk.injEq]
    constructor
    · rintro ⟨rfl, rfl, rfl⟩
      exact ⟨rfl, rfl, rfl⟩
    · rintro ⟨rfl, rfl, rfl⟩
      exact ⟨rfl, rfl, rfl⟩
  | err impossible => exact impossible.elim
  | panic => simp

/-- It is no error. -/
theorem respond_ne_err (self : DomainDispatch S) (state : S) (events : List Any)
    (error : CodedError) : self.respond state events ≠ .err error := by
  unfold respond
  cases self.rebuilder.encode_state state with
  | ok encoded => simp
  | err impossible => exact impossible.elim
  | panic => simp

/-- It unwinds where the codec panics encoding the state. -/
theorem respond_eq_panic_iff (self : DomainDispatch S) {state : S} {events : List Any} :
    self.respond state events = .panic ↔
      ∃ codec, self.rebuilder.codec = some codec ∧ codec.encode state = .panic := by
  unfold respond Rebuilder.encode_state
  cases hcodec : self.rebuilder.codec with
  | none => simp
  | some codec =>
    cases hencode : codec.encode state with
    | ok encoded => simp [hencode]
    | err impossible => exact impossible.elim
    | panic => simp [hencode]

section

variable [AngzarrProto]

/-- A request that reaches its handler: routed with its payload, its history
rebuilt into `state`. -/
def Starts (self : DomainDispatch S) (req : hpb.HandleRequest) (dispatched : Dispatched S)
    (any : Any) (state : S) : Prop :=
  self.route (req.input.bind (·.page)) .default = .ok (dispatched, any) ∧
    ∃ info, self.rebuilder.rebuild req.history = .ok (state, info)

theorem route_ne_panic (self : DomainDispatch S) (page : Option pb.CommandPage) (untyped : Any) :
    self.route page untyped ≠ .panic := by
  unfold route
  split
  · simp only
    split <;> simp
  · simp only
    split <;> simp

variable [BuildProfile]

/-- An input that reaches no handler fails as its routing does. -/
theorem dispatch_of_unrouted (self : DomainDispatch S) {req : hpb.HandleRequest} {error : CodedError}
    (hroute : self.route (req.input.bind (·.page)) .default = .err error) :
    self.dispatch req = .err error := by
  simp only [dispatch, hroute, Outcome.err_bind]

/-- A history that does not rebuild fails the request. -/
theorem dispatch_of_unrebuilt (self : DomainDispatch S) {req : hpb.HandleRequest}
    {dispatched : Dispatched S} {any : Any} {error : CodedError}
    (hroute : self.route (req.input.bind (·.page)) .default = .ok (dispatched, any))
    (hrebuild : self.rebuilder.rebuild req.history = .err error) :
    self.dispatch req = .err error := by
  simp only [dispatch, hroute, hrebuild, Outcome.ok_bind, Outcome.err_bind]

/-- Nothing guards the factory's call, which a request that is routed makes
before its handler's. -/
theorem dispatch_of_factory_panic (self : DomainDispatch S) {req : hpb.HandleRequest}
    {dispatched : Dispatched S} {any : Any}
    (hroute : self.route (req.input.bind (·.page)) .default = .ok (dispatched, any))
    (hfactory : self.rebuilder.factory () = .panic) : self.dispatch req = .panic := by
  simp only [dispatch, hroute, (self.rebuilder.rebuild_eq_panic_iff _).mpr hfactory, Outcome.ok_bind,
    Outcome.panic_bind]

/-- A request is answered by its input, the state its history rebuilds to, the
context its handler is handed and the cover it folds under, and nothing else. -/
theorem dispatch_congr (self : DomainDispatch S) {left right : hpb.HandleRequest}
    (hinput : left.input = right.input)
    (hstate : (self.rebuilder.rebuild left.history).map (·.1) =
      (self.rebuilder.rebuild right.history).map (·.1))
    (hctx : command_context left = command_context right)
    (hcover : decision_cover left = decision_cover right) :
    self.dispatch left = self.dispatch right := by
  simp only [dispatch, hinput, hctx, hcover]
  cases self.route (right.input.bind (·.page)) .default with
  | err error => rfl
  | panic => rfl
  | ok routed =>
    simp only [Outcome.ok_bind]
    cases hl : self.rebuilder.rebuild left.history with
    | ok rebuilt =>
      rw [hl, Outcome.map_ok, eq_comm, Outcome.map_eq_ok_iff] at hstate
      obtain ⟨rebuilt', hr, hequal⟩ := hstate
      simp only [hr, Outcome.ok_bind, hequal]
    | err error =>
      cases hr : self.rebuilder.rebuild right.history <;> simp_all
    | panic =>
      cases hr : self.rebuilder.rebuild right.history <;> simp_all

/-- From its handler on, a request is answered by its decision and the
encoding of the state that leaves. -/
theorem dispatch_of_starts (self : DomainDispatch S) {req : hpb.HandleRequest}
    {dispatched : Dispatched S} {any : Any} {state : S}
    (hstarts : self.Starts req dispatched any state) :
    self.dispatch req =
      ((self.decide dispatched.thunk any state (command_context req)
          (decision_cover req)).owned.map_err dispatched.failure >>= fun decided =>
        self.respond decided.1 decided.2) := by
  obtain ⟨hroute, info, hrebuild⟩ := hstarts
  simp only [dispatch, hroute, hrebuild, Outcome.ok_bind]
  cases dispatched with
  | Command thunk =>
    simp only [Dispatched.thunk]
    cases (self.decide thunk any state (command_context req) (decision_cover req)).owned with
    | ok decided =>
      simp only [Outcome.ok_bind, Outcome.map_err_ok, respond]
      cases (self.rebuilder.encode_state decided.1).map_err Empty.elim <;> rfl
    | err error => rfl
    | panic => rfl
  | Fact thunk =>
    simp only [Dispatched.thunk]
    cases (self.decide thunk any state (command_context req) (decision_cover req)).owned with
    | ok decided =>
      simp only [Outcome.ok_bind, Outcome.map_err_ok, respond]
      cases (self.rebuilder.encode_state decided.1).map_err Empty.elim <;> rfl
    | err error => rfl
    | panic => rfl

/-- A request's decision reaches `turn`. -/
def Passes (self : DomainDispatch S) (req : hpb.HandleRequest) (dispatched : Dispatched S)
    (turn : Turn S) : Prop :=
  ∃ any state emit, self.Starts req dispatched any state ∧
    dispatched.thunk any state (command_context req) = .ok emit ∧
    self.Reaches (command_context req) (decision_cover req)
      ((command_context req).event_meta self.rules_version) (command_context req).next_sequence
      ⟨[], emit, state⟩ turn

/-- How a request's decision goes at a turn it reaches. -/
abbrev EndsAt (self : DomainDispatch S) (req : hpb.HandleRequest) :
    Turn S → MutCall S CodedError (List Any) → Prop :=
  self.TurnEnds (command_context req) (decision_cover req)
    ((command_context req).event_meta self.rules_version) (command_context req).next_sequence

/-- The fold of a turn a request's decision reaches. -/
abbrev folds_at (self : DomainDispatch S) (req : hpb.HandleRequest) :
    Turn S → MutCall S CodedError Unit :=
  self.fold_turn (decision_cover req) ((command_context req).event_meta self.rules_version)
    (command_context req).next_sequence

/-- Where a request's decision ends is what it is answered with. -/
theorem dispatch_of_ends (self : DomainDispatch S) {req : hpb.HandleRequest}
    {dispatched : Dispatched S} {turn : Turn S} {result : MutCall S CodedError (List Any)}
    (hpasses : self.Passes req dispatched turn) (hends : self.EndsAt req turn result) :
    self.dispatch req =
      (result.owned.map_err dispatched.failure >>= fun decided =>
        self.respond decided.1 decided.2) := by
  obtain ⟨any, state, emit, hstarts, hthunk, hreach⟩ := hpasses
  rw [self.dispatch_of_starts hstarts, decide, hthunk, decide_answer]
  have hrun := run_turn_eq_of_reaches hreach
  rw [hends.run_turn_eq] at hrun
  rw [← hrun]
  rfl

/-- A request's handler that fails or panics is the whole decision. -/
theorem dispatch_of_handler_err (self : DomainDispatch S) {req : hpb.HandleRequest}
    {dispatched : Dispatched S} {any : Any} {state : S} {error : HandlerError}
    (hstarts : self.Starts req dispatched any state)
    (hthunk : dispatched.thunk any state (command_context req) = .err error) :
    self.dispatch req = .err (dispatched.failure (map_handler_error error)) := by
  rw [self.dispatch_of_starts hstarts, decide, hthunk]
  rfl

/-- A handler's panic is answered as the bug it is. -/
theorem dispatch_of_handler_panic (self : DomainDispatch S) {req : hpb.HandleRequest}
    {dispatched : Dispatched S} {any : Any} {state : S}
    (hstarts : self.Starts req dispatched any state)
    (hthunk : dispatched.thunk any state (command_context req) = .panic) :
    self.dispatch req = .err (dispatched.failure .panicked) := by
  rw [self.dispatch_of_starts hstarts, decide, hthunk]
  rfl

/-- Everything that can become of a request. -/
theorem request_cases (self : DomainDispatch S) (req : hpb.HandleRequest) :
    (∃ error, self.route (req.input.bind (·.page)) .default = .err error) ∨
    (∃ dispatched any error, self.route (req.input.bind (·.page)) .default = .ok (dispatched, any) ∧
      self.rebuilder.rebuild req.history = .err error) ∨
    (∃ dispatched any, self.route (req.input.bind (·.page)) .default = .ok (dispatched, any) ∧
      self.rebuilder.factory () = .panic) ∨
    ∃ dispatched any state, self.Starts req dispatched any state ∧
      ((∃ error, dispatched.thunk any state (command_context req) = .err error) ∨
        dispatched.thunk any state (command_context req) = .panic ∨
        ∃ turn result, self.Passes req dispatched turn ∧ self.EndsAt req turn result) := by
  cases hroute : self.route (req.input.bind (·.page)) .default with
  | err error => exact .inl ⟨error, rfl⟩
  | panic => exact absurd hroute (self.route_ne_panic _ _)
  | ok routed =>
    obtain ⟨dispatched, any⟩ := routed
    cases hrebuild : self.rebuilder.rebuild req.history with
    | err error => exact .inr (.inl ⟨dispatched, any, error, rfl, rfl⟩)
    | panic =>
      exact .inr (.inr (.inl ⟨dispatched, any, rfl, (self.rebuilder.rebuild_eq_panic_iff _).mp hrebuild⟩))
    | ok rebuilt =>
      obtain ⟨state, info⟩ := rebuilt
      have hstarts : self.Starts req dispatched any state := ⟨hroute, info, hrebuild⟩
      refine .inr (.inr (.inr ⟨dispatched, any, state, hstarts, ?_⟩))
      cases hthunk : dispatched.thunk any state (command_context req) with
      | err error => exact .inl ⟨error, rfl⟩
      | panic => exact .inr (.inl rfl)
      | ok emit =>
        obtain ⟨turn, result, hreach, hends⟩ := self.run_ends (command_context req)
          (decision_cover req) ((command_context req).event_meta self.rules_version)
          (command_context req).next_sequence emit [] state
        exact .inr (.inr ⟨turn, result, ⟨any, state, emit, hstarts, hthunk, hreach⟩, hends⟩)

/-- A request is answered only by a decision that passes some turn, folds it and
goes on nowhere. -/
theorem passes_of_dispatch_ok (self : DomainDispatch S) {req : hpb.HandleRequest}
    {resp : hpb.HandleResponse} (hok : self.dispatch req = .ok resp) :
    ∃ dispatched turn state, self.Passes req dispatched turn ∧ turn.emit.next = none ∧
      self.folds_at req turn = (state, .ok ()) ∧ resp.events = turn.emitted ∧
      self.rebuilder.encode_state state = .ok resp.state ∧
      resp.rules_version = self.rules_version := by
  obtain ⟨error, hroute⟩ | ⟨dispatched, any, error, hroute, hrebuild⟩ |
    ⟨dispatched, any, hroute, hfactory⟩ | ⟨dispatched, any, state, hstarts, hrun⟩ :=
      self.request_cases req
  · rw [self.dispatch_of_unrouted hroute] at hok
    cases hok
  · rw [self.dispatch_of_unrebuilt hroute hrebuild] at hok
    cases hok
  · rw [self.dispatch_of_factory_panic hroute hfactory] at hok
    cases hok
  obtain ⟨error, hthunk⟩ | hthunk | ⟨turn, result, hpasses, hends⟩ := hrun
  · rw [self.dispatch_of_handler_err hstarts hthunk] at hok
    cases hok
  · rw [self.dispatch_of_handler_panic hstarts hthunk] at hok
    cases hok
  rw [self.dispatch_of_ends hpasses hends] at hok
  cases hends with
  | unnumbered => cases hok
  | unfolded => cases hok
  | failed => cases hok
  | panicked => cases hok
  | @answered last hfold hnext =>
    rw [owned_ok, Outcome.map_err_ok, Outcome.ok_bind, self.respond_eq_ok_iff] at hok
    obtain ⟨hencode, hevents, hversion⟩ := hok
    exact ⟨dispatched, turn, last, hpasses, hnext, hfold, hevents, hencode, hversion⟩

end

end DomainDispatch

end angzarr_router.domain
