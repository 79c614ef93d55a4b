import AngzarrRouter.Domain.Refusing

open calls calls.MutCall
open angzarr_router.error angzarr_router.context angzarr_router.rebuild

namespace angzarr_router.domain

variable {S : Type}

namespace DomainDispatch

section

variable [AngzarrProto]

/-- A bug under its own key goes out as it is, a fact's too. -/
theorem failure_eq_self (dispatched : Dispatched S) {error : CodedError}
    (hplain : ¬ error.Refuses) : dispatched.failure error = error := by
  cases dispatched with
  | Command thunk => rfl
  | Fact thunk =>
    simp only [CodedError.Refuses, not_or] at hplain
    simp [Dispatched.failure, CodedError.as_fact_failure, hplain]

variable [BuildProfile]

/-- Business code's panics are answered, never unwound into the host: a
handler's or a step's as the bug it is, a fold's as a failed fold of the page
or the batch it happened on, a codec's as a failed fold. -/
structure PanicsAnswered (table : DomainDispatch S) (req : hpb.HandleRequest) : Prop where
  comes_back : table.dispatch req ≠ .panic
  handler : ∀ dispatched any state, table.Starts req dispatched any state →
    dispatched.thunk any state (command_context req) = .panic → table.dispatch req = .err .panicked
  step : ∀ dispatched turn state step, table.Passes req dispatched turn →
    table.folds_at req turn = (state, .ok ()) → turn.emit.next = some step →
    step state (command_context req) = .panic → table.dispatch req = .err .panicked
  decode : ∀ dispatched any book snapshot carried codec,
    table.route (req.input.bind (·.page)) .default = .ok (dispatched, any) →
    req.history = some book → book.snapshot = some snapshot → snapshot.state = some carried →
    table.rebuilder.codec = some codec → codec.decode carried = .panic →
    table.dispatch req = .err (.fold_failed .FoldFailed
      (.Page snapshot.sequence carried.type_url) table.rebuilder.state_type_url (some panicked_cause))
  history : ∀ dispatched any book start error,
    table.route (req.input.bind (·.page)) .default = .ok (dispatched, any) →
    req.history = some book → table.rebuilder.StartsFrom book start →
    table.rebuilder.PanicsOn start book.pages book.cover .Persisted error →
    table.dispatch req = .err error
  emitted : ∀ dispatched turn error, table.Passes req dispatched turn →
    table.rebuilder.PanicsOn turn.state
      (stamped ((command_context req).event_meta table.rules_version) turn.emit.events
        ((command_context req).next_sequence + UInt64.ofNat turn.answered.length))
      (decision_cover req) .Emitted error →
    table.dispatch req = .err error
  encode : ∀ dispatched turn state codec, table.Passes req dispatched turn →
    table.folds_at req turn = (state, .ok ()) → turn.emit.next = none →
    table.rebuilder.codec = some codec → codec.encode state = .panic →
    ∃ place, table.dispatch req = .err (.fold_failed .FoldFailed place
      table.rebuilder.state_type_url (some panicked_cause))

/-- The factory can make the state that a routed request's history is rebuilt
from, the decision's events can be numbered, and the codec can encode the state
it ends in. -/
structure CanAnswer (table : DomainDispatch S) (req : hpb.HandleRequest) : Prop where
  makes : ∀ dispatched any, table.route (req.input.bind (·.page)) .default = .ok (dispatched, any) →
    table.rebuilder.factory () ≠ .panic
  numbers : ∀ dispatched turn, table.Passes req dispatched turn →
    U64Room (command_context req).next_sequence turn.emitted.length
  encodes : ∀ dispatched turn state codec, table.Passes req dispatched turn →
    table.folds_at req turn = (state, .ok ()) → turn.emit.next = none →
    table.rebuilder.codec = some codec → codec.encode state ≠ .panic

/-- Those are all the ways to unwind. -/
theorem canAnswer_iff_comes_back (self : DomainDispatch S) (req : hpb.HandleRequest) :
    self.CanAnswer req ↔ self.dispatch req ≠ .panic := by
  constructor
  · intro hcan hpanic
    obtain ⟨error, hroute⟩ | ⟨dispatched, any, error, hroute, hrebuild⟩ |
      ⟨dispatched, any, hroute, hfactory⟩ | ⟨dispatched, any, state, hstarts, hrun⟩ :=
        self.request_cases req
    · rw [self.dispatch_of_unrouted hroute] at hpanic
      cases hpanic
    · rw [self.dispatch_of_unrebuilt hroute hrebuild] at hpanic
      cases hpanic
    · exact hcan.makes dispatched any hroute hfactory
    obtain ⟨failure, hthunk⟩ | hthunk | ⟨turn, result, hpasses, hends⟩ := hrun
    · rw [self.dispatch_of_handler_err hstarts hthunk] at hpanic
      cases hpanic
    · rw [self.dispatch_of_handler_panic hstarts hthunk] at hpanic
      cases hpanic
    rw [self.dispatch_of_ends hpasses hends] at hpanic
    cases hends with
    | unnumbered hroom => exact hroom (hcan.numbers dispatched turn hpasses)
    | unfolded => cases hpanic
    | failed => cases hpanic
    | panicked => cases hpanic
    | answered hfold hnext =>
      obtain ⟨codec, hcodec, hencode⟩ := self.respond_eq_panic_iff.mp hpanic
      exact hcan.encodes dispatched turn _ codec hpasses hfold hnext hcodec hencode
  · intro hback
    refine ⟨fun dispatched any hroute hfactory => ?_, fun dispatched turn hpasses => ?_,
      fun dispatched turn state codec hpasses hfold hnext hcodec hencode => ?_⟩
    · exact hback (self.dispatch_of_factory_panic hroute hfactory)
    · by_contra hroom
      exact hback (self.dispatch_of_ends hpasses (.unnumbered hroom))
    · have hrespond : self.respond state turn.emitted = .panic :=
        self.respond_eq_panic_iff.mpr ⟨codec, hcodec, hencode⟩
      exact hback ((self.dispatch_of_ends hpasses (.answered hfold hnext)).trans hrespond)

/-- A panic on a page of the history is answered as its failed fold. -/
theorem dispatch_of_panicsOn_history (self : DomainDispatch S) {req : hpb.HandleRequest}
    {dispatched : Dispatched S} {any : Any} {book : pb.EventBook} {start : S} {error : CodedError}
    (hroute : self.route (req.input.bind (·.page)) .default = .ok (dispatched, any))
    (hhistory : req.history = some book) (hstart : self.rebuilder.StartsFrom book start)
    (hpanics : self.rebuilder.PanicsOn start book.pages book.cover .Persisted error) :
    self.dispatch req = .err error := by
  obtain ⟨last, hpages⟩ := hpanics.apply_pages_eq
  have hrebuild := self.rebuilder.rebuild_of_apply_pages_err hstart hpages
  rw [← hhistory] at hrebuild
  exact self.dispatch_of_unrebuilt hroute hrebuild

/-- A panic on an emitted event is answered as that event's failed fold. -/
theorem dispatch_of_panicsOn_emitted (self : DomainDispatch S) {req : hpb.HandleRequest}
    (hdeclared : AngzarrProto.DeclaresBugs) {dispatched : Dispatched S} {turn : Turn S}
    {error : CodedError} (hpasses : self.Passes req dispatched turn)
    (hroom : U64Room (command_context req).next_sequence turn.emitted.length)
    (hpanics : self.rebuilder.PanicsOn turn.state
      (stamped ((command_context req).event_meta self.rules_version) turn.emit.events
        ((command_context req).next_sequence + UInt64.ofNat turn.answered.length))
      (decision_cover req) .Emitted error) :
    self.dispatch req = .err error := by
  obtain ⟨last, hpages⟩ := hpanics.apply_pages_eq
  have hfold : self.folds_at req turn = (last, .err error) := by
    rw [folds_at, self.fold_turn_of_room _ _ _ hroom, hpages]
  have hplain := CodedError.not_refuses_of_raises hdeclared (self.raises_of_folds_at_err hfold)
  rw [self.dispatch_of_ends hpasses (.unfolded hfold), owned_err, Outcome.map_err_err,
    failure_eq_self dispatched hplain]
  rfl

/-- Panics are answered exactly where the factory comes back, the decision's
events can be numbered and the codec can encode the state it ends in: nothing
guards the call of `encode`, as the call of `decode` is guarded. -/
theorem panics_answered_iff_can_answer (self : DomainDispatch S)
    (hdeclared : AngzarrProto.DeclaresBugs) (req : hpb.HandleRequest) :
    self.PanicsAnswered req ↔ self.CanAnswer req := by
  constructor
  · intro hanswered
    exact (self.canAnswer_iff_comes_back req).mpr hanswered.comes_back
  · intro hcan
    have hpanicked := CodedError.not_refuses_of_panicked hdeclared
    refine ⟨(self.canAnswer_iff_comes_back req).mp hcan, ?_, ?_, ?_, ?_, ?_, ?_⟩
    · intro dispatched any state hstarts hthunk
      rw [self.dispatch_of_handler_panic hstarts hthunk, failure_eq_self dispatched hpanicked]
    · intro dispatched turn state step hpasses hfold hnext hstep
      rw [self.dispatch_of_ends hpasses (.panicked hfold hnext hstep), owned_err,
        Outcome.map_err_err, failure_eq_self dispatched hpanicked]
      rfl
    · intro dispatched any book snapshot carried codec hroute hhistory hsnapshot hstate hcodec
        hdecode
      have hrebuild := self.rebuilder.rebuild_of_fresh_err
        (self.rebuilder.starting_state_of_decode_panic hsnapshot hstate hcodec hdecode)
      have hmade := hcan.makes dispatched any hroute
      rw [ne_eq, ← Rebuilder.fresh_eq_panic_iff] at hmade
      rw [← hhistory] at hrebuild
      refine self.dispatch_of_unrebuilt hroute (hrebuild.trans ?_)
      cases hfresh : self.rebuilder.fresh with
      | ok fresh => rfl
      | err failure => exact absurd hfresh (self.rebuilder.fresh_ne_err failure)
      | panic => exact absurd hfresh hmade
    · intro dispatched any book start error hroute hhistory hstart hpanics
      exact self.dispatch_of_panicsOn_history hroute hhistory hstart hpanics
    · intro dispatched turn error hpasses hpanics
      exact self.dispatch_of_panicsOn_emitted hdeclared hpasses (hcan.numbers dispatched turn hpasses)
        hpanics
    · intro dispatched turn state codec hpasses hfold hnext hcodec hencode
      exact absurd hencode (hcan.encodes dispatched turn state codec hpasses hfold hnext hcodec)

end

end DomainDispatch

open DomainDispatch declared

/-- A shelf whose label has room for one digit: its codec cannot print two. -/
def shelf.labelled : DomainDispatch Nat :=
  let decode : DecodeFn Nat := fun label => .ok label.value.length
  let encode : EncodeFn Nat := fun count =>
    if count < 2 then .ok { type_url := "/shop.Shelf", value := List.replicate count 1 } else .panic
  (DomainDispatch.new (shelf.rebuilder.with_state_codec decode encode)).on_command "shop.Add"
    fun _ _ _ => .ok (.of [shelf.added])

/-- A shelf with a label, and a handler that drops what it is to add. -/
def shelf.dropped : DomainDispatch Nat :=
  shelf.labelled.on_command "shop.Add" fun _ _ _ => .panic

theorem panics_answered_shelf : shelf.dropped.PanicsAnswered (shelf.add 1) ∧
    shelf.dropped.dispatch (shelf.add 1) = .err .panicked := by
  have hcan : shelf.dropped.CanAnswer (shelf.add 1) := by
    rw [canAnswer_iff_comes_back]
    decide
  have hanswered := (shelf.dropped.panics_answered_iff_can_answer declares_bugs (shelf.add 1)).mpr hcan
  have hroute : shelf.dropped.route ((shelf.add 1).input.bind (·.page)) .default =
      .ok (.Command fun _ _ _ => .panic, { type_url := "/shop.Add", value := [] }) := rfl
  exact ⟨hanswered, hanswered.handler _ _ 1 ⟨hroute, _, rfl⟩ rfl⟩

/-- One on a shelf of one is two, which `encode` panics on: the panic reaches
the host. -/
theorem panics_unanswered_shelf : shelf.labelled.dispatch (shelf.add 1) = .panic ∧
    ¬ shelf.labelled.PanicsAnswered (shelf.add 1) := by
  have hpanic : shelf.labelled.dispatch (shelf.add 1) = .panic := rfl
  exact ⟨hpanic, fun hanswered => hanswered.comes_back hpanic⟩

end angzarr_router.domain
