import AngzarrRouter.Domain
import AngzarrRouter.Rebuild.Emitted
import Mathlib.Logic.Relation

open calls calls.MutCall
open angzarr_router.error angzarr_router.context angzarr_router.rebuild

namespace angzarr_router.domain

variable {S : Type}

/-- The top of a decision's loop: what is answered so far, the emit to fold
next, and the state every earlier event is folded into. -/
structure Turn (S : Type) where
  answered : List Any
  emit : Emit S
  state : S

/-- Everything a turn's decision has emitted once its own events are folded. -/
def Turn.emitted (turn : Turn S) : List Any := turn.answered ++ turn.emit.events

namespace DomainDispatch

variable [AngzarrProto] [BuildProfile]

/-- A turn's own fold. -/
def fold_turn (self : DomainDispatch S) (cover : Option pb.Cover) (event_meta : pb.EventMeta)
    (first : UInt64) (turn : Turn S) : MutCall S CodedError Unit :=
  match u64_add first turn.answered.length with
  | .ok start => self.rebuilder.apply_emitted turn.state turn.emit.events cover start event_meta
  | .err error => (turn.state, .err error)
  | .panic => (turn.state, .panic)

/-- The loop from a turn on. -/
def run_turn (self : DomainDispatch S) (ctx : CommandContext) (cover : Option pb.Cover)
    (event_meta : pb.EventMeta) (first : UInt64) (turn : Turn S) : MutCall S CodedError (List Any) :=
  self.decide_loop ctx cover event_meta first turn.emit turn.answered turn.state

/-- One turn of the loop: the fold comes back, the emit continues, and its step
answers the next emit. -/
inductive TurnStep (self : DomainDispatch S) (ctx : CommandContext) (cover : Option pb.Cover)
    (event_meta : pb.EventMeta) (first : UInt64) : Turn S → Turn S → Prop where
  | continued {turn : Turn S} {state : S} {step : StepFn S} {emit : Emit S}
      (hfold : self.fold_turn cover event_meta first turn = (state, .ok ()))
      (hnext : turn.emit.next = some step) (hstep : step state ctx = .ok emit) :
      TurnStep self ctx cover event_meta first turn ⟨turn.emitted, emit, state⟩

/-- Every other way a turn can go ends the run. -/
inductive TurnEnds (self : DomainDispatch S) (ctx : CommandContext) (cover : Option pb.Cover)
    (event_meta : pb.EventMeta) (first : UInt64) : Turn S → MutCall S CodedError (List Any) → Prop where
  | unnumbered {turn : Turn S} (hroom : ¬ U64Room first turn.emitted.length) :
      TurnEnds self ctx cover event_meta first turn (turn.state, .panic)
  | unfolded {turn : Turn S} {state : S} {error : CodedError}
      (hfold : self.fold_turn cover event_meta first turn = (state, .err error)) :
      TurnEnds self ctx cover event_meta first turn (state, .err error)
  | answered {turn : Turn S} {state : S}
      (hfold : self.fold_turn cover event_meta first turn = (state, .ok ()))
      (hnext : turn.emit.next = none) :
      TurnEnds self ctx cover event_meta first turn (state, .ok turn.emitted)
  | failed {turn : Turn S} {state : S} {step : StepFn S} {error : HandlerError}
      (hfold : self.fold_turn cover event_meta first turn = (state, .ok ()))
      (hnext : turn.emit.next = some step) (hstep : step state ctx = .err error) :
      TurnEnds self ctx cover event_meta first turn (state, .err (map_handler_error error))
  | panicked {turn : Turn S} {state : S} {step : StepFn S}
      (hfold : self.fold_turn cover event_meta first turn = (state, .ok ()))
      (hnext : turn.emit.next = some step) (hstep : step state ctx = .panic) :
      TurnEnds self ctx cover event_meta first turn (state, .err .panicked)

section

variable (self : DomainDispatch S) (ctx : CommandContext) (cover : Option pb.Cover)
  (event_meta : pb.EventMeta) (first : UInt64)

/-- The turns a run passes from one turn on. -/
abbrev Reaches : Turn S → Turn S → Prop :=
  Relation.ReflTransGen (self.TurnStep ctx cover event_meta first)

/-- With room for its numbers, a turn's fold is of its events as the pages they
will be, on from what is answered. -/
theorem fold_turn_of_room {turn : Turn S} (hroom : U64Room first turn.emitted.length) :
    self.fold_turn cover event_meta first turn =
      self.rebuilder.apply_pages turn.state
        (stamped event_meta turn.emit.events (first + UInt64.ofNat turn.answered.length))
        cover .Emitted := by
  rw [Turn.emitted, List.length_append, U64Room.add_iff] at hroom
  simp only [fold_turn, u64_add_of_room hroom.1]
  exact self.rebuilder.apply_emitted_of_room _ _ _ _ hroom.2

/-- A turn whose events cannot be numbered unwinds. -/
theorem fold_turn_of_not_room {turn : Turn S} (hroom : ¬ U64Room first turn.emitted.length) :
    self.fold_turn cover event_meta first turn = (turn.state, .panic) := by
  rw [Turn.emitted, List.length_append, U64Room.add_iff, not_and] at hroom
  unfold fold_turn
  by_cases hanswered : U64Room first turn.answered.length
  · simp only [u64_add_of_room hanswered]
    exact self.rebuilder.apply_emitted_of_not_room _ _ _ _ (hroom hanswered)
  · simp only [u64_add_of_not_room hanswered]

/-- A turn that comes back could number its events. -/
theorem room_of_fold_turn_ne_panic {turn : Turn S}
    (hfold : (self.fold_turn cover event_meta first turn).2 ≠ .panic) :
    U64Room first turn.emitted.length := by
  by_contra hroom
  exact hfold (by rw [self.fold_turn_of_not_room cover event_meta first hroom])

/-- A turn folds its events, and then its step runs. -/
theorem run_turn_eq_fold_turn (turn : Turn S) :
    self.run_turn ctx cover event_meta first turn =
      (self.fold_turn cover event_meta first turn).andThen fun state _ =>
        self.decide_next ctx cover event_meta first turn.emit.next turn.emitted state := by
  obtain ⟨answered, ⟨events, next⟩, state⟩ := turn
  simp only [run_turn, decide_loop, fold_turn, Turn.emitted, Emit.events, Emit.next]
  cases u64_add (ε := CodedError) first answered.length <;> rfl

/-- A turn either goes on to the next or ends the run. -/
theorem turn_steps_or_ends (turn : Turn S) :
    (∃ after, self.TurnStep ctx cover event_meta first turn after) ∨
      ∃ result, self.TurnEnds ctx cover event_meta first turn result := by
  rcases hfold : self.fold_turn cover event_meta first turn with ⟨state, ⟨⟩ | error | _⟩
  · cases hnext : turn.emit.next with
    | none => exact .inr ⟨_, .answered hfold hnext⟩
    | some step =>
      cases hstep : step state ctx with
      | ok emit => exact .inl ⟨_, .continued hfold hnext hstep⟩
      | err error => exact .inr ⟨_, .failed hfold hnext hstep⟩
      | panic => exact .inr ⟨_, .panicked hfold hnext hstep⟩
  · exact .inr ⟨_, .unfolded hfold⟩
  · refine .inr ⟨_, .unnumbered fun hroom => ?_⟩
    rw [self.fold_turn_of_room cover event_meta first hroom] at hfold
    exact self.rebuilder.apply_pages_ne_panic _ _ _ _ (congrArg Prod.snd hfold)

variable {self ctx cover event_meta first}

/-- The loop answers the same from one turn as from the next. -/
theorem TurnStep.run_turn_eq {turn after : Turn S}
    (hstep : self.TurnStep ctx cover event_meta first turn after) :
    self.run_turn ctx cover event_meta first turn = self.run_turn ctx cover event_meta first after := by
  cases hstep with
  | continued hfold hnext hanswer =>
    rw [run_turn_eq_fold_turn, hfold, andThen_ok, hnext, decide_next, hanswer, decide_answer]
    rfl

/-- A run is the run of any turn that it reaches. -/
theorem run_turn_eq_of_reaches {turn after : Turn S}
    (hreach : self.Reaches ctx cover event_meta first turn after) :
    self.run_turn ctx cover event_meta first turn = self.run_turn ctx cover event_meta first after := by
  induction hreach with
  | refl => rfl
  | tail _ hstep ih => exact ih.trans hstep.run_turn_eq

/-- It ends as its last turn does. -/
theorem TurnEnds.run_turn_eq {turn : Turn S} {result : MutCall S CodedError (List Any)}
    (hends : self.TurnEnds ctx cover event_meta first turn result) :
    self.run_turn ctx cover event_meta first turn = result := by
  rw [run_turn_eq_fold_turn]
  cases hends with
  | unnumbered hroom => rw [fold_turn_of_not_room _ _ _ _ hroom, andThen_panic]
  | unfolded hfold => rw [hfold, andThen_err]
  | answered hfold hnext => rw [hfold, andThen_ok, hnext, decide_next]
  | failed hfold hnext hstep => rw [hfold, andThen_ok, hnext, decide_next, hstep, decide_answer]
  | panicked hfold hnext hstep => rw [hfold, andThen_ok, hnext, decide_next, hstep, decide_answer]

variable (self ctx cover event_meta first)

/-- A decision ends: every run passes finitely many turns, down the tree of
continuations, to one that ends it. -/
theorem run_ends (emit : Emit S) (answered : List Any) (state : S) :
    ∃ turn result, self.Reaches ctx cover event_meta first ⟨answered, emit, state⟩ turn ∧
      self.TurnEnds ctx cover event_meta first turn result := by
  induction emit generalizing answered state with
  | last events =>
    rcases self.turn_steps_or_ends ctx cover event_meta first ⟨answered, .mk events none, state⟩
      with ⟨after, hstep⟩ | ⟨result, hends⟩
    · cases hstep with
      | continued _ hnext _ => cases hnext
    · exact ⟨_, result, .refl, hends⟩
  | step events first_step ih =>
    rcases self.turn_steps_or_ends ctx cover event_meta first
        ⟨answered, .mk events (some first_step), state⟩ with ⟨after, hstep⟩ | ⟨result, hends⟩
    · cases hstep with
      | @continued next step emit hfold hnext hanswer =>
        obtain rfl : first_step = step := Option.some.inj hnext
        obtain ⟨turn, result, hreach, hends⟩ := ih next ctx emit hanswer _ next
        exact ⟨turn, result, .head (.continued hfold rfl hanswer) hreach, hends⟩
    · exact ⟨_, result, .refl, hends⟩

variable {self ctx cover event_meta first}

/-- A decision that is answered had room for all its numbers. -/
theorem room_of_run_turn_ok {turn : Turn S} {state : S} {events : List Any}
    (hrun : self.run_turn ctx cover event_meta first turn = (state, .ok events)) :
    U64Room first events.length := by
  obtain ⟨last, result, hreach, hends⟩ :=
    self.run_ends ctx cover event_meta first turn.emit turn.answered turn.state
  rw [run_turn_eq_of_reaches hreach, hends.run_turn_eq] at hrun
  subst hrun
  cases hends with
  | answered hfold _ =>
    exact self.room_of_fold_turn_ne_panic cover event_meta first (by rw [hfold]; simp)

end

end DomainDispatch

end angzarr_router.domain
