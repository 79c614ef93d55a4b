import AngzarrRouter.Domain.Run

open calls calls.MutCall
open angzarr_router.error angzarr_router.context angzarr_router.rebuild

namespace angzarr_router.domain

variable {S : Type}

namespace Emit

/-- Pushing twice is pushing once what runs the one and then the other: the
second step goes onto whatever emit the first answers, however deep. -/
theorem push_push (self : Emit S) (a b : StepFn S) :
    (self.push a).push b = self.push fun state ctx => (a state ctx).map (push b) := by
  induction self with
  | last events =>
    simp only [push, push_next]
    congr 2
    funext state ctx
    exact push_answer_eq_map b (a state ctx)
  | step events first ih =>
    simp only [push, push_next]
    congr 2
    funext state ctx
    cases hanswer : first state ctx with
    | ok emit => exact congrArg Outcome.ok (ih state ctx emit hanswer)
    | err error => rfl
    | panic => rfl

end Emit

namespace DomainDispatch

variable [AngzarrProto] [BuildProfile]

/-- A pushed step runs where the decision it is pushed onto ends. -/
theorem decide_loop_push (self : DomainDispatch S) (ctx : CommandContext) (cover : Option pb.Cover)
    (event_meta : pb.EventMeta) (first : UInt64) (emit : Emit S) (k : StepFn S)
    (answered : List Any) (state : S) :
    self.decide_loop ctx cover event_meta first (emit.push k) answered state =
      (self.decide_loop ctx cover event_meta first emit answered state).andThen
        fun state answered =>
          self.decide_answer ctx cover event_meta first (k state ctx) answered state := by
  induction emit generalizing answered state with
  | last events =>
    simp only [Emit.push, Emit.push_next, decide_loop]
    cases u64_add (ε := CodedError) first answered.length with
    | ok start => simp only [andThen_assoc, decide_next, andThen_ok]
    | err error => rfl
    | panic => rfl
  | step events next ih =>
    simp only [Emit.push, Emit.push_next, decide_loop]
    cases u64_add (ε := CodedError) first answered.length with
    | ok start =>
      simp only [andThen_assoc, decide_next]
      congr 1
      funext state _
      cases hanswer : next state ctx with
      | ok emit =>
        simp only [Emit.push_answer, decide_answer]
        exact ih state ctx emit hanswer _ state
      | err error => rfl
      | panic => rfl
    | err error => rfl
    | panic => rfl

/-- Events answered before a turn only move its numbers on: the run that starts
after them, at the sequence they leave off, emits the same. -/
theorem decide_loop_append_answered (self : DomainDispatch S) (ctx : CommandContext)
    (cover : Option pb.Cover) (event_meta : pb.EventMeta) {first : UInt64} (emit : Emit S)
    {before : List Any} (hroom : U64Room first before.length) (answered : List Any) (state : S) :
    self.decide_loop ctx cover event_meta first emit (before ++ answered) state =
      (self.decide_loop ctx cover event_meta (first + UInt64.ofNat before.length) emit
        answered state).map (before ++ ·) := by
  have hstart (answered : List Any) : u64_add (ε := CodedError) first (before ++ answered).length =
      u64_add (first + UInt64.ofNat before.length) answered.length := by
    rw [List.length_append]
    by_cases hrest : U64Room (first + UInt64.ofNat before.length) answered.length
    · rw [u64_add_of_room (U64Room.add_iff.mpr ⟨hroom, hrest⟩), u64_add_of_room hrest,
        UInt64.ofNat_add, UInt64.add_assoc]
    · rw [u64_add_of_not_room fun h => hrest (U64Room.add_iff.mp h).2, u64_add_of_not_room hrest]
  induction emit generalizing answered state with
  | last events =>
    simp only [decide_loop, hstart]
    cases u64_add (ε := CodedError) (first + UInt64.ofNat before.length) answered.length with
    | ok start =>
      simp only [map_andThen, decide_next, List.append_assoc]
      rfl
    | err error => rfl
    | panic => rfl
  | step events next ih =>
    simp only [decide_loop, hstart]
    cases u64_add (ε := CodedError) (first + UInt64.ofNat before.length) answered.length with
    | ok start =>
      simp only [map_andThen, decide_next, List.append_assoc]
      congr 1
      funext state _
      cases hanswer : next state ctx with
      | ok emit => exact ih state ctx emit hanswer _ state
      | err error => rfl
      | panic => rfl
    | err error => rfl
    | panic => rfl

/-- `Emit::then` is sequencing. Running `emit.then_step k` is running `emit` to
its end and then, only if that was answered with `events`, calling `k` as a
handler on the state it left and running `k`'s own emit to its end, at the
sequences on from where `events` leave off: the whole answer is `events` followed
by what `k`'s decision emits, over the state that decision leaves. A failure of
`emit`'s own run is the whole run's, whatever `k` is. And `then_step` nests
either way: a step added to what already continues runs as part of the step
before it. -/
theorem then_step_is_sequencing (self : DomainDispatch S) (ctx : CommandContext)
    (cover : Option pb.Cover) (event_meta : pb.EventMeta) (first : UInt64) (emit : Emit S)
    (state : S) :
    (∀ k : StepFn S,
      self.decide_loop ctx cover event_meta first (emit.then_step k) [] state =
        (self.decide_loop ctx cover event_meta first emit [] state).andThen fun state events =>
          (MutCall.andThen (state, call_handler (k state ctx)) fun state next =>
            self.decide_loop ctx cover event_meta (first + UInt64.ofNat events.length) next []
              state).map (events ++ ·)) ∧
    (∀ a b : StepFn S, (emit.then_step a).then_step b =
      emit.then_step fun state ctx => (a state ctx).map (·.then_step b)) := by
  refine ⟨fun k => ?_, emit.push_push⟩
  simp only [← decide_answer_eq_call_handler]
  rw [Emit.then_step, decide_loop_push]
  rcases hrun : self.decide_loop ctx cover event_meta first emit [] state with
    ⟨last, events | error | _⟩
  · have hturn : self.run_turn ctx cover event_meta first ⟨[], emit, state⟩ = (last, .ok events) :=
      hrun
    have hroom : U64Room first events.length := room_of_run_turn_ok hturn
    rw [andThen_ok, andThen_ok]
    cases hanswer : k last ctx with
    | ok next =>
      have happend := self.decide_loop_append_answered ctx cover event_meta next hroom [] last
      rwa [List.append_nil] at happend
    | err error => rfl
    | panic => rfl
  · rfl
  · rfl

end DomainDispatch

end angzarr_router.domain
