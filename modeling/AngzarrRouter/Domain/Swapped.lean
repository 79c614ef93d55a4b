import AngzarrRouter.Calls.Alike
import AngzarrRouter.Domain.Discipline

open calls calls.MutCall
open angzarr_router.error angzarr_router.context angzarr_router.rebuild

namespace angzarr_router.domain

variable {S : Type} {p : Any → Prop}

/-- Every event an emit can come to answer satisfies `p`, whatever its
continuations are run on. -/
inductive Emit.All (p : Any → Prop) : Emit S → Prop where
  | last {events : List Any} (hevents : ∀ event ∈ events, p event) : All p (.mk events .none)
  | step {events : List Any} {first : StepFn S} (hevents : ∀ event ∈ events, p event)
      (hsteps : ∀ state ctx emit, first state ctx = .ok emit → All p emit) :
      All p (.mk events (some first))

/-- Whatever an emit answers satisfies what everything does. -/
theorem Emit.All.of_forall (hall : ∀ event, p event) (emit : Emit S) : emit.All p := by
  induction emit with
  | last events => exact .last fun event _ => hall event
  | step events first ih => exact .step (fun event _ => hall event) ih

/-- Every event the handlers of a table can come to answer does. -/
def DomainDispatch.EmitsOnly (self : DomainDispatch S) (p : Any → Prop) : Prop :=
  ∀ (name : String) (thunk : HandlerFn S),
    self.handlers[name]? = some thunk ∨ self.facts[name]? = some thunk → ∀ any state ctx emit,
      thunk any state ctx = .ok emit → emit.All p

namespace DomainDispatch

variable [AngzarrProto] [BuildProfile] {self : DomainDispatch S} {rebuilder : Rebuilder S}
  (hemitted : ∀ state events cover start event_meta, (∀ event ∈ events, p event) →
    rebuilder.apply_emitted state events cover start event_meta =
      self.rebuilder.apply_emitted state events cover start event_meta)

include hemitted

/-- A decision goes the same way under rebuilders that fold what it emits alike:
along the continuations of its emit, each folded alike and so continued alike. -/
theorem decide_loop_swapped (ctx : CommandContext) (cover : Option pb.Cover)
    (event_meta : pb.EventMeta) (first : UInt64) {emit : Emit S} (hemit : emit.All p)
    (answered : List Any) (state : S) :
    ({ self with rebuilder } : DomainDispatch S).decide_loop ctx cover event_meta first emit answered
        state =
      self.decide_loop ctx cover event_meta first emit answered state := by
  induction hemit generalizing answered state with
  | last hevents => simp only [decide_loop, hemitted _ _ _ _ _ hevents, decide_next]
  | step hevents _ ih =>
    simp only [decide_loop, hemitted _ _ _ _ _ hevents, decide_next]
    congr 1
    funext start
    congr 1
    funext after _
    rename_i step _ _
    cases hanswer : step after ctx with
    | ok emit => exact ih after ctx emit hanswer _ after
    | err error => rfl
    | panic => rfl

theorem decide_swapped {thunk : HandlerFn S}
    (hthunk : ∀ any state ctx emit, thunk any state ctx = .ok emit → emit.All p) (any : Any)
    (state : S) (ctx : CommandContext) (cover : Option pb.Cover) :
    ({ self with rebuilder } : DomainDispatch S).decide thunk any state ctx cover =
      self.decide thunk any state ctx cover := by
  unfold decide
  cases hanswer : thunk any state ctx with
  | ok emit => exact decide_loop_swapped hemitted _ _ _ _ (hthunk any state ctx emit hanswer) _ _
  | err error => rfl
  | panic => rfl

/-- A table with its rebuilder swapped answers a request as the table answers
one with the same input: what the two histories rebuild to is answered alike,
and what they do not rebuild fails alike. -/
theorem dispatch_swapped (hemits : self.EmitsOnly p)
    (hencode : ∀ state, rebuilder.encode_state state = self.rebuilder.encode_state state)
    {req req' : hpb.HandleRequest} (hinput : req'.input = req.input)
    (hcontext : command_context req' = command_context req)
    (hcover : decision_cover req' = decision_cover req)
    {errs : CodedError → CodedError → Prop} (hrefl : ∀ error, errs error error)
    (hrebuild : Alike errs ((rebuilder.rebuild req'.history).map (·.1))
      ((self.rebuilder.rebuild req.history).map (·.1))) :
    Alike errs (({ self with rebuilder } : DomainDispatch S).dispatch req') (self.dispatch req) := by
  simp only [dispatch, hinput, hcontext, hcover, hencode,
    show ({ self with rebuilder } : DomainDispatch S).route = self.route from rfl]
  cases hroute : self.route (req.input.bind (·.page)) .default with
  | err error => exact .err (hrefl error)
  | panic => exact .panic
  | ok routed =>
    obtain ⟨dispatched, any⟩ := routed
    simp only [Outcome.ok_bind]
    cases hone : rebuilder.rebuild req'.history with
    | err error =>
      cases hother : self.rebuilder.rebuild req.history with
      | err failure =>
        rw [hone, hother] at hrebuild
        cases hrebuild with
        | err herr => exact .err herr
      | ok rebuilt => rw [hone, hother] at hrebuild; cases hrebuild
      | panic => rw [hone, hother] at hrebuild; cases hrebuild
    | panic =>
      cases hother : self.rebuilder.rebuild req.history with
      | panic => exact .panic
      | ok rebuilt => rw [hone, hother] at hrebuild; cases hrebuild
      | err failure => rw [hone, hother] at hrebuild; cases hrebuild
    | ok rebuilt =>
      rw [hone, Outcome.map_ok] at hrebuild
      have hother := hrebuild.eq_ok.mp rfl
      rw [Outcome.map_eq_ok_iff] at hother
      obtain ⟨⟨state, info⟩, hother, hstate⟩ := hother
      obtain ⟨start, count⟩ := rebuilt
      obtain rfl : state = start := hstate
      simp only [hother, Outcome.ok_bind]
      cases dispatched with
      | Command thunk =>
        have hthunk := hemits _ thunk (self.thunk_of_route hroute)
        simp only [decide_swapped hemitted hthunk]
        exact .refl hrefl _
      | Fact thunk =>
        have hthunk := hemits _ thunk (self.thunk_of_route hroute)
        simp only [decide_swapped hemitted hthunk]
        exact .refl hrefl _

end DomainDispatch

end angzarr_router.domain
