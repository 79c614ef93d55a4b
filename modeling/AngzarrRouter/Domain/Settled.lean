import AngzarrRouter.Domain.Idempotence
import AngzarrRouter.Domain.Sequencing

open calls calls.MutCall
open angzarr_router.error angzarr_router.context angzarr_router.rebuild

namespace angzarr_router.domain

variable {S : Type}

/-- On a state where a step is settled it has nothing to add, and nowhere to go
on to. -/
def Settled (step : StepFn S) (ctx : CommandContext) (state : S) : Prop :=
  ∃ again, step state ctx = .ok again ∧ again.events = [] ∧ again.next = none

namespace DomainDispatch

section

variable [AngzarrProto] [BuildProfile] {self : DomainDispatch S} {ctx : CommandContext} {state last : S}
  {events : List Any}

/-- A step that is settled where a run ends adds nothing to the run. -/
theorem run_emit_then_settled {emit : Emit S} {step : StepFn S}
    (hrun : self.run_emit ctx emit state = (last, .ok events)) (hsettled : Settled step ctx last) :
    self.run_emit ctx (emit.then_step step) state = (last, .ok events) := by
  obtain ⟨again, hagain, hnothing, hnowhere⟩ := hsettled
  have hroom := room_of_run_turn_ok hrun
  rw [run_emit, run_turn] at hrun
  rw [run_emit, run_turn, Emit.then_step, decide_loop_push, hrun, andThen_ok, hagain, decide_answer]
  exact run_turn_of_nothing events hroom hnothing hnowhere

/-- Nor do any number of them, in any order. -/
theorem run_emit_then_all_settled {emit : Emit S} {steps : List (StepFn S)}
    (hrun : self.run_emit ctx emit state = (last, .ok events))
    (hsettled : ∀ step ∈ steps, Settled step ctx last) :
    self.run_emit ctx (steps.foldl Emit.then_step emit) state = (last, .ok events) := by
  induction steps generalizing emit with
  | nil => exact hrun
  | cons step rest ih =>
    obtain ⟨hstep, hrest⟩ := List.forall_mem_cons.mp hsettled
    exact ih (run_emit_then_settled hrun hstep) hrest

/-- A step that passes the check is settled where its own run ends. -/
theorem settled_of_check {step : StepFn S}
    (hfirst : ∀ first, step state ctx = .ok first → first.continues = .Nowhere)
    (hcheck : self.check_step_idempotent state ctx step = .ok ()) :
    ∃ last first, step state ctx = .ok first ∧
      self.run_emit ctx (Emit.none.then_step step) state = (last, .ok first.events) ∧
      Settled step ctx last := by
  cases checks_of_eq hcheck with
  | @came_back first again after _ hran hfold hagain hjudge =>
    obtain ⟨hevents, hnowhere⟩ := Emit.judge_eq_ok_iff.mp hjudge
    have hnext := Emit.continues_eq_nowhere_iff.mp (hfirst first hran)
    refine ⟨after, first, hran, ?_, again, hagain, hevents,
      Emit.continues_eq_nowhere_iff.mp hnowhere⟩
    rw [run_emit_then_step, hran, call_handler_ok, andThen_ok, run_emit_of_nowhere hnext, hfold,
      andThen_ok]

/-- A step that passes the idempotence check may be retried any number of
times, and among any other steps that the state it leaves has settled: the
decision answers the events of one run and ends in the state one run leaves. -/
theorem retries_change_nothing (self : DomainDispatch S) (ctx : CommandContext) (state : S)
    (step : StepFn S) (hfirst : ∀ first, step state ctx = .ok first → first.continues = .Nowhere)
    (hcheck : self.check_step_idempotent state ctx step = .ok ()) :
    ∃ last events, self.run_emit ctx (Emit.none.then_step step) state = (last, .ok events) ∧
      ∀ steps : List (StepFn S), (∀ other ∈ steps, other = step ∨ Settled other ctx last) →
        self.run_emit ctx (steps.foldl Emit.then_step (Emit.none.then_step step)) state =
          (last, .ok events) := by
  obtain ⟨last, first, _, hrun, hsettled⟩ := settled_of_check hfirst hcheck
  refine ⟨last, first.events, hrun, fun steps hsteps => run_emit_then_all_settled hrun fun other hother => ?_⟩
  obtain rfl | hother := hsteps other hother
  · exact hsettled
  · exact hother

end

end DomainDispatch

open DomainDispatch declared

/-- An empty shelf opened, and opened twice more, holds one. -/
theorem retries_change_nothing_shelf : ∃ last events,
    shelf.dispatch.run_emit (command_context (shelf.add 0))
      ((Emit.none.then_step shelf.opens).then_step shelf.opens |>.then_step shelf.opens) 0 =
        (last, .ok events) ∧
    shelf.dispatch.run_emit (command_context (shelf.add 0)) (Emit.none.then_step shelf.opens) 0 =
      (last, .ok events) := by
  have hfirst : ∀ first, shelf.opens 0 (command_context (shelf.add 0)) = .ok first →
      first.continues = .Nowhere := by
    intro first hran
    obtain rfl := Outcome.ok.inj hran
    rfl
  obtain ⟨last, events, hrun, hretries⟩ :=
    shelf.dispatch.retries_change_nothing (command_context (shelf.add 0)) 0 shelf.opens hfirst rfl
  refine ⟨last, events, hretries [shelf.opens, shelf.opens] fun other hother => ?_, hrun⟩
  simp only [List.mem_cons, List.not_mem_nil, or_false, or_self] at hother
  exact .inl hother

end angzarr_router.domain
