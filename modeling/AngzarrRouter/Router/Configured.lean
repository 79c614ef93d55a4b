import AngzarrRouter.Router

open calls
open angzarr_router.error

namespace angzarr_router.router

variable {ComponentDescriptor : Type}

/-- One call on a builder. -/
inductive Configures (ComponentDescriptor : Type) where
  | aggregate (aggregate : CommandHandler)
  | policy (policy : Policy)
  | process_manager (pm : CommandHandler)
  | projector (projector : ProjectorHandler)
  | descriptor (descriptor : ComponentDescriptor)

namespace Configures

/-- What the call makes of the builder. -/
def call (builder : RouterBuilder ComponentDescriptor) :
    Configures ComponentDescriptor → RouterBuilder ComponentDescriptor
  | aggregate component => builder.aggregate component
  | policy component => builder.policy component
  | process_manager component => builder.process_manager component
  | projector component => builder.projector component
  | descriptor given => builder.with_descriptor given

/-- The component a call registers. -/
def component? : Configures ComponentDescriptor → Option Component
  | aggregate component => some (.Aggregate component)
  | policy component => some (.Policy component)
  | process_manager component => some (.Aggregate component)
  | projector component => some (.Projector component)
  | descriptor _ => none

/-- The descriptor a call gives. -/
def descriptor? : Configures ComponentDescriptor → Option ComponentDescriptor
  | descriptor given => some given
  | _ => none

/-- A call adds its component after those that are there. -/
theorem call_components (builder : RouterBuilder ComponentDescriptor)
    (configures : Configures ComponentDescriptor) :
    (configures.call builder).components = builder.components ++ configures.component?.toList := by
  cases configures with
  | descriptor given => exact (List.append_nil _).symm
  | aggregate | policy | process_manager | projector => rfl

/-- A call that gives a descriptor replaces the one that is there. -/
theorem call_descriptor (builder : RouterBuilder ComponentDescriptor)
    (configures : Configures ComponentDescriptor) :
    (configures.call builder).descriptor = configures.descriptor?.or builder.descriptor := by
  cases configures <;> rfl

end Configures

/-- A configuration: calls on an empty builder, in order. -/
def configured (calls : List (Configures ComponentDescriptor)) : RouterBuilder ComponentDescriptor :=
  calls.foldl Configures.call .new

/-- Calls register their components in the order they are made in. -/
theorem foldl_call_components (builder : RouterBuilder ComponentDescriptor)
    (calls : List (Configures ComponentDescriptor)) :
    (calls.foldl Configures.call builder).components =
      builder.components ++ calls.filterMap Configures.component? := by
  induction calls generalizing builder with
  | nil => exact (List.append_nil _).symm
  | cons configures rest ih =>
    rw [List.foldl_cons, ih, Configures.call_components, List.append_assoc, List.filterMap_cons]
    cases configures.component? <;> rfl

/-- The last descriptor given is the one that stays. -/
theorem foldl_call_descriptor (builder : RouterBuilder ComponentDescriptor)
    (calls : List (Configures ComponentDescriptor)) :
    (calls.foldl Configures.call builder).descriptor =
      (calls.filterMap Configures.descriptor?).getLast?.or builder.descriptor := by
  induction calls generalizing builder with
  | nil => rfl
  | cons configures rest ih =>
    rw [List.foldl_cons, ih, Configures.call_descriptor, List.filterMap_cons]
    cases configures.descriptor? with
    | none => rfl
    | some given =>
      dsimp only
      rw [List.getLast?_cons, Option.some_or]
      cases (rest.filterMap Configures.descriptor?).getLast? <;> rfl

theorem configured_components (calls : List (Configures ComponentDescriptor)) :
    (configured calls).components = calls.filterMap Configures.component? :=
  foldl_call_components .new calls

theorem configured_descriptor (calls : List (Configures ComponentDescriptor)) :
    (configured calls).descriptor = (calls.filterMap Configures.descriptor?).getLast? :=
  (foldl_call_descriptor .new calls).trans (Option.or_none ..)

section

variable [AngzarrProto]

/-- A configuration builds a router where it registers that router's component
alone. -/
theorem build_configured_eq_ok_iff {calls : List (Configures ComponentDescriptor)}
    {router : Router ComponentDescriptor} :
    (configured calls).build = .ok router ↔
      calls.filterMap Configures.component? = [router.component] ∧
        (calls.filterMap Configures.descriptor?).getLast? = router.descriptor := by
  obtain ⟨component, descriptor⟩ := router
  rw [RouterBuilder.build, configured_components, configured_descriptor]
  rcases calls.filterMap Configures.component? with _ | ⟨first, _ | ⟨second, rest⟩⟩
  · simp
  · simp
  · simp

/-- A configuration that registers several components is refused for its first
two. -/
theorem build_configured_of_many {calls : List (Configures ComponentDescriptor)}
    {first second : Component} {rest : List Component}
    (hmany : calls.filterMap Configures.component? = first :: second :: rest) :
    (configured calls).build = .err (first.refuse_another second.name) := by
  rw [RouterBuilder.build, configured_components, hmany]

/-- A process hosts one component. However a configuration is put together, it
builds exactly when one component is registered in it, whatever descriptors
stand before, between and after, and the router describes itself by the last of
them; it is refused for hosting none, or for its first two by name; and a router
that was built refuses another component as its configuration is refused once it
goes on to register that one. -/
theorem hosts_one_component (calls : List (Configures ComponentDescriptor)) :
    (∀ router, (configured calls).build = .ok router ↔
      calls.filterMap Configures.component? = [router.component] ∧
        (calls.filterMap Configures.descriptor?).getLast? = router.descriptor) ∧
    (calls.filterMap Configures.component? = [] →
      (configured calls).build = .err (.keyed .NoHandlersRegistered [])) ∧
    (∀ first second rest, calls.filterMap Configures.component? = first :: second :: rest →
      (configured calls).build = .err (first.refuse_another second.name)) ∧
    ∀ router, (configured calls).build = .ok router → ∀ more second rest,
      more.filterMap Configures.component? = second :: rest →
      (configured (calls ++ more)).build = .err (router.refuse_another_component second.name) := by
  refine ⟨fun router => build_configured_eq_ok_iff, fun hnone => ?_,
    fun first second rest hmany => build_configured_of_many hmany,
    fun router hbuilt more second rest hmore => ?_⟩
  · rw [RouterBuilder.build, configured_components, hnone]
  · obtain ⟨hone, _⟩ := build_configured_eq_ok_iff.mp hbuilt
    refine build_configured_of_many (?_ : _ = router.component :: second :: rest)
    rw [List.filterMap_append, hone, hmore]
    rfl

end

end angzarr_router.router
