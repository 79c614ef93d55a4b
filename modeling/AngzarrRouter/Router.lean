import AngzarrRouter.Domain.Panics
import AngzarrRouter.Policy
import AngzarrRouter.Projector

open calls calls.MutCall
open angzarr_router.error angzarr_router.domain angzarr_router.policy angzarr_router.projector

namespace angzarr_router.router

/-- A domain as the router sees it, whatever its state type: what awaiting its
dispatch comes back with. -/
structure CommandHandler where
  name : String
  dispatch : hpb.HandleRequest → Outcome CodedError hpb.HandleResponse

/-- A projector as the router sees it, whatever its projection type. -/
structure ProjectorHandler where
  name : String
  dispatch : hpb.ProjectRequest → Outcome CodedError hpb.ProjectResponse

/-- A policy under its name. -/
structure Policy where
  name : String
  table : PolicyDispatch

/-- The one component a router hosts. -/
inductive Component where
  | Aggregate (component : CommandHandler)
  | Policy (component : Policy)
  | Projector (component : ProjectorHandler)

namespace Component

def name : Component → String
  | Aggregate component => component.name
  | Policy component => component.name
  | Projector component => component.name

/-- The refusal of a second component beside this one. -/
def refuse_another [AngzarrProto] (self : Component) (refused : String) : CodedError :=
  .keyed .DuplicateComponent
    [(AngzarrProto.reason_args.REGISTERED, self.name), (AngzarrProto.reason_args.REFUSED, refused)]

end Component

section

variable {ComponentDescriptor : Type}

/-- The one component of one business process, ready to dispatch. -/
structure Router (ComponentDescriptor : Type) where
  component : Component
  descriptor : Option ComponentDescriptor

/-- Collects the one component of a router, and its descriptor. -/
structure RouterBuilder (ComponentDescriptor : Type) where
  components : List Component
  descriptor : Option ComponentDescriptor

namespace RouterBuilder

def new : RouterBuilder ComponentDescriptor := { components := [], descriptor := none }

def aggregate (self : RouterBuilder ComponentDescriptor) (aggregate : CommandHandler) :
    RouterBuilder ComponentDescriptor :=
  { self with components := self.components ++ [.Aggregate aggregate] }

def policy (self : RouterBuilder ComponentDescriptor) (policy : Policy) :
    RouterBuilder ComponentDescriptor :=
  { self with components := self.components ++ [.Policy policy] }

/-- A process manager is hosted as an aggregate is. -/
def process_manager (self : RouterBuilder ComponentDescriptor) (pm : CommandHandler) :
    RouterBuilder ComponentDescriptor :=
  self.aggregate pm

def projector (self : RouterBuilder ComponentDescriptor) (projector : ProjectorHandler) :
    RouterBuilder ComponentDescriptor :=
  { self with components := self.components ++ [.Projector projector] }

/-- The source's `descriptor`, which the field is named for. -/
def with_descriptor (self : RouterBuilder ComponentDescriptor) (descriptor : ComponentDescriptor) :
    RouterBuilder ComponentDescriptor :=
  { self with descriptor := some descriptor }

/-- Validates the configuration and builds the router. -/
def build [AngzarrProto] (self : RouterBuilder ComponentDescriptor) :
    Outcome CodedError (Router ComponentDescriptor) :=
  match self.components with
  | [] => .err (.keyed .NoHandlersRegistered [])
  | [component] => .ok { component, descriptor := self.descriptor }
  | component :: second :: _ => .err (component.refuse_another second.name)

end RouterBuilder

namespace Router

variable [AngzarrProto]

/-- The refusal of another component registered beside this router's, for hosts
that register components one at a time. -/
def refuse_another_component (self : Router ComponentDescriptor) (refused : String) : CodedError :=
  self.component.refuse_another refused

end Router

end

end angzarr_router.router
