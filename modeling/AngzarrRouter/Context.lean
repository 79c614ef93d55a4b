import AngzarrRouter.Wire

namespace angzarr_router.context

/-- The input's kind, by its book's body arm, with what that kind alone
carries. -/
inductive InputArm where
  | Command (expected_sequence : Option UInt64)
  | Fact (origin : Option pb.FactOrigin)
deriving DecidableEq, Repr

/-- `InputArm::default()`. -/
def InputArm.default : InputArm := .Command none

/-- What a business method is handed beside its input and state. -/
structure CommandContext where
  next_sequence : UInt64
  had_prior_events : Bool
  cover : Option pb.Cover
  arm : InputArm
  command_id : Option pb.Uuid
  correlation_id : Option pb.Uuid
  recorded_at : Option Timestamp
  causation : Option pb.EventRef
deriving DecidableEq, Repr

/-- The metadata every event of this decision is stamped with: the one builder
the router folds with and a coordinator stamps with. -/
def CommandContext.event_meta (self : CommandContext) (rules_version : String) : pb.EventMeta :=
  let causation := match self.arm with
    | .Command _ => pb.event_meta.Causation.Command { command_id := self.command_id }
    | .Fact origin => pb.event_meta.Causation.Fact { command_id := self.command_id, origin }
  { causation := some causation
    correlation_id := self.correlation_id
    recorded_at := self.recorded_at
    rules_version }

/-- The input's arm as its book's page carries it; a page with no body is a
command with no expected sequence. -/
def arm_of (page : Option pb.CommandPage) : InputArm :=
  match page.bind (·.body) with
  | some (.Fact fact) => .Fact fact.origin
  | some (.Command command) => .Command (command.handling.bind (·.expected_sequence))
  | none => .default

/-- The context a handler of `req` is handed, from the request alone. -/
def command_context (req : hpb.HandleRequest) : CommandContext :=
  let history := req.history
  let book := req.input
  let page := book.bind (·.page)
  { next_sequence := angzarr_router.next_sequence history
    had_prior_events := history.any fun b => !b.pages.isEmpty || b.snapshot.isSome
    cover := book.bind (·.cover)
    arm := arm_of page
    command_id := page.bind (·.command_id)
    correlation_id := page.bind (·.correlation_id)
    recorded_at := req.recorded_at
    causation := req.causation }

end angzarr_router.context
