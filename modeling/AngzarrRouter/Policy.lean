import AngzarrRouter.Error

open calls
open angzarr_router.error

namespace angzarr_router.policy

/-- Reacts to one source event. -/
abbrev EventFn : Type := Any → PageContext → Outcome HandlerError (List hpb.Output)

/-- A command for the policy's destination stream rooted at `root`. -/
def command (root : Option pb.Uuid) (payload : Any) : hpb.Output :=
  { root, body := some (.Command payload) }

/-- A fact for it. -/
def fact (root : Option pb.Uuid) (payload : Any) : hpb.Output := { root, body := some (.Fact payload) }

/-- What the refusal callback is handed beside the refused command and its
refusal. -/
structure RefusalContext where
  trigger : PageContext
  delivery : pb.ReactionDelivery
deriving DecidableEq, Repr

/-- The policy's one refusal callback. -/
abbrev RefusalFn : Type := Any → hpb.Refusal → RefusalContext → Outcome HandlerError Any

/-- The dispatch table for one policy component. -/
structure PolicyDispatch where
  handlers : Table EventFn
  refused : Option RefusalFn

namespace PolicyDispatch

def new : PolicyDispatch := { handlers := ∅, refused := none }

def on_event (self : PolicyDispatch) (full_name : String) (thunk : EventFn) : PolicyDispatch :=
  { self with handlers := self.handlers.insert full_name thunk }

variable [AngzarrProto]

/-- `PolicyService.React`: the outputs for the trigger book's one event, none
for an undeclared event type, or a book with no page. -/
def react (self : PolicyDispatch) (req : hpb.ReactRequest) : Outcome CodedError hpb.ReactResponse :=
  match req.trigger with
  | none => .ok .default
  | some trigger =>
    match trigger.pages.head?.bind fun page => (page_event page).map fun event => (page, event) with
    | none => .ok .default
    | some (page, event) =>
      match self.handlers[type_name_from_url event.type_url]? with
      | none => .ok .default
      | some thunk => do
        let context :=
          { cover := trigger.cover, sequence := page.sequence, event_meta := page.event_meta }
        let outputs ← call_handler (thunk event context)
        .ok { outputs }

end PolicyDispatch

end angzarr_router.policy
