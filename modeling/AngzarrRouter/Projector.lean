import AngzarrRouter.Rebuild

open calls calls.MutCall
open angzarr_router.error angzarr_router.rebuild

namespace angzarr_router.projector

variable {P : Type}

/-- Folds one delivered event page into the rebuilding projection. -/
abbrev EventFn (P : Type) : Type := P → Any → PageContext → MutCall P HandlerError Unit

/-- Packs the folded projection instance into the answer's payload. -/
abbrev FinishFn (P : Type) : Type := P → pb.EventBook → MutCall P HandlerError Any

/-- Folds every page of a consumed book into the projection in one call. -/
abbrev BatchFoldFn (P : Type) : Type :=
  P → List pb.EventPage → pb.Cover → MutCall P FoldFailure Unit

/-- The dispatch table for one projector component. -/
structure ProjectorDispatch (P : Type) where
  factory : FactoryFn P
  domains : Option (Std.ExtTreeSet String)
  handlers : Table (EventFn P)
  fold : Option (BatchFoldFn P)
  finish : Option (FinishFn P)
  projection_type_url : String

/-- Runs a projector's fold handler: its failure, or its panic, as the fold's
cause. -/
def fold_handler [AngzarrProto] (handler : MutCall P HandlerError Unit) :
    MutCall P (Option pb.Diagnostic) Unit :=
  let (projection, call) := handler
  match call.catch_unwind with
  | .ok (.ok ()) => (projection, .ok ())
  | .ok (.error (.Coded coded)) => (projection, .err (some coded.diagnostic))
  | .ok (.error (.Other _)) => (projection, .err none)
  | .error () =>
    (projection, .err (some { code := AngzarrProto.as_str_name .HandlerPanicked, args := ∅ }))

namespace ProjectorDispatch

/-- An empty projector table over a fresh-projection factory. -/
def new (factory : FactoryFn P) : ProjectorDispatch P :=
  { factory, domains := none, handlers := ∅, fold := none, finish := none
    projection_type_url := "" }

def with_fold (self : ProjectorDispatch P) (fold : BatchFoldFn P) : ProjectorDispatch P :=
  { self with fold := some fold }

def with_projection_type (self : ProjectorDispatch P) (full_name : String) : ProjectorDispatch P :=
  { self with projection_type_url := declared_type_url full_name }

def for_domains (self : ProjectorDispatch P) (domains : List String) : ProjectorDispatch P :=
  { self with domains := some (.ofList domains) }

def on_event (self : ProjectorDispatch P) (full_name : String) (thunk : EventFn P) :
    ProjectorDispatch P :=
  { self with handlers := self.handlers.insert full_name thunk }

/-- The source's `finish`, which the field is named for. -/
def with_finish (self : ProjectorDispatch P) (thunk : FinishFn P) : ProjectorDispatch P :=
  { self with finish := some thunk }

/-- Whether the projector reads a run of this cover's domain. -/
def consumed (self : ProjectorDispatch P) (cover : pb.Cover) : Bool :=
  match self.domains with
  | some set => set.contains cover.domain
  | none => true

variable [AngzarrProto]

/-- One pass of `dispatch`'s page loop. -/
def fold_event (self : ProjectorDispatch P) (cover : pb.Cover) (projection : P)
    (page : pb.EventPage) : MutCall P CodedError Unit :=
  match page_event page with
  | none => (projection, .ok ())
  | some event_any =>
    match self.handlers[type_name_from_url event_any.type_url]? with
    | none => (projection, .ok ())
    | some thunk =>
      let ctx := { cover := some cover, sequence := page.sequence, event_meta := page.event_meta }
      (fold_handler (thunk projection event_any ctx)).map_err fun cause =>
        page_fold_error .Persisted page self.projection_type_url cause

/-- `dispatch` up to its finish step: the run folded into a projection. -/
def fold_run (self : ProjectorDispatch P) (events : pb.EventBook) (cover : pb.Cover)
    (projection : P) : MutCall P CodedError Unit :=
  match self.consumed cover, self.fold with
  | true, some fold =>
    if events.pages.isEmpty then (projection, .ok ())
    -- The batched fold is called as it is: nothing here answers its panic.
    else (fold projection events.pages cover).map_err fun failure =>
      fold_error .Persisted events.pages failure self.projection_type_url
  | true, none => for_each (self.fold_event cover) projection events.pages
  | false, _ => (projection, .ok ())

/-- `dispatch`'s finish step, on the folded projection. -/
def answer (self : ProjectorDispatch P) (projection : P) (events : pb.EventBook) :
    Outcome CodedError hpb.ProjectResponse :=
  match self.finish with
  | some finish =>
    (call_handler (finish projection events).2).map fun payload => { projection := some payload }
  | none => .ok { projection := none }

/-- `ProjectorService.Project`. -/
def dispatch (self : ProjectorDispatch P) (req : hpb.ProjectRequest) :
    Outcome CodedError hpb.ProjectResponse := do
  let events := req.events.getD .default
  let cover := events.cover.getD .default
  -- Nothing guards the factory's call either.
  let projection ← (self.factory ()).map_err Empty.elim
  let (projection, ()) ← (self.fold_run events cover projection).owned
  self.answer projection events

/-- The finish step answers: `call_handler` lets no panic through. -/
theorem answer_ne_panic (self : ProjectorDispatch P) (projection : P) (events : pb.EventBook) :
    self.answer projection events ≠ .panic := by
  unfold answer
  cases hfinish : self.finish with
  | none => simp
  | some finish =>
    cases hcall : call_handler (finish projection events).2 with
    | ok payload => simp [hcall]
    | err error => simp [hcall]
    | panic => exact absurd hcall (call_handler_ne_panic _)

end ProjectorDispatch

end angzarr_router.projector
