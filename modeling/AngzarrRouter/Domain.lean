import AngzarrRouter.Rebuild

open calls
open angzarr_router.error angzarr_router.context angzarr_router.rebuild

namespace angzarr_router.domain

variable {S : Type}

/-- What every command and fact handler returns: events, applied in order, and
optionally a continuation run on the state with them folded in, which returns
an `Emit` of its own. Every chain of continuations it can be driven through is
finite: a decision ends. -/
inductive Emit (S : Type) : Type where
  | mk (events : List Any) (next : Option (S → CommandContext → Outcome HandlerError (Emit S)))

/-- A continuation step. -/
abbrev StepFn (S : Type) : Type := S → CommandContext → Outcome HandlerError (Emit S)

/-- Handles one command, or records one fact, against the rebuilt state. -/
abbrev HandlerFn (S : Type) : Type := Any → S → CommandContext → Outcome HandlerError (Emit S)

/-- Whether an `Emit` continues. -/
inductive Continues where
  | Nowhere
  | Somewhere
deriving DecidableEq, Repr

namespace Emit

/-- This step's own events, in order. -/
def events : Emit S → List Any
  | mk events _ => events

def next : Emit S → Option (StepFn S)
  | mk _ next => next

/-- These events and no continuation. -/
def of (events : List Any) : Emit S := mk events none

/-- A decision that records nothing. -/
def none : Emit S := of []

def continues (self : Emit S) : Continues :=
  match self.next with
  | some _ => .Somewhere
  | .none => .Nowhere

-- `push` wraps a continuation without running it: what it makes of the answer
-- a step gives at run time is `push_answer`, so the recursion follows the tree.
mutual

/-- `step` after this emit's continuation, if it has one, else as it. -/
def push (step : StepFn S) : Emit S → Emit S
  | mk events next => mk events (some (push_next step next))

def push_next (step : StepFn S) : Option (StepFn S) → StepFn S
  | .none => step
  | some first => fun state ctx => push_answer step (first state ctx)

def push_answer (step : StepFn S) : Outcome HandlerError (Emit S) → Outcome HandlerError (Emit S)
  | .ok emit => .ok (push step emit)
  | .err error => .err error
  | .panic => .panic

end

/-- Run `step` on the state once these events, and any continuation already
added, are folded in. -/
def then_step (self : Emit S) (step : StepFn S) : Emit S := self.push step

/-- A step's answer is pushed onto as `Result::map` does. -/
theorem push_answer_eq_map (step : StepFn S) (answer : Outcome HandlerError (Emit S)) :
    push_answer step answer = answer.map (push step) := by
  cases answer <;> rfl

/-- Induction over the continuations an `Emit` can be driven through. -/
@[elab_as_elim, induction_eliminator]
theorem continuationInduction {motive : Emit S → Prop} (last : ∀ events, motive (mk events .none))
    (step : ∀ events (first : StepFn S),
      (∀ state ctx emit, first state ctx = .ok emit → motive emit) → motive (mk events (some first)))
    (emit : Emit S) : motive emit :=
  @Emit.rec S motive (fun next => ∀ events, motive (mk events next))
    (fun answer => ∀ emit, answer = .ok emit → motive emit)
    (fun events _ hnext => hnext events)
    last
    (fun first hfirst events => step events first fun state ctx emit hanswer =>
      hfirst state ctx emit hanswer)
    (fun _ hemit _ hanswer => Outcome.ok.inj hanswer ▸ hemit)
    (fun _ _ hanswer => by cases hanswer)
    (fun _ hanswer => by cases hanswer)
    emit

end Emit

/-- Why a step is not idempotent on its own result. -/
inductive NotIdempotent where
  | Failed (error : CodedError)
  | EmittedAgain (events : List Any)
  | ContinuedAgain
deriving DecidableEq

/-- The input's kind, by its book's body arm, and the handler that runs it. -/
inductive Dispatched (S : Type) where
  | Command (thunk : HandlerFn S)
  | Fact (thunk : HandlerFn S)

/-- The dispatch table for one domain: an aggregate or a process manager. -/
structure DomainDispatch (S : Type) where
  rebuilder : Rebuilder S
  handlers : Table (HandlerFn S)
  facts : Table (HandlerFn S)
  rules_version : String

namespace DomainDispatch

/-- An empty table over a rebuilder. -/
def new (rebuilder : Rebuilder S) : DomainDispatch S :=
  { rebuilder, handlers := ∅, facts := ∅, rules_version := "" }

def with_rules_version (self : DomainDispatch S) (rules_version : String) : DomainDispatch S :=
  { self with rules_version }

def on_command (self : DomainDispatch S) (full_name : String) (thunk : HandlerFn S) :
    DomainDispatch S :=
  { self with handlers := self.handlers.insert full_name thunk }

def on_fact (self : DomainDispatch S) (full_name : String) (thunk : HandlerFn S) :
    DomainDispatch S :=
  { self with facts := self.facts.insert full_name thunk }

section

variable [AngzarrProto]

/-- The handler the input's arm and payload type pick, with the payload. A page
with no arm or payload is a command of no type. -/
def route (self : DomainDispatch S) (page : Option pb.CommandPage) (untyped : Any) :
    Outcome CodedError (Dispatched S × Any) :=
  match page.bind (·.body) with
  | some (.Fact fact) =>
    let any := fact.payload.getD untyped
    match self.facts[type_name_from_url any.type_url]? with
    | some thunk => .ok (.Fact thunk, any)
    | none => .err (.unknown_type .NoFactHandler any.type_url)
  | _ =>
    let any := (page.bind command_payload).getD untyped
    match self.handlers[type_name_from_url any.type_url]? with
    | some thunk => .ok (.Command thunk, any)
    | none => .err (.unknown_type .UnknownCommandType any.type_url)

variable [BuildProfile]

-- `decide`'s loop. Its body calls the step with the state its own fold left, so
-- the recursion is over what the step answers; `first` is where the loop
-- numbers from, `ctx.next_sequence`.
mutual

/-- From the top of the loop: this emit's events are folded in, seen as they
will be persisted, and answered, before its continuation runs. -/
def decide_loop (self : DomainDispatch S) (ctx : CommandContext) (cover : Option pb.Cover)
    (event_meta : pb.EventMeta) (first : UInt64) :
    Emit S → List Any → S → MutCall S CodedError (List Any)
  | .mk events next, answered, state =>
    match u64_add first answered.length with
    | .ok start =>
      (self.rebuilder.apply_emitted state events cover start event_meta).andThen fun state _ =>
        self.decide_next ctx cover event_meta first next (answered ++ events) state
    | .err error => (state, .err error)
    | .panic => (state, .panic)

/-- From after the fold: the decision's end, or the next step's run. -/
def decide_next (self : DomainDispatch S) (ctx : CommandContext) (cover : Option pb.Cover)
    (event_meta : pb.EventMeta) (first : UInt64) :
    Option (StepFn S) → List Any → S → MutCall S CodedError (List Any)
  | none, answered, state => (state, .ok answered)
  | some step, answered, state =>
    self.decide_answer ctx cover event_meta first (step state ctx) answered state

/-- From a handler's or a step's answer, as `call_handler` maps it. -/
def decide_answer (self : DomainDispatch S) (ctx : CommandContext) (cover : Option pb.Cover)
    (event_meta : pb.EventMeta) (first : UInt64) :
    Outcome HandlerError (Emit S) → List Any → S → MutCall S CodedError (List Any)
  | .ok emit, answered, state => self.decide_loop ctx cover event_meta first emit answered state
  | .err error, _, state => (state, .err (map_handler_error error))
  | .panic, _, state => (state, .err .panicked)

end

/-- Runs `thunk` on `any` and its `Emit` to its end, as one decision: every
step's events, in order, the state left with all of them folded in. -/
def decide (self : DomainDispatch S) (thunk : HandlerFn S) (any : Any) (state : S)
    (ctx : CommandContext) (cover : Option pb.Cover) : MutCall S CodedError (List Any) :=
  let event_meta := ctx.event_meta self.rules_version
  self.decide_answer ctx cover event_meta ctx.next_sequence (thunk any state ctx) [] state

/-- The cover a decision folds its own events under: its history's, else its
input's. -/
def decision_cover (req : hpb.HandleRequest) : Option pb.Cover :=
  (req.history.bind (·.cover)).or (command_context req).cover

/-- `CommandHandlerService.Handle`. -/
def dispatch (self : DomainDispatch S) (req : hpb.HandleRequest) :
    Outcome CodedError hpb.HandleResponse := do
  let page := req.input.bind (·.page)
  let (dispatched, any) ← self.route page .default
  let (state, _) ← self.rebuilder.rebuild req.history
  let ctx := command_context req
  let cover := decision_cover req
  let (state, events) ← match dispatched with
    | .Command thunk => (self.decide thunk any state ctx cover).owned
    | .Fact thunk => (self.decide thunk any state ctx cover).owned.map_err .as_fact_failure
  -- Nothing stands between the codec's `encode` and the host here.
  let state ← (self.rebuilder.encode_state state).map_err Empty.elim
  .ok { events, state, rules_version := self.rules_version }

/-- The client library's step-idempotence check: runs `step` on a state, folds
its own events into a copy, and runs it again there. -/
def check_step_idempotent (self : DomainDispatch S) (state : S) (ctx : CommandContext)
    (step : StepFn S) : Outcome NotIdempotent Unit := do
  let first ← (call_handler (step state ctx)).map_err .Failed
  let event_meta := ctx.event_meta self.rules_version
  let (after, ()) ← ((self.rebuilder.apply_emitted state first.events ctx.cover ctx.next_sequence
    event_meta).map_err .Failed).owned
  let again ← (call_handler (step after ctx)).map_err .Failed
  match again.events.isEmpty, again.continues with
  | false, _ => .err (.EmittedAgain again.events)
  | true, .Somewhere => .err .ContinuedAgain
  | true, .Nowhere => .ok ()

/-- What `decide_answer` makes of an answer is what `call_handler` does. -/
theorem decide_answer_eq_call_handler (self : DomainDispatch S) (ctx : CommandContext)
    (cover : Option pb.Cover) (event_meta : pb.EventMeta) (first : UInt64)
    (answer : Outcome HandlerError (Emit S)) (answered : List Any) (state : S) :
    self.decide_answer ctx cover event_meta first answer answered state =
      MutCall.andThen (state, call_handler answer)
        fun state emit => self.decide_loop ctx cover event_meta first emit answered state := by
  cases answer <;> rfl

end

end DomainDispatch

end angzarr_router.domain
