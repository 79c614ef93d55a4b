import AngzarrRouter.Message
import AngzarrRouter.Projector

open calls
open angzarr_router angzarr_router.error angzarr_router.rebuild angzarr_router.domain
open angzarr_router.projector

namespace angzarr_router_conformance

/-! The fixture's messages (`test.counter`). -/

namespace counter

structure Increased where
deriving Inhabited, DecidableEq

structure IncreaseBy where
  n : UInt32
deriving Inhabited, DecidableEq

structure ValueNotPositive where
  n : UInt32
deriving Inhabited, DecidableEq

structure CounterState where
  count : UInt32
deriving Inhabited, DecidableEq

structure CounterProjectorState where
  count : UInt32
deriving Inhabited, DecidableEq

instance : Name Increased := ⟨"test.counter.Increased"⟩
instance : Name IncreaseBy := ⟨"test.counter.IncreaseBy"⟩
instance : Name ValueNotPositive := ⟨"test.counter.ValueNotPositive"⟩
instance : Name CounterState := ⟨"test.counter.CounterState"⟩
instance : Name CounterProjectorState := ⟨"test.counter.CounterProjectorState"⟩

end counter

open counter

/-- A message packed under the canonical bare prefix. -/
def any_of {M : Type} [Name M] [Message M] (message : M) : Any :=
  { type_url := type_url (Name.full_name M), value := Message.encode_to_vec message }

theorem type_name_any_of {M : Type} [Name M] [Message M] (message : M)
    (hname : '/' ∉ (Name.full_name M).toList) :
    type_name_from_url (any_of message).type_url = Name.full_name M :=
  type_name_of_type_url hname

/-- `a += 1` on `u32`. -/
def u32_add_one [BuildProfile] {ε : Type} (a : UInt32) : Outcome ε UInt32 :=
  if BuildProfile.overflow_checks && decide (UInt32.size ≤ a.toNat + 1) then .panic
  else .ok (a + 1)

/-- `state.count += 1`. -/
def counter.CounterState.increase [BuildProfile] {ε : Type} (state : CounterState) :
    MutCall CounterState ε Unit :=
  match u32_add_one state.count with
  | .ok count => ({ count }, .ok ())
  | .err error => (state, .err error)
  | .panic => (state, .panic)

section

variable [BuildProfile] [Message Increased] [Message CounterState]

def increased_any : Any := any_of ({} : Increased)

/-- Decodes the payload, so that a corrupt persisted event fails the fold. -/
def counter_rebuilder : Rebuilder CounterState :=
  Rebuilder.of_message.apply "test.counter.Increased" fun state event =>
    match (Message.decode event.value : Except String Increased) with
    | .error error => (state, .err (.Other error))
    | .ok _ => state.increase

/-- `IncreaseBy`'s typed refusal. -/
def value_not_positive [AngzarrProto] [Message ValueNotPositive] (n : UInt32) : CodedError :=
  .refused .InvalidArgument (any_of ({ n } : ValueNotPositive))

/-- The counter: `n > 0` emits `n` `Increased`; 0 is refused. What its handler
records of what it observed is the harness's own. -/
def counter_aggregate [AngzarrProto] [Message IncreaseBy] [Message ValueNotPositive] :
    DomainDispatch CounterState :=
  ((DomainDispatch.new counter_rebuilder).on_command "test.counter.IncreaseBy" fun any _ _ =>
    match (Message.decode any.value : Except String IncreaseBy) with
    | .error error => .err (.Other ("decode IncreaseBy: " ++ error))
    | .ok cmd =>
      if cmd.n = 0 then .err (.Coded (value_not_positive cmd.n))
      else .ok (.of (List.replicate cmd.n.toNat increased_any))).on_command "test.counter.FailHard"
    fun _ _ _ => .err (.Other "hard failure")

/-- The projection the counter's projector folds events into. -/
structure ProjectorState where
  count : UInt32
deriving Inhabited, DecidableEq

/-- Folds each `Increased` into a running count, over `domains`, and finishes
with that count. -/
def counter_projector [Message CounterProjectorState] (domains : List String) :
    ProjectorDispatch ProjectorState :=
  (((ProjectorDispatch.new fun _ => .ok default).for_domains domains).on_event "test.counter.Increased"
    fun state event _ =>
      match (Message.decode event.value : Except String Increased) with
      | .error error => (state, .err (.Other ("decode Increased: " ++ error)))
      | .ok _ =>
        match u32_add_one state.count with
        | .ok count => ({ count }, .ok ())
        | .err error => (state, .err error)
        | .panic => (state, .panic)).with_finish fun state _ =>
    (state, .ok (any_of ({ count := state.count } : CounterProjectorState)))

/-- The ledger's rebuilder: each `Increased` counts, whatever its payload. -/
def ledger_rebuilder : Rebuilder CounterState :=
  Rebuilder.of_message.apply_with_context "test.counter.Increased" fun state _ _ =>
    state.increase

/-- The ledger: a command emits one `Increased`; the only fact, `Increased`, is
recorded as received, and flagged by the count it brings the ledger to. -/
def ledger_aggregate : DomainDispatch CounterState :=
  ((DomainDispatch.new ledger_rebuilder).on_command "test.counter.IncreaseBy" fun _ _ _ =>
    .ok (.of [increased_any])).on_fact "test.counter.Increased" fun fact state _ =>
      match u32_add_one state.count with
      | .ok count => .ok (.of [fact, any_of ({ count } : CounterState)])
      | .err error => .err error
      | .panic => .panic

end

end angzarr_router_conformance
