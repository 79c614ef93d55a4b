import AngzarrRouter.Conformance

open calls
open angzarr_router angzarr_router.error angzarr_router.context angzarr_router.rebuild
open angzarr_router.domain

namespace angzarr_router_conformance

/-! The handler-contract tier's order vocabulary (`orders.v1`). -/

namespace orders.v1

structure AddItem where
  item : String
deriving Inhabited, DecidableEq

structure ItemAdded where
  item : String
deriving Inhabited, DecidableEq

structure ItemDelivered where
  item : String
deriving Inhabited, DecidableEq

structure OrderNoteAdded where
  note : String
deriving Inhabited, DecidableEq

structure ItemOutOfStock where
  item : String
  on_hand : UInt32
deriving Inhabited, DecidableEq

structure OrderState where
  items : Table UInt32
  delivered : List String
  notes : String
deriving DecidableEq

instance : Inhabited OrderState := ⟨{ items := ∅, delivered := [], notes := "" }⟩

instance : Name AddItem := ⟨"orders.v1.AddItem"⟩
instance : Name ItemAdded := ⟨"orders.v1.ItemAdded"⟩
instance : Name ItemDelivered := ⟨"orders.v1.ItemDelivered"⟩
instance : Name OrderNoteAdded := ⟨"orders.v1.OrderNoteAdded"⟩
instance : Name ItemOutOfStock := ⟨"orders.v1.ItemOutOfStock"⟩
instance : Name OrderState := ⟨"orders.v1.OrderState"⟩

end orders.v1

open orders.v1

/-- How the order aggregate's `AddItem` handler, or a fact handler, fails. -/
inductive AddItemFails where
  | Refuses (item : String) (on_hand : UInt32)
  | Errs (text : String)
  | Panics (text : String)
  | Bug (code : String) (args : List (String × String))
  | Immediate (code : String) (args : List (String × String))
  | BugRetryable (status : RetryableStatus) (code : String) (args : List (String × String))

/-- What the order aggregate's `AddItem` returns beside its `ItemAdded`. What a
step records of what it saw is the harness's own. -/
inductive AddItemReturns where
  | ItemAdded
  | ThenRestockNote
  | ThenObserve
  | ThenFails (fails : AddItemFails)
  | ThenChain (n : UInt32)

/-- What the order aggregate's `ItemDelivered` fact handler returns. -/
inductive FactReturns where
  | Recorded
  | ThenDeliveredNote
  | Fails (fails : AddItemFails)

/-- How the order aggregate is built for a scenario. -/
structure OrderBehaviour where
  rules_version : String
  fails : Option AddItemFails
  returns : AddItemReturns
  fact : FactReturns

/-- The item whose `ItemAdded` the order aggregate's fold refuses to fold. -/
def ROTTEN_ITEM : String := "rotten"

section

variable [BuildProfile] [Message ItemAdded] [Message ItemDelivered] [Message OrderNoteAdded]
  [Message OrderState]

/-- `*state.items.entry(item).or_default() += 1`. -/
def orders.v1.OrderState.add {ε : Type} (state : OrderState) (item : String) :
    MutCall OrderState ε Unit :=
  match u32_add_one (state.items[item]?.getD 0) with
  | .ok count => ({ state with items := state.items.insert item count }, .ok ())
  | .err error => (state, .err error)
  | .panic => (state, .panic)

/-- `ItemAdded` bumps an item, and fails on the rotten one; `ItemDelivered`
records a delivery; `OrderNoteAdded` sets the notes. -/
def order_rebuilder : Rebuilder OrderState :=
  ((Rebuilder.of_message.apply "orders.v1.ItemAdded" fun state event =>
    match (Message.decode event.value : Except String ItemAdded) with
    | .error error => (state, .err (.Other error))
    | .ok { item } =>
      if item = ROTTEN_ITEM then
        (state, .err (.Other ("cannot fold the " ++ ROTTEN_ITEM ++ " item")))
      else state.add item).apply "orders.v1.ItemDelivered" fun state event =>
    match (Message.decode event.value : Except String ItemDelivered) with
    | .error error => (state, .err (.Other error))
    | .ok { item } => ({ state with delivered := state.delivered ++ [item] }, .ok ())).apply
    "orders.v1.OrderNoteAdded" fun state event =>
    match (Message.decode event.value : Except String OrderNoteAdded) with
    | .error error => (state, .err (.Other error))
    | .ok { note } => ({ state with notes := note }, .ok ())

end

section

variable [Message OrderNoteAdded]

/-- An `OrderNoteAdded` of `note`. -/
def note (note : String) : Any := any_of ({ note } : OrderNoteAdded)

/-- `OrderNoteAdded` "restock <item>" while the item's quantity is 1 and no such
note is in the state. -/
def restock_step (item : String) : StepFn OrderState := fun state _ =>
  let wanted := "restock " ++ item
  if state.items[item]? = some 1 ∧ state.notes ≠ wanted then .ok (.of [note wanted]) else .ok .none

/-- A step that records the note of its number. -/
def noting (k : Nat) : StepFn OrderState := fun _ _ => .ok (.of [note ("note " ++ toString k)])

/-- `n` chained steps, each recording one note and continuing to the next. -/
def chain (n : UInt32) : Emit OrderState :=
  (List.range' 1 n.toNat).foldl (fun emit k => emit.then_step (noting k)) .none

variable [AngzarrProto] [Message ItemOutOfStock]

/-- The failure as business code answers it, or its panic. -/
def AddItemFails.fail {α : Type} : AddItemFails → Outcome HandlerError α
  | Refuses item on_hand =>
    .err (.Coded (.refused .FailedPrecondition (any_of ({ item, on_hand } : ItemOutOfStock))))
  | Errs text => .err (.Other text)
  | Panics _ => .panic
  | Bug code args => .err (.Coded (.bug code args))
  | BugRetryable status code args => .err (.Coded (.retryable_bug status code args))
  | Immediate code args => .err (.Coded (.immediate code args))

variable [Message ItemAdded]

/-- `AddItem`'s answer for `item` under `returns`. -/
def add_item_emit (item : String) (returns : AddItemReturns) : Emit OrderState :=
  let added := Emit.of [any_of ({ item } : orders.v1.ItemAdded)]
  match returns with
  | .ItemAdded => added
  | .ThenRestockNote => added.then_step (restock_step item)
  | .ThenObserve => added.then_step fun _ _ => .ok .none
  | .ThenFails fails => added.then_step fun _ _ => fails.fail
  | .ThenChain n => added.then_step fun _ _ => .ok (chain n)

variable [BuildProfile] [Message AddItem] [Message ItemDelivered] [Message OrderState]

/-- The order aggregate behaving as `behaviour`: `AddItem` fails, or answers its
emit; `Acknowledge` answers no events; the fact `ItemDelivered` is recorded as
received, or as the behaviour says. -/
def order_aggregate (behaviour : OrderBehaviour) : DomainDispatch OrderState :=
  ((((DomainDispatch.new order_rebuilder).with_rules_version behaviour.rules_version).on_command
    "orders.v1.AddItem" fun cmd _ _ =>
      match (decode_message cmd.value : Outcome CodedError AddItem) with
      | .err error => .err (.Coded error)
      | .panic => .panic
      | .ok { item } =>
        match behaviour.fails with
        | some fails => fails.fail
        | none => .ok (add_item_emit item behaviour.returns)).on_command "orders.v1.Acknowledge"
    fun _ _ _ => .ok .none).on_fact "orders.v1.ItemDelivered" fun payload _ _ =>
      match (decode_message payload.value : Outcome CodedError ItemDelivered) with
      | .err error => .err (.Coded error)
      | .panic => .panic
      | .ok { item } =>
        let recorded := Emit.of [payload]
        match behaviour.fact with
        | .Recorded => .ok recorded
        | .ThenDeliveredNote => .ok (recorded.then_step fun _ _ => .ok (.of [note ("delivered " ++ item)]))
        | .Fails fails => fails.fail

end

end angzarr_router_conformance
