import AngzarrRouter.Conformance.Counting
import AngzarrRouter.Conformance.OrderWire

open calls calls.MutCall
open angzarr_router angzarr_router.error angzarr_router.context angzarr_router.rebuild
open angzarr_router.domain

namespace angzarr_router_conformance

open orders.v1

/-- What an event says of an order. -/
inductive OrderEvent where
  | ItemAdded (item : String)
  | ItemDelivered (item : String)
  | OrderNoteAdded (note : String)
deriving DecidableEq, Repr

namespace OrderEvent

/-- What it does to the order. -/
def act (state : OrderState) : OrderEvent → OrderState
  | ItemAdded item => { state with items := state.items.insert item (state.items[item]?.getD 0 + 1) }
  | ItemDelivered item => { state with delivered := state.delivered ++ [item] }
  | OrderNoteAdded note => { state with notes := note }

def delivered? : OrderEvent → Option String
  | ItemDelivered item => some item
  | _ => none

def note? : OrderEvent → Option String
  | OrderNoteAdded note => some note
  | _ => none

/-- An order after events holds each item as often as they add it. -/
theorem items_of_acts (events : List OrderEvent) (state : OrderState) (item : String) :
    (events.foldl act state).items[item]? =
      if events.count (.ItemAdded item) = 0 then state.items[item]?
      else some (state.items[item]?.getD 0 + UInt32.ofNat (events.count (.ItemAdded item))) := by
  induction events generalizing state with
  | nil => simp
  | cons event rest ih =>
    rw [List.foldl_cons, ih, List.count_cons]
    by_cases hadds : event = .ItemAdded item
    · subst hadds
      simp only [act, Std.ExtTreeMap.getElem?_insert_self, Option.getD_some, beq_self_eq_true, if_true,
        Nat.succ_ne_zero, if_false]
      split
      · rename_i hnone
        rw [hnone]
        rfl
      · rw [ofNat_succ_add]
    · have hother : (event == OrderEvent.ItemAdded item) = false := by simpa using hadds
      have hkeeps : (act state event).items[item]? = state.items[item]? := by
        cases event with
        | ItemAdded other =>
          have hapart : other ≠ item := fun hsame => hadds (hsame ▸ rfl)
          simp [act, Std.ExtTreeMap.getElem?_insert, hapart]
        | ItemDelivered | OrderNoteAdded => rfl
      simp [hother, hkeeps]

/-- It has delivered what they deliver, in their order. -/
theorem delivered_of_acts (events : List OrderEvent) (state : OrderState) :
    (events.foldl act state).delivered = state.delivered ++ events.filterMap delivered? := by
  induction events generalizing state with
  | nil => exact (List.append_nil _).symm
  | cons event rest ih =>
    rw [List.foldl_cons, ih]
    cases event with
    | ItemDelivered item => simp [act, delivered?]
    | ItemAdded | OrderNoteAdded => rfl

/-- And its notes are the last of theirs. -/
theorem notes_of_acts (events : List OrderEvent) (state : OrderState) :
    (events.foldl act state).notes = (events.filterMap note?).getLast?.getD state.notes := by
  induction events generalizing state with
  | nil => rfl
  | cons event rest ih =>
    rw [List.foldl_cons, ih]
    cases event with
    | OrderNoteAdded note => simp [act, note?, List.getLast?_cons]
    | ItemAdded | ItemDelivered => rfl

end OrderEvent

section

variable [Message ItemAdded] [Message ItemDelivered] [Message OrderNoteAdded]

/-- An event read as an order's, when it decodes as one. -/
def order_event (event : Any) : Option OrderEvent :=
  let name := type_name_from_url event.type_url
  if name = "orders.v1.ItemAdded" then
    (Message.decode event.value : Except String ItemAdded).toOption.map fun added =>
      .ItemAdded added.item
  else if name = "orders.v1.ItemDelivered" then
    (Message.decode event.value : Except String ItemDelivered).toOption.map fun delivered =>
      .ItemDelivered delivered.item
  else if name = "orders.v1.OrderNoteAdded" then
    (Message.decode event.value : Except String OrderNoteAdded).toOption.map fun added =>
      .OrderNoteAdded added.note
  else none

def order_page (page : pb.EventPage) : Option OrderEvent := (page_event page).bind order_event

/-- What a log says of an order, in order. -/
def ordered (log : List pb.EventPage) : List OrderEvent := log.filterMap order_page

variable [AngzarrProto] [BuildProfile] [Message OrderState] {state after : OrderState}

omit [Message ItemAdded] [Message ItemDelivered] [Message OrderNoteAdded] [AngzarrProto]
  [Message OrderState] in
/-- An addition that succeeds is what its event says. -/
theorem add_eq_ok {ε : Type} {item : String}
    (hadd : (state.add item : MutCall OrderState ε Unit) = (after, .ok ())) :
    after = (OrderEvent.ItemAdded item).act state := by
  unfold OrderState.add at hadd
  by_cases hroom : U32Room (state.items[item]?.getD 0) 1
  · rw [u32_add_one_of_room hroom] at hadd
    exact (Prod.mk.inj hadd).1.symm
  · rw [u32_add_one_of_not_room hroom] at hadd
    cases hadd

/-- A page that folds is what its event says, and no rotten item. -/
theorem order_visit {cover : Option pb.Cover} {page : pb.EventPage}
    (hvisit : order_rebuilder.visit cover state page = (after, .ok ())) :
    after = (order_page page).elim state (·.act state) ∧
      order_page page ≠ some (.ItemAdded ROTTEN_ITEM) := by
  obtain ⟨hnone, rfl⟩ | ⟨event, thunk, hevent, hthunk, hran⟩ := Rebuilder.visit_eq_ok hvisit
  · have hother : order_page page = none := by
      cases hevent : page_event page with
      | none => rw [order_page, hevent, Option.bind_none]
      | some event =>
        rw [Rebuilder.applier_of, hevent, Option.bind_some, Option.map_eq_none_iff] at hnone
        simp only [order_rebuilder, Rebuilder.getElem?_apply] at hnone
        rw [order_page, hevent, Option.bind_some, order_event]
        split at hnone
        · cases hnone
        split at hnone
        · cases hnone
        split at hnone
        · cases hnone
        · simp [*]
    rw [hother]
    exact ⟨rfl, (Option.some_ne_none _).symm⟩
  · rw [order_page, hevent, Option.bind_some, order_event]
    simp only [order_rebuilder, Rebuilder.getElem?_apply] at hthunk
    split at hthunk
    · rename_i hname
      obtain rfl := Option.some.inj hthunk
      dsimp only at hran
      rw [hname]
      cases hdecode : (Message.decode event.value : Except String OrderNoteAdded) with
      | error error =>
        rw [hdecode] at hran
        cases hran
      | ok added =>
        rw [hdecode] at hran
        obtain ⟨rfl, _⟩ := Prod.mk.inj hran
        simp [Except.toOption, OrderEvent.act]
    split at hthunk
    · rename_i hname
      obtain rfl := Option.some.inj hthunk
      dsimp only at hran
      rw [hname]
      cases hdecode : (Message.decode event.value : Except String ItemDelivered) with
      | error error =>
        rw [hdecode] at hran
        cases hran
      | ok delivered =>
        rw [hdecode] at hran
        obtain ⟨rfl, _⟩ := Prod.mk.inj hran
        simp [Except.toOption, OrderEvent.act]
    split at hthunk
    · rename_i hname
      obtain rfl := Option.some.inj hthunk
      dsimp only at hran
      rw [hname]
      cases hdecode : (Message.decode event.value : Except String ItemAdded) with
      | error error =>
        rw [hdecode] at hran
        cases hran
      | ok added =>
        rw [hdecode] at hran
        dsimp only at hran
        split at hran
        · cases hran
        · rename_i hfresh
          obtain rfl := add_eq_ok hran
          simp [Except.toOption, hfresh]
    · cases hthunk

/-- Pages that fold leave the order as their events make it, none of them the
rotten item's. -/
theorem order_replay {cover : Option pb.Cover} {log : List pb.EventPage}
    (hreplay : order_rebuilder.replay cover state log = (after, .ok ())) :
    after = (ordered log).foldl OrderEvent.act state ∧ .ItemAdded ROTTEN_ITEM ∉ ordered log := by
  induction log generalizing state with
  | nil =>
    obtain ⟨rfl, _⟩ := Prod.mk.inj hreplay
    exact ⟨rfl, List.not_mem_nil⟩
  | cons page rest ih =>
    obtain ⟨next, _, hvisit, hrest⟩ := andThen_eq_ok_iff.mp hreplay
    obtain ⟨rfl, hfresh⟩ := order_visit hvisit
    obtain ⟨hlast, hnone⟩ := ih hrest
    rw [ordered, List.filterMap_cons]
    cases hpage : order_page page with
    | none =>
      rw [hpage] at hlast
      exact ⟨hlast, hnone⟩
    | some event =>
      rw [hpage] at hlast hfresh
      refine ⟨hlast, fun hmem => ?_⟩
      obtain hsame | hmem := List.mem_cons.mp hmem
      · exact hfresh (congrArg some hsame.symm)
      · exact hnone hmem

omit [AngzarrProto] [BuildProfile] [Message OrderState] in
theorem order_event_added (item : String) :
    order_event (any_of ({ item } : ItemAdded)) = some (.ItemAdded item) := by
  have hname : type_name_from_url (any_of ({ item } : ItemAdded)).type_url = "orders.v1.ItemAdded" :=
    type_name_any_of _ (by decide)
  have hvalue : (Message.decode (any_of ({ item } : ItemAdded)).value : Except String ItemAdded) =
      .ok { item } := Message.decode_encode_to_vec _
  rw [order_event, hname]
  simp [hvalue, Except.toOption]

omit [AngzarrProto] [BuildProfile] [Message OrderState] in
theorem order_event_note (text : String) : order_event (note text) = some (.OrderNoteAdded text) := by
  have hname : type_name_from_url (note text).type_url = "orders.v1.OrderNoteAdded" :=
    type_name_any_of _ (by decide)
  have hvalue : (Message.decode (note text).value : Except String OrderNoteAdded) =
      .ok { note := text } := Message.decode_encode_to_vec _
  rw [order_event, hname]
  simp [hvalue, Except.toOption]

/-- What an event takes an order to. -/
theorem order_takes {event : Any} {said : OrderEvent} (hreads : order_event event = some said)
    (htakes : Takes order_rebuilder state event after) : after = said.act state := by
  obtain ⟨cover, page, hevent, hvisit⟩ := htakes
  have hpage : order_page page = some said := by rw [order_page, hevent, Option.bind_some, hreads]
  rw [(order_visit hvisit).1, hpage]
  rfl

end

/-- When a note may be recorded on an order: what it says is so. -/
def OrderBehaviour.may_note (self : OrderBehaviour) (state : OrderState) (note : String) : Prop :=
  (self.returns = .ThenRestockNote ∧ ∃ item, note = "restock " ++ item ∧
    state.items[item]? = some 1 ∧ state.notes ≠ note) ∨
  (∃ n, self.returns = .ThenChain n ∧ ∃ k < n.toNat, note = "note " ++ toString (k + 1) ∧
    (k = 0 ∨ state.notes = "note " ++ toString k)) ∨
  (self.fact = .ThenDeliveredNote ∧ ∃ item, note = "delivered " ++ item ∧
    state.delivered.getLast? = some item)

/-- The same, of the events that made the order. -/
def OrderBehaviour.note_holds (self : OrderBehaviour) (before : List OrderEvent) (note : String) : Prop :=
  (self.returns = .ThenRestockNote ∧ ∃ item, note = "restock " ++ item ∧
    UInt32.ofNat (before.count (.ItemAdded item)) = 1 ∧
    (before.filterMap OrderEvent.note?).getLast? ≠ some note) ∨
  (∃ n, self.returns = .ThenChain n ∧ ∃ k < n.toNat, note = "note " ++ toString (k + 1) ∧
    (k = 0 ∨ (before.filterMap OrderEvent.note?).getLast? = some ("note " ++ toString k))) ∨
  (self.fact = .ThenDeliveredNote ∧ ∃ item, note = "delivered " ++ item ∧
    (before.filterMap OrderEvent.delivered?).getLast? = some item)

/-- An order of no events is fresh, so that one they make tells of them alone. -/
theorem OrderBehaviour.note_holds_of_may_note {behaviour : OrderBehaviour} {before : List OrderEvent}
    {note : String} (hmay : behaviour.may_note (before.foldl OrderEvent.act default) note) :
    behaviour.note_holds before note := by
  have hnotes : (before.foldl OrderEvent.act default).notes =
      (before.filterMap OrderEvent.note?).getLast?.getD "" := OrderEvent.notes_of_acts before default
  have hdelivered : (before.foldl OrderEvent.act default).delivered =
      before.filterMap OrderEvent.delivered? := OrderEvent.delivered_of_acts before default
  obtain ⟨hreturns, item, rfl, hone, hfresh⟩ | ⟨n, hreturns, k, hk, rfl, hsteps⟩ |
    ⟨hfact, item, rfl, hlast⟩ := hmay
  · refine .inl ⟨hreturns, item, rfl, ?_, fun hlast => hfresh ?_⟩
    · rw [OrderEvent.items_of_acts] at hone
      split at hone
      · cases hone
      · exact (UInt32.zero_add _).symm.trans (Option.some.inj hone)
    · rw [hnotes, hlast, Option.getD_some]
  · refine .inr (.inl ⟨n, hreturns, k, hk, rfl, hsteps.imp_right fun hset => ?_⟩)
    rw [hnotes] at hset
    cases hlast : (before.filterMap OrderEvent.note?).getLast? with
    | none =>
      rw [hlast, Option.getD_none] at hset
      simpa using congrArg String.toList hset
    | some last =>
      rw [hlast, Option.getD_some] at hset
      rw [hset]
  · rw [hdelivered] at hlast
    exact .inr (.inr ⟨hfact, item, rfl, hlast⟩)

section

variable [AngzarrProto] [BuildProfile] [Message ItemAdded] [Message ItemDelivered]
  [Message OrderNoteAdded] [Message OrderState] {state after : OrderState} {behaviour : OrderBehaviour}

/-- All that an order records: items added, deliveries, and notes that hold where
they come to stand. -/
def order_rules (behaviour : OrderBehaviour) : Discipline OrderState where
  good _ := True
  legal state event := (∃ item, event = any_of ({ item } : ItemAdded)) ∨
    (∃ item, order_event event = some (.ItemDelivered item)) ∨
    ∃ text, event = note text ∧ behaviour.may_note state text

variable {ctx : CommandContext}

/-- A restock step keeps to the rules. -/
theorem restock_emits {item : String} {answer : Emit OrderState}
    (hreturns : behaviour.returns = .ThenRestockNote) (hran : restock_step item state ctx = .ok answer) :
    (order_rules behaviour).Emits order_rebuilder ctx (fun _ => True) state answer := by
  unfold restock_step at hran
  dsimp only at hran
  split at hran
  · rename_i hwanted
    obtain rfl := Outcome.ok.inj hran
    exact .of_one (.inr (.inr ⟨_, rfl, .inl ⟨hreturns, item, rfl, hwanted⟩⟩)) fun _ _ _ => trivial
  · obtain rfl := Outcome.ok.inj hran
    exact .none fun _ => trivial

/-- A chain's notes come one after another, each where the one before it has been
set. -/
theorem chain_emits {n : UInt32} (hreturns : behaviour.returns = .ThenChain n) {m : Nat}
    (hm : m ≤ n.toNat) :
    (order_rules behaviour).Emits order_rebuilder ctx
      (fun after => m = 0 ∨ after.notes = "note " ++ toString m) state
      ((List.range' 1 m).foldl (fun emit k => emit.then_step (noting k)) .none) := by
  induction m with
  | zero => exact .none fun _ => .inl rfl
  | succ m ih =>
    rw [List.range'_1_concat, List.foldl_append, List.foldl_cons, List.foldl_nil, Nat.add_comm 1 m]
    refine (ih (Nat.le_of_succ_le hm)).then_step fun reached answer _ hreached hran => ?_
    obtain rfl := Outcome.ok.inj hran
    have hmay : behaviour.may_note reached ("note " ++ toString (m + 1)) :=
      .inr (.inl ⟨n, hreturns, m, hm, rfl, hreached⟩)
    refine .of_one (.inr (.inr ⟨_, rfl, hmay⟩)) fun last _ htakes => .inr ?_
    rw [order_takes (order_event_note _) htakes]
    rfl

variable [Message AddItem] [Message ItemOutOfStock]

omit [BuildProfile] [Message ItemAdded] [Message ItemDelivered] [Message OrderNoteAdded]
  [Message OrderState] [Message AddItem] in
theorem fail_ne_ok {α : Type} (fails : AddItemFails) (value : α) :
    (fails.fail : Outcome HandlerError α) ≠ .ok value := by
  cases fails <;> simp [AddItemFails.fail]

omit [Message AddItem] in
/-- So does the answer to an `AddItem`. -/
theorem add_item_emits (item : String) :
    (order_rules behaviour).Emits order_rebuilder ctx (fun _ => True) state
      (add_item_emit item behaviour.returns) := by
  have hadded : (order_rules behaviour).Emits order_rebuilder ctx (fun _ => True) state
      (Emit.of [any_of ({ item } : ItemAdded)]) :=
    .of_one (.inl ⟨item, rfl⟩) fun _ _ _ => trivial
  unfold add_item_emit
  cases hreturns : behaviour.returns with
  | ItemAdded => exact hadded
  | ThenRestockNote =>
    exact hadded.then_step fun reached answer _ _ hran => restock_emits hreturns hran
  | ThenObserve =>
    refine hadded.then_step fun reached answer _ _ hran => ?_
    obtain rfl := Outcome.ok.inj hran
    exact .none fun _ => trivial
  | ThenFails fails =>
    exact hadded.then_step fun reached answer _ _ hran => absurd hran (fail_ne_ok fails answer)
  | ThenChain n =>
    refine hadded.then_step fun reached answer _ _ hran => ?_
    obtain rfl := Outcome.ok.inj hran
    exact (chain_emits hreturns (Nat.le_refl _)).mono fun _ _ _ => trivial

/-- The order keeps its rules. -/
theorem order_rules_kept : (order_rules behaviour).Kept (order_aggregate behaviour) where
  starts := ⟨_, rfl, trivial⟩
  folds _ _ _ := trivial
  commands := by
    intro any thunk state ctx emit hthunk _ hran
    obtain ⟨_, rfl⟩ | hthunk := DomainDispatch.getElem?_on_command hthunk
    · obtain rfl := Outcome.ok.inj hran
      exact .none fun _ => trivial
    obtain ⟨_, rfl⟩ | hnone := DomainDispatch.getElem?_on_command hthunk
    swap
    · cases hnone
    dsimp only at hran
    split at hran
    · cases hran
    · cases hran
    · split at hran
      · exact absurd hran (fail_ne_ok _ emit)
      · obtain rfl := Outcome.ok.inj hran
        exact add_item_emits _
  facts := by
    intro any thunk state ctx emit hthunk _ hran
    obtain ⟨hname, rfl⟩ | hnone := DomainDispatch.getElem?_on_fact hthunk
    swap
    · cases hnone
    dsimp only at hran
    split at hran
    · cases hran
    · cases hran
    · rename_i item hdecode
      have hdelivered : order_event any = some (.ItemDelivered item) := by
        rw [order_event, hname]
        simp [decode_message_eq_ok hdecode, Except.toOption]
      have hrecorded : (order_rules behaviour).Emits order_rebuilder ctx
          (fun after => after.delivered.getLast? = some item) state (Emit.of [any]) := by
        refine .of_one (.inr (.inl ⟨item, hdelivered⟩)) fun after _ htakes => ?_
        rw [order_takes hdelivered htakes]
        exact List.getLast?_concat
      cases hfact : behaviour.fact with
      | Recorded =>
        rw [hfact] at hran
        obtain rfl := Outcome.ok.inj hran
        exact hrecorded.mono fun _ _ _ => trivial
      | ThenDeliveredNote =>
        rw [hfact] at hran
        obtain rfl := Outcome.ok.inj hran
        refine hrecorded.then_step fun after answer _ hlast hran => ?_
        obtain rfl := Outcome.ok.inj hran
        have hmay : behaviour.may_note after ("delivered " ++ item) := .inr (.inr ⟨hfact, item, rfl, hlast⟩)
        exact .of_one (.inr (.inr ⟨_, rfl, hmay⟩)) fun _ _ _ => trivial
      | Fails fails =>
        rw [hfact] at hran
        exact absurd hran (fail_ne_ok fails emit)

/-- An order is what its log says, and its notes were so when they were made. On
every stream a run of the order aggregate reaches, however it behaves, the order
rebuilds to as many of each item as the log adds, to its deliveries in order and
to its last note, and the log adds no rotten item; and wherever a note stands,
the events before it bear it out: a restock note where one of its item has been
added and it is not the last note already, a chain's note right after the one
before it, a delivery's where its item is the last delivered. -/
theorem orders_tell_their_log {cover : pb.Cover} {stream : Stream}
    (hreach : (order_aggregate behaviour).Reachable cover stream) :
    (∃ state info, order_rebuilder.rebuild (some (stream.whole cover)) = .ok (state, info) ∧
      (∀ item, state.items[item]? =
        if (ordered stream.log).count (.ItemAdded item) = 0 then none
        else some (UInt32.ofNat ((ordered stream.log).count (.ItemAdded item)))) ∧
      state.delivered = (ordered stream.log).filterMap OrderEvent.delivered? ∧
      state.notes = ((ordered stream.log).filterMap OrderEvent.note?).getLast?.getD "") ∧
    .ItemAdded ROTTEN_ITEM ∉ ordered stream.log ∧
    ∀ front page back, stream.log = front ++ page :: back → ∃ said, order_page page = some said ∧
      ∀ note, said = .OrderNoteAdded note → behaviour.note_holds (ordered front) note := by
  have hround : RoundTrips (order_aggregate behaviour).rebuilder := Rebuilder.roundTrips_of_message _
  obtain ⟨state, hrecorded⟩ := Discipline.recorded_of_reachable order_rules_kept rfl hround hreach
  obtain ⟨⟨info, hrebuild⟩, _⟩ := hrecorded.rebuilds order_rules_kept rfl
  have htrace := hrecorded.trace rfl
  obtain ⟨hstate, hfresh⟩ := order_replay htrace.for_each_eq
  refine ⟨⟨state, info, hrebuild, fun item => ?_, ?_, ?_⟩, hfresh, fun front page back hlog => ?_⟩
  · rw [hstate, OrderEvent.items_of_acts]
    exact if_congr Iff.rfl rfl (congrArg some (UInt32.zero_add _))
  · rw [hstate, OrderEvent.delivered_of_acts]
    rfl
  · rw [hstate, OrderEvent.notes_of_acts]
    rfl
  · rw [hlog] at htrace
    obtain ⟨before, hfront, hback⟩ := htrace.of_append
    obtain ⟨rfl, _⟩ := order_replay hfront.for_each_eq
    cases hback with
    | cons hpage _ _ =>
      obtain ⟨event, hevent, ⟨item, rfl⟩ | ⟨item, hdelivered⟩ | ⟨text, rfl, hmay⟩⟩ := hpage
      · refine ⟨.ItemAdded item, ?_, fun note hnote => by cases hnote⟩
        rw [order_page, hevent, Option.bind_some, order_event_added]
      · refine ⟨.ItemDelivered item, ?_, fun note hnote => by cases hnote⟩
        rw [order_page, hevent, Option.bind_some, hdelivered]
      · refine ⟨.OrderNoteAdded text, ?_, fun note hnote => ?_⟩
        · rw [order_page, hevent, Option.bind_some, order_event_note]
        · obtain rfl := OrderEvent.OrderNoteAdded.inj hnote
          exact OrderBehaviour.note_holds_of_may_note hmay

end

section

open wire declared

def order.cover : pb.Cover := { domain := "order", root := none, edition := none }

/-- An order aggregate that adds items, and then does as `returns` says. -/
def order.returning (returns : AddItemReturns) : OrderBehaviour :=
  { rules_version := "", fails := none, returns, fact := .Recorded }

/-- An `AddItem` on a fresh order. -/
def order.add (item : String) : hpb.HandleRequest where
  input := some
    { cover := some order.cover
      page := some
        { body := some (.Command { payload := some (any_of ({ item } : AddItem)), handling := none })
          command_id := none
          correlation_id := none } }
  history := none
  recorded_at := none
  causation := none

/-- One tea. -/
def order.tea : OrderState :=
  { items := Std.ExtTreeMap.insert ∅ "tea" 1, delivered := [], notes := "" }

/-- The restock note of a first tea stands where one tea has been added. -/
theorem orders_tell_their_log_tea : ∃ stream : Stream, stream.log.length = 2 ∧
    ∃ front page, stream.log = front ++ [page] ∧
      order_page page = some (.OrderNoteAdded "restock tea") ∧
      (order.returning .ThenRestockNote).note_holds (ordered front) "restock tea" := by
  let req := order.add "tea"
  let resp : hpb.HandleResponse :=
    { events := [any_of ({ item := "tea" } : ItemAdded), note "restock tea"]
      state := some (any_of { order.tea with notes := "restock tea" })
      rules_version := "" }
  let stream : Stream := Stream.empty.record ((command_context req).event_meta "") resp
  have hok : (order_aggregate (order.returning .ThenRestockNote)).dispatch
      (delivered req (Stream.empty.whole order.cover)) = .ok resp := by
    decide +kernel
  have hstep : (order_aggregate (order.returning .ThenRestockNote)).Records order.cover .empty stream :=
    .answered .whole hok
  have hlog : stream.log = stream.log.take 1 ++ stream.log.drop 1 := (List.take_append_drop 1 _).symm
  obtain ⟨said, hsaid, hholds⟩ := (orders_tell_their_log (.single hstep)).2.2 _ _ _ hlog
  have hnote : said = .OrderNoteAdded "restock tea" :=
    Option.some.inj (hsaid.symm.trans (order_event_note "restock tea"))
  subst hnote
  exact ⟨stream, rfl, _, _, hlog, hsaid, hholds _ rfl⟩

end

end angzarr_router_conformance
