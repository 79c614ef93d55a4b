import AngzarrRouter.Conformance.OrderLogs
import AngzarrRouter.Domain.Settled

open calls calls.MutCall
open angzarr_router angzarr_router.error angzarr_router.context angzarr_router.rebuild
open angzarr_router.domain

namespace angzarr_router.domain.DomainDispatch

variable {S : Type} [AngzarrProto] [BuildProfile] {self : DomainDispatch S} {ctx : CommandContext}
  {cover : Option pb.Cover} {event_meta : pb.EventMeta} {first : UInt64} {answered : List Any}
  {event : Any} {state after : S}

/-- An event folds as the page it will be on does, wherever that comes to be. -/
theorem apply_emitted_of_one (hfold : self.rebuilder.fold = none) (hroom : U64Room first 1)
    (hvisit : ∀ page, page_event page = some event →
      self.rebuilder.visit cover state page = (after, .ok ())) :
    self.rebuilder.apply_emitted state [event] cover first event_meta = (after, .ok ()) := by
  rw [self.rebuilder.apply_emitted_of_room _ _ _ _ hroom,
    self.rebuilder.apply_pages_eq_ok_iff_of_appliers hfold, Rebuilder.replay, stamped, stamped_nil,
    for_each_cons, hvisit _ rfl, andThen_ok, for_each_nil]

theorem apply_emitted_of_nothing :
    self.rebuilder.apply_emitted state [] cover first event_meta = (state, .ok ()) := by
  rw [self.rebuilder.apply_emitted_of_room _ _ _ _ (U64Room.zero _), stamped_nil,
    Rebuilder.apply_pages_nil]

theorem decide_loop_of_none (hroom : U64Room first answered.length) :
    self.decide_loop ctx cover event_meta first Emit.none answered state = (state, .ok answered) := by
  rw [Emit.none, Emit.of, decide_loop, u64_add_of_room hroom]
  dsimp only
  rw [apply_emitted_of_nothing, andThen_ok, decide_next, List.append_nil]

theorem decide_loop_of_one (hfold : self.rebuilder.fold = none)
    (hroom : U64Room first (answered.length + 1))
    (hvisit : ∀ page, page_event page = some event →
      self.rebuilder.visit cover state page = (after, .ok ())) :
    self.decide_loop ctx cover event_meta first (Emit.of [event]) answered state =
      (after, .ok (answered ++ [event])) := by
  obtain ⟨hbefore, hone⟩ := U64Room.add_iff.mp hroom
  rw [Emit.of, decide_loop, u64_add_of_room hbefore]
  dsimp only
  rw [apply_emitted_of_one hfold hone hvisit, andThen_ok, decide_next]

end angzarr_router.domain.DomainDispatch

namespace angzarr_router_conformance

open orders.v1

section

variable [AngzarrProto] [BuildProfile] [Message ItemAdded] [Message ItemDelivered]
  [Message OrderNoteAdded] [Message OrderState] {cover : Option pb.Cover} {page : pb.EventPage}
  {state : OrderState}

/-- A note folds, whatever the order. -/
theorem visit_note {text : String} (hevent : page_event page = some (note text)) :
    order_rebuilder.visit cover state page = ({ state with notes := text }, .ok ()) := by
  have hname : type_name_from_url (note text).type_url = "orders.v1.OrderNoteAdded" :=
    type_name_any_of _ (by decide)
  have hvalue : (Message.decode (note text).value : Except String OrderNoteAdded) =
      .ok { note := text } := Message.decode_encode_to_vec _
  rw [Rebuilder.visit, Rebuilder.applier_of, hevent, Option.bind_some, hname, order_rebuilder,
    Rebuilder.getElem?_apply, if_pos rfl, Option.map_some]
  simp only [run_applier, hvalue, Outcome.catch_unwind_ok, map_err_ok]

/-- An item folds where there is room for one more, unless it is rotten. -/
theorem visit_added {item : String} (hevent : page_event page = some (any_of ({ item } : ItemAdded)))
    (hfresh : item ≠ ROTTEN_ITEM) (hroom : U32Room (state.items[item]?.getD 0) 1) :
    order_rebuilder.visit cover state page = ((OrderEvent.ItemAdded item).act state, .ok ()) := by
  have hname : type_name_from_url (any_of ({ item } : ItemAdded)).type_url = "orders.v1.ItemAdded" :=
    type_name_any_of _ (by decide)
  have hvalue : (Message.decode (any_of ({ item } : ItemAdded)).value : Except String ItemAdded) =
      .ok { item } := Message.decode_encode_to_vec _
  rw [Rebuilder.visit, Rebuilder.applier_of, hevent, Option.bind_some, hname, order_rebuilder,
    Rebuilder.getElem?_apply, if_neg (by decide), Rebuilder.getElem?_apply, if_neg (by decide),
    Rebuilder.getElem?_apply, if_pos rfl, Option.map_some]
  simp only [run_applier, hvalue, if_neg hfresh, OrderState.add, u32_add_one_of_room hroom,
    Outcome.catch_unwind_ok, map_err_ok]
  rfl

variable {ctx : CommandContext} {event_meta : pb.EventMeta} {first : UInt64}

/-- A chain answers its notes, however many there are, and leaves the last. -/
theorem chain_loop {table : DomainDispatch OrderState} (htable : table.rebuilder = order_rebuilder)
    {m : Nat} {answered : List Any} (hroom : U64Room first (answered.length + m)) :
    table.decide_loop ctx cover event_meta first
        ((List.range' 1 m).foldl (fun emit k => emit.then_step (noting k)) .none) answered state =
      ({ state with notes := if m = 0 then state.notes else "note " ++ toString m },
        .ok (answered ++ (List.range' 1 m).map fun k => note ("note " ++ toString k))) := by
  have hfold : table.rebuilder.fold = none := by
    rw [htable]
    rfl
  induction m with
  | zero =>
    rw [List.range'_zero, List.foldl_nil, DomainDispatch.decide_loop_of_none hroom, List.map_nil,
      List.append_nil, if_pos rfl]
  | succ m ih =>
    have hbefore := ih (U64Room.add_iff.mp (by rwa [← Nat.add_assoc] at hroom)).1
    rw [List.range'_1_concat, List.foldl_append, List.foldl_cons, List.foldl_nil, Emit.then_step,
      DomainDispatch.decide_loop_push, hbefore, andThen_ok, noting, DomainDispatch.decide_answer,
      List.map_append, List.map_singleton, ← List.append_assoc, Nat.add_comm 1 m]
    have hlength : U64Room first
        ((answered ++ (List.range' 1 m).map fun k => note ("note " ++ toString k)).length + 1) := by
      rw [List.length_append, List.length_map, List.length_range', Nat.add_assoc]
      exact hroom
    refine DomainDispatch.decide_loop_of_one hfold hlength fun page hevent => ?_
    rw [htable, visit_note hevent, if_neg (Nat.succ_ne_zero m)]

variable [Message AddItem] [Message ItemOutOfStock]

/-- The restock step is idempotent on its own result, whatever the order and
wherever in its stream: it passes the check, and a decision that ends with it any
number of times records its note at most once. -/
theorem restock_step_is_idempotent (behaviour : OrderBehaviour) (item : String) (state : OrderState)
    (hroom : U64Room ctx.next_sequence 1) :
    (order_aggregate behaviour).check_step_idempotent state ctx (restock_step item) = .ok () ∧
    ∃ last events, events.length ≤ 1 ∧ ∀ retries,
      (order_aggregate behaviour).run_emit ctx
        ((List.replicate retries (restock_step item)).foldl Emit.then_step
          (Emit.none.then_step (restock_step item))) state = (last, .ok events) := by
  have hfirst : ∀ first, restock_step item state ctx = .ok first → first.continues = .Nowhere ∧
      first.events.length ≤ 1 := by
    intro first hran
    unfold restock_step at hran
    dsimp only at hran
    split at hran
    · obtain rfl := Outcome.ok.inj hran
      exact ⟨rfl, Nat.le_refl 1⟩
    · obtain rfl := Outcome.ok.inj hran
      exact ⟨rfl, Nat.zero_le 1⟩
  have hcheck : (order_aggregate behaviour).check_step_idempotent state ctx (restock_step item) =
      .ok () := by
    have hsettles : ∀ {settled : OrderState},
        ¬ (settled.items[item]? = some 1 ∧ settled.notes ≠ "restock " ++ item) →
          restock_step item settled ctx = .ok .none := fun hnot => if_neg hnot
    by_cases hwanted : state.items[item]? = some 1 ∧ state.notes ≠ "restock " ++ item
    · have hfold : (order_aggregate behaviour).fold_first ctx (Emit.of [note ("restock " ++ item)]) state =
          ({ state with notes := "restock " ++ item }, .ok ()) :=
        DomainDispatch.apply_emitted_of_one rfl hroom fun page hevent => visit_note hevent
      have hran : restock_step item state ctx = .ok (.of [note ("restock " ++ item)]) := if_pos hwanted
      exact DomainDispatch.check_of_came_back hran hfold (hsettles fun hagain => hagain.2 rfl)
    · have hfold : (order_aggregate behaviour).fold_first ctx Emit.none state = (state, .ok ()) :=
        DomainDispatch.apply_emitted_of_nothing
      exact DomainDispatch.check_of_came_back (hsettles hwanted) hfold (hsettles hwanted)
  obtain ⟨last, first, hran, hrun, hsettled⟩ :=
    DomainDispatch.settled_of_check (fun first hran => (hfirst first hran).1) hcheck
  refine ⟨hcheck, last, first.events, (hfirst first hran).2, fun retries => ?_⟩
  refine DomainDispatch.run_emit_then_all_settled hrun fun step hstep => ?_
  rw [List.eq_of_mem_replicate hstep]
  exact hsettled

/-- A chain is one decision, however long: with room for its numbers, an
`AddItem` of an item that folds is answered by the item and then every note of
its chain, in order, and with the order that all of them leave. This is of a
process whose stack holds the chain: a `push` nests the steps, so that the first
runs as deep as there are notes, and no stack is modelled here. -/
theorem chain_is_answered_whole {behaviour : OrderBehaviour} {n : UInt32} {req : hpb.HandleRequest}
    {item : String} {handling : Option pb.Handling} {info : RebuildInfo}
    (hfails : behaviour.fails = none) (hreturns : behaviour.returns = .ThenChain n)
    (hbody : (req.input.bind (·.page)).bind (·.body) =
      some (.Command { payload := some (any_of ({ item } : AddItem)), handling }))
    (hhistory : order_rebuilder.rebuild req.history = .ok (state, info)) (hfresh : item ≠ ROTTEN_ITEM)
    (hone : U32Room (state.items[item]?.getD 0) 1)
    (hroom : U64Room (command_context req).next_sequence (1 + n.toNat)) :
    (order_aggregate behaviour).dispatch req = .ok
      { events := any_of ({ item } : ItemAdded) ::
          (List.range' 1 n.toNat).map fun k => note ("note " ++ toString k)
        state := some (any_of
          { (OrderEvent.ItemAdded item).act state with
            notes := if n.toNat = 0 then state.notes else "note " ++ toString n.toNat })
        rules_version := behaviour.rules_version } := by
  obtain ⟨page, hpage, hcommand⟩ := Option.bind_eq_some_iff.mp hbody
  have hname : type_name_from_url (any_of ({ item } : AddItem)).type_url = "orders.v1.AddItem" :=
    type_name_any_of _ (by decide)
  have hpayload : command_payload page = some (any_of ({ item } : AddItem)) := by
    rw [command_payload, hcommand]
  obtain ⟨thunk, hthunk, hemit⟩ : ∃ thunk,
      (order_aggregate behaviour).handlers["orders.v1.AddItem"]? = some thunk ∧
      ∀ state ctx, thunk (any_of ({ item } : AddItem)) state ctx =
        .ok (add_item_emit item behaviour.returns) := by
    refine ⟨_, rfl, fun state ctx => ?_⟩
    have hdecode : (decode_message (any_of ({ item } : AddItem)).value : Outcome CodedError AddItem) =
        .ok { item } := decode_message_encode _
    simp only [hdecode, hfails]
  have hstarts : (order_aggregate behaviour).Starts req (.Command thunk) (any_of ({ item } : AddItem))
      state := by
    refine ⟨?_, info, hhistory⟩
    simp only [DomainDispatch.route, hpage, Option.bind_some, hcommand, hpayload, Option.getD_some,
      hname, hthunk]
  have hadded : (order_aggregate behaviour).decide_loop (command_context req)
      (DomainDispatch.decision_cover req) ((command_context req).event_meta behaviour.rules_version)
      (command_context req).next_sequence (Emit.of [any_of ({ item } : ItemAdded)]) [] state =
        ((OrderEvent.ItemAdded item).act state, .ok ([] ++ [any_of ({ item } : ItemAdded)])) :=
    DomainDispatch.decide_loop_of_one rfl (U64Room.add_iff.mp hroom).1
      fun page hevent => visit_added hevent hfresh hone
  have hdecides : (order_aggregate behaviour).decide thunk (any_of ({ item } : AddItem)) state
      (command_context req) (DomainDispatch.decision_cover req) =
      ({ (OrderEvent.ItemAdded item).act state with
          notes := if n.toNat = 0 then state.notes else "note " ++ toString n.toNat },
        .ok (any_of ({ item } : ItemAdded) ::
          (List.range' 1 n.toNat).map fun k => note ("note " ++ toString k))) := by
    rw [DomainDispatch.decide, hemit, hreturns, DomainDispatch.decide_answer, add_item_emit,
      Emit.then_step]
    dsimp only
    rw [DomainDispatch.decide_loop_push, show (order_aggregate behaviour).rules_version =
      behaviour.rules_version from rfl, hadded, andThen_ok, DomainDispatch.decide_answer, chain]
    exact chain_loop rfl hroom
  rw [DomainDispatch.dispatch_of_starts _ hstarts, Dispatched.thunk, hdecides]
  rfl

end

section

open wire declared

theorem restock_step_is_idempotent_tea :
    (order_aggregate (order.returning .ItemAdded)).check_step_idempotent order.tea
      (command_context (order.add "tea")) (restock_step "tea") = .ok () := by
  have hroom : U64Room (command_context (order.add "tea")).next_sequence 1 := fun _ => by decide
  exact (restock_step_is_idempotent (order.returning .ItemAdded) "tea" order.tea hroom).1

/-- A first tea, with a chain of three. -/
theorem chain_is_answered_whole_tea : ∃ resp,
    (order_aggregate (order.returning (.ThenChain 3))).dispatch (order.add "tea") = .ok resp ∧
      resp.events = [any_of ({ item := "tea" } : ItemAdded), note "note 1", note "note 2", note "note 3"] := by
  have hone : U32Room ((default : OrderState).items["tea"]?.getD 0) 1 := fun _ => by decide
  have hroom : U64Room (command_context (order.add "tea")).next_sequence (1 + (3 : UInt32).toNat) :=
    fun _ => by decide
  exact ⟨_, chain_is_answered_whole rfl rfl rfl rfl (by decide) hone hroom, rfl⟩

end

end angzarr_router_conformance
