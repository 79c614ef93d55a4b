import AngzarrRouter.Conformance
import AngzarrRouter.Domain.Legal
import AngzarrRouter.Proto.Field

open calls calls.MutCall
open angzarr_router angzarr_router.error angzarr_router.context angzarr_router.rebuild
open angzarr_router.domain angzarr_router.projector

namespace angzarr_router_conformance

open counter

section

variable [BuildProfile] {ε : Type}

/-- A `u32` goes up by so many without overflowing, or nothing checks that it
does. -/
def U32Room (a : UInt32) (n : Nat) : Prop :=
  BuildProfile.overflow_checks = true → a.toNat + n < UInt32.size

/-- With room for one more, a count goes up. -/
theorem u32_add_one_of_room {a : UInt32} (hroom : U32Room a 1) :
    u32_add_one a = (.ok (a + 1) : Outcome ε UInt32) := by
  unfold u32_add_one
  split
  · rename_i hover
    obtain ⟨hchecks, hsize⟩ := (Bool.and_eq_true_iff ..).mp hover
    exact absurd (hroom hchecks) (Nat.not_lt.mpr (of_decide_eq_true hsize))
  · rfl

/-- Without, a build that checks its arithmetic panics. -/
theorem u32_add_one_of_not_room {a : UInt32} (hroom : ¬ U32Room a 1) :
    u32_add_one a = (.panic : Outcome ε UInt32) := by
  unfold U32Room at hroom
  push Not at hroom
  simp [u32_add_one, hroom.1, hroom.2]

/-- There is room for some more behind one. -/
theorem U32Room.succ {a : UInt32} {n : Nat} (hone : U32Room a 1) (hrest : U32Room (a + 1) n) :
    U32Room a (n + 1) := by
  intro hchecks
  have hfirst := hone hchecks
  have hlater := hrest hchecks
  have hsum : (a + 1).toNat = a.toNat + 1 := by
    rw [UInt32.toNat_add]
    exact Nat.mod_eq_of_lt hfirst
  omega

/-- An increase is one more, where there is room for it. -/
theorem increase_eq_ok_iff {state after : CounterState} :
    (state.increase : MutCall CounterState ε Unit) = (after, .ok ()) ↔
      U32Room state.count 1 ∧ after.count = state.count + 1 := by
  obtain ⟨count⟩ := after
  unfold CounterState.increase
  by_cases hroom : U32Room state.count 1
  · simp [u32_add_one_of_room hroom, hroom, eq_comm]
  · simp [u32_add_one_of_not_room hroom, hroom]

omit [BuildProfile] in
theorem ofNat_succ_add (a : UInt32) (n : Nat) :
    a + 1 + UInt32.ofNat n = a + UInt32.ofNat (n + 1) := by
  rw [UInt32.ofNat_add, UInt32.add_assoc, UInt32.add_comm 1]
  rfl

end

/-! The counter, and its read side. -/

section

variable [AngzarrProto] [BuildProfile] [Message Increased] [Message CounterState]
  {state after : CounterState}

/-- An `Increased` page counts one. -/
theorem counter_visit_iff {cover : Option pb.Cover} {page : pb.EventPage}
    (hevent : page_event page = some increased_any) :
    counter_rebuilder.visit cover state page = (after, .ok ()) ↔
      U32Room state.count 1 ∧ after.count = state.count + 1 := by
  have happlier : ∃ thunk, counter_rebuilder.applier_of page = some (increased_any, thunk) ∧
      ∀ ctx, thunk state increased_any ctx = state.increase := by
    have hname : type_name_from_url (increased_any).type_url = "test.counter.Increased" :=
      type_name_any_of _ (by decide)
    have hdecode : (Message.decode (increased_any).value : Except String Increased) = .ok {} :=
      Message.decode_encode_to_vec _
    rw [Rebuilder.applier_of, hevent, Option.bind_some, hname]
    refine ⟨_, rfl, fun ctx => ?_⟩
    simp only [hdecode]
  obtain ⟨thunk, hthunk, hincrease⟩ := happlier
  rw [← increase_eq_ok_iff (ε := BoxError), Rebuilder.visit, hthunk]
  dsimp only [run_applier]
  rw [hincrease]
  rcases state.increase with ⟨next, ⟨⟩ | error | _⟩ <;> simp

/-- All that the counter records. -/
def counter_rules : Discipline CounterState where
  good _ := True
  legal _ event := event = increased_any

variable [Message IncreaseBy] [Message ValueNotPositive]

/-- The counter keeps its rules. -/
theorem counter_rules_kept : counter_rules.Kept counter_aggregate where
  starts := ⟨_, rfl, trivial⟩
  folds _ _ _ := trivial
  commands := by
    intro any thunk state ctx emit hthunk _ hran
    obtain ⟨_, rfl⟩ | hthunk := DomainDispatch.getElem?_on_command hthunk
    · cases hran
    obtain ⟨_, rfl⟩ | hnone := DomainDispatch.getElem?_on_command hthunk
    swap
    · cases hnone
    dsimp only at hran
    split at hran
    · cases hran
    · split at hran
      · cases hran
      · obtain rfl := Outcome.ok.inj hran
        exact .last (.of_all fun event hevent _ => List.eq_of_mem_replicate hevent) fun _ _ _ => trivial
  facts := by
    intro any thunk state ctx emit hthunk
    cases hthunk

omit [Message IncreaseBy] [Message ValueNotPositive] in
/-- What the counter records, it counts. -/
theorem count_of_trace {cover : Option pb.Cover} {log : List pb.EventPage}
    (htrace : Trace (counter_rebuilder.visit cover) counter_rules.allows state log after) :
    U32Room state.count log.length ∧ after.count = state.count + UInt32.ofNat log.length ∧
      ∀ page ∈ log, page_event page = some increased_any := by
  induction htrace with
  | nil state =>
    refine ⟨fun _ => state.count.toNat_lt_size, ?_, fun _ hpage => absurd hpage List.not_mem_nil⟩
    exact (UInt32.add_zero _).symm
  | @cons state next last page rest hpage hvisit _ ih =>
    obtain ⟨_, hevent, rfl⟩ := hpage
    obtain ⟨hone, hnext⟩ := (counter_visit_iff hevent).mp hvisit
    obtain ⟨hrest, hlast, hevents⟩ := ih
    rw [hnext] at hrest hlast
    refine ⟨hone.succ hrest, ?_, List.forall_mem_cons.mpr ⟨hevent, hevents⟩⟩
    rw [hlast, ofNat_succ_add, List.length_cons]

variable [Message CounterProjectorState] {domains : List String}

omit [Message CounterState] [Message IncreaseBy] [Message ValueNotPositive] in
/-- The projector counts it as well. -/
theorem projector_fold_event {cover : pb.Cover} {page : pb.EventPage} {projection : ProjectorState}
    (hevent : page_event page = some increased_any) (hroom : U32Room projection.count 1) :
    (counter_projector domains).fold_event cover projection page =
      ({ count := projection.count + 1 }, .ok ()) := by
  have hname : type_name_from_url (increased_any).type_url = "test.counter.Increased" :=
    type_name_any_of _ (by decide)
  have hdecode : (Message.decode (increased_any).value : Except String Increased) = .ok {} :=
    Message.decode_encode_to_vec _
  obtain ⟨thunk, hthunk, hcounts⟩ : ∃ thunk,
      (counter_projector domains).handlers["test.counter.Increased"]? = some thunk ∧
      ∀ ctx, thunk projection increased_any ctx = ({ count := projection.count + 1 }, .ok ()) := by
    refine ⟨_, rfl, fun ctx => ?_⟩
    simp only [hdecode, u32_add_one_of_room hroom]
  simp only [ProjectorDispatch.fold_event, hevent, hname, hthunk, hcounts, fold_handler,
    Outcome.catch_unwind_ok, map_err_ok]

omit [Message IncreaseBy] [Message ValueNotPositive] in
/-- The projector counts along with the aggregate. -/
theorem projector_follows {cover : Option pb.Cover} {run : pb.Cover} {log : List pb.EventPage}
    (htrace : Trace (counter_rebuilder.visit cover) counter_rules.allows state log after) :
    for_each ((counter_projector domains).fold_event run) { count := state.count } log =
      ({ count := after.count }, .ok ()) := by
  induction htrace with
  | nil state => rfl
  | @cons state next last page rest hpage hvisit _ ih =>
    obtain ⟨_, hevent, rfl⟩ := hpage
    obtain ⟨hone, hnext⟩ := (counter_visit_iff hevent).mp hvisit
    rw [for_each_cons, projector_fold_event hevent hone, andThen_ok, ← hnext]
    exact ih

/-- The read side counts as the write side does. On every stream a run of the
counter reaches, however it was delivered and whatever was refused or failed on
the way, the log is nothing but `Increased` events; it rebuilds to their number,
which a build that checks its arithmetic never let overflow; and a projector
over the stream's domain finishes the log with that same count. -/
theorem read_side_counts_as_write_side {cover : pb.Cover} {stream : Stream}
    (hreach : counter_aggregate.Reachable cover stream) (hdomain : cover.domain ∈ domains) :
    (∀ page ∈ stream.log, page_event page = some increased_any) ∧
    U32Room 0 stream.log.length ∧
    ∃ state info, counter_aggregate.rebuilder.rebuild (some (stream.whole cover)) = .ok (state, info) ∧
      state.count = UInt32.ofNat stream.log.length ∧
      (counter_projector domains).dispatch { events := some (stream.whole cover) } =
        .ok { projection := some (any_of ({ count := state.count } : CounterProjectorState)) } := by
  have hround : RoundTrips counter_aggregate.rebuilder := Rebuilder.roundTrips_of_message _
  obtain ⟨state, hrecorded⟩ :=
    Discipline.recorded_of_reachable counter_rules_kept rfl hround hreach
  obtain ⟨⟨info, hrebuild⟩, _⟩ := hrecorded.rebuilds counter_rules_kept rfl
  have htrace := hrecorded.trace rfl
  obtain ⟨hroom, hcount, hevents⟩ := count_of_trace htrace
  refine ⟨hevents, hroom, state, info, hrebuild, hcount.trans (UInt32.zero_add _), ?_⟩
  have hconsumed : (counter_projector domains).consumed cover = true := by
    simp [counter_projector, ProjectorDispatch.with_finish, ProjectorDispatch.on_event,
      ProjectorDispatch.for_domains, ProjectorDispatch.consumed, hdomain]
  have hfollows : for_each ((counter_projector domains).fold_event cover) default stream.log =
      ({ count := state.count }, .ok ()) := projector_follows htrace
  have hrun : (counter_projector domains).fold_run (stream.whole cover) cover default =
      ({ count := state.count }, .ok ()) := by
    unfold ProjectorDispatch.fold_run
    rw [hconsumed]
    exact hfollows
  simp only [ProjectorDispatch.dispatch, Option.getD_some]
  rw [show ((stream.whole cover).cover.getD .default) = cover from rfl,
    show (counter_projector domains).factory () = .ok default from rfl, Outcome.map_err_ok,
    Outcome.ok_bind, hrun]
  rfl

end

namespace wire

/-- The fixture's messages as they are encoded: each holds at most one `uint32`,
in field 1, and skips the fields it does not know. -/
scoped instance : Message Increased where
  encode_to_vec _ := []
  decode := proto.merge {} fun message _ => some message
  decode_encode_to_vec _ := rfl

/-- A message of one `uint32` in field 1. -/
def of_uint32 {M : Type} (make : UInt32 → M) (message : M) : Nat × proto.Value → Option M
  | (1, .Varint n) => some (make (UInt32.ofNat n))
  | (1, _) => none
  | _ => some message

/-- A message of one number reads back. -/
theorem merge_uint32 {M : Type} (make : UInt32 → M) (n : UInt32) :
    proto.merge (make 0) (of_uint32 make) (proto.encode (proto.uint32 1 n)) = .ok (make n) := by
  refine proto.merge_encode ?_
  unfold proto.uint32
  split
  · rename_i hzero
    rw [hzero]
    rfl
  · simp [of_uint32]

scoped instance : Message IncreaseBy where
  encode_to_vec message := proto.encode (proto.uint32 1 message.n)
  decode := proto.merge (IncreaseBy.mk 0) (of_uint32 IncreaseBy.mk)
  decode_encode_to_vec message := merge_uint32 IncreaseBy.mk message.n

scoped instance : Message ValueNotPositive where
  encode_to_vec message := proto.encode (proto.uint32 1 message.n)
  decode := proto.merge (ValueNotPositive.mk 0) (of_uint32 ValueNotPositive.mk)
  decode_encode_to_vec message := merge_uint32 ValueNotPositive.mk message.n

scoped instance : Message CounterState where
  encode_to_vec message := proto.encode (proto.uint32 1 message.count)
  decode := proto.merge (CounterState.mk 0) (of_uint32 CounterState.mk)
  decode_encode_to_vec message := merge_uint32 CounterState.mk message.count

scoped instance : Message CounterProjectorState where
  encode_to_vec message := proto.encode (proto.uint32 1 message.count)
  decode := proto.merge (CounterProjectorState.mk 0) (of_uint32 CounterProjectorState.mk)
  decode_encode_to_vec message := merge_uint32 CounterProjectorState.mk message.count

end wire

section

open wire declared

def counter.cover : pb.Cover := { domain := "counter", root := none, edition := none }

/-- A request for what a page carries. -/
def counter.request (body : pb.command_page.Body) : hpb.HandleRequest where
  input := some
    { cover := some counter.cover
      page := some { body := some body, command_id := none, correlation_id := none } }
  history := none
  recorded_at := none
  causation := none

/-- A counter that is increased by two is projected as two. -/
theorem read_side_counts_as_write_side_two : ∃ stream : Stream, stream.log.length = 2 ∧
    ∃ state : CounterState, state.count = 2 ∧
      (counter_projector ["counter"]).dispatch { events := some (stream.whole counter.cover) } =
        .ok { projection := some (any_of ({ count := state.count } : CounterProjectorState)) } := by
  let req : hpb.HandleRequest := counter.request
    (.Command { payload := some (any_of ({ n := 2 } : IncreaseBy)), handling := none })
  let resp : hpb.HandleResponse :=
    { events := [increased_any, increased_any], state := some (any_of ({ count := 2 } : CounterState))
      rules_version := "" }
  let stream : Stream := Stream.empty.record ((command_context req).event_meta "") resp
  have hok : counter_aggregate.dispatch (delivered req (Stream.empty.whole counter.cover)) = .ok resp := by
    decide +kernel
  have hstep : counter_aggregate.Records counter.cover .empty stream := .answered .whole hok
  obtain ⟨_, _, state, _, _, hcount, hprojected⟩ :=
    read_side_counts_as_write_side (.single hstep) (List.mem_singleton_self "counter")
  exact ⟨stream, rfl, state, hcount, hprojected⟩

end

/-! The ledger. -/

section

variable [AngzarrProto] [BuildProfile] [Message Increased] [Message CounterState]
  {state after : CounterState}

/-- An event that counts, whatever its payload. -/
def counts (event : Any) : Prop := type_name_from_url event.type_url = "test.counter.Increased"

instance (event : Any) : Decidable (counts event) := by
  unfold counts
  infer_instance

omit [AngzarrProto] [BuildProfile] [Message Increased] in
/-- A flag does not count. -/
theorem not_counts_flag (flag : CounterState) : ¬ counts (any_of flag) := by
  rw [counts, type_name_any_of _ (by decide)]
  decide

/-- What the ledger records: events that count, and flags of the count it stands
at. -/
def ledger_rules : Discipline CounterState where
  good _ := True
  legal state event := counts event ∨ event = any_of ({ count := state.count } : CounterState)

omit [Message Increased] in
/-- A page that counts is one more in the ledger. -/
theorem ledger_visit_of_counts {cover : Option pb.Cover} {page : pb.EventPage} {event : Any}
    (hevent : page_event page = some event) (hcounts : counts event) :
    ledger_rebuilder.visit cover state page = (after, .ok ()) ↔
      U32Room state.count 1 ∧ after.count = state.count + 1 := by
  have happlier : ledger_rebuilder.applier_of page = some (event, fun state _ _ => state.increase) := by
    rw [Rebuilder.applier_of, hevent, Option.bind_some, hcounts]
    rfl
  rw [← increase_eq_ok_iff (ε := BoxError), Rebuilder.visit, happlier]
  dsimp only [run_applier]
  rcases state.increase with ⟨next, ⟨⟩ | error | _⟩ <;> simp

omit [Message Increased] in
/-- A flag leaves the ledger its count. -/
theorem ledger_visit_of_flag {cover : Option pb.Cover} {page : pb.EventPage} {count : UInt32}
    (hevent : page_event page = some (any_of ({ count } : CounterState))) :
    ledger_rebuilder.visit cover state page = (state, .ok ()) := by
  refine Rebuilder.visit_of_not_folds _ _ _ ?_
  have hname : type_name_from_url (any_of ({ count } : CounterState)).type_url =
      "test.counter.CounterState" := type_name_any_of _ (by decide)
  rw [Rebuilder.folds, Rebuilder.applier_of, hevent, Option.bind_some, hname]
  rfl

/-- The ledger keeps its rules. -/
theorem ledger_rules_kept : ledger_rules.Kept ledger_aggregate where
  starts := ⟨_, rfl, trivial⟩
  folds _ _ _ := trivial
  commands := by
    intro any thunk state ctx emit hthunk _ hran
    obtain ⟨_, rfl⟩ | hnone := DomainDispatch.getElem?_on_command hthunk
    swap
    · cases hnone
    obtain rfl := Outcome.ok.inj hran
    exact .of_one (.inl (type_name_any_of _ (by decide))) fun _ _ _ => trivial
  facts := by
    intro any thunk state ctx emit hthunk _ hran
    obtain ⟨hname, rfl⟩ | hnone := DomainDispatch.getElem?_on_fact hthunk
    swap
    · cases hnone
    dsimp only at hran
    by_cases hroom : U32Room state.count 1
    swap
    · rw [u32_add_one_of_not_room hroom] at hran
      cases hran
    rw [u32_add_one_of_room hroom] at hran
    obtain rfl := Outcome.ok.inj hran
    -- The fact counts, so that its flag is legal where it comes to stand.
    refine .last (.cons (.inl hname) fun next _ htakes => ?_) fun _ _ _ => trivial
    obtain ⟨cover, page, hevent, hvisit⟩ := htakes
    obtain ⟨_, hnext⟩ := (ledger_visit_of_counts hevent hname).mp hvisit
    refine .cons (.inr ?_) fun _ _ _ => .nil _
    rw [← hnext]

/-- How many of a log's pages count. -/
def counted (log : List pb.EventPage) : Nat :=
  log.countP fun page => (page_event page).any fun event => decide (counts event)

omit [Message Increased] in
/-- Along a log, the ledger's count is of the pages that count. -/
theorem count_of_ledger_trace {cover : Option pb.Cover} {log : List pb.EventPage}
    (htrace : Trace (ledger_rebuilder.visit cover) ledger_rules.allows state log after) :
    after.count = state.count + UInt32.ofNat (counted log) := by
  induction htrace with
  | nil state => exact (UInt32.add_zero _).symm
  | @cons state next last page rest hpage hvisit _ ih =>
    obtain ⟨event, hevent, hcounts | rfl⟩ := hpage
    · obtain ⟨_, hnext⟩ := (ledger_visit_of_counts hevent hcounts).mp hvisit
      have hone : counted (page :: rest) = counted rest + 1 := by
        rw [counted, List.countP_cons_of_pos (by simp [hevent, hcounts]), counted]
      rw [ih, hnext, hone, ofNat_succ_add]
    · rw [ledger_visit_of_flag hevent] at hvisit
      obtain ⟨rfl, _⟩ := Prod.mk.inj hvisit
      have hnone : counted (page :: rest) = counted rest := by
        rw [counted, List.countP_cons_of_neg (by simp [hevent, not_counts_flag]), counted]
      rw [ih, hnone]

/-- The ledger's flags tell its count. On every stream a run of the ledger
reaches, through commands and facts in any order, a page of the log that does
not count is a flag, and the count it carries is the number of pages before it
that do, which is what the log up to it rebuilds to. -/
theorem flags_carry_the_count {cover : pb.Cover} {stream : Stream}
    (hreach : ledger_aggregate.Reachable cover stream) {front back : List pb.EventPage}
    {page : pb.EventPage} (hlog : stream.log = front ++ page :: back) :
    ∃ event before, page_event page = some event ∧
      ledger_rebuilder.replay (some cover) default front = (before, .ok ()) ∧
      before.count = UInt32.ofNat (counted front) ∧
      (counts event ∨ event = any_of ({ count := UInt32.ofNat (counted front) } : CounterState)) := by
  have hround : RoundTrips ledger_aggregate.rebuilder := Rebuilder.roundTrips_of_message _
  obtain ⟨state, hrecorded⟩ := Discipline.recorded_of_reachable ledger_rules_kept rfl hround hreach
  have htrace := hrecorded.trace rfl
  rw [hlog] at htrace
  obtain ⟨before, hfront, hback⟩ := htrace.of_append
  have hcount : before.count = UInt32.ofNat (counted front) :=
    (count_of_ledger_trace hfront).trans (UInt32.zero_add _)
  cases hback with
  | cons hpage _ _ =>
    obtain ⟨event, hevent, hlegal⟩ := hpage
    refine ⟨event, before, hevent, hfront.for_each_eq, hcount, ?_⟩
    rw [← hcount]
    exact hlegal

end

section

open wire declared

/-- A ledger that records one fact flags it with one. -/
theorem flags_carry_the_count_one : ∃ stream : Stream, stream.log.length = 2 ∧
    ∃ front page, stream.log = front ++ [page] ∧ counted front = 1 ∧
      page_event page = some (any_of ({ count := 1 } : CounterState)) := by
  let req : hpb.HandleRequest := counter.request (.Fact { payload := some increased_any, origin := none })
  let resp : hpb.HandleResponse :=
    { events := [increased_any, any_of ({ count := 1 } : CounterState)]
      state := some (any_of ({ count := 1 } : CounterState)), rules_version := "" }
  let stream : Stream := Stream.empty.record ((command_context req).event_meta "") resp
  have hok : ledger_aggregate.dispatch (delivered req (Stream.empty.whole counter.cover)) = .ok resp := by
    decide +kernel
  have hstep : ledger_aggregate.Records counter.cover .empty stream := .answered .whole hok
  have hlog : stream.log = stream.log.take 1 ++ stream.log.drop 1 := (List.take_append_drop 1 _).symm
  have hone : counted (stream.log.take 1) = 1 := by decide +kernel
  obtain ⟨event, before, hevent, _, _, hflag⟩ := flags_carry_the_count (.single hstep) hlog
  refine ⟨stream, rfl, stream.log.take 1, _, hlog, hone, ?_⟩
  obtain hcounts | rfl := hflag
  · obtain rfl := Option.some.inj hevent
    exact absurd hcounts (not_counts_flag _)
  · rw [hone] at hevent
    exact hevent

end

end angzarr_router_conformance
