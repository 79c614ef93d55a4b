import AngzarrRouter.Declared
import AngzarrRouter.Domain.Dispatch

open calls calls.MutCall
open angzarr_router.error angzarr_router.context angzarr_router.rebuild

namespace angzarr_router.domain

variable {S : Type}

namespace DomainDispatch

/-- The book a request's history becomes once `events` are recorded on it:
under the cover the decision folded under, the history's starting state and
pages, then each event at its sequence with the meta it was stamped with. -/
def replayed (self : DomainDispatch S) (req : hpb.HandleRequest) (events : List Any) :
    pb.EventBook :=
  let ctx := command_context req
  { cover := decision_cover req
    snapshot := req.history.bind (·.snapshot)
    pages := (req.history.elim [] (·.pages)) ++
      stamped (ctx.event_meta self.rules_version) events ctx.next_sequence
    next_sequence := ctx.next_sequence + UInt64.ofNat events.length }

section

variable [AngzarrProto]

/-- A request's history is absent or carries the cover it was loaded under. -/
def CarriesCover (req : hpb.HandleRequest) : Prop :=
  ∀ book, req.history = some book → book.cover.isSome

/-- What a decision has done so far, read back from the log: the pages of the
history and of everything emitted fold onto `start` as the turn's state. -/
def ReadsBack (self : DomainDispatch S) (req : hpb.HandleRequest) (start : S) (events : List Any)
    (state : S) : Prop :=
  self.rebuilder.apply_pages start (self.replayed req events).pages (decision_cover req)
    .Persisted = (state, .ok ())

theorem startsFrom_replayed (self : DomainDispatch S) {req : hpb.HandleRequest} {state : S}
    {info : RebuildInfo} (hcover : CarriesCover req)
    (hrebuild : self.rebuilder.rebuild req.history = .ok (state, info)) :
    ∃ start, (∀ events, self.rebuilder.StartsFrom (self.replayed req events) start) ∧
      self.ReadsBack req start [] state := by
  unfold ReadsBack
  cases hhistory : req.history with
  | none =>
    rw [hhistory, Rebuilder.rebuild, Outcome.map_eq_ok_iff] at hrebuild
    obtain ⟨_, hfresh, ⟨⟩⟩ := hrebuild
    refine ⟨state, fun events => ?_, ?_⟩
    · simp only [replayed, hhistory, Rebuilder.StartsFrom, Option.bind_none]
      exact Rebuilder.fresh_eq_ok_iff.mp hfresh
    · simp only [replayed, hhistory, Option.elim_none, stamped_nil, List.append_nil]
      exact self.rebuilder.apply_pages_nil state _ _
  | some book =>
    obtain ⟨cover, hbook⟩ := Option.isSome_iff_exists.mp (hcover book hhistory)
    have hdecision : decision_cover req = book.cover := by simp [decision_cover, hhistory, hbook]
    rw [hhistory] at hrebuild
    cases hstart : self.rebuilder.starting_state book with
    | ok start =>
      have hfrom := (self.rebuilder.starting_state_eq_ok_iff book start).mp hstart
      refine ⟨start, fun events => ?_, ?_⟩
      · simpa [replayed, hhistory, Rebuilder.StartsFrom] using hfrom
      · have hstate := self.rebuilder.rebuild_state_eq_apply_pages book hfrom
        rw [hrebuild, Outcome.map_ok, eq_comm, Outcome.map_eq_ok_iff] at hstate
        obtain ⟨⟨last, ⟨⟩⟩, hpages, rfl⟩ := hstate
        simp only [replayed, hhistory, Option.elim_some, stamped_nil, List.append_nil, hdecision]
        exact owned_eq_ok_iff.mp hpages
    | err error =>
      rw [self.rebuilder.rebuild_of_starting_state_err hstart] at hrebuild
      cases hrebuild
    | panic =>
      rw [self.rebuilder.rebuild_of_starting_state_panic hstart] at hrebuild
      cases hrebuild

omit [AngzarrProto] in
theorem pages_replayed_append (self : DomainDispatch S) (req : hpb.HandleRequest)
    (front back : List Any) :
    (self.replayed req (front ++ back)).pages = (self.replayed req front).pages ++
      stamped ((command_context req).event_meta self.rules_version) back
        ((command_context req).next_sequence + UInt64.ofNat front.length) := by
  simp only [replayed, stamped_append, List.append_assoc]

variable [BuildProfile]

/-- A turn's fold goes on from where the log reads back to. -/
theorem ReadsBack.fold_turn (self : DomainDispatch S) (hpieces : self.rebuilder.FoldsInPieces)
    {req : hpb.HandleRequest} {start state : S} {turn : Turn S}
    (hread : self.ReadsBack req start turn.answered turn.state)
    (hfold : self.folds_at req turn = (state, .ok ())) :
    self.ReadsBack req start turn.emitted state := by
  have hcame : (self.folds_at req turn).2 ≠ .panic := by simp [hfold]
  have hroom := self.room_of_fold_turn_ne_panic _ _ _ hcame
  rw [folds_at, self.fold_turn_of_room _ _ _ hroom] at hfold
  rw [ReadsBack, Turn.emitted, pages_replayed_append]
  exact self.rebuilder.apply_pages_append_ok hpieces hread
    (self.rebuilder.apply_pages_ok_origin .Persisted hfold)

/-- Every turn a decision passes reads back from the log its events make. -/
theorem readsBack_of_passes (self : DomainDispatch S) (hpieces : self.rebuilder.FoldsInPieces)
    {req : hpb.HandleRequest} (hcover : CarriesCover req) {dispatched : Dispatched S}
    {turn : Turn S} (hpasses : self.Passes req dispatched turn) :
    ∃ start, (∀ events, self.rebuilder.StartsFrom (self.replayed req events) start) ∧
      self.ReadsBack req start turn.answered turn.state := by
  obtain ⟨any, state, emit, ⟨_, info, hrebuild⟩, _, hreach⟩ := hpasses
  obtain ⟨start, hfrom, hread⟩ := self.startsFrom_replayed hcover hrebuild
  refine ⟨start, hfrom, ?_⟩
  induction hreach with
  | refl => exact hread
  | tail _ hstep ih =>
    cases hstep with
    | continued hfold _ _ => exact ReadsBack.fold_turn self hpieces ih hfold

/-- An answered decision leaves the state its recorded log reads back to. -/
theorem readsBack_of_dispatch_ok (self : DomainDispatch S) (hpieces : self.rebuilder.FoldsInPieces)
    {req : hpb.HandleRequest} (hcover : CarriesCover req) {resp : hpb.HandleResponse}
    (hok : self.dispatch req = .ok resp) :
    ∃ start state, (∀ events, self.rebuilder.StartsFrom (self.replayed req events) start) ∧
      self.ReadsBack req start resp.events state ∧
      self.rebuilder.encode_state state = .ok resp.state := by
  obtain ⟨dispatched, turn, state, hpasses, _, hturn, hevents, hencode, _⟩ :=
    self.passes_of_dispatch_ok hok
  obtain ⟨start, hfrom, hread⟩ := self.readsBack_of_passes hpieces hcover hpasses
  refine ⟨start, state, hfrom, ?_, hencode⟩
  rw [hevents]
  exact ReadsBack.fold_turn self hpieces hread hturn

/-- Where a turn's fold through per-type appliers fails: at one of the decision's
own events, after the log up to there has replayed. -/
theorem emitted_fails_at (self : DomainDispatch S) (hfold : self.rebuilder.fold = none)
    {req : hpb.HandleRequest} {start state : S} {turn : Turn S} {error : CodedError}
    (hread : self.ReadsBack req start turn.answered turn.state)
    (hturn : self.folds_at req turn = (state, .err error)) :
    ∃ ready page back before cause,
      stamped ((command_context req).event_meta self.rules_version) turn.emitted
        (command_context req).next_sequence = ready ++ page :: back ∧
      turn.answered.length ≤ ready.length ∧
      self.rebuilder.replay (decision_cover req) start (req.history.elim [] (·.pages) ++ ready) =
        (before, .ok ()) ∧
      self.rebuilder.visit (decision_cover req) before page = (state, .err (page, cause)) ∧
      error = page_fold_error .Emitted page self.rebuilder.state_type_url cause := by
  have hcame : (self.folds_at req turn).2 ≠ .panic := by simp [hturn]
  have hroom := self.room_of_fold_turn_ne_panic _ _ _ hcame
  rw [folds_at, self.fold_turn_of_room _ _ _ hroom] at hturn
  obtain ⟨page, cause, hreplay, rfl⟩ :=
    (self.rebuilder.apply_pages_eq_err_iff_of_appliers hfold).mp hturn
  obtain ⟨front, back, before, hpages, hfront, hvisit⟩ :=
    self.rebuilder.replay_eq_err_iff.mp hreplay
  -- The page the turn's own fold fails on stands after everything answered.
  refine ⟨stamped ((command_context req).event_meta self.rules_version) turn.answered
    (command_context req).next_sequence ++ front, page, back, before, cause, ?_, ?_, ?_, hvisit, rfl⟩
  · rw [Turn.emitted, stamped_append, hpages, List.append_assoc]
  · rw [List.length_append, length_stamped]
    omega
  · have hanswered := (self.rebuilder.apply_pages_eq_ok_iff_of_appliers hfold).mp hread
    rw [replayed] at hanswered
    rw [← List.append_assoc, Rebuilder.replay_append, hanswered, andThen_ok, hfront]

section

variable {self : DomainDispatch S} {req : hpb.HandleRequest} {start before last : S}
  {events : List Any} {ready back : List pb.EventPage} {page : pb.EventPage}
  {cause : Option pb.Diagnostic}

omit [BuildProfile] in
/-- As far as the log replays, it rebuilds. -/
theorem rebuild_of_ready (hfold : self.rebuilder.fold = none)
    (hfrom : ∀ events, self.rebuilder.StartsFrom (self.replayed req events) start)
    (hevents : stamped ((command_context req).event_meta self.rules_version) events
      (command_context req).next_sequence = ready ++ back)
    (hlog : self.rebuilder.replay (decision_cover req) start
      (req.history.elim [] (·.pages) ++ ready) = (before, .ok ()))
    {n : Nat} (hn : n ≤ ready.length) :
    ∃ state info, self.rebuilder.rebuild (some (self.replayed req (events.take n))) =
      .ok (state, info) := by
  have hpages : (self.replayed req (events.take n)).pages =
      req.history.elim [] (·.pages) ++ ready.take n := by
    simp only [replayed, ← take_stamped, hevents, List.take_append_of_le_length hn]
  rw [← List.take_append_drop n ready, ← List.append_assoc, Rebuilder.replay_append,
    andThen_eq_ok_iff] at hlog
  obtain ⟨middle, ⟨⟩, hkept, _⟩ := hlog
  obtain ⟨info, hrebuild⟩ := self.rebuilder.rebuild_of_apply_pages_ok (hfrom _)
    ((self.rebuilder.apply_pages_eq_ok_iff_of_appliers hfold).mpr (hpages ▸ hkept))
  exact ⟨middle, info, hrebuild⟩

omit [BuildProfile] in
/-- From the page it fails on, no rebuild of it comes further. -/
theorem rebuild_of_failing (hfold : self.rebuilder.fold = none)
    (hfrom : ∀ events, self.rebuilder.StartsFrom (self.replayed req events) start)
    (hevents : stamped ((command_context req).event_meta self.rules_version) events
      (command_context req).next_sequence = ready ++ page :: back)
    (hlog : self.rebuilder.replay (decision_cover req) start
      (req.history.elim [] (·.pages) ++ ready) = (before, .ok ()))
    (hvisit : self.rebuilder.visit (decision_cover req) before page = (last, .err (page, cause)))
    {n : Nat} (hn : ready.length < n) :
    self.rebuilder.rebuild (some (self.replayed req (events.take n))) =
      .err (page_fold_error .Persisted page self.rebuilder.state_type_url cause) := by
  obtain ⟨m, rfl⟩ : ∃ m, n = ready.length + (m + 1) := ⟨n - ready.length - 1, by omega⟩
  have hpages : (self.replayed req (events.take (ready.length + (m + 1)))).pages =
      (req.history.elim [] (·.pages) ++ ready) ++ page :: back.take m := by
    simp only [replayed, ← take_stamped, hevents, List.take_length_add_append, List.take_succ_cons,
      List.append_assoc]
  have hfailed : self.rebuilder.replay (decision_cover req) start
      (self.replayed req (events.take (ready.length + (m + 1)))).pages = (last, .err (page, cause)) :=
    self.rebuilder.replay_eq_err_iff.mpr ⟨_, _, before, hpages, hlog, hvisit⟩
  exact self.rebuilder.rebuild_of_apply_pages_err (hfrom _)
    ((self.rebuilder.apply_pages_eq_err_iff_of_appliers hfold).mpr ⟨page, cause, hfailed, rfl⟩)

end

/-- A decision whose fold fails through per-type appliers fails at one of its
own events: the log made of its events rebuilds up to that event's page, and
fails there from then on. -/
theorem rebuild_of_folds_at_err (self : DomainDispatch S) (hfold : self.rebuilder.fold = none)
    {req : hpb.HandleRequest} {start state : S} {turn : Turn S} {error : CodedError}
    (hfrom : ∀ events, self.rebuilder.StartsFrom (self.replayed req events) start)
    (hread : self.ReadsBack req start turn.answered turn.state)
    (hturn : self.folds_at req turn = (state, .err error)) :
    ∃ j page cause, turn.answered.length ≤ j ∧
      (stamped ((command_context req).event_meta self.rules_version) turn.emitted
        (command_context req).next_sequence)[j]? = some page ∧
      error = page_fold_error .Emitted page self.rebuilder.state_type_url cause ∧
      (∀ n ≤ j, ∃ state info,
        self.rebuilder.rebuild (some (self.replayed req (turn.emitted.take n))) = .ok (state, info)) ∧
      ∀ n > j, self.rebuilder.rebuild (some (self.replayed req (turn.emitted.take n))) =
        .err (page_fold_error .Persisted page self.rebuilder.state_type_url cause) := by
  obtain ⟨ready, page, back, before, cause, hevents, hlength, hlog, hvisit, herror⟩ :=
    self.emitted_fails_at hfold hread hturn
  refine ⟨ready.length, page, cause, hlength, ?_, herror, fun n hn => ?_, fun n hn => ?_⟩
  · rw [hevents, List.getElem?_append_right le_rfl, Nat.sub_self, List.getElem?_cons_zero]
  · exact rebuild_of_ready hfold hfrom hevents hlog hn
  · exact rebuild_of_failing hfold hfrom hevents hlog hvisit hn

/-- A decision's own folds and a replay of the log agree. With per-type appliers,
or a batched fold that folds in pieces as it does in one go, a decision that is
answered leaves the state a rebuild of its recorded log comes to, and answers
its encoding. With per-type appliers, a decision that fails folding an event of
its own fails the rebuild of its recorded log at that event's page, as the
persisted event it then is, and at no page before it. -/
theorem decide_time_fold_is_replay (self : DomainDispatch S)
    (hpieces : self.rebuilder.FoldsInPieces) (req : hpb.HandleRequest)
    (hcover : CarriesCover req) :
    (∀ resp, self.dispatch req = .ok resp → ∃ state info,
      self.rebuilder.rebuild (some (self.replayed req resp.events)) = .ok (state, info) ∧
      self.rebuilder.encode_state state = .ok resp.state) ∧
    (self.rebuilder.fold = none → ∀ dispatched turn state error,
      self.Passes req dispatched turn → self.folds_at req turn = (state, .err error) →
      self.dispatch req = .err (dispatched.failure error) ∧
      ∃ j page cause, turn.answered.length ≤ j ∧
        (stamped ((command_context req).event_meta self.rules_version) turn.emitted
          (command_context req).next_sequence)[j]? = some page ∧
        error = page_fold_error .Emitted page self.rebuilder.state_type_url cause ∧
        (∀ n ≤ j, ∃ state info, self.rebuilder.rebuild
          (some (self.replayed req (turn.emitted.take n))) = .ok (state, info)) ∧
        ∀ n > j, self.rebuilder.rebuild (some (self.replayed req (turn.emitted.take n))) =
          .err (page_fold_error .Persisted page self.rebuilder.state_type_url cause)) := by
  refine ⟨fun resp hok => ?_, fun hfold dispatched turn state error hpasses hturn => ?_⟩
  · obtain ⟨start, state, hfrom, hread, hencode⟩ := self.readsBack_of_dispatch_ok hpieces hcover hok
    obtain ⟨info, hrebuild⟩ := self.rebuilder.rebuild_of_apply_pages_ok (hfrom _) hread
    exact ⟨state, info, hrebuild, hencode⟩
  · have hends : self.EndsAt req turn (state, .err error) := .unfolded hturn
    obtain ⟨start, hfrom, hread⟩ := self.readsBack_of_passes hpieces hcover hpasses
    refine ⟨self.dispatch_of_ends hpasses hends, ?_⟩
    exact self.rebuild_of_folds_at_err hfold hfrom hread hturn

end

end DomainDispatch

namespace shelf

/-- A shelf with room for three. -/
def rebuilder : Rebuilder Nat :=
  ((Rebuilder.new fun _ => .ok 0).with_state_type "shop.Shelf").apply "shop.Added" fun count _ =>
    if count < 3 then (count + 1, .ok ()) else (count, .err (.Other "full"))

def added : Any := { type_url := "/shop.Added", value := [] }

/-- Adds one, and then one more. -/
def adds : HandlerFn Nat := fun _ _ _ =>
  .ok ((Emit.of [added]).then_step fun _ _ => .ok (Emit.of [added]))

def dispatch : DomainDispatch Nat := (DomainDispatch.new rebuilder).on_command "shop.Add" adds

def cover : pb.Cover := { domain := "shop", root := none, edition := none }

/-- An `Add` to a stream of `n` recorded events. -/
def add (n : Nat) : hpb.HandleRequest where
  input := some
    { cover := some cover
      page := some
        { body := some (.Command
            { payload := some { type_url := "/shop.Add", value := [] }, handling := none })
          command_id := none
          correlation_id := none } }
  history := some
    { cover := some cover
      snapshot := none
      pages := (List.range n).map fun i =>
        { body := some (.Event added), event_meta := none, sequence := UInt64.ofNat i }
      next_sequence := UInt64.ofNat n }
  recorded_at := none
  causation := none

end shelf

open DomainDispatch declared in
/-- Of two more on a shelf of one, both fold as they replay. On a shelf of two
the second fails, as it does replayed. -/
theorem decide_time_fold_is_replay_shelf :
    (∃ state info, shelf.rebuilder.rebuild
        (some (shelf.dispatch.replayed (shelf.add 1) [shelf.added, shelf.added])) = .ok (state, info) ∧
      shelf.rebuilder.encode_state state = .ok none) ∧
    ∃ error j page cause, shelf.dispatch.dispatch (shelf.add 2) = .err error ∧ 1 ≤ j ∧
      error = page_fold_error .Emitted page "/shop.Shelf" cause ∧
      ∀ n > j, shelf.rebuilder.rebuild
        (some (shelf.dispatch.replayed (shelf.add 2) ([shelf.added, shelf.added].take n))) =
          .err (page_fold_error .Persisted page "/shop.Shelf" cause) := by
  have hpieces : shelf.rebuilder.FoldsInPieces := .of_appliers rfl
  have hcover (n : Nat) : CarriesCover (shelf.add n) := by
    intro book hbook
    obtain rfl := Option.some.inj hbook
    rfl
  have hfits := shelf.dispatch.decide_time_fold_is_replay hpieces (shelf.add 1) (hcover 1)
  have hfull := shelf.dispatch.decide_time_fold_is_replay hpieces (shelf.add 2) (hcover 2)
  refine ⟨hfits.1 ⟨[shelf.added, shelf.added], none, ""⟩ rfl, ?_⟩
  let last : Turn Nat := ⟨[shelf.added], .of [shelf.added], 3⟩
  have hpasses : shelf.dispatch.Passes (shelf.add 2) (.Command shelf.adds) last :=
    ⟨_, 2, _, ⟨rfl, _, rfl⟩, rfl, .single (.continued rfl rfl rfl)⟩
  obtain ⟨hdispatch, j, page, cause, hj, _, herror, _, hfails⟩ :=
    hfull.2 rfl (.Command shelf.adds) last 3 _ hpasses rfl
  exact ⟨_, j, page, cause, hdispatch, hj, herror, hfails⟩

end angzarr_router.domain
