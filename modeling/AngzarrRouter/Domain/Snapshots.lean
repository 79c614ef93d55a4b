import AngzarrRouter.Calls.Checkpoint
import AngzarrRouter.Domain.Replayed

open calls calls.MutCall
open angzarr_router.error angzarr_router.context angzarr_router.rebuild

namespace angzarr_router.domain

variable {S : Type}

/-- What a coordinator keeps of one stream: its log, and each state it was
answered, with the number of events the log held then. -/
structure Stream where
  log : List pb.EventPage
  answered : List (Nat × Any)

namespace Stream

def empty : Stream := { log := [], answered := [] }

/-- The whole log, delivered. -/
def whole (self : Stream) (cover : pb.Cover) : pb.EventBook :=
  { cover := some cover
    snapshot := none
    pages := self.log
    next_sequence := UInt64.ofNat self.log.length }

/-- A snapshot taken at `k` events, delivered with the pages from there on. -/
def resumed (self : Stream) (cover : pb.Cover) (k : Nat) (snapshot : pb.Snapshot) : pb.EventBook :=
  { self.whole cover with
    snapshot := some snapshot
    pages := self.log.drop k }

/-- How a coordinator may deliver a stream: whole, or from any state it was
answered with a first event recorded, at whatever sequence and version the
snapshot names. -/
inductive Delivers (stream : Stream) (cover : pb.Cover) : pb.EventBook → Prop where
  | whole : Delivers stream cover (stream.whole cover)
  | resumed {k : Nat} {state : Any} {snapshot : pb.Snapshot}
      (hanswered : (k, state) ∈ stream.answered) (hk : 1 ≤ k)
      (hstate : snapshot.state = some state) : Delivers stream cover (stream.resumed cover k snapshot)

/-- An answer recorded: its events numbered on from the head and stamped with
their metadata, its state kept with the log's new length. -/
def record (self : Stream) (event_meta : pb.EventMeta) (resp : hpb.HandleResponse) : Stream :=
  let log := self.log ++ stamped event_meta resp.events (UInt64.ofNat self.log.length)
  { log, answered := (resp.state.map fun state => (log.length, state)).toList ++ self.answered }

end Stream

/-- A request whose history is delivered as `book`. -/
def delivered (req : hpb.HandleRequest) (book : pb.EventBook) : hpb.HandleRequest :=
  { req with history := some book }

namespace DomainDispatch

section

variable [AngzarrProto] [BuildProfile]

/-- One input of a run: delivered in any of the ways the stream allows, and
recorded when it is answered. -/
inductive Records (table : DomainDispatch S) (cover : pb.Cover) : Stream → Stream → Prop where
  | answered {stream : Stream} {req : hpb.HandleRequest} {book : pb.EventBook}
      {resp : hpb.HandleResponse} (hdelivers : stream.Delivers cover book)
      (hok : table.dispatch (delivered req book) = .ok resp) :
      Records table cover stream
        (stream.record ((command_context req).event_meta table.rules_version) resp)
  | failed {stream : Stream} {req : hpb.HandleRequest} {book : pb.EventBook} {error : CodedError}
      (hdelivers : stream.Delivers cover book)
      (herr : table.dispatch (delivered req book) = .err error) : Records table cover stream stream

/-- The streams runs from an empty log reach. -/
abbrev Reachable (self : DomainDispatch S) (cover : pb.Cover) : Stream → Prop :=
  Relation.ReflTransGen (self.Records cover) .empty

/-- Every state a stream was answered is the encoding of what its log replays to
as far as the log went then. -/
def Faithful (self : DomainDispatch S) (codec : StateCodec S) (cover : pb.Cover) (stream : Stream) :
    Prop :=
  ∀ k state, (k, state) ∈ stream.answered → ∃ start replayed,
    self.rebuilder.factory () = .ok start ∧
      Checkpoint (self.rebuilder.visit (some cover)) start stream.log k replayed ∧
      codec.encode replayed = .ok state

omit [BuildProfile] in
theorem rebuild_whole (self : DomainDispatch S) (hfold : self.rebuilder.fold = none)
    (cover : pb.Cover) (stream : Stream) {start : S} (hfactory : self.rebuilder.factory () = .ok start) :
    (self.rebuilder.rebuild (some (stream.whole cover))).map (·.1) =
      ((self.rebuilder.replay (some cover) start stream.log).map_err
        (self.rebuilder.name_failure .Persisted)).owned.map (·.1) := by
  have hstart : self.rebuilder.StartsFrom (stream.whole cover) start := hfactory
  rw [self.rebuilder.rebuild_state_eq_apply_pages _ hstart,
    self.rebuilder.apply_pages_eq_replay hfold]
  rfl

omit [BuildProfile] in
/-- A snapshot of a state the stream was answered rebuilds as the whole log. -/
theorem rebuild_of_delivers (self : DomainDispatch S) (hfold : self.rebuilder.fold = none)
    {codec : StateCodec S} (hcodec : self.rebuilder.codec = some codec)
    (hround : ∀ state encoded, codec.encode state = .ok encoded → codec.decode encoded = .ok state)
    {cover : pb.Cover} {stream : Stream} (hfaithful : self.Faithful codec cover stream)
    {book : pb.EventBook} (hdelivers : stream.Delivers cover book) :
    (self.rebuilder.rebuild (some book)).map (·.1) =
      (self.rebuilder.rebuild (some (stream.whole cover))).map (·.1) := by
  cases hdelivers with
  | whole => rfl
  | @resumed k state snapshot hanswered hk hstate =>
    obtain ⟨start, replayed, hfactory, hcheck, hencode⟩ := hfaithful k state hanswered
    have hstart : self.rebuilder.StartsFrom (stream.resumed cover k snapshot) replayed := by
      simp only [Rebuilder.StartsFrom, Stream.resumed, Option.bind_some, hstate, hcodec]
      exact ⟨⟨start, hfactory⟩, hround replayed state hencode⟩
    rw [self.rebuild_whole hfold cover stream hfactory, self.rebuilder.rebuild_state_eq_apply_pages _ hstart,
      self.rebuilder.apply_pages_eq_replay hfold]
    have hresume : self.rebuilder.replay (some cover) replayed (stream.log.drop k) =
        self.rebuilder.replay (some cover) start stream.log := hcheck.resume
    rw [← hresume]
    rfl

omit [AngzarrProto] [BuildProfile] in
/-- A handler is told the same of every delivery: the same next sequence, and of
prior events whenever there are any. -/
theorem command_context_of_delivers {cover : pb.Cover} {stream : Stream} {book : pb.EventBook}
    (hwithin : ∀ k state, (k, state) ∈ stream.answered → k ≤ stream.log.length)
    (hdelivers : stream.Delivers cover book) (req : hpb.HandleRequest) :
    command_context (delivered req book) = command_context (delivered req (stream.whole cover)) := by
  cases hdelivers with
  | whole => rfl
  | @resumed k state snapshot hanswered hk _ =>
    have hlength := hwithin k state hanswered
    have hprior : stream.log ≠ [] := by
      intro hnil
      rw [hnil, List.length_nil] at hlength
      omega
    have hpages : stream.log.isEmpty = false := by simpa using hprior
    simp [command_context, delivered, Stream.resumed, Stream.whole, angzarr_router.next_sequence,
      hpages]

theorem dispatch_of_delivers (self : DomainDispatch S) (hfold : self.rebuilder.fold = none)
    {codec : StateCodec S} (hcodec : self.rebuilder.codec = some codec)
    (hround : ∀ state encoded, codec.encode state = .ok encoded → codec.decode encoded = .ok state)
    {cover : pb.Cover} {stream : Stream} (hfaithful : self.Faithful codec cover stream)
    {book : pb.EventBook} (hdelivers : stream.Delivers cover book) (req : hpb.HandleRequest) :
    self.dispatch (delivered req book) = self.dispatch (delivered req (stream.whole cover)) := by
  have hwithin : ∀ k state, (k, state) ∈ stream.answered → k ≤ stream.log.length := by
    intro k state hanswered
    obtain ⟨_, _, _, hcheck, _⟩ := hfaithful k state hanswered
    exact hcheck.within
  have hctx := command_context_of_delivers hwithin hdelivers req
  have hcover : decision_cover (delivered req book) =
      decision_cover (delivered req (stream.whole cover)) := by
    cases hdelivers <;> rfl
  exact self.dispatch_congr rfl
    (self.rebuild_of_delivers hfold hcodec hround hfaithful hdelivers) hctx hcover

/-- A decision answered on the whole log leaves the state the recorded log
replays to. -/
theorem replay_of_recorded (self : DomainDispatch S) (hfold : self.rebuilder.fold = none)
    {cover : pb.Cover} {stream : Stream} {req : hpb.HandleRequest} {resp : hpb.HandleResponse}
    (hok : self.dispatch (delivered req (stream.whole cover)) = .ok resp) :
    ∃ start state, self.rebuilder.factory () = .ok start ∧
      self.rebuilder.replay (some cover) start
        (stream.record ((command_context req).event_meta self.rules_version) resp).log =
          (state, .ok ()) ∧
      self.rebuilder.encode_state state = .ok resp.state := by
  have hcover : CarriesCover (delivered req (stream.whole cover)) := by
    intro book hbook
    obtain rfl := Option.some.inj hbook
    rfl
  obtain ⟨start, state, hfrom, hread, hencode⟩ :=
    self.readsBack_of_dispatch_ok (.of_appliers hfold) hcover hok
  have hfactory : self.rebuilder.factory () = .ok start := by
    simpa [Rebuilder.StartsFrom, replayed, delivered, Stream.whole] using hfrom []
  exact ⟨start, state, hfactory, (self.rebuilder.apply_pages_eq_ok_iff_of_appliers hfold).mp hread, hencode⟩

/-- Recording an answer keeps a stream faithful. -/
theorem Faithful.records (self : DomainDispatch S) (hfold : self.rebuilder.fold = none)
    {codec : StateCodec S} (hcodec : self.rebuilder.codec = some codec)
    (hround : ∀ state encoded, codec.encode state = .ok encoded → codec.decode encoded = .ok state)
    {cover : pb.Cover} {stream after : Stream} (hfaithful : self.Faithful codec cover stream)
    (hstep : self.Records cover stream after) : self.Faithful codec cover after := by
  cases hstep with
  | failed => exact hfaithful
  | @answered req book resp hdelivers hok =>
    rw [self.dispatch_of_delivers hfold hcodec hround hfaithful hdelivers req] at hok
    obtain ⟨start, replayed, hfactory, hreplay, hencode⟩ := self.replay_of_recorded hfold hok
    intro k state hanswered
    obtain hnew | hold := List.mem_append.mp hanswered
    · -- The new state, at the new head.
      rw [Option.mem_toList, Option.map_eq_some_iff] at hnew
      obtain ⟨encoded, hstate, hentry⟩ := hnew
      obtain ⟨rfl, rfl⟩ := Prod.mk.inj hentry
      rw [Rebuilder.encode_state, hcodec, hstate, Outcome.map_eq_ok_iff] at hencode
      obtain ⟨printed, hprint, hsome⟩ := hencode
      obtain rfl := Option.some.inj hsome
      exact ⟨start, replayed, hfactory, Checkpoint.all hreplay, hprint⟩
    · obtain ⟨start, earlier, hfactory, hcheck, hprint⟩ := hfaithful k state hold
      exact ⟨start, earlier, hfactory, hcheck.append _, hprint⟩

theorem faithful_of_reachable (self : DomainDispatch S) (hfold : self.rebuilder.fold = none)
    {codec : StateCodec S} (hcodec : self.rebuilder.codec = some codec)
    (hround : ∀ state encoded, codec.encode state = .ok encoded → codec.decode encoded = .ok state)
    {cover : pb.Cover} {stream : Stream} (hreach : self.Reachable cover stream) :
    self.Faithful codec cover stream := by
  induction hreach with
  | refl =>
    intro k state hanswered
    cases hanswered
  | tail _ hstep ih => exact ih.records self hfold hcodec hround hstep

/-- Snapshots are transparent. On any stream a run from an empty log reaches,
whatever was delivered on the way and however it was answered, a request is
answered the same from the whole log as from any state the stream was answered
and the pages since. And a state that is answered is the encoding of what the
log, its answer recorded, rebuilds to. -/
theorem snapshots_are_transparent (self : DomainDispatch S) (hfold : self.rebuilder.fold = none)
    {codec : StateCodec S} (hcodec : self.rebuilder.codec = some codec)
    (hround : ∀ state encoded, codec.encode state = .ok encoded → codec.decode encoded = .ok state)
    {cover : pb.Cover} {stream : Stream} (hreach : self.Reachable cover stream)
    (req : hpb.HandleRequest) {book : pb.EventBook} (hdelivers : stream.Delivers cover book) :
    self.dispatch (delivered req book) = self.dispatch (delivered req (stream.whole cover)) ∧
    ∀ resp, self.dispatch (delivered req book) = .ok resp → ∃ state info,
      self.rebuilder.rebuild (some
        ((stream.record ((command_context req).event_meta self.rules_version) resp).whole cover)) =
          .ok (state, info) ∧
      self.rebuilder.encode_state state = .ok resp.state := by
  have hfaithful := self.faithful_of_reachable hfold hcodec hround hreach
  have hsame := self.dispatch_of_delivers hfold hcodec hround hfaithful hdelivers req
  refine ⟨hsame, fun resp hok => ?_⟩
  rw [hsame] at hok
  obtain ⟨start, state, hfactory, hreplay, hencode⟩ := self.replay_of_recorded hfold hok
  have hstart : self.rebuilder.StartsFrom
      ((stream.record ((command_context req).event_meta self.rules_version) resp).whole cover)
      start := hfactory
  obtain ⟨info, hrebuild⟩ := self.rebuilder.rebuild_of_apply_pages_ok hstart
    ((self.rebuilder.apply_pages_eq_ok_iff_of_appliers hfold).mpr hreplay)
  exact ⟨state, info, hrebuild, hencode⟩

end

end DomainDispatch

open DomainDispatch declared

/-- The shelf with a codec: as many ones as there are things on it. -/
def shelf.saved : DomainDispatch Nat :=
  let decode : DecodeFn Nat := fun saved => .ok saved.value.length
  let encode : EncodeFn Nat := fun count =>
    .ok { type_url := "/shop.Shelf", value := List.replicate count 1 }
  (DomainDispatch.new (shelf.rebuilder.with_state_codec decode encode)).on_command "shop.Add"
    fun _ _ _ => .ok (.of [shelf.added])

/-- After one `Add`, the next is answered alike from the one page and from the
state saved with it. -/
theorem snapshots_are_transparent_shelf :
    ∃ stream : Stream, shelf.saved.Reachable shelf.cover stream ∧ stream.log.length = 1 ∧
      ∃ snapshot, shelf.saved.dispatch
          (delivered (shelf.add 0) (stream.resumed shelf.cover 1 snapshot)) =
        shelf.saved.dispatch (delivered (shelf.add 0) (stream.whole shelf.cover)) := by
  let saved (count : Nat) : Any := { type_url := "/shop.Shelf", value := List.replicate count 1 }
  let resp : hpb.HandleResponse :=
    { events := [shelf.added], state := some (saved 1), rules_version := "" }
  let stream : Stream :=
    Stream.empty.record ((command_context (shelf.add 0)).event_meta "") resp
  have hstep : shelf.saved.Records shelf.cover .empty stream := .answered .whole rfl
  have hreach : shelf.saved.Reachable shelf.cover stream := .single hstep
  let snapshot : pb.Snapshot := { sequence := 7, state := some (saved 1), rules_version := "old" }
  have hdelivers : stream.Delivers shelf.cover (stream.resumed shelf.cover 1 snapshot) :=
    .resumed (List.mem_cons_self ..) (Nat.le_refl 1) rfl
  have hround : ∀ state encoded, Outcome.ok (saved state) = (.ok encoded : Outcome Empty Any) →
      (.ok encoded.value.length : Outcome BoxError Nat) = .ok state := by
    intro state encoded hencode
    obtain rfl := Outcome.ok.inj hencode
    rw [List.length_replicate]
  exact ⟨stream, hreach, rfl, snapshot, (shelf.saved.snapshots_are_transparent rfl rfl hround hreach
    (shelf.add 0) hdelivers).1⟩

end angzarr_router.domain
