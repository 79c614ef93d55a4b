import AngzarrRouter.Domain.Discipline

open calls calls.MutCall
open angzarr_router.error angzarr_router.context angzarr_router.rebuild

namespace angzarr_router.domain

variable {S : Type}

open DomainDispatch

/-- A codec, where there is one, reads its states back. -/
def RoundTrips (rebuilder : Rebuilder S) : Prop :=
  ∀ codec, rebuilder.codec = some codec → ∀ state encoded,
    codec.encode state = .ok encoded → codec.decode encoded = .ok state

namespace DomainDispatch

section

variable [AngzarrProto] [BuildProfile] {table : DomainDispatch S} {cover : pb.Cover}
  {stream : Stream} {book : pb.EventBook}

/-- Without a codec no state is answered, so that none is delivered. -/
theorem answered_eq_nil_of_no_codec (hcodec : table.rebuilder.codec = none)
    (hreach : table.Reachable cover stream) : stream.answered = [] := by
  induction hreach with
  | refl => rfl
  | tail _ hstep ih =>
    cases hstep with
    | failed => exact ih
    | @answered req book resp _ hok =>
      obtain ⟨_, _, state, _, _, _, _, hencode, _⟩ := table.passes_of_dispatch_ok hok
      rw [Rebuilder.encode_state, hcodec] at hencode
      obtain hstate := Outcome.ok.inj hencode
      rw [Stream.record, ← hstate, ih]
      rfl

/-- However a stream is delivered, it rebuilds as the whole log does. -/
theorem rebuild_of_reachable (hfold : table.rebuilder.fold = none)
    (hround : RoundTrips table.rebuilder) (hreach : table.Reachable cover stream)
    (hdelivers : stream.Delivers cover book) :
    (table.rebuilder.rebuild (some book)).map (·.1) =
      (table.rebuilder.rebuild (some (stream.whole cover))).map (·.1) := by
  cases hcodec : table.rebuilder.codec with
  | some codec =>
    have hfaithful := table.faithful_of_reachable hfold hcodec (hround codec hcodec) hreach
    exact table.rebuild_of_delivers hfold hcodec (hround codec hcodec) hfaithful hdelivers
  | none =>
    cases hdelivers with
    | whole => rfl
    | resumed hanswered _ _ =>
      rw [answered_eq_nil_of_no_codec hcodec hreach] at hanswered
      exact absurd hanswered List.not_mem_nil

theorem dispatch_of_reachable (hfold : table.rebuilder.fold = none)
    (hround : RoundTrips table.rebuilder) (hreach : table.Reachable cover stream)
    (hdelivers : stream.Delivers cover book) (req : hpb.HandleRequest) :
    table.dispatch (delivered req book) = table.dispatch (delivered req (stream.whole cover)) := by
  cases hcodec : table.rebuilder.codec with
  | some codec =>
    have hfaithful := table.faithful_of_reachable hfold hcodec (hround codec hcodec) hreach
    exact table.dispatch_of_delivers hfold hcodec (hround codec hcodec) hfaithful hdelivers req
  | none =>
    cases hdelivers with
    | whole => rfl
    | resumed hanswered _ _ =>
      rw [answered_eq_nil_of_no_codec hcodec hreach] at hanswered
      exact absurd hanswered List.not_mem_nil

end

end DomainDispatch

namespace Discipline

section

variable [AngzarrProto] [BuildProfile]

/-- A stream's log was recorded by the rules, and replays to a state: every page
carries an event that was legal where the log stood. -/
def Recorded (rules : Discipline S) (table : DomainDispatch S) (cover : pb.Cover)
    (stream : Stream) (state : S) : Prop :=
  ∃ start, table.rebuilder.factory () = .ok start ∧
    Trace (table.rebuilder.visit (some cover)) rules.allows start stream.log state

variable {rules : Discipline S} {table : DomainDispatch S} {cover : pb.Cover} {stream : Stream} {state : S}

omit [BuildProfile] in
/-- The record starts at the state the factory makes. -/
theorem Recorded.trace (hrecorded : rules.Recorded table cover stream state) {start : S}
    (hfactory : table.rebuilder.factory () = .ok start) :
    Trace (table.rebuilder.visit (some cover)) rules.allows start stream.log state := by
  obtain ⟨made, hmade, htrace⟩ := hrecorded
  obtain rfl := Outcome.ok.inj (hmade.symm.trans hfactory)
  exact htrace

omit [BuildProfile] in
/-- Such a log rebuilds, to a good state. -/
theorem Recorded.rebuilds (hrecorded : rules.Recorded table cover stream state)
    (hkept : rules.Kept table) (hfold : table.rebuilder.fold = none) :
    (∃ info, table.rebuilder.rebuild (some (stream.whole cover)) = .ok (state, info)) ∧
      rules.good state := by
  obtain ⟨start, hfactory, htrace⟩ := hrecorded
  have hstart : table.rebuilder.StartsFrom (stream.whole cover) start := hfactory
  exact ⟨table.rebuilder.rebuild_of_apply_pages_ok hstart
    ((table.rebuilder.apply_pages_eq_ok_iff_of_appliers hfold).mpr htrace.for_each_eq),
    good_of_trace hkept htrace (hkept.good_start hfactory)⟩

/-- An answer keeps the record: it was decided on what the log rebuilds to, and
each of its events was legal where it is appended. -/
theorem Recorded.record (hrecorded : rules.Recorded table cover stream state) (hkept : rules.Kept table)
    (hfold : table.rebuilder.fold = none) {req : hpb.HandleRequest} {resp : hpb.HandleResponse}
    (hok : table.dispatch (delivered req (stream.whole cover)) = .ok resp) :
    ∃ after, rules.Recorded table cover
      (stream.record ((command_context req).event_meta table.rules_version) resp) after := by
  obtain ⟨⟨info, hrebuild⟩, hgood⟩ := hrecorded.rebuilds hkept hfold
  obtain ⟨dispatched, turn, after, hpasses, _, hfolds, hevents, _, _⟩ :=
    table.passes_of_dispatch_ok hok
  obtain ⟨hholds, start, _, hstart, hsofar⟩ := holds_of_passes hkept hfold
    (fun state' info' hrebuild' => by
      obtain ⟨rfl, _⟩ := Prod.mk.inj (Outcome.ok.inj (hrebuild'.symm.trans hrebuild))
      exact hgood) hpasses
  obtain ⟨rfl, _⟩ := Prod.mk.inj (Outcome.ok.inj (hstart.symm.trans hrebuild))
  have hlast := (hholds.trace hkept hfold hfolds).1
  have hdecided := hsofar.append hlast
  rw [← stamped_append, ← Turn.emitted, ← hevents] at hdecided
  obtain ⟨made, hfactory, htrace⟩ := hrecorded
  exact ⟨after, made, hfactory, htrace.append hdecided⟩

/-- Every log that a run from an empty one reaches was recorded by the rules. -/
theorem recorded_of_reachable (hkept : rules.Kept table) (hfold : table.rebuilder.fold = none)
    (hround : RoundTrips table.rebuilder) (hreach : table.Reachable cover stream) :
    ∃ state, rules.Recorded table cover stream state := by
  induction hreach with
  | refl =>
    obtain ⟨start, hfactory, _⟩ := hkept.starts
    exact ⟨start, start, hfactory, .nil start⟩
  | tail hbefore hstep ih =>
    cases hstep with
    | failed => exact ih
    | @answered req book resp hdelivers hok =>
      rw [dispatch_of_reachable hfold hround hbefore hdelivers req] at hok
      obtain ⟨_, hrecorded⟩ := ih
      exact hrecorded.record hkept hfold hok

/-- Business code that keeps to a discipline keeps every log to it, where it
folds by appliers alone (no batched fold) and its codec, if it has one, reads
its states back. On any stream a run from an empty log reaches, whatever was
delivered on the way, the log rebuilds to a good state; each of its pages
carries an event that was legal in the state, itself good, which the log before
it rebuilds to; and the handler of the next request, however the stream is
delivered to it, and every continuation step of its decision are called on good
states. -/
theorem logs_are_legal (hkept : rules.Kept table) (hfold : table.rebuilder.fold = none)
    (hround : RoundTrips table.rebuilder) (hreach : table.Reachable cover stream) :
    (∃ state info, table.rebuilder.rebuild (some (stream.whole cover)) = .ok (state, info) ∧
      rules.good state) ∧
    (∀ front page back, stream.log = front ++ page :: back → ∃ start event before,
      table.rebuilder.factory () = .ok start ∧
        table.rebuilder.replay (some cover) start front = (before, .ok ()) ∧
        rules.good before ∧ page_event page = some event ∧ rules.legal before event) ∧
    ∀ req book, stream.Delivers cover book →
      (∀ dispatched any state, table.Starts (delivered req book) dispatched any state →
        rules.good state) ∧
      ∀ dispatched turn state step, table.Passes (delivered req book) dispatched turn →
        table.folds_at (delivered req book) turn = (state, .ok ()) →
          turn.emit.next = some step → rules.good state := by
  obtain ⟨state, hrecorded⟩ := recorded_of_reachable hkept hfold hround hreach
  obtain ⟨⟨info, hrebuild⟩, hgood⟩ := hrecorded.rebuilds hkept hfold
  refine ⟨⟨state, info, hrebuild, hgood⟩, ?_, ?_⟩
  · intro front page back hlog
    obtain ⟨start, hfactory, htrace⟩ := hrecorded
    rw [hlog] at htrace
    obtain ⟨before, hfront, hback⟩ := htrace.of_append
    have hbefore := good_of_trace hkept hfront (hkept.good_start hfactory)
    cases hback with
    | cons hallowed _ _ =>
      obtain ⟨event, hevent, hlegal⟩ := hallowed
      exact ⟨start, event, before, hfactory, hfront.for_each_eq, hbefore, hevent, hlegal⟩
  · intro req book hdelivers
    have hsame := rebuild_of_reachable hfold hround hreach hdelivers
    rw [hrebuild, Outcome.map_ok] at hsame
    have hrebuilt : ∀ state info, table.rebuilder.rebuild (delivered req book).history =
        .ok (state, info) → rules.good state := by
      intro state' info' hrebuild'
      obtain ⟨found, hfound, hstate⟩ := Outcome.map_eq_ok_iff.mp hsame
      obtain rfl := Outcome.ok.inj (hrebuild'.symm.trans hfound)
      rw [show state' = state from hstate]
      exact hgood
    refine ⟨fun dispatched any state' hstarts => ?_, fun dispatched turn folded step hpasses hfolds _ => ?_⟩
    · obtain ⟨_, info', hrebuild'⟩ := hstarts
      exact hrebuilt state' info' hrebuild'
    · have hholds := (holds_of_passes hkept hfold hrebuilt hpasses).1
      exact (hholds.trace hkept hfold hfolds).2.2

end

end Discipline

open declared

/-- Adds one while the shelf holds fewer than two. -/
def shelf.careful : DomainDispatch Nat :=
  (DomainDispatch.new shelf.rebuilder).on_command "shop.Add" fun _ count _ =>
    .ok (if count < 2 then .of [shelf.added] else .none)

/-- At most two on the shelf, and nothing added to two. -/
def shelf.house : Discipline Nat where
  good count := count ≤ 2
  legal count event := count < 2 ∧ event = shelf.added

theorem shelf.takes_added {count after : Nat} (htakes : Takes shelf.rebuilder count shelf.added after) :
    count < 3 ∧ after = count + 1 := by
  obtain ⟨cover, page, hevent, hvisit⟩ := htakes
  have happlier : shelf.rebuilder.applier_of page = some (shelf.added, fun count _ _ =>
      if count < 3 then (count + 1, .ok ()) else (count, .err (.Other "full"))) := by
    simp only [Rebuilder.applier_of, hevent, Option.bind_some]
    rfl
  rw [Rebuilder.visit, happlier] at hvisit
  by_cases hroom : count < 3
  · simp only [run_applier, hroom, if_true] at hvisit
    exact ⟨hroom, (Prod.mk.inj hvisit).1.symm⟩
  · simp only [run_applier, hroom, if_false] at hvisit
    cases hvisit

theorem shelf.house_kept : shelf.house.Kept shelf.careful where
  starts := ⟨0, rfl, Nat.zero_le 2⟩
  folds := by
    rintro count event after hgood ⟨hroom, rfl⟩ htakes
    obtain ⟨_, rfl⟩ := shelf.takes_added htakes
    exact hroom
  commands := by
    intro any thunk count ctx emit hthunk hgood hran
    obtain ⟨_, rfl⟩ | hnone := getElem?_on_command hthunk
    swap
    · cases hnone
    obtain rfl := Outcome.ok.inj hran
    split
    · rename_i hroom
      exact .of_one ⟨hroom, rfl⟩ fun _ _ _ => trivial
    · exact .none fun _ => trivial
  facts := by
    intro any thunk count ctx emit hthunk
    cases hthunk

/-- What one `Add` records rebuilds to at most two. -/
theorem logs_are_legal_shelf : ∃ stream : Stream, stream.log.length = 1 ∧
    ∃ state info, shelf.rebuilder.rebuild (some (stream.whole shelf.cover)) = .ok (state, info) ∧
      state ≤ 2 := by
  let resp : hpb.HandleResponse := { events := [shelf.added], state := none, rules_version := "" }
  let stream : Stream := Stream.empty.record ((command_context (shelf.add 0)).event_meta "") resp
  have hstep : shelf.careful.Records shelf.cover .empty stream := .answered .whole rfl
  have hround : RoundTrips shelf.careful.rebuilder := by
    intro codec hcodec
    cases hcodec
  exact ⟨stream, rfl, (Discipline.logs_are_legal shelf.house_kept rfl hround (.single hstep)).1⟩

end angzarr_router.domain
