import AngzarrRouter.Domain.Replayed
import AngzarrRouter.Projector

open calls calls.MutCall
open angzarr_router.error angzarr_router.context angzarr_router.rebuild
open angzarr_router.domain angzarr_router.projector

namespace angzarr_router

/-- Books that differ, at most, in pages nothing folds: any number of them more
or fewer, wherever they stand. -/
structure SameFolded (folds : pb.EventPage → Bool) (left right : pb.EventBook) : Prop where
  cover : left.cover = right.cover
  pages : left.pages.filter folds = right.pages.filter folds

/-- A book a handler is told of as prior events: a page, whatever it carries, or
a snapshot. -/
def HasPrior (book : pb.EventBook) : Prop := book.pages ≠ [] ∨ book.snapshot.isSome

theorem hasPrior_iff (book : pb.EventBook) :
    HasPrior book ↔ (!book.pages.isEmpty || book.snapshot.isSome) = true := by
  simp [HasPrior]

section

variable [AngzarrProto]

namespace rebuild.Rebuilder

variable {S : Type} (self : Rebuilder S)

/-- Books that differ in nothing folded replay alike. -/
theorem replay_sameFolded {left right : pb.EventBook} (hsame : SameFolded self.folds left right)
    (cover : Option pb.Cover) (state : S) :
    self.replay cover state left.pages = self.replay cover state right.pages := by
  rw [← self.replay_filter_folds, hsame.pages, self.replay_filter_folds]

theorem starting_state_congr {left right : pb.EventBook} (hsnapshot : left.snapshot = right.snapshot) :
    self.starting_state left = self.starting_state right := by
  simp only [starting_state, hsnapshot]

/-- Books that differ in nothing folded rebuild alike: to the same state and
count, or to the same error. -/
theorem rebuild_sameFolded (hfold : self.fold = none) {left right : pb.EventBook}
    (hsame : SameFolded self.folds left right) (hsnapshot : left.snapshot = right.snapshot) :
    (self.rebuild (some left)).map (fun rebuilt => (rebuilt.1, rebuilt.2.applied_count)) =
      (self.rebuild (some right)).map fun rebuilt => (rebuilt.1, rebuilt.2.applied_count) := by
  have hstarts := self.starting_state_congr hsnapshot
  cases hstart : self.starting_state left with
  | ok start =>
    have hleft := (self.starting_state_eq_ok_iff left start).mp hstart
    have hright := (self.starting_state_eq_ok_iff right start).mp (hstarts ▸ hstart)
    have hcount : left.pages.countP self.folds = right.pages.countP self.folds := by
      rw [List.countP_eq_length_filter, List.countP_eq_length_filter, hsame.pages]
    rw [self.rebuild_eq_replay hfold left hleft, self.rebuild_eq_replay hfold right hright,
      hsame.cover, self.replay_sameFolded hsame, hcount]
    obtain ⟨last, ⟨⟩ | failure | _⟩ := self.replay right.cover start right.pages <;> rfl
  | err error =>
    rw [self.rebuild_of_starting_state_err hstart,
      self.rebuild_of_starting_state_err (hstarts ▸ hstart)]
  | panic =>
    rw [self.rebuild_of_starting_state_panic hstart,
      self.rebuild_of_starting_state_panic (hstarts ▸ hstart)]

theorem had_prior_events_of_rebuild (hfold : self.fold = none) {book : pb.EventBook} {state : S}
    {info : RebuildInfo} (hrebuild : self.rebuild (some book) = .ok (state, info)) :
    info.had_prior_events = (!book.pages.isEmpty || book.snapshot.isSome) := by
  cases hstart : self.starting_state book with
  | ok start =>
    have hfrom := (self.starting_state_eq_ok_iff book start).mp hstart
    rw [self.rebuild_eq_replay hfold book hfrom, Outcome.map_eq_ok_iff] at hrebuild
    obtain ⟨folded, _, hfolded⟩ := hrebuild
    rw [← (Prod.mk.inj hfolded).2]
  | err error =>
    rw [self.rebuild_of_starting_state_err hstart] at hrebuild
    cases hrebuild
  | panic =>
    rw [self.rebuild_of_starting_state_panic hstart] at hrebuild
    cases hrebuild

/-- They are told apart by nothing once both are prior events. -/
theorem rebuild_eq_of_sameFolded (hfold : self.fold = none) {left right : pb.EventBook}
    (hsame : SameFolded self.folds left right) (hsnapshot : left.snapshot = right.snapshot)
    (hleft : HasPrior left) (hright : HasPrior right) :
    self.rebuild (some left) = self.rebuild (some right) := by
  have hrebuilt := self.rebuild_sameFolded hfold hsame hsnapshot
  rw [hasPrior_iff] at hleft hright
  cases hl : self.rebuild (some left) with
  | ok rebuilt =>
    obtain ⟨state, prior, count⟩ := rebuilt
    rw [hl, Outcome.map_ok, eq_comm, Outcome.map_eq_ok_iff] at hrebuilt
    obtain ⟨⟨state', prior', count'⟩, hr, hequal⟩ := hrebuilt
    have hprior := self.had_prior_events_of_rebuild hfold hl
    have hprior' := self.had_prior_events_of_rebuild hfold hr
    rw [hleft] at hprior
    rw [hright] at hprior'
    simp only [Prod.mk.injEq] at hequal hprior hprior'
    obtain ⟨rfl, rfl⟩ := hequal
    rw [hr, hprior, hprior']
  | err error =>
    rw [hl, Outcome.map_error] at hrebuilt
    cases hr : self.rebuild (some right) with
    | ok rebuilt => simp [hr] at hrebuilt
    | err failure => simpa [hr] using hrebuilt
    | panic => simp [hr] at hrebuilt
  | panic =>
    rw [self.rebuild_eq_panic_iff] at hl
    exact ((self.rebuild_eq_panic_iff _).mpr hl).symm

/-- Rebuilding a book is rebuilding the pages of it that fold, what it counts
included. -/
theorem rebuild_filter_folds (hfold : self.fold = none) (book : pb.EventBook) :
    (self.rebuild (some { book with pages := book.pages.filter self.folds })).map
        (fun rebuilt => (rebuilt.1, rebuilt.2.applied_count)) =
      (self.rebuild (some book)).map fun rebuilt => (rebuilt.1, rebuilt.2.applied_count) := by
  refine self.rebuild_sameFolded hfold ⟨rfl, ?_⟩ rfl
  simp only [List.filter_filter, Bool.and_self]

end rebuild.Rebuilder

namespace projector.ProjectorDispatch

variable {P : Type} (self : ProjectorDispatch P)

/-- Whether a page folds into the projection: it carries a domain event whose
type has a thunk. -/
def folds (page : pb.EventPage) : Bool :=
  ((page_event page).bind fun event => self.handlers[type_name_from_url event.type_url]?).isSome

/-- A finisher that packs the projection and looks at nothing else of the run. -/
def ReadsProjection : Prop :=
  ∀ finish, self.finish = some finish →
    ∀ projection events events', finish projection events = finish projection events'

/-- A projector skips a page that nothing folds. -/
theorem fold_event_of_not_folds (cover : pb.Cover) (projection : P) {page : pb.EventPage}
    (hskip : self.folds page = false) :
    self.fold_event cover projection page = (projection, .ok ()) := by
  unfold folds at hskip
  unfold fold_event
  cases hevent : page_event page with
  | none => rfl
  | some event =>
    rw [hevent, Option.bind_some, Option.isSome_eq_false_iff, Option.isNone_iff_eq_none] at hskip
    simp only [hskip]

/-- So runs that differ in nothing folded come to one projection. -/
theorem fold_run_sameFolded (hfold : self.fold = none) {left right : pb.EventBook}
    (hsame : SameFolded self.folds left right) (cover : pb.Cover) (projection : P) :
    self.fold_run left cover projection = self.fold_run right cover projection := by
  have hskip : ∀ projection page, self.folds page = false →
      self.fold_event cover projection page = (projection, .ok ()) := by
    intro projection page hpage
    exact self.fold_event_of_not_folds cover projection hpage
  unfold fold_run
  cases hconsumed : self.consumed cover with
  | true =>
    simp only [hfold]
    rw [← for_each_filter _ self.folds hskip, hsame.pages, for_each_filter _ self.folds hskip]
  | false => rfl

theorem dispatch_sameFolded (hfold : self.fold = none) (hreads : self.ReadsProjection)
    {left right : pb.EventBook} (hsame : SameFolded self.folds left right) :
    self.dispatch { events := some left } = self.dispatch { events := some right } := by
  have hanswer (projection : P) : self.answer projection left = self.answer projection right := by
    unfold answer
    cases hfinish : self.finish with
    | none => rfl
    | some finish => simp only [hreads finish hfinish projection left right]
  simp only [dispatch, Option.getD_some, hsame.cover, self.fold_run_sameFolded hfold hsame, hanswer]

end projector.ProjectorDispatch

namespace domain.DomainDispatch

variable {S : Type} [BuildProfile] (self : DomainDispatch S)

theorem dispatch_sameFolded (hfold : self.rebuilder.fold = none) (req : hpb.HandleRequest)
    {left right : pb.EventBook} (hsame : SameFolded self.rebuilder.folds left right)
    (hsnapshot : left.snapshot = right.snapshot) (hnext : left.next_sequence = right.next_sequence)
    (hleft : HasPrior left) (hright : HasPrior right) :
    self.dispatch { req with history := some left } =
      self.dispatch { req with history := some right } := by
  have hrebuild := self.rebuilder.rebuild_eq_of_sameFolded hfold hsame hsnapshot hleft hright
  rw [hasPrior_iff] at hleft hright
  have hctx : command_context { req with history := some left } =
      command_context { req with history := some right } := by
    simp only [command_context, angzarr_router.next_sequence, hnext, Option.any_some, hleft, hright]
  have hcover : decision_cover { req with history := some left } =
      decision_cover { req with history := some right } := by
    simp only [decision_cover, Option.bind_some, hsame.cover, hctx]
  simp only [dispatch, hrebuild, hctx, hcover]

end domain.DomainDispatch

/-- Pages nothing folds are invisible. Histories that differ in them alone, both
of them prior events at one next sequence, are answered alike by a domain with
per-type appliers: the same events, state and version, or the same error. A
rebuild's state, count and error are those of the pages that fold. And runs
that differ in them alone are answered alike by a projector with per-type
folds whose finisher reads its projection only. -/
theorem pages_nothing_folds_are_invisible [BuildProfile] {S P : Type} :
    (∀ (self : DomainDispatch S) (req : hpb.HandleRequest) (left right : pb.EventBook),
      self.rebuilder.fold = none → SameFolded self.rebuilder.folds left right →
      left.snapshot = right.snapshot → left.next_sequence = right.next_sequence →
      HasPrior left → HasPrior right →
      self.dispatch { req with history := some left } =
        self.dispatch { req with history := some right }) ∧
    (∀ (self : Rebuilder S) (book : pb.EventBook), self.fold = none →
      (self.rebuild (some { book with pages := book.pages.filter self.folds })).map
          (fun rebuilt => (rebuilt.1, rebuilt.2.applied_count)) =
        (self.rebuild (some book)).map fun rebuilt => (rebuilt.1, rebuilt.2.applied_count)) ∧
    ∀ (self : ProjectorDispatch P) (left right : pb.EventBook), self.fold = none →
      self.ReadsProjection → SameFolded self.folds left right →
      self.dispatch { events := some left } = self.dispatch { events := some right } := by
  refine ⟨?_, ?_, ?_⟩
  · intro self req left right hfold hsame hsnapshot hnext hleft hright
    exact self.dispatch_sameFolded hfold req hsame hsnapshot hnext hleft hright
  · intro self book hfold
    exact self.rebuild_filter_folds hfold book
  · intro self left right hfold hreads hsame
    exact self.dispatch_sameFolded hfold hreads hsame

end

open error.declared in
/-- A shelf of one, and the same shelf with a page of another type before its
only event, a pageless one after it. -/
theorem pages_nothing_folds_are_invisible_shelf :
    let page (body : Option pb.event_page.Body) : pb.EventPage :=
      { body, event_meta := none, sequence := 0 }
    let bare : pb.EventBook :=
      { cover := some shelf.cover, snapshot := none, next_sequence := 3
        pages := [page (some (.Event shelf.added))] }
    let noisy : pb.EventBook :=
      { bare with pages :=
        [page (some (.Event { type_url := "/shop.Dusted", value := [] })),
          page (some (.Event shelf.added)), page none] }
    shelf.dispatch.dispatch { shelf.add 0 with history := some noisy } =
      shelf.dispatch.dispatch { shelf.add 0 with history := some bare } := by
  intro page bare noisy
  have hinvisible := pages_nothing_folds_are_invisible (S := Nat) (P := Unit)
  refine hinvisible.1 shelf.dispatch (shelf.add 0) noisy bare rfl ⟨rfl, ?_⟩ rfl rfl (.inl ?_)
    (.inl ?_)
  · decide
  · exact List.cons_ne_nil _ _
  · exact List.cons_ne_nil _ _

end angzarr_router
