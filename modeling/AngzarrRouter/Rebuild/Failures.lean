import AngzarrRouter.Rebuild.Pages

open calls calls.MutCall
open angzarr_router.error

namespace angzarr_router.rebuild

variable {S : Type} [AngzarrProto]

/-- An error of the rebuilder's own making: a fold that failed, with at most its
failure flattened in as the cause, or a starting state that is corrupt. -/
inductive Rebuilder.Raises (self : Rebuilder S) : CodedError → Prop where
  | folding (origin : PageOrigin) (place : FoldAt) (cause : Option pb.Diagnostic) :
      Raises self (.fold_failed origin.reason place self.state_type_url cause)
  | corrupt (type_url : String) : Raises self (.persisted_corrupt type_url)

/-- The error a fold of `pages` that panics is to be answered with: it names the
page whose applier panicked, or the range of the batch that did. -/
inductive Rebuilder.PanicsOn (self : Rebuilder S) (state : S) (pages : List pb.EventPage)
    (cover : Option pb.Cover) (origin : PageOrigin) : CodedError → Prop where
  | applier {front back : List pb.EventPage} {page : pb.EventPage} {before : S} {event : Any}
      {thunk : ApplierFn S} (hfold : self.fold = none) (hpages : pages = front ++ page :: back)
      (hfront : self.apply_pages state front cover origin = (before, .ok ()))
      (happlier : self.applier_of page = some (event, thunk))
      (hpanic : (thunk before event
        { cover, sequence := page.sequence, event_meta := page.event_meta }).2 = .panic) :
      PanicsOn self state pages cover origin
        (page_fold_error origin page self.state_type_url (some panicked_cause))
  | batched {fold : FoldFn S} {first last : pb.EventPage} (hfold : self.fold = some fold)
      (hfirst : pages.head? = some first) (hlast : pages.getLast? = some last)
      (hpanic : (fold state pages cover).2 = .panic) :
      PanicsOn self state pages cover origin (.fold_failed origin.reason
        (.Range first.sequence last.sequence) self.state_type_url (some panicked_cause))

/-- A page's failure is a failed fold at some place. -/
theorem page_fold_error_eq_fold_failed (origin : PageOrigin) (page : pb.EventPage)
    (state_type_url : String) (cause : Option pb.Diagnostic) :
    ∃ place, page_fold_error origin page state_type_url cause =
      .fold_failed origin.reason place state_type_url cause := by
  cases hevent : page_event page with
  | none => exact ⟨.Page page.sequence "", by simp only [page_fold_error, hevent]⟩
  | some event => exact ⟨.Page page.sequence event.type_url, by simp only [page_fold_error, hevent]⟩

/-- And so is a batch's. -/
theorem fold_error_eq_fold_failed (origin : PageOrigin) (pages : List pb.EventPage)
    (failure : FoldFailure) (state_type_url : String) :
    ∃ place, fold_error origin pages failure state_type_url =
      .fold_failed origin.reason place state_type_url failure.cause := by
  unfold fold_error
  split
  · exact page_fold_error_eq_fold_failed ..
  · exact ⟨_, rfl⟩

namespace Rebuilder

/-- What fails the folding of pages is raised. -/
theorem raises_of_apply_pages_err (self : Rebuilder S) {state last : S} {pages : List pb.EventPage}
    {cover : Option pb.Cover} {origin : PageOrigin} {error : CodedError}
    (hpages : self.apply_pages state pages cover origin = (last, .err error)) :
    self.Raises error := by
  cases hfold : self.fold with
  | none =>
    obtain ⟨page, cause, _, rfl⟩ := (self.apply_pages_eq_err_iff_of_appliers hfold).mp hpages
    obtain ⟨place, herror⟩ :=
      page_fold_error_eq_fold_failed origin page self.state_type_url cause
    rw [herror]
    exact .folding origin place cause
  | some fold =>
    simp only [apply_pages, hfold] at hpages
    split at hpages
    · simp at hpages
    · rcases hrun : run_fold fold state pages cover with ⟨next, ⟨⟩ | failure | _⟩
      · simp [hrun] at hpages
      · obtain ⟨place, herror⟩ := fold_error_eq_fold_failed origin pages failure self.state_type_url
        simp only [hrun, Prod.mk.injEq, Outcome.err.injEq] at hpages
        rw [← hpages.2, herror]
        exact .folding origin place failure.cause
      · simp [hrun] at hpages

/-- And that is what it is answered with. -/
theorem PanicsOn.apply_pages_eq {self : Rebuilder S} {state : S} {pages : List pb.EventPage}
    {cover : Option pb.Cover} {origin : PageOrigin} {error : CodedError}
    (hpanics : self.PanicsOn state pages cover origin error) :
    ∃ last, self.apply_pages state pages cover origin = (last, .err error) := by
  cases hpanics with
  | @applier front back page before event thunk hfold hpages hfront happlier hpanic =>
    obtain ⟨last, hvisit⟩ : ∃ last,
        self.visit cover before page = (last, .err (page, some panicked_cause)) := by
      refine ⟨(thunk before event
        { cover, sequence := page.sequence, event_meta := page.event_meta }).1, ?_⟩
      simp only [visit, happlier, run_applier, hpanic, Outcome.catch_unwind_panic, map_err_err]
    have hreplay : self.replay cover state pages = (last, .err (page, some panicked_cause)) :=
      self.replay_eq_err_iff.mpr ⟨front, back, before, hpages,
        (self.apply_pages_eq_ok_iff_of_appliers hfold).mp hfront, hvisit⟩
    exact ⟨last, (self.apply_pages_eq_err_iff_of_appliers hfold).mpr ⟨page, _, hreplay, rfl⟩⟩
  | @batched fold first last hfold hfirst hlast hpanic =>
    have hsome : pages.isEmpty = false := by
      cases pages with
      | nil => cases hfirst
      | cons page rest => rfl
    refine ⟨(fold state pages cover).1, ?_⟩
    simp only [apply_pages, hfold, hsome, Bool.false_eq_true, if_false, run_fold, hpanic,
      Outcome.catch_unwind_panic, fold_error, Option.bind_none, hfirst, hlast, Option.elim_some]

/-- So is what fails a starting state. -/
theorem raises_of_starting_state_err (self : Rebuilder S) {book : pb.EventBook} {error : CodedError}
    (hstart : self.starting_state book = .err error) : self.Raises error := by
  rw [starting_state, Outcome.bind_eq_err_iff, or_iff_right (self.fresh_ne_err error)] at hstart
  obtain ⟨_, _, hstart⟩ := hstart
  split at hstart
  · split at hstart
    · split at hstart
      · cases hstart
      · cases hstart
        exact .corrupt _
      · cases hstart
        exact .folding .Persisted _ _
    · cases hstart
  · cases hstart

/-- A rebuild fails with an error of its own making, whatever its callbacks
fail with. -/
theorem raises_of_rebuild_err (self : Rebuilder S) {book : Option pb.EventBook} {error : CodedError}
    (hrebuild : self.rebuild book = .err error) : self.Raises error := by
  cases book with
  | none =>
    rw [rebuild] at hrebuild
    cases hfresh : self.fresh with
    | ok state => simp [hfresh] at hrebuild
    | err failure => exact absurd hfresh (self.fresh_ne_err failure)
    | panic => simp [hfresh] at hrebuild
  | some book =>
    cases hstart : self.starting_state book with
    | ok start =>
      have hstate := self.rebuild_state_eq_apply_pages book
        ((self.starting_state_eq_ok_iff book start).mp hstart)
      rw [hrebuild, Outcome.map_error] at hstate
      cases hpages : self.apply_pages start book.pages book.cover .Persisted with
      | mk last result =>
        cases result with
        | ok => simp [hpages] at hstate
        | err failure =>
          simp only [hpages, owned_err, Outcome.map_error, Outcome.err.injEq] at hstate
          rw [hstate]
          exact self.raises_of_apply_pages_err hpages
        | panic => simp [hpages] at hstate
    | err failure =>
      rw [self.rebuild_of_starting_state_err hstart, Outcome.err.injEq] at hrebuild
      rw [← hrebuild]
      exact self.raises_of_starting_state_err hstart
    | panic =>
      rw [self.rebuild_of_starting_state_panic hstart] at hrebuild
      cases hrebuild

end Rebuilder

end angzarr_router.rebuild
