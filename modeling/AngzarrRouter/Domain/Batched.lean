import AngzarrRouter.Calls.Indexed
import AngzarrRouter.Domain.Swapped

open calls calls.MutCall
open angzarr_router.error angzarr_router.context angzarr_router.rebuild

namespace angzarr_router

variable {S : Type}

namespace rebuild.Rebuilder

variable [AngzarrProto]

/-- A batched fold that runs the appliers itself, one page after another: its
failure names its page by index, with the cause the applier's call comes to. -/
def page_by_page (self : Rebuilder S) : FoldFn S := fun state pages cover =>
  (for_each_at (fun state page => (self.visit cover state page).map_err (·.2)) 0 state pages).map_err
    fun failure => { page_index := some failure.1, cause := failure.2 }

/-- Two rebuilders start from the same states and fold pages alike. -/
structure FoldsAs (one other : Rebuilder S) : Prop where
  factory : one.factory = other.factory
  codec : one.codec = other.codec
  state_type_url : one.state_type_url = other.state_type_url
  apply_pages : ∀ state pages cover origin,
    one.apply_pages state pages cover origin = other.apply_pages state pages cover origin

/-- A visit's failure, named beside its page, is named as it is by itself. -/
theorem visit_map_err_page (self : Rebuilder S) (origin : PageOrigin) (cover : Option pb.Cover)
    (state : S) (page : pb.EventPage) :
    ((self.visit cover state page).map_err (·.2)).map_err
        (fun cause => page_fold_error origin page self.state_type_url cause) =
      (self.visit cover state page).map_err (self.name_failure origin) := by
  rcases hvisit : self.visit cover state page with ⟨next, ⟨⟩ | failure | _⟩
  · rfl
  · have hpage := self.page_of_visit_err hvisit
    rw [MutCall.map_err_err, MutCall.map_err_err, MutCall.map_err_err, name_failure, hpage]
  · rfl

/-- A fold named by the index of its page is named as its page is. -/
theorem page_by_page_eq_replay (self : Rebuilder S) (origin : PageOrigin) (state : S)
    (pages : List pb.EventPage) (cover : Option pb.Cover) :
    (self.page_by_page state pages cover).map_err
        (fun failure => fold_error origin pages failure self.state_type_url) =
      (self.replay cover state pages).map_err (self.name_failure origin) := by
  have hplace : ∀ index (page : pb.EventPage) cause, ([] ++ pages)[index]? = some page →
      fold_error origin pages { page_index := some index, cause } self.state_type_url =
        page_fold_error origin page self.state_type_url cause := by
    intro index page cause hpage
    rw [List.nil_append] at hpage
    simp only [fold_error, Option.bind_some, hpage]
  have hnamed : (for_each_at (fun state page => (self.visit cover state page).map_err (·.2)) 0 state
      pages).map_err (fun failure =>
        fold_error origin pages { page_index := some failure.1, cause := failure.2 }
          self.state_type_url) =
      for_each (fun state page => ((self.visit cover state page).map_err (·.2)).map_err
        (fun cause => page_fold_error origin page self.state_type_url cause)) state pages :=
    @for_each_at_map_err S _ _ pb.EventPage _ _ _ [] pages hplace state
  simp only [visit_map_err_page, for_each_map_err] at hnamed
  rw [replay, ← hnamed, page_by_page]
  exact MutCall.map_err_map_err ..

/-- It answers the panics of its appliers, so that none is left to answer. -/
theorem run_fold_page_by_page (self : Rebuilder S) (state : S) (pages : List pb.EventPage)
    (cover : Option pb.Cover) :
    run_fold self.page_by_page state pages cover = self.page_by_page state pages cover := by
  have hcomes : (self.page_by_page state pages cover).2 ≠ .panic := by
    intro hpanic
    have hnamed := congrArg Prod.snd (self.page_by_page_eq_replay .Persisted state pages cover)
    rw [MutCall.map_err, MutCall.map_err, hpanic, Outcome.map_err_panic, eq_comm,
      Outcome.map_err_eq_panic_iff] at hnamed
    exact self.replay_ne_panic cover state pages hnamed
  unfold run_fold
  rcases hrun : self.page_by_page state pages cover with ⟨last, ⟨⟩ | failure | _⟩
  · rfl
  · rfl
  · exact absurd (congrArg Prod.snd hrun) hcomes

/-- A batched fold that comes to what running the appliers page by page comes
to folds as they do. -/
theorem with_fold_foldsAs (self : Rebuilder S) {fold : FoldFn S} (hfold : self.fold = none)
    (hsame : ∀ state pages cover, pages ≠ [] →
      run_fold fold state pages cover = self.page_by_page state pages cover) :
    (self.with_fold fold).FoldsAs self where
  factory := rfl
  codec := rfl
  state_type_url := rfl
  apply_pages state pages cover origin := by
    rw [self.apply_pages_eq_replay hfold, ← self.page_by_page_eq_replay]
    by_cases hpages : pages = []
    · subst hpages
      rfl
    have hsome : pages.isEmpty = false := by simpa using hpages
    rw [← hsame state pages cover hpages]
    simp only [Rebuilder.apply_pages, with_fold, hsome, Bool.false_eq_true, if_false]
    rcases run_fold fold state pages cover with ⟨last, ⟨⟩ | failure | _⟩ <;> rfl

variable {one other : Rebuilder S}

theorem FoldsAs.starting_state_eq (hsame : one.FoldsAs other) (book : pb.EventBook) :
    one.starting_state book = other.starting_state book := by
  unfold starting_state fresh
  rw [hsame.factory, hsame.codec, hsame.state_type_url]

theorem FoldsAs.encode_state_eq (hsame : one.FoldsAs other) (state : S) :
    one.encode_state state = other.encode_state state := by
  unfold encode_state
  rw [hsame.codec]

/-- They rebuild alike, though they may not count alike. -/
theorem FoldsAs.rebuild_eq (hsame : one.FoldsAs other) (book : Option pb.EventBook) :
    (one.rebuild book).map (·.1) = (other.rebuild book).map (·.1) := by
  cases book with
  | none => simp only [rebuild, fresh, hsame.factory]
  | some book =>
    cases hstart : other.starting_state book with
    | ok start =>
      rw [one.rebuild_state_eq_apply_pages book
          ((one.starting_state_eq_ok_iff book start).mp ((hsame.starting_state_eq book).trans hstart)),
        other.rebuild_state_eq_apply_pages book ((other.starting_state_eq_ok_iff book start).mp hstart),
        hsame.apply_pages]
    | err error =>
      rw [other.rebuild_of_starting_state_err hstart,
        one.rebuild_of_starting_state_err ((hsame.starting_state_eq book).trans hstart)]
    | panic =>
      rw [other.rebuild_of_starting_state_panic hstart,
        one.rebuild_of_starting_state_panic ((hsame.starting_state_eq book).trans hstart)]

end rebuild.Rebuilder

namespace domain.DomainDispatch

variable [AngzarrProto] [BuildProfile]

section

variable {self : DomainDispatch S} {rebuilder : Rebuilder S} (hsame : rebuilder.FoldsAs self.rebuilder)

include hsame

/-- Rebuilders that fold alike are one to every request. -/
theorem dispatch_eq_of_foldsAs (req : hpb.HandleRequest) :
    ({ self with rebuilder } : DomainDispatch S).dispatch req = self.dispatch req := by
  have hemits : self.EmitsOnly fun _ => True := fun _ _ _ _ _ _ emit _ => .of_forall (by simp) emit
  refine (dispatch_swapped ?_ hemits hsame.encode_state_eq rfl rfl rfl Eq.refl ?_).eq
  · intro state events cover start event_meta _
    unfold Rebuilder.apply_emitted
    simp only [hsame.apply_pages]
  · rw [hsame.rebuild_eq]
    exact .refl Eq.refl _

end

/-- A batched fold is an optimisation and no more. One that comes, on every batch
it can be handed, to what running the appliers page by page comes to, its
failures naming their page by index, is not to be told from the appliers: every
request is answered the same, its history folded in one call and each step of
its decision in one more, down to the page, the key and the cause of every
failing fold; and every book rebuilds to the same state or error. -/
theorem batched_fold_is_unseen (self : DomainDispatch S) {fold : FoldFn S}
    (happliers : self.rebuilder.fold = none)
    (hsame : ∀ state pages cover, pages ≠ [] →
      run_fold fold state pages cover = self.rebuilder.page_by_page state pages cover) :
    (∀ req, ({ self with rebuilder := self.rebuilder.with_fold fold } : DomainDispatch S).dispatch req =
      self.dispatch req) ∧
    ∀ book, ((self.rebuilder.with_fold fold).rebuild book).map (·.1) =
      (self.rebuilder.rebuild book).map (·.1) := by
  have hfolds := self.rebuilder.with_fold_foldsAs happliers hsame
  exact ⟨dispatch_eq_of_foldsAs hfolds, hfolds.rebuild_eq⟩

end domain.DomainDispatch

namespace domain

open declared

/-- Of two more on a shelf of two, the second fails to fold, batched or not. -/
theorem batched_fold_is_unseen_shelf :
    ({ shelf.dispatch with
        rebuilder := shelf.rebuilder.with_fold shelf.rebuilder.page_by_page } :
          DomainDispatch Nat).dispatch (shelf.add 2) =
      .err (.fold_failed .FoldFailedEmitted (.Page 3 "/shop.Added") "/shop.Shelf" none) := by
  have hsame : ∀ state pages cover, pages ≠ [] →
      run_fold shelf.rebuilder.page_by_page state pages cover =
        shelf.rebuilder.page_by_page state pages cover :=
    fun state pages cover _ => shelf.rebuilder.run_fold_page_by_page state pages cover
  exact (shelf.dispatch.batched_fold_is_unseen rfl hsame).1 (shelf.add 2)

end domain

end angzarr_router
