import AngzarrRouter.Rebuild

open calls calls.MutCall
open angzarr_router.error

namespace angzarr_router.rebuild

variable {S : Type}

/-- A page's domain event with the applier registered for its type. -/
def Rebuilder.applier_of (self : Rebuilder S) (page : pb.EventPage) : Option (Any × ApplierFn S) :=
  (page_event page).bind fun event =>
    (self.appliers[type_name_from_url event.type_url]?).map fun thunk => (event, thunk)

/-- Whether a page folds into state: it carries a domain event whose type has
an applier. -/
def Rebuilder.folds (self : Rebuilder S) (page : pb.EventPage) : Bool := (self.applier_of page).isSome

variable [AngzarrProto]

/-- What one page does to state through its applier, before anything names its
failure: the page, with the applier's own cause. -/
def Rebuilder.visit (self : Rebuilder S) (cover : Option pb.Cover) (state : S)
    (page : pb.EventPage) : MutCall S (pb.EventPage × Option pb.Diagnostic) Unit :=
  match self.applier_of page with
  | none => (state, .ok ())
  | some (event, thunk) =>
    (run_applier thunk state event
      { cover, sequence := page.sequence, event_meta := page.event_meta }).map_err
        fun cause => (page, cause)

/-- The meaning of folding pages through per-type appliers, wherever the pages
come from: each visited in order, up to the first that fails. -/
def Rebuilder.replay (self : Rebuilder S) (cover : Option pb.Cover) (state : S)
    (pages : List pb.EventPage) : MutCall S (pb.EventPage × Option pb.Diagnostic) Unit :=
  for_each (self.visit cover) state pages

/-- The name `origin` gives a page's failure. -/
def Rebuilder.name_failure (self : Rebuilder S) (origin : PageOrigin)
    (failure : pb.EventPage × Option pb.Diagnostic) : CodedError :=
  page_fold_error origin failure.1 self.state_type_url failure.2

/-- An applier's panic is caught. -/
theorem run_applier_ne_panic (thunk : ApplierFn S) (state : S) (event : Any) (ctx : PageContext) :
    (run_applier thunk state event ctx).2 ≠ .panic := by
  unfold run_applier
  rcases thunk state event ctx with ⟨next, ⟨⟩ | error | _⟩ <;> simp

/-- So is a batched fold's. -/
theorem run_fold_ne_panic (fold : FoldFn S) (state : S) (pages : List pb.EventPage)
    (cover : Option pb.Cover) : (run_fold fold state pages cover).2 ≠ .panic := by
  unfold run_fold
  rcases fold state pages cover with ⟨next, ⟨⟩ | failure | _⟩ <;> simp

namespace Rebuilder

/-- A page nothing folds leaves state as it was. -/
theorem visit_of_not_folds (self : Rebuilder S) (cover : Option pb.Cover) (state : S)
    {page : pb.EventPage} (hskip : self.folds page = false) :
    self.visit cover state page = (state, .ok ()) := by
  have hnone : self.applier_of page = none := by simpa [folds] using hskip
  simp only [visit, hnone]

/-- So no page unwinds. -/
theorem visit_ne_panic (self : Rebuilder S) (cover : Option pb.Cover) (state : S)
    (page : pb.EventPage) : (self.visit cover state page).2 ≠ .panic := by
  unfold visit
  split
  · simp
  · rename_i event thunk _
    simpa [MutCall.map_err, Outcome.map_err_eq_panic_iff] using
      run_applier_ne_panic thunk state event _

theorem replay_ne_panic (self : Rebuilder S) (cover : Option pb.Cover) (state : S)
    (pages : List pb.EventPage) : (self.replay cover state pages).2 ≠ .panic :=
  for_each_ne_panic (self.visit_ne_panic cover) state pages

/-- A replay is one of the front and then of the back. -/
theorem replay_append (self : Rebuilder S) (cover : Option pb.Cover) (state : S)
    (front back : List pb.EventPage) :
    self.replay cover state (front ++ back) =
      (self.replay cover state front).andThen fun state _ => self.replay cover state back :=
  for_each_append _ state front back

/-- A visit's failure names the page it visits. -/
theorem page_of_visit_err (self : Rebuilder S) {cover : Option pb.Cover} {state last : S}
    {page : pb.EventPage} {failure : pb.EventPage × Option pb.Diagnostic}
    (hvisit : self.visit cover state page = (last, .err failure)) : failure.1 = page := by
  unfold visit at hvisit
  split at hvisit
  · simp at hvisit
  · obtain ⟨_, herror⟩ := Prod.mk.inj hvisit
    obtain ⟨cause, _, rfl⟩ := Outcome.map_err_eq_err_iff.mp herror
    rfl

/-- A replay that fails does so at one page, every page before it folded. -/
theorem replay_eq_err_iff (self : Rebuilder S) {cover : Option pb.Cover} {state last : S}
    {pages : List pb.EventPage} {failure : pb.EventPage × Option pb.Diagnostic} :
    self.replay cover state pages = (last, .err failure) ↔
      ∃ front back before, pages = front ++ failure.1 :: back ∧
        self.replay cover state front = (before, .ok ()) ∧
        self.visit cover before failure.1 = (last, .err failure) := by
  unfold replay
  rw [for_each_eq_err_iff]
  constructor
  · rintro ⟨front, page, back, before, hpages, hfront, hvisit⟩
    obtain rfl := self.page_of_visit_err hvisit
    exact ⟨front, back, before, hpages, hfront, hvisit⟩
  · rintro ⟨front, back, before, hpages, hfront, hvisit⟩
    exact ⟨front, failure.1, back, before, hpages, hfront, hvisit⟩

/-- Pages nothing folds are invisible to a replay. -/
theorem replay_filter_folds (self : Rebuilder S) (cover : Option pb.Cover) (state : S)
    (pages : List pb.EventPage) :
    self.replay cover state (pages.filter self.folds) = self.replay cover state pages :=
  for_each_filter _ self.folds (fun state _ => self.visit_of_not_folds cover state) state pages

/-- With per-type appliers a single page folds as its visit does: its failure
named by where the page came from, its success saying whether it folds. -/
theorem fold_page_eq_visit (self : Rebuilder S) (hfold : self.fold = none) (state : S)
    (page : pb.EventPage) (cover : Option pb.Cover) (origin : PageOrigin) :
    self.fold_page state page cover origin =
      ((self.visit cover state page).map_err (self.name_failure origin)).andThen
        fun state _ => (state, .ok (self.folds page)) := by
  unfold fold_page visit folds applier_of
  rw [hfold]
  cases hevent : page_event page with
  | none => rfl
  | some event =>
    cases hthunk : self.appliers[type_name_from_url event.type_url]? with
    | none => simp only [hthunk, Option.bind_some, Option.map_none, map_err_ok, andThen_ok,
        Option.isSome_none]
    | some thunk =>
      simp only [hthunk, Option.bind_some, Option.map_some, Option.isSome_some]
      rcases run_applier thunk state event _ with ⟨next, ⟨⟩ | cause | _⟩ <;> rfl

/-- Page-by-page folding is a replay whose failure is named by its origin. -/
theorem apply_pages_eq_replay (self : Rebuilder S) (hfold : self.fold = none) (state : S)
    (pages : List pb.EventPage) (cover : Option pb.Cover) (origin : PageOrigin) :
    self.apply_pages state pages cover origin =
      (self.replay cover state pages).map_err (self.name_failure origin) := by
  unfold apply_pages replay
  simp only [hfold]
  rw [← for_each_map_err]
  congr 1
  funext state page
  rw [self.fold_page_eq_visit hfold]
  rcases self.visit cover state page with ⟨next, ⟨⟩ | failure | _⟩ <;> rfl

/-- Under appliers, pages are applied as they are replayed. -/
theorem apply_pages_eq_ok_iff_of_appliers (self : Rebuilder S) (hfold : self.fold = none)
    {state last : S} {pages : List pb.EventPage} {cover : Option pb.Cover} {origin : PageOrigin} :
    self.apply_pages state pages cover origin = (last, .ok ()) ↔
      self.replay cover state pages = (last, .ok ()) := by
  rw [self.apply_pages_eq_replay hfold]
  obtain ⟨next, ⟨⟩ | failure | _⟩ := self.replay cover state pages <;> simp

theorem apply_pages_eq_err_iff_of_appliers (self : Rebuilder S) (hfold : self.fold = none)
    {state last : S} {pages : List pb.EventPage} {cover : Option pb.Cover} {origin : PageOrigin}
    {error : CodedError} :
    self.apply_pages state pages cover origin = (last, .err error) ↔
      ∃ page cause, self.replay cover state pages = (last, .err (page, cause)) ∧
        error = page_fold_error origin page self.state_type_url cause := by
  rw [self.apply_pages_eq_replay hfold]
  obtain ⟨next, ⟨⟩ | ⟨page, cause⟩ | _⟩ := self.replay cover state pages
  · simp
  · simp [name_failure, eq_comm]
  · simp

/-- One pass of `rebuild`'s loop visits the page, and counts it when it folds. -/
theorem rebuild_page_eq_visit (self : Rebuilder S) (cover : Option pb.Cover) (state : S)
    (info : RebuildInfo) (page : pb.EventPage) :
    self.rebuild_page cover (state, info) page =
      match self.visit cover state page with
      | (state, .ok ()) =>
        let count := if self.folds page then info.applied_count + 1 else info.applied_count
        ((state, { info with applied_count := count }), .ok ())
      | (state, .err failure) => ((state, info), .err (self.name_failure .Persisted failure))
      | (state, .panic) => ((state, info), .panic) := by
  unfold rebuild_page visit folds applier_of
  cases hevent : page_event page with
  | none => rfl
  | some event =>
    cases hthunk : self.appliers[type_name_from_url event.type_url]? with
    | none => simp only [hthunk, Option.bind_some, Option.map_none, Option.isSome_none,
        Bool.false_eq_true, if_false]
    | some thunk =>
      simp only [hthunk, Option.bind_some, Option.map_some, Option.isSome_some, if_true]
      rcases run_applier thunk state event _ with ⟨next, ⟨⟩ | cause | _⟩ <;> rfl

/-- `rebuild`'s own page loop is a replay that also counts the pages that fold. -/
theorem rebuild_loop_eq_replay (self : Rebuilder S) (cover : Option pb.Cover) (state : S)
    (info : RebuildInfo) (pages : List pb.EventPage) :
    (for_each (self.rebuild_page cover) (state, info) pages).owned.map (·.1) =
      ((self.replay cover state pages).map_err (self.name_failure .Persisted)).owned.map
        fun folded => (folded.1,
          { info with applied_count := info.applied_count + pages.countP self.folds }) := by
  induction pages generalizing state info with
  | nil => rfl
  | cons page rest ih =>
    unfold replay at ih ⊢
    rw [for_each_cons, for_each_cons, self.rebuild_page_eq_visit, List.countP_cons]
    rcases self.visit cover state page with ⟨next, ⟨⟩ | failure | _⟩
    · simp only [andThen_ok]
      rw [ih]
      congr 1
      funext folded
      by_cases hfolds : self.folds page = true
      · simp only [hfolds, if_true, Nat.add_assoc, Nat.add_comm 1]
      · simp only [hfolds, Bool.false_eq_true, if_false, Nat.add_zero]
    · rfl
    · rfl

/-- Folding the pages of a book never unwinds into the caller. -/
theorem apply_pages_ne_panic (self : Rebuilder S) (state : S) (pages : List pb.EventPage)
    (cover : Option pb.Cover) (origin : PageOrigin) :
    (self.apply_pages state pages cover origin).2 ≠ .panic := by
  cases hfold : self.fold with
  | none =>
    rw [self.apply_pages_eq_replay hfold]
    simpa [MutCall.map_err, Outcome.map_err_eq_panic_iff] using
      self.replay_ne_panic cover state pages
  | some fold =>
    unfold apply_pages
    simp only [hfold]
    split
    · simp
    · rcases hrun : run_fold fold state pages cover with ⟨next, ⟨⟩ | failure | _⟩
      · simp
      · simp
      · exact absurd (congrArg Prod.snd hrun) (run_fold_ne_panic fold state pages cover)

/-- Only the factory's panic goes through: the codec's is caught. -/
theorem starting_state_eq_panic_iff (self : Rebuilder S) (book : pb.EventBook) :
    self.starting_state book = .panic ↔ self.factory () = .panic := by
  rw [starting_state, Outcome.bind_eq_panic_iff, fresh_eq_panic_iff, or_iff_left]
  rintro ⟨state, _, hcarried⟩
  revert hcarried
  split
  · split
    · split <;> simp
    · simp
  · simp

/-- A fold that comes back leaves the same state wherever its pages came from. -/
theorem apply_pages_ok_origin (self : Rebuilder S) {state last : S} {pages : List pb.EventPage}
    {cover : Option pb.Cover} {origin : PageOrigin} (origin' : PageOrigin)
    (hpages : self.apply_pages state pages cover origin = (last, .ok ())) :
    self.apply_pages state pages cover origin' = (last, .ok ()) := by
  cases hfold : self.fold with
  | none =>
    rw [self.apply_pages_eq_replay hfold] at hpages ⊢
    rcases hreplay : self.replay cover state pages with ⟨next, ⟨⟩ | failure | _⟩
    · simpa [hreplay] using hpages
    · simp [hreplay] at hpages
    · simp [hreplay] at hpages
  | some fold =>
    unfold apply_pages at hpages ⊢
    simp only [hfold] at hpages ⊢
    split
    · rename_i hempty
      simpa [hempty] using hpages
    · rename_i hempty
      simp only [hempty, Bool.false_eq_true, if_false] at hpages
      rcases hrun : run_fold fold state pages cover with ⟨next, ⟨⟩ | failure | _⟩ <;>
        simp_all

end Rebuilder

end angzarr_router.rebuild
