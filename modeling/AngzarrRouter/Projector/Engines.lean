import AngzarrRouter.Declared
import AngzarrRouter.Projector
import AngzarrRouter.Rebuild.Failures

open calls calls.MutCall
open angzarr_router.error angzarr_router.rebuild

namespace angzarr_router.projector

variable {P : Type}

/-- A handler's error boxed, as an applier answers it. -/
def boxed : HandlerError → BoxError
  | .Coded error => .Coded error
  | .Other text => .Other text

/-- One set of folds given to both engines: each call of the one comes back as
the same call of the other, their errors boxed. -/
structure SameFolds (projector : ProjectorDispatch P) (rebuilder : Rebuilder P) : Prop where
  factory : rebuilder.factory () = projector.factory ()
  declared : rebuilder.state_type_url = projector.projection_type_url
  per_type : ∀ full_name : String, Option.Rel
    (fun (applier : ApplierFn P) (thunk : EventFn P) => ∀ projection event ctx,
      applier projection event ctx = (thunk projection event ctx).map_err boxed)
    rebuilder.appliers[full_name]? projector.handlers[full_name]?
  batched : Option.Rel
    (fun (fold : FoldFn P) (batch : BatchFoldFn P) => ∀ projection pages cover,
      fold projection pages (some cover) = batch projection pages cover)
    rebuilder.fold projector.fold

section

variable [AngzarrProto]

/-- Whatever the finisher, the projector's answer to a run is its finish step on
the state a rebuild of the run comes to, or the rebuild's error. A fold that
panics is answered by both as the failed fold it is. -/
structure EnginesAgree (projector : ProjectorDispatch P) (rebuilder : Rebuilder P)
    (book : pb.EventBook) : Prop where
  answers : ∀ finish, { projector with finish }.dispatch { events := some book } =
    rebuilder.rebuild (some { book with snapshot := none }) >>= fun folded =>
      { projector with finish }.answer folded.1 book
  panics : ∀ start error, rebuilder.factory () = .ok start →
    rebuilder.PanicsOn start book.pages book.cover .Persisted error →
    rebuilder.rebuild (some { book with snapshot := none }) = .err error ∧
      ∀ finish, { projector with finish }.dispatch { events := some book } = .err error

/-- A handler that fails as an applier does is answered as one. -/
theorem fold_handler_eq_run_applier {applier : ApplierFn P} {thunk : EventFn P}
    (hsame : ∀ projection event ctx,
      applier projection event ctx = (thunk projection event ctx).map_err boxed)
    (projection : P) (event : Any) (ctx : PageContext) :
    fold_handler (thunk projection event ctx) = run_applier applier projection event ctx := by
  unfold fold_handler run_applier
  rw [hsame]
  obtain ⟨next, ⟨⟩ | ⟨error | text⟩ | _⟩ := thunk projection event ctx
  · rfl
  · rfl
  · rfl
  · rfl

variable {projector : ProjectorDispatch P} {rebuilder : Rebuilder P}

/-- One page folds the same through both engines. -/
theorem SameFolds.fold_event_eq (hsame : SameFolds projector rebuilder) (cover : pb.Cover)
    (projection : P) (page : pb.EventPage) :
    projector.fold_event cover projection page =
      (rebuilder.visit (some cover) projection page).map_err (rebuilder.name_failure .Persisted) := by
  unfold ProjectorDispatch.fold_event Rebuilder.visit Rebuilder.applier_of
  cases hevent : page_event page with
  | none => rfl
  | some event =>
    have htype := hsame.per_type (type_name_from_url event.type_url)
    simp only [Option.bind_some]
    cases happlier : rebuilder.appliers[type_name_from_url event.type_url]? with
    | none =>
      cases hthunk : projector.handlers[type_name_from_url event.type_url]? with
      | none => rfl
      | some thunk =>
        rw [happlier, hthunk] at htype
        cases htype
    | some applier =>
      cases hthunk : projector.handlers[type_name_from_url event.type_url]? with
      | none =>
        rw [happlier, hthunk] at htype
        cases htype
      | some thunk =>
        rw [happlier, hthunk] at htype
        cases htype with
        | some heach =>
          simp only [Option.map_some, fold_handler_eq_run_applier heach]
          obtain ⟨next, ⟨⟩ | cause | _⟩ := run_applier applier projection event _
          · rfl
          · simp [Rebuilder.name_failure, hsame.declared]
          · rfl

/-- A run folds the same through both engines' per-type folds. -/
theorem SameFolds.fold_run_eq_replay (hsame : SameFolds projector rebuilder)
    (hfold : rebuilder.fold = none) (book : pb.EventBook) {cover : pb.Cover}
    (hconsumed : projector.consumed cover = true) (projection : P) :
    projector.fold_run book cover projection =
      rebuilder.apply_pages projection book.pages (some cover) .Persisted := by
  have hnone : projector.fold = none := by
    have hbatched := hsame.batched
    rw [hfold] at hbatched
    cases hbatch : projector.fold with
    | none => rfl
    | some batch =>
      rw [hbatch] at hbatched
      cases hbatched
  have hbody : projector.fold_event cover = fun projection page =>
      (rebuilder.visit (some cover) projection page).map_err (rebuilder.name_failure .Persisted) := by
    funext projection page
    exact hsame.fold_event_eq cover projection page
  rw [rebuilder.apply_pages_eq_replay hfold, Rebuilder.replay, ← for_each_map_err]
  simp only [ProjectorDispatch.fold_run, hconsumed, hnone, hbody]

/-- Through batched folds it does, unless the projector's panics: the rebuilder
answers that as a failure, the projector not at all. -/
theorem SameFolds.fold_run_eq_batch (hsame : SameFolds projector rebuilder)
    {batch : BatchFoldFn P} (hbatch : projector.fold = some batch) (book : pb.EventBook)
    {cover : pb.Cover} (hconsumed : projector.consumed cover = true) (projection : P)
    (hback : book.pages ≠ [] → (batch projection book.pages cover).2 ≠ .panic) :
    projector.fold_run book cover projection =
      rebuilder.apply_pages projection book.pages (some cover) .Persisted := by
  have hbatched := hsame.batched
  cases hfold : rebuilder.fold with
  | none =>
    rw [hfold, hbatch] at hbatched
    cases hbatched
  | some fold =>
    rw [hfold, hbatch] at hbatched
    cases hbatched with
    | some heach =>
      simp only [ProjectorDispatch.fold_run, hconsumed, hbatch, Rebuilder.apply_pages, hfold]
      by_cases hempty : book.pages = []
      · simp [hempty]
      · have hcame := hback hempty
        rw [← heach] at hcame ⊢
        simp only [List.isEmpty_iff, hempty, if_false, run_fold, hsame.declared]
        rcases hcall : fold projection book.pages (some cover) with ⟨next, ⟨⟩ | failure | _⟩
        · rfl
        · rfl
        · simp [hcall] at hcame

/-- Where the projector's batched fold comes back, its folded run is the
rebuild's of the same pages. -/
theorem SameFolds.fold_run_eq (hsame : SameFolds projector rebuilder) (book : pb.EventBook)
    {cover : pb.Cover} (hconsumed : projector.consumed cover = true) {projection : P}
    (hback : ∀ batch, projector.fold = some batch → book.pages ≠ [] →
      (batch projection book.pages cover).2 ≠ .panic) :
    projector.fold_run book cover projection =
      rebuilder.apply_pages projection book.pages (some cover) .Persisted := by
  cases hbatch : projector.fold with
  | some batch => exact hsame.fold_run_eq_batch hbatch book hconsumed _ (hback batch hbatch)
  | none =>
    have hbatched := hsame.batched
    have hfold : rebuilder.fold = none := by
      cases hfold : rebuilder.fold with
      | none => rfl
      | some fold =>
        rw [hfold, hbatch] at hbatched
        cases hbatched
    exact hsame.fold_run_eq_replay hfold book hconsumed _

theorem ProjectorDispatch.dispatch_eq (projector : ProjectorDispatch P) {book : pb.EventBook}
    {cover : pb.Cover} (hcover : book.cover = some cover) :
    projector.dispatch { events := some book } =
      ((projector.factory ()).map_err Empty.elim >>= fun projection =>
        (projector.fold_run book cover projection).owned >>= fun folded =>
          projector.answer folded.1 book) := by
  simp only [dispatch, Option.getD_some, hcover]

/-- A run that comes back is answered as its rebuild is. -/
theorem SameFolds.dispatch_eq_rebuild (hsame : SameFolds projector rebuilder) {book : pb.EventBook}
    {cover : pb.Cover} (hcover : book.cover = some cover)
    (hconsumed : projector.consumed cover = true)
    (hback : ∀ batch start, projector.fold = some batch → projector.factory () = .ok start →
      book.pages ≠ [] → (batch start book.pages cover).2 ≠ .panic) (finish : Option (FinishFn P)) :
    { projector with finish }.dispatch { events := some book } =
      rebuilder.rebuild (some { book with snapshot := none }) >>= fun folded =>
        { projector with finish }.answer folded.1 book := by
  have hdispatch : { projector with finish }.dispatch { events := some book } =
      ((projector.factory ()).map_err Empty.elim >>= fun projection =>
        (projector.fold_run book cover projection).owned >>= fun folded =>
          { projector with finish }.answer folded.1 book) :=
    ProjectorDispatch.dispatch_eq _ hcover
  rw [hdispatch]
  cases hfactory : projector.factory () with
  | err impossible => exact impossible.elim
  | panic => rw [(rebuilder.rebuild_eq_panic_iff _).mpr (hsame.factory.trans hfactory)]; rfl
  | ok start =>
    have hstart : rebuilder.StartsFrom { book with snapshot := none } start :=
      hsame.factory.trans hfactory
    have hrun := hsame.fold_run_eq book hconsumed fun batch hbatch => hback batch start hbatch hfactory
    have hrebuild := rebuilder.rebuild_state_eq_apply_pages { book with snapshot := none } hstart
    rw [Outcome.map_err_ok, Outcome.ok_bind, hrun, ← hcover]
    calc ((rebuilder.apply_pages start book.pages book.cover .Persisted).owned >>=
          fun folded => { projector with finish }.answer folded.1 book)
      _ = ((rebuilder.rebuild (some { book with snapshot := none })).map (·.1) >>= fun state =>
            { projector with finish }.answer state book) := by
        rw [hrebuild, Outcome.map_bind]
      _ = (rebuilder.rebuild (some { book with snapshot := none }) >>= fun folded =>
            { projector with finish }.answer folded.1 book) := Outcome.map_bind ..

/-- The two engines agree on a run exactly when the projector's own call of its
batched fold does not panic: the rebuilder answers that panic as a failed fold,
the projector unwinds. -/
theorem engines_agree_iff (hsame : SameFolds projector rebuilder) {book : pb.EventBook}
    {cover : pb.Cover} (hcover : book.cover = some cover)
    (hconsumed : projector.consumed cover = true) :
    EnginesAgree projector rebuilder book ↔
      ∀ batch start, projector.fold = some batch → projector.factory () = .ok start →
        book.pages ≠ [] → (batch start book.pages cover).2 ≠ .panic := by
  constructor
  · intro hagree batch start hbatch hfactory hpages hpanic
    have hunwinds : { projector with finish := none }.dispatch { events := some book } = .panic := by
      have hfold : projector.fold_run book cover start =
          (batch start book.pages cover).map_err fun failure =>
            fold_error .Persisted book.pages failure projector.projection_type_url := by
        simp only [ProjectorDispatch.fold_run, hconsumed, hbatch, List.isEmpty_iff, hpages, if_false]
      rw [ProjectorDispatch.dispatch_eq _ hcover, hfactory, Outcome.map_err_ok, Outcome.ok_bind,
        Outcome.bind_eq_panic_iff, owned_eq_panic_iff]
      left
      exact (congrArg Prod.snd hfold).trans (Outcome.map_err_eq_panic_iff.mpr hpanic)
    rw [hagree.answers none, Outcome.bind_eq_panic_iff] at hunwinds
    obtain hrebuild | ⟨folded, _, hanswer⟩ := hunwinds
    · rw [rebuilder.rebuild_eq_panic_iff, hsame.factory, hfactory] at hrebuild
      cases hrebuild
    · exact ProjectorDispatch.answer_ne_panic _ _ _ hanswer
  · intro hback
    have hanswers := hsame.dispatch_eq_rebuild hcover hconsumed hback
    refine ⟨hanswers, fun start error hfactory hpanics => ?_⟩
    obtain ⟨last, hpages⟩ := hpanics.apply_pages_eq
    have hstart : rebuilder.StartsFrom { book with snapshot := none } start := hfactory
    have hrebuild : rebuilder.rebuild (some { book with snapshot := none }) = .err error :=
      rebuilder.rebuild_of_apply_pages_err hstart hpages
    refine ⟨hrebuild, fun finish => ?_⟩
    rw [hanswers finish, hrebuild, Outcome.err_bind]

end

namespace tally

/-- Counts pages, up to two at a time. -/
def batch : BatchFoldFn Nat := fun count pages _ =>
  if pages.length < 3 then (count + pages.length, .ok ()) else (count, .panic)

def table : ProjectorDispatch Nat :=
  ((ProjectorDispatch.new fun _ => .ok 0).with_projection_type "shop.Tally").with_fold batch

def rebuilder : Rebuilder Nat :=
  ((Rebuilder.new fun _ => .ok 0).with_state_type "shop.Tally").with_fold fun count pages cover =>
    batch count pages (cover.getD .default)

theorem same_folds : SameFolds table rebuilder where
  factory := rfl
  declared := rfl
  per_type := fun full_name => by
    simp [table, rebuilder, ProjectorDispatch.new, ProjectorDispatch.with_projection_type,
      ProjectorDispatch.with_fold, Rebuilder.new, Rebuilder.with_state_type, Rebuilder.with_fold]
  batched := .some fun _ _ _ => rfl

/-- A run of `n` pages. -/
def run (n : Nat) : pb.EventBook where
  cover := some .default
  snapshot := none
  pages := (List.range n).map fun i =>
    { body := some (.Event { type_url := "/shop.Added", value := [] })
      event_meta := none
      sequence := UInt64.ofNat i }
  next_sequence := UInt64.ofNat n

end tally

open declared

theorem engines_agree_tally : EnginesAgree tally.table tally.rebuilder (tally.run 2) := by
  have hcover : (tally.run 2).cover = some .default := rfl
  refine (engines_agree_iff tally.same_folds hcover rfl).mpr ?_
  intro batch start hbatch hfactory _
  obtain rfl := Option.some.inj hbatch
  obtain rfl := Outcome.ok.inj hfactory
  decide

/-- Three pages at once are a failed fold to the rebuilder, and an unwinding
to the projector. -/
theorem engines_disagree_tally :
    tally.rebuilder.rebuild (some (tally.run 3)) = .err (.fold_failed .FoldFailed (.Range 0 2)
      "/shop.Tally" (some panicked_cause)) ∧
    tally.table.dispatch { events := some (tally.run 3) } = .panic ∧
    ¬ EnginesAgree tally.table tally.rebuilder (tally.run 3) := by
  have hrebuild : tally.rebuilder.rebuild (some (tally.run 3)) =
      .err (.fold_failed .FoldFailed (.Range 0 2) "/shop.Tally" (some panicked_cause)) := rfl
  have hdispatch : tally.table.dispatch { events := some (tally.run 3) } = .panic := rfl
  refine ⟨hrebuild, hdispatch, fun hagree => ?_⟩
  have hanswer : tally.table.dispatch { events := some (tally.run 3) } =
      tally.rebuilder.rebuild (some (tally.run 3)) >>= fun folded =>
        tally.table.answer folded.1 (tally.run 3) := hagree.answers none
  rw [hdispatch, hrebuild] at hanswer
  cases hanswer

end angzarr_router.projector
