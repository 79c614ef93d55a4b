import AngzarrRouter.Rebuild.Replay

open calls calls.MutCall
open angzarr_router.error

namespace angzarr_router.rebuild

variable {S : Type}

/-- The state a book's pages fold onto, once the factory has made one: the
starting state the book carries, decoded when the rebuilder has a codec, else
the factory's. -/
def Rebuilder.StartsFrom (self : Rebuilder S) (book : pb.EventBook) (start : S) : Prop :=
  match book.snapshot.bind (·.state), self.codec with
  | some carried, some codec =>
    (∃ fresh, self.factory () = .ok fresh) ∧ codec.decode carried = .ok start
  | _, _ => self.factory () = .ok start

/-- Where a book starts from some state, the factory has come back. -/
theorem Rebuilder.StartsFrom.fresh {self : Rebuilder S} {book : pb.EventBook} {start : S}
    (hstart : self.StartsFrom book start) : ∃ fresh, self.factory () = .ok fresh := by
  unfold StartsFrom at hstart
  split at hstart
  · exact hstart.1
  · exact ⟨start, hstart⟩

private theorem count_true_map (folds : pb.EventPage → Bool) (pages : List pb.EventPage) :
    (pages.map folds).count true = pages.countP folds := by
  rw [List.count, List.countP_map]
  congr 1
  funext page
  simp

variable [AngzarrProto]

/-- `apply_page` on each page in turn, with what each call reports. -/
def Rebuilder.apply_each (self : Rebuilder S) (cover : Option pb.Cover) :
    S → List pb.EventPage → MutCall S CodedError (List Bool)
  | state, [] => (state, .ok [])
  | state, page :: rest =>
    (self.apply_page state page cover).andThen fun state ran =>
      (self.apply_each cover state rest).andThen fun state reports => (state, .ok (ran :: reports))

namespace Rebuilder

theorem starting_state_eq_ok_iff (self : Rebuilder S) (book : pb.EventBook) (start : S) :
    self.starting_state book = .ok start ↔ self.StartsFrom book start := by
  rw [starting_state, Outcome.bind_eq_ok_iff]
  simp only [fresh_eq_ok_iff]
  unfold StartsFrom
  cases hsnapshot : book.snapshot with
  | none => simp
  | some snapshot =>
    cases hcodec : self.codec with
    | none => cases hstate : snapshot.state <;> simp [hstate]
    | some codec =>
      cases hstate : snapshot.state with
      | none => simp [hstate]
      | some carried =>
        simp only [Option.bind_some, hstate]
        cases codec.decode carried <;> simp

/-- A starting state the codec cannot decode is corrupt. -/
theorem starting_state_of_decode_err (self : Rebuilder S) {book : pb.EventBook}
    {snapshot : pb.Snapshot} {carried : Any} {codec : StateCodec S} {failure : BoxError}
    (hsnapshot : book.snapshot = some snapshot) (hstate : snapshot.state = some carried)
    (hcodec : self.codec = some codec) (hdecode : codec.decode carried = .err failure) :
    self.starting_state book = self.fresh >>= fun _ => .err (.persisted_corrupt carried.type_url) := by
  simp [starting_state, hsnapshot, hstate, hcodec, hdecode]

/-- One whose decode panics is a failed fold, naming the snapshot. -/
theorem starting_state_of_decode_panic (self : Rebuilder S) {book : pb.EventBook}
    {snapshot : pb.Snapshot} {carried : Any} {codec : StateCodec S}
    (hsnapshot : book.snapshot = some snapshot) (hstate : snapshot.state = some carried)
    (hcodec : self.codec = some codec) (hdecode : codec.decode carried = .panic) :
    self.starting_state book = self.fresh >>= fun _ => .err (.fold_failed .FoldFailed
      (.Page snapshot.sequence carried.type_url) self.state_type_url (some panicked_cause)) := by
  simp [starting_state, hsnapshot, hstate, hcodec, hdecode]

/-- A starting state that fails is the whole answer. -/
theorem rebuild_of_starting_state_err (self : Rebuilder S) {book : pb.EventBook}
    {error : CodedError} (hstart : self.starting_state book = .err error) :
    self.rebuild (some book) = .err error := by
  simp only [rebuild, hstart, Outcome.err_bind]

theorem rebuild_of_starting_state_panic (self : Rebuilder S) {book : pb.EventBook}
    (hstart : self.starting_state book = .panic) : self.rebuild (some book) = .panic := by
  simp only [rebuild, hstart, Outcome.panic_bind]

/-- A starting state that is an error is the whole rebuild, once the factory has
come back. -/
theorem rebuild_of_fresh_err (self : Rebuilder S) {book : pb.EventBook} {error : CodedError}
    (hstart : self.starting_state book = self.fresh >>= fun _ => .err error) :
    self.rebuild (some book) = self.fresh >>= fun _ => .err error := by
  rw [rebuild, hstart]
  cases self.fresh <;> rfl

/-- The state a rebuild through per-type appliers leaves, what it counts, or
the error it answers, in terms of the replay of the book's pages. -/
theorem rebuild_eq_replay (self : Rebuilder S) (hfold : self.fold = none) (book : pb.EventBook)
    {start : S} (hstart : self.StartsFrom book start) :
    self.rebuild (some book) =
      ((self.replay book.cover start book.pages).map_err (self.name_failure .Persisted)).owned.map
        fun folded => (folded.1,
          { had_prior_events := !book.pages.isEmpty || book.snapshot.isSome
            applied_count := book.pages.countP self.folds }) := by
  simp only [rebuild, (self.starting_state_eq_ok_iff book start).mpr hstart, Outcome.ok_bind, hfold,
    rebuild_loop_eq_replay, Nat.zero_add]

/-- The same for a batched fold, in terms of the one call it is. -/
theorem rebuild_eq_run_fold (self : Rebuilder S) {fold : FoldFn S} (hfold : self.fold = some fold)
    (book : pb.EventBook) {start : S} (hstart : self.StartsFrom book start) :
    self.rebuild (some book) =
      (self.apply_pages start book.pages book.cover .Persisted).owned.map
        fun folded => (folded.1,
          { had_prior_events := !book.pages.isEmpty || book.snapshot.isSome
            applied_count := book.pages.length }) := by
  simp only [rebuild, (self.starting_state_eq_ok_iff book start).mpr hstart, Outcome.ok_bind, hfold,
    apply_pages]
  by_cases hempty : book.pages.isEmpty = true
  · have hnil : book.pages = [] := List.isEmpty_iff.mp hempty
    simp [hnil]
  · simp only [hempty, Bool.false_eq_true, if_false]
    rcases run_fold fold start book.pages book.cover with ⟨last, ⟨⟩ | failure | _⟩ <;> rfl

/-- Rebuilding a book folds its pages as `apply_pages` does from the state they
start from, whichever way the rebuilder folds. -/
theorem rebuild_state_eq_apply_pages (self : Rebuilder S) (book : pb.EventBook) {start : S}
    (hstart : self.StartsFrom book start) :
    (self.rebuild (some book)).map (·.1) =
      (self.apply_pages start book.pages book.cover .Persisted).owned.map (·.1) := by
  cases hfold : self.fold with
  | none =>
    rw [self.rebuild_eq_replay hfold book hstart, self.apply_pages_eq_replay hfold]
    rcases self.replay book.cover start book.pages with ⟨last, ⟨⟩ | failure | _⟩ <;> rfl
  | some fold =>
    rw [self.rebuild_eq_run_fold hfold book hstart]
    rcases self.apply_pages start book.pages book.cover .Persisted with
      ⟨last, ⟨⟩ | failure | _⟩ <;> rfl

/-- From a starting state, a rebuild succeeds as its pages do. -/
theorem rebuild_of_apply_pages_ok (self : Rebuilder S) {book : pb.EventBook} {start state : S}
    (hstart : self.StartsFrom book start)
    (hpages : self.apply_pages start book.pages book.cover .Persisted = (state, .ok ())) :
    ∃ info, self.rebuild (some book) = .ok (state, info) := by
  have hstate := self.rebuild_state_eq_apply_pages book hstart
  rw [hpages, owned_ok, Outcome.map_ok, Outcome.map_eq_ok_iff] at hstate
  obtain ⟨⟨rebuilt, info⟩, hrebuild, rfl⟩ := hstate
  exact ⟨info, hrebuild⟩

/-- And it fails as they do. -/
theorem rebuild_of_apply_pages_err (self : Rebuilder S) {book : pb.EventBook} {start state : S}
    {error : CodedError} (hstart : self.StartsFrom book start)
    (hpages : self.apply_pages start book.pages book.cover .Persisted = (state, .err error)) :
    self.rebuild (some book) = .err error := by
  have hstate := self.rebuild_state_eq_apply_pages book hstart
  rw [hpages, owned_err, Outcome.map_error] at hstate
  cases hrebuild : self.rebuild (some book) with
  | ok rebuilt => simp [hrebuild] at hstate
  | err failure => simpa [hrebuild] using hstate
  | panic => simp [hrebuild] at hstate

/-- A rebuild unwinds where the factory does, and nowhere else. -/
theorem rebuild_eq_panic_iff (self : Rebuilder S) (book : Option pb.EventBook) :
    self.rebuild book = .panic ↔ self.factory () = .panic := by
  cases book with
  | none =>
    rw [rebuild, ← fresh_eq_panic_iff]
    cases self.fresh <;> simp
  | some book =>
    rw [← self.starting_state_eq_panic_iff book]
    cases hstart : self.starting_state book with
    | ok start =>
      have hstate := self.rebuild_state_eq_apply_pages book
        ((self.starting_state_eq_ok_iff book start).mp hstart)
      have hpages := self.apply_pages_ne_panic start book.pages book.cover .Persisted
      refine ⟨fun hpanic => ?_, nofun⟩
      rw [hpanic, Outcome.map_panic] at hstate
      rcases hrun : self.apply_pages start book.pages book.cover .Persisted with
        ⟨last, ⟨⟩ | failure | _⟩
      · simp [hrun] at hstate
      · simp [hrun] at hstate
      · exact absurd (congrArg Prod.snd hrun) hpages
    | err error => simp [self.rebuild_of_starting_state_err hstart]
    | panic => simp [self.rebuild_of_starting_state_panic hstart]

/-- Page-by-page reports of a run through per-type appliers say, page for page,
which of them fold. -/
theorem apply_each_eq_replay (self : Rebuilder S) (hfold : self.fold = none)
    (cover : Option pb.Cover) (state : S) (pages : List pb.EventPage) :
    self.apply_each cover state pages =
      ((self.replay cover state pages).map_err (self.name_failure .Persisted)).andThen
        fun state _ => (state, .ok (pages.map self.folds)) := by
  induction pages generalizing state with
  | nil => rfl
  | cons page rest ih =>
    unfold replay at ih ⊢
    rw [apply_each, apply_page, self.fold_page_eq_visit hfold, for_each_cons]
    rcases self.visit cover state page with ⟨next, ⟨⟩ | failure | _⟩
    · rw [MutCall.map_err_ok, andThen_ok, andThen_ok, andThen_ok, ih]
      rcases for_each (self.visit cover) next rest with ⟨last, ⟨⟩ | failure | _⟩ <;> rfl
    · rfl
    · rfl

/-- A batched fold reports that something ran for every page it folds. -/
theorem apply_page_reports_of_fold (self : Rebuilder S) {fold : FoldFn S}
    (hfold : self.fold = some fold) {state last : S} {page : pb.EventPage}
    {cover : Option pb.Cover} {ran : Bool}
    (hpage : self.apply_page state page cover = (last, .ok ran)) : ran = true := by
  unfold apply_page fold_page at hpage
  simp only [hfold] at hpage
  rcases hrun : run_fold fold state [page] cover with ⟨next, ⟨⟩ | failure | _⟩ <;>
    simp [hrun] at hpage
  exact hpage.2

/-- No book at all is one with nothing in it. -/
theorem rebuild_getD_default (self : Rebuilder S) (book : Option pb.EventBook) :
    self.rebuild book = self.rebuild (some (book.getD .default)) := by
  cases book with
  | some book => rfl
  | none =>
    cases hfresh : self.factory () with
    | ok start =>
      have hstart : self.StartsFrom .default start := hfresh
      have hnone : self.rebuild none = .ok (start, .default) := by
        rw [rebuild, fresh_eq_ok_iff.mpr hfresh, Outcome.map_ok]
      cases hfold : self.fold with
      | none =>
        rw [hnone, Option.getD_none, self.rebuild_eq_replay hfold .default hstart]
        rfl
      | some fold =>
        rw [hnone, Option.getD_none, self.rebuild_eq_run_fold hfold .default hstart]
        simp only [apply_pages, hfold]
        rfl
    | err impossible => exact impossible.elim
    | panic => rw [(self.rebuild_eq_panic_iff _).mpr hfresh, (self.rebuild_eq_panic_iff _).mpr hfresh]

/-- Through per-type appliers, a rebuild counts the pages that report a run. -/
theorem applied_count_eq_reports (self : Rebuilder S) (hfold : self.fold = none)
    {book : pb.EventBook} {start state : S} {info : RebuildInfo}
    (hstart : self.StartsFrom book start) (hok : self.rebuild (some book) = .ok (state, info)) :
    ∃ reports, self.apply_each book.cover start book.pages = (state, .ok reports) ∧
      info.applied_count = reports.count true := by
  rw [self.rebuild_eq_replay hfold book hstart] at hok
  rw [self.apply_each_eq_replay hfold]
  rcases hreplay : self.replay book.cover start book.pages with ⟨last, ⟨⟩ | failure | _⟩
  · simp only [hreplay, MutCall.map_err_ok, owned_ok, Outcome.map_ok, Outcome.ok.injEq,
      Prod.mk.injEq] at hok
    obtain ⟨rfl, rfl⟩ := hok
    exact ⟨_, rfl, (count_true_map self.folds book.pages).symm⟩
  · simp [hreplay] at hok
  · simp [hreplay] at hok

/-- Through a batched fold, it counts every page. -/
theorem applied_count_eq_length (self : Rebuilder S) {fold : FoldFn S} (hfold : self.fold = some fold)
    {book : pb.EventBook} {start state : S} {info : RebuildInfo}
    (hstart : self.StartsFrom book start) (hok : self.rebuild (some book) = .ok (state, info)) :
    info.applied_count = book.pages.length := by
  rw [self.rebuild_eq_run_fold hfold book hstart, Outcome.map_eq_ok_iff] at hok
  obtain ⟨folded, _, hfolded⟩ := hok
  rw [← (Prod.mk.inj hfolded).2]

/-- Per-type appliers fold a run of pages as its two halves, one after the
other. -/
theorem apply_pages_append (self : Rebuilder S) (hfold : self.fold = none) (state : S)
    (cover : Option pb.Cover) (origin : PageOrigin) (front back : List pb.EventPage) :
    self.apply_pages state (front ++ back) cover origin =
      (self.apply_pages state front cover origin).andThen
        fun state _ => self.apply_pages state back cover origin := by
  simp only [apply_pages, hfold]
  exact for_each_append _ state front back

/-- They fail as the first page that fails does, on what the pages before it
left. -/
theorem apply_pages_eq_err_iff_of_first (self : Rebuilder S) (hfold : self.fold = none)
    {state last : S} {cover : Option pb.Cover} {origin : PageOrigin} {pages : List pb.EventPage}
    {error : CodedError} :
    self.apply_pages state pages cover origin = (last, .err error) ↔
      ∃ front page back before, pages = front ++ page :: back ∧
        self.apply_pages state front cover origin = (before, .ok ()) ∧
        self.fold_page before page cover origin = (last, .err error) := by
  simp only [apply_pages, hfold]
  rw [for_each_eq_err_iff]
  refine exists_congr fun front => exists_congr fun page => exists_congr fun back =>
    exists_congr fun before => and_congr_right fun _ => and_congr_right fun _ => ?_
  rcases self.fold_page before page cover origin with ⟨next, ran | failure | _⟩ <;> simp

/-- `rebuild` is the starting state followed by `apply_pages`. A starting state
that does not decode, or whose decode panics, is the whole answer (of a factory
that comes back, as the factory is called first); from any other, `rebuild` and
`apply_pages` leave the same state or answer the same error, for an absent book
too. What a rebuild counts is what `apply_page`
reports: each page that ran under per-type appliers, every page under a
batched fold. Per-type folding is sequential: over `front ++ back` it is over
`front` and then over `back`, and it fails as the first page that fails does,
on the state every page before it left. -/
theorem rebuild_is_start_then_apply_pages (self : Rebuilder S) :
    (∀ book snapshot carried codec, book.snapshot = some snapshot →
      snapshot.state = some carried → self.codec = some codec →
      (∀ failure, codec.decode carried = .err failure →
        self.rebuild (some book) =
          self.fresh >>= fun _ => .err (.persisted_corrupt carried.type_url)) ∧
      (codec.decode carried = .panic →
        self.rebuild (some book) = self.fresh >>= fun _ => .err (.fold_failed .FoldFailed
          (.Page snapshot.sequence carried.type_url) self.state_type_url (some panicked_cause)))) ∧
    (∀ (book : Option pb.EventBook) (start : S), self.StartsFrom (book.getD .default) start →
      (self.rebuild book).map (·.1) =
        (self.apply_pages start (book.getD .default).pages (book.getD .default).cover
          .Persisted).owned.map (·.1) ∧
      self.rebuild book ≠ .panic ∧
      ∀ state info, self.rebuild book = .ok (state, info) →
        (self.fold = none → ∃ reports,
          self.apply_each (book.getD .default).cover start (book.getD .default).pages =
            (state, .ok reports) ∧ info.applied_count = reports.count true) ∧
        (self.fold ≠ none → info.applied_count = (book.getD .default).pages.length ∧
          ∀ before page after ran,
            self.apply_page before page (book.getD .default).cover = (after, .ok ran) →
              ran = true)) ∧
    (self.fold = none → ∀ (state : S) (cover : Option pb.Cover) (origin : PageOrigin),
      (∀ front back, self.apply_pages state (front ++ back) cover origin =
        (self.apply_pages state front cover origin).andThen
          fun state _ => self.apply_pages state back cover origin) ∧
      ∀ pages last error, self.apply_pages state pages cover origin = (last, .err error) ↔
        ∃ front page back before, pages = front ++ page :: back ∧
          self.apply_pages state front cover origin = (before, .ok ()) ∧
          self.fold_page before page cover origin = (last, .err error)) := by
  refine ⟨?_, ?_, ?_⟩
  · intro book snapshot carried codec hsnapshot hstate hcodec
    refine ⟨fun failure hdecode => ?_, fun hdecode => ?_⟩
    · exact self.rebuild_of_fresh_err
        (self.starting_state_of_decode_err hsnapshot hstate hcodec hdecode)
    · exact self.rebuild_of_fresh_err
        (self.starting_state_of_decode_panic hsnapshot hstate hcodec hdecode)
  · intro book start hstart
    rw [self.rebuild_getD_default book]
    generalize book.getD pb.EventBook.default = book at hstart
    obtain ⟨fresh, hfresh⟩ := hstart.fresh
    have hback : self.rebuild (some book) ≠ .panic := by
      rw [ne_eq, self.rebuild_eq_panic_iff, hfresh]
      simp
    refine ⟨self.rebuild_state_eq_apply_pages book hstart, hback, ?_⟩
    intro state info hok
    refine ⟨fun hfold => self.applied_count_eq_reports hfold hstart hok, fun hfold => ?_⟩
    obtain ⟨fold, hsome⟩ := Option.ne_none_iff_exists'.mp hfold
    exact ⟨self.applied_count_eq_length hsome hstart hok,
      fun before page after ran => self.apply_page_reports_of_fold hsome⟩
  · intro hfold state cover origin
    exact ⟨self.apply_pages_append hfold state cover origin,
      fun pages last error => self.apply_pages_eq_err_iff_of_first hfold⟩

end Rebuilder

end angzarr_router.rebuild
