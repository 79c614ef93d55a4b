import AngzarrRouter.Rebuild.Replay

open calls calls.MutCall
open angzarr_router.error

namespace angzarr_router.rebuild

variable {S : Type}

/-- `events` as their coordinator persists them: each on a page of its own, at
the sequences on from `sequence`, stamped with `event_meta`. -/
def stamped (event_meta : pb.EventMeta) : List Any → UInt64 → List pb.EventPage
  | [], _ => []
  | event :: rest, sequence =>
    emitted_page event_meta event sequence :: stamped event_meta rest (sequence + 1)

@[simp] theorem stamped_nil (event_meta : pb.EventMeta) (sequence : UInt64) :
    stamped event_meta [] sequence = [] := rfl

@[simp] theorem length_stamped (event_meta : pb.EventMeta) (events : List Any) (sequence : UInt64) :
    (stamped event_meta events sequence).length = events.length := by
  induction events generalizing sequence with
  | nil => rfl
  | cons event rest ih => simp [stamped, ih]

private theorem add_ofNat_succ (sequence : UInt64) (n : Nat) :
    sequence + UInt64.ofNat (n + 1) = sequence + 1 + UInt64.ofNat n := by
  rw [UInt64.ofNat_add, UInt64.add_comm (UInt64.ofNat n), ← UInt64.add_assoc]
  rfl

/-- Numbering goes on where the events before left off. -/
theorem stamped_append (event_meta : pb.EventMeta) (front back : List Any) (sequence : UInt64) :
    stamped event_meta (front ++ back) sequence =
      stamped event_meta front sequence ++
        stamped event_meta back (sequence + UInt64.ofNat front.length) := by
  induction front generalizing sequence with
  | nil => simp
  | cons event rest ih =>
    simp only [List.cons_append, stamped, ih, List.length_cons, add_ofNat_succ]

/-- The first of the stamped events are the first, stamped. -/
theorem take_stamped (event_meta : pb.EventMeta) (events : List Any) (sequence : UInt64) (n : Nat) :
    (stamped event_meta events sequence).take n = stamped event_meta (events.take n) sequence := by
  induction events generalizing sequence n with
  | nil => simp
  | cons event rest ih =>
    cases n with
    | zero => rfl
    | succ n => simp [stamped, ih]

variable [BuildProfile]

/-- With room for every number it steps past, numbering is stamping. -/
theorem numbered_of_room (event_meta : pb.EventMeta) (events : List Any) {sequence : UInt64}
    (hroom : U64Room sequence events.length) :
    numbered event_meta events sequence = .ok (stamped event_meta events sequence) := by
  induction events generalizing sequence with
  | nil => rfl
  | cons event rest ih =>
    rw [List.length_cons, Nat.add_comm, U64Room.add_iff] at hroom
    obtain ⟨hone, hrest⟩ := hroom
    simp only [numbered, u64_add_of_room hone, Outcome.ok_bind, ih hrest, stamped]
    rfl

/-- Without it, numbering unwinds. -/
theorem numbered_of_not_room (event_meta : pb.EventMeta) (events : List Any) {sequence : UInt64}
    (hroom : ¬ U64Room sequence events.length) :
    numbered event_meta events sequence = .panic := by
  induction events generalizing sequence with
  | nil => exact absurd (U64Room.zero sequence) hroom
  | cons event rest ih =>
    rw [List.length_cons, Nat.add_comm, U64Room.add_iff, not_and] at hroom
    by_cases hone : U64Room sequence 1
    · simp only [numbered, u64_add_of_room hone, Outcome.ok_bind]
      rw [ih (hroom hone), Outcome.panic_bind]
    · simp only [numbered, u64_add_of_not_room hone, Outcome.panic_bind]

/-- A batched fold is compositional when folding `front` and then `back` leaves
what folding `front ++ back` does. A fold that fails may name its page by an
index within the batch it was handed, so the law is about folds that come back. -/
def FoldFn.Compositional (fold : FoldFn S) : Prop :=
  ∀ state front back cover middle last, fold state front cover = (middle, .ok ()) →
    fold middle back cover = (last, .ok ()) → fold state (front ++ back) cover = (last, .ok ())

/-- Whether folding pages in one go or in several leaves the same state. -/
def Rebuilder.FoldsInPieces (self : Rebuilder S) : Prop :=
  ∀ fold, self.fold = some fold → FoldFn.Compositional fold

omit [BuildProfile] in
/-- Per-type appliers fold one page at a time. -/
theorem Rebuilder.FoldsInPieces.of_appliers {self : Rebuilder S} (hfold : self.fold = none) :
    self.FoldsInPieces := by
  intro fold hsome
  simp [hfold] at hsome

namespace Rebuilder

variable [AngzarrProto]

/-- Emitted events fold as the pages they will be persisted on. -/
theorem apply_emitted_of_room (self : Rebuilder S) (state : S) (events : List Any)
    (cover : Option pb.Cover) {sequence : UInt64} (event_meta : pb.EventMeta)
    (hroom : U64Room sequence events.length) :
    self.apply_emitted state events cover sequence event_meta =
      self.apply_pages state (stamped event_meta events sequence) cover .Emitted := by
  simp only [apply_emitted, numbered_of_room event_meta events hroom]

/-- Events that cannot be numbered unwind, before any is folded. -/
theorem apply_emitted_of_not_room (self : Rebuilder S) (state : S) (events : List Any)
    (cover : Option pb.Cover) {sequence : UInt64} (event_meta : pb.EventMeta)
    (hroom : ¬ U64Room sequence events.length) :
    self.apply_emitted state events cover sequence event_meta = (state, .panic) := by
  simp only [apply_emitted, numbered_of_not_room event_meta events hroom]

omit [BuildProfile] in
/-- A batched fold succeeds as it is called. -/
theorem run_fold_eq_ok_iff {fold : FoldFn S} {state last : S} {pages : List pb.EventPage}
    {cover : Option pb.Cover} :
    run_fold fold state pages cover = (last, .ok ()) ↔ fold state pages cover = (last, .ok ()) := by
  unfold run_fold
  rcases fold state pages cover with ⟨next, ⟨⟩ | failure | _⟩ <;> simp

omit [BuildProfile] in
theorem apply_pages_eq_ok_iff_of_fold (self : Rebuilder S) {fold : FoldFn S}
    (hfold : self.fold = some fold) {state last : S} {pages : List pb.EventPage}
    {cover : Option pb.Cover} {origin : PageOrigin} (hpages : pages ≠ []) :
    self.apply_pages state pages cover origin = (last, .ok ()) ↔
      fold state pages cover = (last, .ok ()) := by
  have hnonempty : ¬ pages.isEmpty = true := by simpa using hpages
  rw [← run_fold_eq_ok_iff]
  simp only [apply_pages, hfold, hnonempty, Bool.false_eq_true, if_false]
  rcases run_fold fold state pages cover with ⟨next, ⟨⟩ | failure | _⟩ <;> simp

omit [BuildProfile] in
theorem apply_pages_nil (self : Rebuilder S) (state : S) (cover : Option pb.Cover)
    (origin : PageOrigin) : self.apply_pages state [] cover origin = (state, .ok ()) := by
  unfold apply_pages
  split <;> rfl

omit [BuildProfile] in
/-- Folding in pieces and folding in one go come to the same state, through
per-type appliers and through a compositional batched fold. -/
theorem apply_pages_append_ok (self : Rebuilder S) (hpieces : self.FoldsInPieces)
    {state middle last : S} {front back : List pb.EventPage} {cover : Option pb.Cover}
    {origin : PageOrigin} (hfront : self.apply_pages state front cover origin = (middle, .ok ()))
    (hback : self.apply_pages middle back cover origin = (last, .ok ())) :
    self.apply_pages state (front ++ back) cover origin = (last, .ok ()) := by
  cases hfold : self.fold with
  | none =>
    simp only [apply_pages, hfold] at hfront hback ⊢
    rw [for_each_append, hfront, andThen_ok, hback]
  | some fold =>
    by_cases hnoFront : front = []
    · subst hnoFront
      rw [apply_pages_nil] at hfront
      cases hfront
      exact hback
    by_cases hnoBack : back = []
    · subst hnoBack
      rw [apply_pages_nil] at hback
      cases hback
      simpa using hfront
    rw [self.apply_pages_eq_ok_iff_of_fold hfold hnoFront] at hfront
    rw [self.apply_pages_eq_ok_iff_of_fold hfold hnoBack] at hback
    rw [self.apply_pages_eq_ok_iff_of_fold hfold (by simp [hnoFront])]
    exact hpieces fold hfold state front back cover middle last hfront hback

end Rebuilder

end angzarr_router.rebuild
