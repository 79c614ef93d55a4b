import AngzarrRouter.Text.Paths

namespace text

/-- Where a component leads from a place: the names on the way to it from the
root, whose parent is itself. Nothing is a link. -/
def Component.step (place : List String) : Component → List String
  | .RootDir => []
  | .CurDir => place
  | .ParentDir => place.dropLast
  | .Normal name => place ++ [name]

/-- Whether components walked from a place, `depth` names below which they are
by now, go on to its parent: not when they start over from the root. -/
def Component.climbs : Nat → List Component → Bool
  | _, [] => false
  | _, .RootDir :: _ => false
  | depth, .CurDir :: rest => climbs depth rest
  | depth, .Normal _ :: rest => climbs (depth + 1) rest
  | 0, .ParentDir :: rest => decide (Component.RootDir ∉ rest)
  | depth + 1, .ParentDir :: rest => climbs depth rest

namespace PathBuf

/-- Where a path leads from a place. -/
def leads (path : PathBuf) (start : List String) : List String :=
  path.components.foldl Component.step start

/-- Whether a path leads above where it is followed from. -/
def climbs (path : PathBuf) : Bool := Component.climbs 0 path.components

/-- `Path::is_absolute`. -/
def is_absolute (path : PathBuf) : Bool := path.components.head? = some .RootDir

/-- A path of names alone, from the root or from anywhere. -/
def plain (rooted : Bool) (names : List String) : PathBuf :=
  ⟨(if rooted then [.RootDir] else []) ++ names.map .Normal⟩

theorem leads_plain (rooted : Bool) (names start : List String) :
    (plain rooted names).leads start = (if rooted then [] else start) ++ names := by
  have hnames : ∀ place, (names.map Component.Normal).foldl Component.step place = place ++ names := by
    induction names with
    | nil => simp
    | cons name rest ih =>
      intro place
      rw [List.map_cons, List.foldl_cons, ih, Component.step, List.append_assoc]
      rfl
  unfold leads plain
  cases rooted with
  | true => simpa [Component.step] using hnames []
  | false => simpa using hnames start

theorem plain_injective {rooted rooted' : Bool} {names names' : List String}
    (hplain : plain rooted names = plain rooted' names') : rooted = rooted' ∧ names = names' := by
  have hnormal (more less : List String) :
      [Component.RootDir] ++ more.map .Normal ≠ less.map .Normal := by
    intro h
    have hmem : Component.RootDir ∈ less.map .Normal := by simp [← h]
    simp at hmem
  have hinj : Function.Injective Component.Normal := fun _ _ h => Component.Normal.inj h
  unfold plain at hplain
  cases rooted <;> cases rooted'
  · simpa [hinj.list_map.eq_iff] using hplain
  · exact absurd (PathBuf.mk.inj hplain).symm (hnormal _ _)
  · exact absurd (PathBuf.mk.inj hplain) (hnormal _ _)
  · simpa [hinj.list_map.eq_iff] using hplain

/-- Pushing a name goes on to it. -/
theorem push_plain_normal (rooted : Bool) (names : List String) (name : String) :
    (plain rooted names).push (.Normal name) = plain rooted (names ++ [name]) := by
  unfold push join plain
  cases rooted with
  | true => simp
  | false => cases names <;> simp

/-- Pushing the root starts over from it. -/
theorem push_root (path : PathBuf) : path.push .RootDir = plain true [] := by
  unfold push join
  split
  · rfl
  · rfl
  · simp_all
  · simp_all

/-- Popping leaves the last name off, and nothing where there is none. -/
theorem pop_plain (rooted : Bool) (names : List String) :
    (plain rooted names).pop = plain rooted names.dropLast := by
  obtain rfl | ⟨front, last, rfl⟩ := names.eq_nil_or_concat
  · cases rooted <;> rfl
  · have hpath : plain rooted (front.concat last) =
        ⟨(plain rooted front).components ++ [.Normal last]⟩ := by simp [plain]
    rw [hpath]
    simp [pop, parent]

/-- What is left of a path under a base other than its front has no root. -/
theorem root_not_mem_drop {names : List String} {n : Nat} (hn : n ≠ 0) :
    Component.RootDir ∉ (plain true names).components.drop n := by
  obtain ⟨n, rfl⟩ := Nat.exists_eq_succ_of_ne_zero hn
  intro hmem
  have hnames : Component.RootDir ∈ names.map .Normal := List.mem_of_mem_drop hmem
  simp at hnames

theorem root_mem_plain (names : List String) : Component.RootDir ∈ (plain true names).components := by
  simp [plain]

/-- Relative to a base or not, places keep names of their own. -/
theorem strip_prefix_plain_inj {base : PathBuf} {names names' : List String} :
    (PathBuf.strip_prefix (plain true names) base).getD (plain true names) =
        (PathBuf.strip_prefix (plain true names') base).getD (plain true names') ↔ names = names' := by
  refine ⟨fun hsame => ?_, fun hnames => by rw [hnames]⟩
  -- a path under the base loses its root, and one that is not keeps it
  have hapart {inside outside : List String}
      (hinside : base.components <+: (plain true inside).components)
      (houtside : ¬ base.components <+: (plain true outside).components) :
      (⟨(plain true inside).components.drop base.components.length⟩ : PathBuf) ≠ plain true outside := by
    intro hdrop
    have hbase : base.components.length ≠ 0 := by
      intro hzero
      rw [List.length_eq_zero_iff] at hzero
      exact houtside (hzero ▸ List.nil_prefix)
    exact root_not_mem_drop hbase (hdrop ▸ root_mem_plain outside)
  unfold strip_prefix at hsame
  by_cases hone : base.components <+: (plain true names).components
  · by_cases hother : base.components <+: (plain true names').components
    · rw [if_pos hone, if_pos hother, Option.getD_some, Option.getD_some, PathBuf.mk.injEq] at hsame
      obtain ⟨rest, hrest⟩ := hone
      obtain ⟨rest', hrest'⟩ := hother
      rw [← hrest, ← hrest', List.drop_left, List.drop_left] at hsame
      have hpaths : plain true names = plain true names' :=
        congrArg PathBuf.mk (hrest.symm.trans (hsame ▸ hrest'))
      exact (plain_injective hpaths).2
    · rw [if_pos hone, if_neg hother] at hsame
      exact absurd hsame (hapart hone hother)
  · by_cases hother : base.components <+: (plain true names').components
    · rw [if_neg hone, if_pos hother] at hsame
      exact absurd hsame.symm (hapart hother hone)
    · rw [if_neg hone, if_neg hother] at hsame
      exact (plain_injective hsame).2

end PathBuf

end text
