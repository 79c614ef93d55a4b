import AngzarrRouter.Archlint.Scan
import AngzarrRouter.Text.Places

open text text.PathBuf

namespace archlint.scan

/-- One pass of `normalise`'s loop. -/
def normalise_component (out : PathBuf) : Component → PathBuf
  | .CurDir => out
  | .ParentDir => out.pop
  | other => out.push other

theorem normalise_eq_foldl (path : PathBuf) :
    normalise path = path.components.foldl normalise_component (plain false []) := rfl

@[simp] theorem normalise_component_root (out : PathBuf) :
    normalise_component out .RootDir = plain true [] := push_root out

@[simp] theorem normalise_component_cur (out : PathBuf) : normalise_component out .CurDir = out := rfl

@[simp] theorem normalise_component_parent (rooted : Bool) (names : List String) :
    normalise_component (plain rooted names) .ParentDir = plain rooted names.dropLast :=
  pop_plain rooted names

@[simp] theorem normalise_component_normal (rooted : Bool) (names : List String) (name : String) :
    normalise_component (plain rooted names) (.Normal name) = plain rooted (names ++ [name]) :=
  push_plain_normal rooted names name

/-- From the root on, it ends in the place that the components lead to. -/
theorem foldl_normalise_rooted (components : List Component) (names : List String) :
    components.foldl normalise_component (plain true names) =
      plain true (components.foldl Component.step names) := by
  induction components generalizing names with
  | nil => rfl
  | cons c rest ih =>
    rw [List.foldl_cons, List.foldl_cons]
    cases c with
    | RootDir => rw [normalise_component_root, ih, Component.step]
    | CurDir => rw [normalise_component_cur, ih, Component.step]
    | ParentDir => rw [normalise_component_parent, ih, Component.step]
    | Normal name => rw [normalise_component_normal, ih, Component.step]

/-- Whatever is before components that start over from the root is forgotten. -/
theorem leads_foldl_of_root {components : List Component} (hroot : .RootDir ∈ components)
    (names start place : List String) :
    (components.foldl normalise_component (plain false names)).leads start =
      components.foldl Component.step place := by
  induction components generalizing names place with
  | nil => cases hroot
  | cons c rest ih =>
    rw [List.foldl_cons, List.foldl_cons]
    cases c with
    | RootDir =>
      rw [normalise_component_root, foldl_normalise_rooted, leads_plain, Component.step]
      rfl
    | CurDir => exact ih (by simpa using hroot) names place
    | ParentDir =>
      rw [normalise_component_parent]
      exact ih (by simpa using hroot) _ _
    | Normal name =>
      rw [normalise_component_normal]
      exact ih (by simpa using hroot) _ _

/-- Where they do not go above where they began, it follows them. -/
theorem leads_foldl_of_not_climbs {components : List Component} {names : List String}
    (hclimbs : Component.climbs names.length components = false) (start : List String) :
    (components.foldl normalise_component (plain false names)).leads start =
      components.foldl Component.step (start ++ names) := by
  induction components generalizing names with
  | nil => exact leads_plain false names start
  | cons c rest ih =>
    rw [List.foldl_cons, List.foldl_cons]
    cases c with
    | RootDir =>
      rw [normalise_component_root, foldl_normalise_rooted, leads_plain, Component.step]
      rfl
    | CurDir =>
      rw [Component.climbs] at hclimbs
      exact ih hclimbs
    | ParentDir =>
      rw [normalise_component_parent, Component.step]
      obtain rfl | ⟨front, last, rfl⟩ := names.eq_nil_or_concat
      · rw [List.length_nil, Component.climbs, decide_eq_false_iff_not, not_not] at hclimbs
        exact leads_foldl_of_root hclimbs _ _ _
      · rw [List.concat_eq_append, List.length_append, List.length_singleton, Component.climbs] at hclimbs
        rw [List.concat_eq_append, ← List.append_assoc, List.dropLast_concat, List.dropLast_concat]
        exact ih hclimbs
    | Normal name =>
      rw [Component.climbs] at hclimbs
      rw [normalise_component_normal, Component.step, List.append_assoc]
      exact ih (by rwa [List.length_append, List.length_singleton])

/-- What was left above where it began it never catches up with, but at the root. -/
theorem length_foldl_lt {components : List Component} (hroot : .RootDir ∉ components) (name : String)
    {names place : List String} (hplace : place.length ≤ names.length) :
    (components.foldl Component.step place).length <
      ((components.foldl normalise_component (plain false names)).leads [name]).length := by
  induction components generalizing names place with
  | nil =>
    rw [List.foldl_nil, List.foldl_nil, leads_plain]
    simp only [Bool.false_eq_true, if_false, List.length_append, List.length_singleton]
    omega
  | cons c rest ih =>
    obtain ⟨hc, hrest⟩ := not_or.mp (mt List.mem_cons.mpr hroot)
    rw [List.foldl_cons, List.foldl_cons]
    cases c with
    | RootDir => exact absurd rfl hc
    | CurDir => exact ih hrest hplace
    | ParentDir =>
      rw [normalise_component_parent, Component.step]
      apply ih hrest
      rw [List.length_dropLast, List.length_dropLast]
      omega
    | Normal other =>
      rw [normalise_component_normal, Component.step]
      apply ih hrest
      rw [List.length_append, List.length_append]
      omega

/-- Where they do, it does not. -/
theorem leads_foldl_of_climbs {components : List Component} {names : List String}
    (hclimbs : Component.climbs names.length components = true) (name : String) :
    (components.foldl normalise_component (plain false names)).leads [name] ≠
      components.foldl Component.step ([name] ++ names) := by
  induction components generalizing names with
  | nil => cases hclimbs
  | cons c rest ih =>
    rw [List.foldl_cons, List.foldl_cons]
    cases c with
    | RootDir => cases hclimbs
    | CurDir =>
      rw [Component.climbs] at hclimbs
      exact ih hclimbs
    | ParentDir =>
      rw [normalise_component_parent, Component.step]
      obtain rfl | ⟨front, last, rfl⟩ := names.eq_nil_or_concat
      · rw [List.length_nil, Component.climbs, decide_eq_true_iff] at hclimbs
        intro hsame
        have hbehind := length_foldl_lt hclimbs name (le_refl ([] : List String).length)
        have hlength := congrArg List.length hsame
        simp only [List.append_nil, List.dropLast_nil, List.dropLast_singleton] at hlength
        omega
      · rw [List.concat_eq_append, List.length_append, List.length_singleton, Component.climbs] at hclimbs
        rw [List.concat_eq_append, ← List.append_assoc, List.dropLast_concat, List.dropLast_concat]
        exact ih hclimbs
    | Normal other =>
      rw [Component.climbs] at hclimbs
      rw [normalise_component_normal, Component.step, List.append_assoc]
      exact ih (by rwa [List.length_append, List.length_singleton])

/-- An absolute path's normal form is the place it leads to. -/
theorem normalise_of_is_absolute {path : PathBuf} (habsolute : path.is_absolute = true) :
    normalise path = plain true (path.leads []) := by
  obtain ⟨components⟩ := path
  rw [is_absolute, decide_eq_true_iff] at habsolute
  obtain ⟨rest, rfl⟩ := List.head?_eq_some_iff.mp habsolute
  rw [normalise_eq_foldl, List.foldl_cons, normalise_component_root, foldl_normalise_rooted]
  rfl

/-- Normalising without touching the disk is right wherever nothing is a link: a
path's normal form leads where the path does, from any place, unless the path
leads above the place it is followed from; and two absolute paths have one name
relative to the workspace, whatever its root is, exactly when they lead to one
place. -/
theorem normalise_names_the_same_place (self : Scanner) :
    (∀ path, (∀ start, (normalise path).leads start = path.leads start) ↔ path.climbs = false) ∧
    ∀ path other : PathBuf, path.is_absolute = true → other.is_absolute = true →
      (self.relative path = self.relative other ↔ path.leads [] = other.leads []) := by
  refine ⟨fun path => ⟨fun hsame => ?_, fun hclimbs start => ?_⟩, fun path other hpath hother => ?_⟩
  · by_contra hclimbs
    have hclimbs : Component.climbs ([] : List String).length path.components = true :=
      Bool.eq_true_of_not_eq_false hclimbs
    exact leads_foldl_of_climbs hclimbs "" (hsame [""])
  · have hclimbs : Component.climbs ([] : List String).length path.components = false := hclimbs
    have hleads := leads_foldl_of_not_climbs hclimbs start
    rwa [List.append_nil] at hleads
  · rw [Scanner.relative, Scanner.relative, normalise_of_is_absolute hpath,
      normalise_of_is_absolute hother]
    exact strip_prefix_plain_inj

/-- An included file has one name from wherever it is included. -/
theorem normalise_names_the_same_place_include :
    (Scanner.new (.of "/shop")).relative (.of "/shop/cart/src/../../assets/logo.svg") =
      (Scanner.new (.of "/shop")).relative (.of "/shop/assets/./logo.svg") := by
  have hsame := (normalise_names_the_same_place (Scanner.new (.of "/shop"))).2
  exact (hsame _ _ (by decide) (by decide)).mpr (by decide)

end archlint.scan
