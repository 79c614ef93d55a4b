import AngzarrRouter.Archlint.Scan.Resolve

open text archlint.model archlint.syntax

namespace archlint.scan

/-- A crate's name: it holds no path separator. -/
def CrateName (name : String) : Prop := ':' ∉ name.toList

instance (name : String) : Decidable (CrateName name) :=
  inferInstanceAs (Decidable (':' ∉ name.toList))

/-- A name that no separator written before it runs into. -/
def Begins (name : String) : Prop := ∃ c rest, name.toList = c :: rest ∧ c ≠ ':'

/-- The module paths of a crate: its root's and those below. -/
inductive InCrate (lib : String) : String → Prop where
  | root : InCrate lib lib
  | below {name : String} (hbegins : Begins name) : InCrate lib (child_path lib name)

variable {lib lib' path root name : String}

theorem toList_child_path (parent name : String) :
    (child_path parent name).toList = parent.toList ++ [':', ':'] ++ name.toList := by
  simp [child_path]

/-- An identifier is a segment. -/
theorem begins_ident (ident : Ident) : Begins ident.to_string := by
  cases hletters : ident.to_string.toList with
  | nil => exact absurd (String.toList_inj.mp hletters) ident.ne_empty
  | cons c rest =>
    refine ⟨c, rest, hletters, fun hc => ident.no_colon ?_⟩
    rw [hletters, hc]
    exact List.mem_cons_self ..

/-- More behind a segment leaves how it begins. -/
theorem Begins.append (hbegins : Begins name) (more : String) : Begins (name ++ more) := by
  obtain ⟨c, rest, hletters, hc⟩ := hbegins
  exact ⟨c, rest ++ more.toList, by simp [hletters], hc⟩

/-- A crate's name is its own head. -/
theorem head_of_crateName (hname : CrateName name) : head name = name := by
  have hpieces := pieces_of_not_mem [':'] hname
  simp [head, split, hpieces]

/-- A path begins in the crate that its first segment names. -/
theorem head_child_path (hname : CrateName name) (rest : String) :
    head (child_path name rest) = name := by
  have hpieces := pieces_append [':'] rest.toList hname
  simp only [head, split, toList_child_path]
  rw [show "::".toList = [':', ':'] from rfl, hpieces]
  simp

@[simp] theorem join_nil (name : String) : join name [] = name := by simp [join]

theorem join_cons (name seg : String) (rest : List String) :
    join name (seg :: rest) = child_path name (join seg rest) := by
  simp [join, child_path, String.intercalate_cons_cons]

/-- Every path of a crate names it first. -/
theorem InCrate.head_eq (hlib : CrateName lib) (hpath : InCrate lib path) : head path = lib := by
  cases hpath with
  | root => exact head_of_crateName hlib
  | below _ => exact head_child_path hlib _

/-- A path is in one crate. -/
theorem InCrate.unique (hlib : CrateName lib) (hlib' : CrateName lib') (hpath : InCrate lib path)
    (hpath' : InCrate lib' path) : lib = lib' := by
  rw [← hpath.head_eq hlib, hpath'.head_eq hlib']

/-- A child's child is found either way. -/
theorem child_path_assoc (lib parent name : String) :
    child_path (child_path lib parent) name = child_path lib (child_path parent name) := by
  simp [child_path, String.append_assoc]

theorem join_child_path (parent name : String) (rest : List String) :
    join (child_path parent name) rest = child_path parent (join name rest) := by
  cases rest with
  | nil => rw [join_nil, join_nil]
  | cons seg rest => rw [join_cons, join_cons, child_path_assoc]

/-- Joining one path after another is joining both. -/
theorem join_append (name : String) (front rest : List String) :
    join (join name front) rest = join name (front ++ rest) := by
  induction front generalizing name with
  | nil => rw [join_nil, List.nil_append]
  | cons seg front ih => rw [join_cons, join_child_path, ih, List.cons_append, join_cons]

/-- A child of a crate's module lies in the crate. -/
theorem InCrate.child (hpath : InCrate lib path) (hname : Begins name) :
    InCrate lib (child_path path name) := by
  cases hpath with
  | root => exact .below hname
  | @below parent hparent =>
    rw [child_path_assoc]
    refine .below ?_
    rw [child_path, String.append_assoc]
    exact hparent.append _

/-- What splits off at the last `::` is a child. -/
theorem rsplit_once_eq_some {parent : String} (hsplit : rsplit_once "::" path = some (parent, name)) :
    path = child_path parent name := by
  obtain ⟨⟨before, after⟩, hlast, hsides⟩ := Option.map_eq_some_iff.mp hsplit
  obtain ⟨rfl, rfl⟩ := by simpa using hsides
  rw [← String.toList_inj, toList_child_path, String.toList_ofList, String.toList_ofList]
  exact split_last_eq_some hlast

/-- What stands before the last separator of a path below a crate's root is in
the crate: that separator is the one after the root, or comes later. -/
theorem split_last_below {c : Char} (hc : c ≠ ':') (front rest : List Char) :
    ∃ before after, split_last [':', ':'] (front ++ [':', ':'] ++ c :: rest) = some (before, after) ∧
      (before = front ∨ ∃ more, before = front ++ [':', ':'] ++ c :: more) := by
  cases hrest : split_last [':', ':'] rest with
  | none =>
    refine ⟨front, c :: rest, ?_, .inl rfl⟩
    have hback : split_last [':', ':'] (':' :: ':' :: c :: rest) = some ([], c :: rest) := by
      simp [split_last, hrest, hc.symm, List.cons_prefix_cons]
    simpa using split_last_append front hback
  | some sides =>
    obtain ⟨before, after⟩ := sides
    refine ⟨front ++ [':', ':'] ++ c :: before, after, ?_, .inr ⟨before, rfl⟩⟩
    have hback := split_last_append [':', ':', c] hrest
    simpa using split_last_append front hback

/-- A parent in a crate lies in it. -/
theorem InCrate.parent {parent : String} (hlib : CrateName lib) (hpath : InCrate lib path)
    (hsplit : rsplit_once "::" path = some (parent, name)) : InCrate lib parent := by
  cases hpath with
  | root =>
    refine absurd ?_ hlib
    rw [rsplit_once_eq_some hsplit, toList_child_path]
    simp
  | below hbegins =>
    obtain ⟨c, rest, hletters, hc⟩ := hbegins
    obtain ⟨before, after, hlast, hbefore⟩ := split_last_below hc lib.toList rest
    obtain ⟨⟨front, back⟩, hlast', hsides⟩ := Option.map_eq_some_iff.mp hsplit
    obtain ⟨rfl, rfl⟩ := by simpa using hsides
    rw [toList_child_path, hletters] at hlast'
    obtain ⟨rfl, rfl⟩ := by simpa using hlast.symm.trans hlast'
    obtain rfl | ⟨more, rfl⟩ := hbefore
    · rw [String.ofList_toList]
      exact .root
    · have hbelow : String.ofList (lib.toList ++ [':', ':'] ++ c :: more) =
          child_path lib (.ofList (c :: more)) := by
        rw [← String.toList_inj, toList_child_path, String.toList_ofList, String.toList_ofList]
      rw [hbelow]
      exact .below ⟨c, more, String.toList_ofList, hc⟩

/-- `super` stays in the crate. -/
theorem InCrate.parent_of (hlib : CrateName lib) (hpath : InCrate lib path)
    (hroot : InCrate lib root) : InCrate lib (parent_of path root) := by
  unfold scan.parent_of
  split
  · exact hroot
  · split
    · rename_i hsplit
      exact hpath.parent hlib hsplit
    · exact hroot

end archlint.scan
