import AngzarrRouter.Archlint.Rules
import AngzarrRouter.Archlint.Scan.Bare
import AngzarrRouter.Archlint.Scan.Entering
import AngzarrRouter.Archlint.Workspace.Written

open calls
open text archlint.model archlint.rules archlint.scan archlint.syntax

namespace archlint.workspace

/-- One package of a workspace declares a dependency on another. -/
structure DependsOn (metadata : Metadata) (p : Package) (dep : Dependency) (q : Package) : Prop where
  package : p ∈ metadata.packages
  dependency : dep ∈ p.dependencies
  target : q ∈ metadata.packages
  name : q.name = dep.name
  other : p.name ≠ q.name

/-- What the code of a package calls the library of another it depends on: the
dependency's rename, or else the library's own name. -/
def known_as (dep : Dependency) (q : Package) : String :=
  match dep.rename with
  | some _ => dep.code_name
  | none => q.lib_name

/-- Every dependency between two packages of a workspace has, in the depending
code, a library name of the workspace's, and not that package's own. -/
def NamesAgree (metadata : Metadata) : Prop :=
  ∀ {p dep q}, DependsOn metadata p dep q →
    metadata.Lib dep.code_name ∧ dep.code_name ≠ p.lib_name

/-- The rule that permits no module any workspace target. -/
def permits_nothing : Rule :=
  { name := "permits-nothing", why := "", from_modules := ["**"], scope := .All, allow := some []
    deny := [] }

section

variable {metadata : Metadata} {scanner : Scanner} {model : Model} {p q : Package} {dep : Dependency}

/-- No crate's name begins as an on-disk target does. -/
theorem not_path_of_crateName {name : String} (hname : CrateName name) :
    ¬ "path:".toList <+: name.toList := by
  intro hstart
  exact hname (hstart.subset (by decide))

theorem matches_everything {name : String} (hname : CrateName name) :
    matches_path "**" name = true := by
  have hpath : strip_prefix "path:" name = none := if_neg (not_path_of_crateName hname)
  have hpattern : segments "**" "::" = ["**"] := by decide
  have hall : ∀ path, segments_match ["**"] path = true := by
    intro path
    have hrest : segments_match [] (path.drop path.length) = true := by
      rw [List.drop_length]
      rfl
    unfold segments_match
    rw [if_pos rfl, List.any_eq_true]
    exact ⟨path.length, by simp, hrest⟩
  rw [matches_path, hpath, show strip_prefix "path:" "**" = none from rfl, hpattern]
  exact hall _

/-- Where the names agree, what the code knows a dependency by is a library
name. -/
theorem NamesAgree.lib (hagree : NamesAgree metadata) (hdep : DependsOn metadata p dep q) :
    metadata.Lib (known_as dep q) := by
  unfold known_as
  split
  · exact (hagree hdep).1
  · exact ⟨q, hdep.target, rfl⟩

end

section

variable [Alphanumeric] {sources : Sources} {stack : Nat} {metadata : Metadata} {scanner : Scanner}
  {model : Model} {warnings : List String} {p q : Package} {dep : Dependency}
  {name first : String} {r : RawRef}

/-- What the sources have scanning find they do laid bare too. -/
theorem WorkspaceWrites.bare {finding : Finding} (hwrites : WorkspaceWrites sources metadata finding) :
    WorkspaceWrites sources.bare metadata finding := by
  cases hwrites with
  | target hp hfirst hinside => exact .target hp hfirst hinside.bare
  | manifest hp hdep hdeclares => exact .manifest hp hdep hdeclares

end

section

/-- A shop whose code takes stock by what it calls its shelf. -/
def shelf.stocked (text : String) (code : List Node) : Sources :=
  shelf.sources [
    ("/shop/src/lib.rs", text, [.Other [] code]),
    ("/shop/shelf/src/lib.rs", "pub fn total() -> u32 \x7b\n    0\n\x7d\n", [.Other [] []])]

/-- `shelf::total()`, on the second line of a file. -/
def shelf.total : Node :=
  .Path [shelf.ident, ⟨"total", by decide, by decide⟩] false 2 []

/-- The path, plain in the body of a function. -/
def shelf.plain : Sources :=
  shelf.stocked "pub fn stock() -> u32 \x7b\n    shelf::total()\n\x7d\n" [shelf.total]

end

end archlint.workspace
